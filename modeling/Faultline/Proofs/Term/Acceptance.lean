import Faultline.Proofs.Term.Soundness

/-!
# What the machine accepts

Every term of the grammar takes the machine from the state in which a term has to begin to one in
which it is complete, whatever is open around it. A string at the end of the term leaves that to be
settled by the next token, so `Complete` describes the states instead of naming one.

Results:
* `completes_of_derives`: the machine reads every term of the grammar.
* `parse_eq_ok_iff`: lexemes are read exactly if they begin with a term of the grammar, the
  terminator and the end of the text.
-/

namespace Faultline.Term.Parser

/-! ## Complete terms -/

/-- The states in which a term is complete on a stack. -/
inductive Complete (stack : List Frame) (v : Term) : State → Prop where
  | value : Complete stack v ⟨stack, .value v⟩
  | chars {t : Text} (h : codeList t = v) : Complete stack v ⟨stack, .chars t⟩

/-- Any token but a string is the token after the complete term. -/
theorem Complete.step_eq {stack : List Frame} {v : Term} {s : State} (h : Complete stack v s)
    {t : Token} (ht : ∀ more, t ≠ .string more) : step s t = afterTerm v stack t := by
  cases h with
  | value => rfl
  | chars h =>
    subst h
    cases t with
    | string more => exact absurd rfl (ht more)
    | _ => rfl

/-- Tokens that take the machine to a complete term, whatever is open around it. -/
def Completes (ts : List Token) (v : Term) : Prop :=
  ∀ stack, ∃ s, advance ⟨stack, .begin⟩ ts = .ok s ∧ Complete stack v s

theorem advance_append_of_complete {stack : List Frame} {s₀ s next : State} {v : Term}
    {ts : List Token} (hs : advance s₀ ts = .ok s) (h : Complete stack v s) {t : Token}
    (ht : ∀ more, t ≠ .string more) (hnext : afterTerm v stack t = .ok next) :
    advance s₀ (ts ++ [t]) = .ok next := by
  rw [advance_append _ hs, advance_singleton, h.step_eq ht, hnext]

/-! ## Numbers and strings -/

theorem completes_number {ts : List Token} {v : Term} (h : IsNumber ts v) : Completes ts v := by
  intro stack
  cases h with
  | integer n | char n | float x =>
    refine ⟨_, ?_, .value⟩
    rw [advance_singleton, step_begin stack (by simp) (by simp)]
    rfl
  | plus h =>
    refine ⟨_, ?_, .value⟩
    rw [advance_cons (step_begin stack (by simp) (by simp)), advance_singleton]
    cases h with
    | integer n | char n | float x => rfl
  | minusInt h =>
    refine ⟨_, ?_, .value⟩
    rw [advance_cons (step_begin stack (by simp) (by simp)), advance_singleton]
    cases h with
    | integer n | char n => rfl
  | minusFloat h =>
    refine ⟨_, ?_, .value⟩
    rw [advance_cons (step_begin stack (by simp) (by simp)), advance_singleton]
    cases h with
    | float x => rfl

theorem advance_strings (stack : List Frame) (ss : List Text) :
    ∀ t : Text,
      advance ⟨stack, .chars t⟩ (ss.map .string) = .ok ⟨stack, .chars (t ++ ss.flatten)⟩ := by
  induction ss with
  | nil =>
    intro t
    simp
  | cons more ss ih =>
    intro t
    rw [List.map_cons, advance_cons rfl, ih, List.flatten_cons, List.append_assoc]

theorem completes_strings {ss : List Text} (hne : ss ≠ []) :
    Completes (ss.map .string) (codeList ss.flatten) := by
  intro stack
  cases ss with
  | nil => exact absurd rfl hne
  | cons t ss =>
    refine ⟨_, ?_, .chars rfl⟩
    rw [List.map_cons, advance_cons (step_begin stack (by simp) (by simp)), advance_strings,
      List.flatten_cons]

/-! ## Tuples and lists -/

section Elements

variable (stack : List Frame) (frame : List Term → Frame)
  (hcomma : ∀ done v, afterTerm v (frame done :: stack) .comma =
    .ok ⟨frame (v :: done) :: stack, .begin⟩)
include hcomma

/-- Elements with a comma behind each are put into the frame they stand in. -/
theorem advance_commaAfterEach (parts : List (List Token × Term))
    (h : ∀ p ∈ parts, Completes p.1 p.2) : ∀ done : List Term,
    advance ⟨frame done :: stack, .begin⟩ (commaAfterEach (parts.map Prod.fst)) =
      .ok ⟨frame ((parts.map Prod.snd).reverse ++ done) :: stack, .begin⟩ := by
  induction parts with
  | nil =>
    intro done
    rfl
  | cons p parts ih =>
    intro done
    obtain ⟨s, hs, hcomplete⟩ := h p List.mem_cons_self (frame done :: stack)
    have hfirst := advance_append_of_complete hs hcomplete (by simp) (hcomma done p.2)
    have hrest := ih (fun q hq => h q (List.mem_cons_of_mem p hq)) (p.2 :: done)
    rw [List.map_cons, commaAfterEach, List.flatMap_cons, advance_append _ hfirst]
    rw [commaAfterEach] at hrest
    rw [hrest]
    simp

/-- Elements with commas between them leave the last one complete. -/
theorem advance_commaJoin {parts : List (List Token × Term)} (hne : parts ≠ [])
    (h : ∀ p ∈ parts, Completes p.1 p.2) : ∃ s v done,
    advance ⟨frame [] :: stack, .begin⟩ (commaJoin (parts.map Prod.fst)) = .ok s ∧
      Complete (frame done :: stack) v s ∧ (v :: done).reverse = parts.map Prod.snd := by
  obtain rfl | ⟨init, p, rfl⟩ := List.eq_nil_or_concat' parts
  · exact absurd rfl hne
  have hinit := advance_commaAfterEach stack frame hcomma init
    (fun q hq => h q (List.mem_append_left _ hq)) []
  obtain ⟨s, hs, hcomplete⟩ := h p (List.mem_append_right _ (List.mem_singleton_self p))
    (frame (init.map Prod.snd).reverse :: stack)
  refine ⟨s, p.2, _, ?_, hcomplete, by simp⟩
  rw [List.append_nil] at hinit
  rw [List.map_append, List.map_singleton, commaJoin_append_singleton, advance_append _ hinit, hs]

/-- All elements and the mark that closes them, which may also stand behind no elements. -/
theorem advance_elements {parts : List (List Token × Term)} (h : ∀ p ∈ parts, Completes p.1 p.2)
    {close : Token} (hstring : ∀ more, close ≠ .string more) {result : List Term → Term}
    (hnone : step ⟨frame [] :: stack, .begin⟩ close = .ok ⟨stack, .value (result [])⟩)
    (hclose : ∀ done v, afterTerm v (frame done :: stack) close =
      .ok ⟨stack, .value (result (v :: done).reverse)⟩) :
    advance ⟨frame [] :: stack, .begin⟩ (commaJoin (parts.map Prod.fst) ++ [close]) =
      .ok ⟨stack, .value (result (parts.map Prod.snd))⟩ := by
  by_cases hne : parts = []
  · subst hne
    exact (advance_singleton _ close).trans hnone
  · obtain ⟨s, v, done, hs, hcomplete, hparts⟩ := advance_commaJoin stack frame hcomma hne h
    rw [← hparts]
    exact advance_append_of_complete hs hcomplete hstring (hclose done v)

end Elements

theorem completes_tuple {parts : List (List Token × Term)} (h : ∀ p ∈ parts, Completes p.1 p.2) :
    Completes (.braceOpen :: commaJoin (parts.map Prod.fst) ++ [.braceClose])
      (.tuple (parts.map Prod.snd)) := by
  intro stack
  refine ⟨_, ?_, .value⟩
  rw [List.cons_append, advance_cons (step_begin stack (by simp) (by simp))]
  exact advance_elements stack .tuple (fun _ _ => rfl) h (by simp) rfl (fun _ _ => rfl)

/-- A list in brackets is complete behind them. -/
theorem advance_list (stack : List Frame) {parts : List (List Token × Term)}
    (h : ∀ p ∈ parts, Completes p.1 p.2) :
    advance ⟨stack, .begin⟩ (.bracketOpen :: commaJoin (parts.map Prod.fst) ++ [.bracketClose]) =
      .ok ⟨stack, .value (.list (parts.map Prod.snd))⟩ := by
  rw [List.cons_append, advance_cons (step_begin stack (by simp) (by simp))]
  exact advance_elements stack .list (fun _ _ => rfl) h (by simp) rfl (fun _ _ => rfl)

theorem advance_withTail (stack : List Frame) {parts : List (List Token × Term)} (hne : parts ≠ [])
    (h : ∀ p ∈ parts, Completes p.1 p.2) {ts : List Token} {tail : Term} (ht : Completes ts tail) :
    advance ⟨stack, .begin⟩
      (.bracketOpen :: commaJoin (parts.map Prod.fst) ++ .bar :: ts ++ [.bracketClose]) =
      .ok ⟨stack, .value (Term.withTail (parts.map Prod.snd) tail)⟩ := by
  obtain ⟨s, v, done, hs, hcomplete, hparts⟩ :=
    advance_commaJoin stack .list (fun _ _ => rfl) hne h
  have hbar := advance_append_of_complete hs hcomplete (t := .bar) (by simp) rfl
  obtain ⟨s', hs', hcomplete'⟩ := ht (.tail (v :: done) :: stack)
  have htail := advance_append_of_complete hs' hcomplete' (t := .bracketClose) (by simp) rfl
  rw [← hparts, List.cons_append, List.cons_append,
    advance_cons (step_begin stack (by simp) (by simp)), List.append_assoc, List.cons_append,
    List.append_cons]
  exact (advance_append _ hbar).trans htail

/-! ## Segments -/

/-- The states in which the value of a segment is complete. -/
inductive ValueComplete (value : SegmentValue) : SegmentPhase → Prop where
  | value : ValueComplete value (.value (.ofValue value))
  | chars {t : Text} (h : value = .chars t) : ValueComplete value (.chars t)

theorem ValueComplete.step_eq {value : SegmentValue} {phase : SegmentPhase}
    (h : ValueComplete value phase) {t : Token} (ht : ∀ more, t ≠ .string more)
    (stack : List Frame) (bytes : List UInt8) :
    step ⟨stack, .binary bytes phase⟩ t =
      afterSegmentValue stack bytes (.ofValue value) t := by
  cases h with
  | value => rfl
  | chars h =>
    subst h
    cases t with
    | string more => exact absurd rfl (ht more)
    | _ => rfl

theorem advance_segmentStrings (stack : List Frame) (bytes : List UInt8) (ss : List Text) :
    ∀ t : Text, advance ⟨stack, .binary bytes (.chars t)⟩ (ss.map .string) =
      .ok ⟨stack, .binary bytes (.chars (t ++ ss.flatten))⟩ := by
  induction ss with
  | nil =>
    intro t
    simp
  | cons more ss ih =>
    intro t
    rw [List.map_cons, advance_cons rfl, ih, List.flatten_cons, List.append_assoc]

theorem exists_advance_segmentValue (stack : List Frame) (bytes : List UInt8) {ts : List Token}
    {value : SegmentValue} (h : IsSegmentValue ts value) :
    ∃ phase, advance ⟨stack, .binary bytes .begin⟩ ts = .ok ⟨stack, .binary bytes phase⟩ ∧
      ValueComplete value phase := by
  cases h with
  | @chars ss hne =>
    cases ss with
    | nil => exact absurd rfl hne
    | cons t ss =>
      refine ⟨.chars (t ++ ss.flatten), ?_, .chars rfl⟩
      rw [List.map_cons, advance_cons rfl, advance_segmentStrings]
  | integer h =>
    refine ⟨_, ?_, .value⟩
    cases h with
    | integer n | char n => rfl
    | plus h | minusInt h =>
      cases h with
      | integer n | char n => rfl

/-- What may follow the value of a segment and its size: types or the end of the segment. -/
structure SizeComplete (stack : List Frame) (bytes : List UInt8) (segment : Segment) (s : State) :
    Prop where
  slash : step s .slash = .ok ⟨stack, .binary bytes (.type segment)⟩
  comma : step s .comma = afterSegment stack bytes segment .comma
  close : step s .binaryClose = afterSegment stack bytes segment .binaryClose

theorem exists_advance_size {value : SegmentValue} {phase : SegmentPhase}
    (h : ValueComplete value phase) (stack : List Frame) (bytes : List UInt8) (size : Option Int) :
    ∃ s, advance ⟨stack, .binary bytes phase⟩ (sizeTokens size) = .ok s ∧
      SizeComplete stack bytes ⟨value, size.getD 8, []⟩ s := by
  cases size with
  | none =>
    refine ⟨_, rfl, ?_, ?_, ?_⟩
    · exact h.step_eq (by simp) stack bytes
    · exact h.step_eq (by simp) stack bytes
    · exact h.step_eq (by simp) stack bytes
  | some n =>
    refine ⟨⟨stack, .binary bytes (.sized ⟨value, n, []⟩)⟩, ?_, ⟨rfl, rfl, rfl⟩⟩
    have hcolon : step ⟨stack, .binary bytes phase⟩ .colon =
        .ok ⟨stack, .binary bytes (.size (.ofValue value))⟩ := h.step_eq (by simp) stack bytes
    rw [sizeTokens, advance_cons hcolon, advance_singleton]
    rfl

theorem advance_moreTypes (stack : List Frame) (bytes : List UInt8) (value : SegmentValue)
    (size : Int) (more : List Text) : ∀ types : List Text,
    advance ⟨stack, .binary bytes (.typed ⟨value, size, types⟩)⟩
      (more.flatMap fun m => [.minus, .atom m]) =
      .ok ⟨stack, .binary bytes (.typed ⟨value, size, types ++ more⟩)⟩ := by
  induction more with
  | nil =>
    intro types
    simp
  | cons m more ih =>
    intro types
    have hminus : step ⟨stack, .binary bytes (.typed ⟨value, size, types⟩)⟩ .minus =
        .ok ⟨stack, .binary bytes (.type ⟨value, size, types⟩)⟩ := rfl
    have hname : step ⟨stack, .binary bytes (.type ⟨value, size, types⟩)⟩ (.atom m) =
        .ok ⟨stack, .binary bytes (.typed ⟨value, size, types ++ [m]⟩)⟩ := rfl
    rw [List.flatMap_cons, List.cons_append, advance_cons hminus, List.cons_append,
      advance_cons hname, List.nil_append, ih, List.append_assoc, List.singleton_append]

/-- What may follow a segment: a comma or the closing mark, at which its bytes are computed. -/
structure SegmentEnds (stack : List Frame) (bytes : List UInt8) (segment : Segment) (s : State) :
    Prop where
  comma : step s .comma = afterSegment stack bytes segment .comma
  close : step s .binaryClose = afterSegment stack bytes segment .binaryClose

theorem exists_advance_types {stack : List Frame} {bytes : List UInt8} {value : SegmentValue}
    {size : Int} {s : State} (h : SizeComplete stack bytes ⟨value, size, []⟩ s)
    (types : List Text) :
    ∃ s', advance s (typeTokens types) = .ok s' ∧
      SegmentEnds stack bytes ⟨value, size, types⟩ s' := by
  cases types with
  | nil => exact ⟨s, rfl, h.comma, h.close⟩
  | cons first rest =>
    have hname : step ⟨stack, .binary bytes (.type ⟨value, size, []⟩)⟩ (.atom first) =
        .ok ⟨stack, .binary bytes (.typed ⟨value, size, [first]⟩)⟩ := rfl
    refine ⟨⟨stack, .binary bytes (.typed ⟨value, size, first :: rest⟩)⟩, ?_, rfl, rfl⟩
    rw [typeTokens, advance_cons h.slash, advance_cons hname, advance_moreTypes,
      List.singleton_append]

/-- A segment is read up to its end, whatever bytes it stands for. -/
theorem exists_advance_written (stack : List Frame) (bytes : List UInt8) {ts : List Token}
    {value : SegmentValue} (hv : IsSegmentValue ts value) (size : Option Int)
    (types : List Text) :
    ∃ s, advance ⟨stack, .binary bytes .begin⟩ (ts ++ sizeTokens size ++ typeTokens types) =
        .ok s ∧ SegmentEnds stack bytes ⟨value, size.getD 8, types⟩ s := by
  obtain ⟨phase, hvalue, hcomplete⟩ := exists_advance_segmentValue stack bytes hv
  obtain ⟨s, hsize, hs⟩ := exists_advance_size hcomplete stack bytes size
  obtain ⟨s', htypes, hs'⟩ := exists_advance_types hs types
  refine ⟨s', ?_, hs'⟩
  rw [List.append_assoc, advance_append _ hvalue, advance_append _ hsize, htypes]

/-- What may follow a segment when the bytes up to its end are known. -/
structure SegmentComplete (stack : List Frame) (bytes : List UInt8) (s : State) : Prop where
  comma : step s .comma = .ok ⟨stack, .binary bytes .begin⟩
  close : step s .binaryClose = .ok ⟨stack, .value (.binary (binaryText bytes))⟩

theorem exists_advance_segment (stack : List Frame) (bytes : List UInt8) {ts : List Token}
    {more : List UInt8} (h : IsSegment ts more) :
    ∃ s, advance ⟨stack, .binary bytes .begin⟩ ts = .ok s ∧
      SegmentComplete stack (bytes ++ more) s := by
  cases h with
  | @mk ts value size types _ hv hb =>
    obtain ⟨s, hs, hends⟩ := exists_advance_written stack bytes hv size types
    refine ⟨s, hs, hends.comma.trans ?_, hends.close.trans ?_⟩
    · rw [afterSegment, bytes_eq_ok_iff.mpr hb]
    · rw [afterSegment, bytes_eq_ok_iff.mpr hb]

/-! ## Binaries -/

theorem advance_segments (stack : List Frame) (parts : List (List Token × List UInt8))
    (h : ∀ p ∈ parts, IsSegment p.1 p.2) : ∀ bytes : List UInt8,
    advance ⟨stack, .binary bytes .begin⟩ (commaAfterEach (parts.map Prod.fst)) =
      .ok ⟨stack, .binary (bytes ++ parts.flatMap Prod.snd) .begin⟩ := by
  induction parts with
  | nil =>
    intro bytes
    simp [commaAfterEach]
  | cons p parts ih =>
    intro bytes
    obtain ⟨s, hs, hcomplete⟩ := exists_advance_segment stack bytes (h p List.mem_cons_self)
    have hfirst : advance ⟨stack, .binary bytes .begin⟩ (p.1 ++ [.comma]) =
        .ok ⟨stack, .binary (bytes ++ p.2) .begin⟩ := by
      rw [advance_append _ hs, advance_singleton, hcomplete.comma]
    have hrest := ih (fun q hq => h q (List.mem_cons_of_mem p hq)) (bytes ++ p.2)
    rw [List.map_cons, commaAfterEach, List.flatMap_cons, advance_append _ hfirst]
    rw [commaAfterEach] at hrest
    rw [hrest, List.flatMap_cons, List.append_assoc]

/-- The value of a segment does not begin with the closing mark. -/
theorem exists_cons_of_isSegmentValue {ts : List Token} {value : SegmentValue}
    (h : IsSegmentValue ts value) : ∃ t us, ts = t :: us ∧ t ≠ .binaryClose := by
  cases h with
  | chars ss hne =>
    cases ss with
    | nil => exact absurd rfl hne
    | cons t ss => exact ⟨_, _, rfl, by simp⟩
  | integer h =>
    cases h with
    | integer n | char n | plus h | minusInt h => exact ⟨_, _, rfl, by simp⟩

theorem exists_cons_of_isSegment {ts : List Token} {bytes : List UInt8} (h : IsSegment ts bytes) :
    ∃ t us, ts = t :: us ∧ t ≠ .binaryClose := by
  cases h with
  | mk size types hv hb =>
    obtain ⟨t, us, rfl, ht⟩ := exists_cons_of_isSegmentValue hv
    exact ⟨t, _, rfl, ht⟩

/-- So behind the opening mark it is read like behind a comma. -/
theorem advance_opened (stack : List Frame) (bytes : List UInt8) {t : Token}
    (ht : t ≠ .binaryClose) (ts : List Token) :
    advance ⟨stack, .binary bytes .opened⟩ (t :: ts) =
      advance ⟨stack, .binary bytes .begin⟩ (t :: ts) := by
  have hstep : step ⟨stack, .binary bytes .opened⟩ t = step ⟨stack, .binary bytes .begin⟩ t :=
    insideBinary_opened stack bytes ht
  rw [advance, advance, hstep]

/-- Segments behind the opening mark, with a comma behind each, in front of another. -/
theorem advance_opened_segments (stack : List Frame) {parts : List (List Token × List UInt8)}
    (h : ∀ p ∈ parts, IsSegment p.1 p.2) {t : Token} (ht : t ≠ .binaryClose) (ts : List Token) :
    advance ⟨stack, .binary [] .opened⟩ (commaAfterEach (parts.map Prod.fst) ++ t :: ts) =
      advance ⟨stack, .binary (parts.flatMap Prod.snd) .begin⟩ (t :: ts) := by
  have hbegin := advance_append (t :: ts) (advance_segments stack parts h [])
  cases parts with
  | nil => exact advance_opened stack [] ht ts
  | cons first rest =>
    obtain ⟨u, us, hfirst, hu⟩ := exists_cons_of_isSegment (h first List.mem_cons_self)
    have hcons : commaAfterEach ((first :: rest).map Prod.fst) =
        u :: (us ++ .comma :: commaAfterEach (rest.map Prod.fst)) := by
      simp [commaAfterEach, hfirst]
    rw [hcons, List.cons_append] at hbegin ⊢
    rw [advance_opened stack [] hu, hbegin, List.nil_append]

theorem completes_binary {parts : List (List Token × List UInt8)}
    (h : ∀ p ∈ parts, IsSegment p.1 p.2) {t : Text} (ht : BytesSpell (parts.flatMap Prod.snd) t) :
    Completes (.binaryOpen :: commaJoin (parts.map Prod.fst) ++ [.binaryClose]) (.binary t) := by
  intro stack
  obtain rfl := binaryText_eq_iff.mpr ht
  refine ⟨_, ?_, .value⟩
  rw [List.cons_append, advance_cons (step_begin stack (by simp) (by simp))]
  obtain rfl | ⟨init, last, rfl⟩ := List.eq_nil_or_concat' parts
  · rfl
  · obtain ⟨hinit, hlast⟩ := List.forall_mem_append.mp h
    have hlast := hlast last (List.mem_singleton_self last)
    obtain ⟨u, us, hcons, hu⟩ := exists_cons_of_isSegment hlast
    obtain ⟨s, hs, hcomplete⟩ := exists_advance_segment stack (init.flatMap Prod.snd) hlast
    rw [List.map_append, List.map_singleton, commaJoin_append_singleton, List.append_assoc]
    rw [hcons] at hs ⊢
    refine (advance_opened_segments stack hinit hu (us ++ [.binaryClose])).trans ?_
    rw [← List.cons_append, advance_append _ hs, advance_singleton, hcomplete.close]
    simp

/-! ## Terms -/

theorem completes_of_derives {ts : List Token} {v : Term} (h : Derives ts v) : Completes ts v := by
  induction h with
  | atom name =>
    intro stack
    refine ⟨_, ?_, .value⟩
    rw [advance_singleton, step_begin stack (by simp) (by simp)]
    rfl
  | number h => exact completes_number h
  | chars ss hne => exact completes_strings hne
  | tuple parts _ ih => exact completes_tuple ih
  | list parts _ ih => exact fun stack => ⟨_, advance_list stack ih, .value⟩
  | withTail parts hne _ _ ih iht =>
    exact fun stack => ⟨_, advance_withTail stack hne ih iht, .value⟩
  | binary parts h ht => exact completes_binary h ht

/-- The machine accepts a term of the grammar, the terminator and the end of the text. -/
theorem advance_of_derives {ts : List Token} {v : Term} (h : Derives ts v) (rest : List Token) :
    advance .start (ts ++ .dot :: .eof :: rest) = .ok ⟨[], .accepted v⟩ := by
  obtain ⟨s, hs, hcomplete⟩ := completes_of_derives h []
  have hdot := advance_append_of_complete hs hcomplete (t := .dot) (by simp) rfl
  rw [List.append_cons, State.start, advance_append _ hdot, advance_cons rfl,
    advance_accepted]

end Faultline.Term.Parser

namespace Faultline.Term

/-- Lexemes are read exactly if they begin with a term of the grammar, the terminator and the end of
    the text, and then they are read as the value of that term. -/
theorem parse_eq_ok_iff {lexemes : List Lexeme} {whole : Text} {v : Term} :
    parse lexemes whole = .ok v ↔
      ∃ ts rest, Derives ts v ∧ lexemes.map Lexeme.token = ts ++ .dot :: .eof :: rest := by
  rw [parse_eq_ok_iff_advance]
  constructor
  · rintro ⟨stack, hadvance⟩
    exact Parser.exists_derives_of_advance hadvance
  · rintro ⟨ts, rest, hderives, htokens⟩
    rw [htokens]
    exact ⟨[], Parser.advance_of_derives hderives rest⟩

/-- The tokens of a binary of one integer, with a size that is a whole number of bytes and more than
    any integer has bits. -/
def wideBinary : List Token :=
  .binaryOpen :: ([.integer 0] ++ sizeTokens (some (8 * 10 ^ 30)) ++ typeTokens []) ++
    [.binaryClose, .dot, .eof]

/-- There are bytes of the size with the value of the integer, but the binary is not read. -/
theorem parse_wideBinary :
    IsSegmentValue [.integer 0] (.integer 0) ∧
    (∃ bytes : List UInt8, ((8 * bytes.length : Nat) : Int) = 8 * 10 ^ 30 ∧
      (bigEndianValue bytes : Int) = 0 % 2 ^ (8 * bytes.length)) ∧
    ∀ v, parse (wideBinary.map fun t => ⟨t, 1⟩) [] ≠ .ok v := by
  refine ⟨.integer (.integer 0), ?_, fun v => ?_⟩
  · refine ⟨bigEndian (10 ^ 30) 0, ?_, ?_⟩
    · rw [length_bigEndian]
      rfl
    · rw [length_bigEndian, bigEndianValue_bigEndian, two_pow_eight_mul]
  · have hrefused : parse (wideBinary.map fun t => ⟨t, 1⟩) [] = .error .tooManyBits := by
      rfl
    rw [hrefused]
    nofun

end Faultline.Term
