import Faultline.Proofs.Term.Grammar
import Faultline.Proofs.Term.Machine

/-!
# What the machine has read

`After pre s` says in terms of the grammar which tokens `pre` lead to the state `s`: open tuples and
lists hold complete terms with a comma behind each, and the phase tells what stands behind them.

Results:
* `After.step`: one move keeps the relation.
* `After.advance`: hence every run does.
* `exists_derives_of_advance`: what is accepted begins with a term, the terminator and the end of
  the text.
-/

namespace Faultline.Term.Parser

/-! ## Open tuples and lists -/

/-- Tokens behind which a term has to begin, with the tuples and lists that are open there. -/
inductive Open : List Token → List Frame → Prop where
  | bottom : Open [] []
  | tuple {pre : List Token} {stack : List Frame} (h : Open pre stack)
    (parts : List (List Token × Term)) (hp : ∀ p ∈ parts, Derives p.1 p.2) :
    Open (pre ++ .braceOpen :: commaAfterEach (parts.map Prod.fst))
      (.tuple (parts.map Prod.snd).reverse :: stack)
  | list {pre : List Token} {stack : List Frame} (h : Open pre stack)
    (parts : List (List Token × Term)) (hp : ∀ p ∈ parts, Derives p.1 p.2) :
    Open (pre ++ .bracketOpen :: commaAfterEach (parts.map Prod.fst))
      (.list (parts.map Prod.snd).reverse :: stack)
  | tail {pre : List Token} {stack : List Frame} (h : Open pre stack)
    (parts : List (List Token × Term)) (hne : parts ≠ []) (hp : ∀ p ∈ parts, Derives p.1 p.2) :
    Open (pre ++ .bracketOpen :: commaJoin (parts.map Prod.fst) ++ [.bar])
      (.tail (parts.map Prod.snd).reverse :: stack)

theorem Open.of_nil {pre : List Token} (h : Open pre []) : pre = [] := by
  cases h
  rfl

theorem Open.of_tuple {pre : List Token} {done : List Term} {stack : List Frame}
    (h : Open pre (.tuple done :: stack)) :
    ∃ (pre' : List Token) (parts : List (List Token × Term)), Open pre' stack ∧
      (∀ p ∈ parts, Derives p.1 p.2) ∧ done = (parts.map Prod.snd).reverse ∧
      pre = pre' ++ .braceOpen :: commaAfterEach (parts.map Prod.fst) := by
  cases h with
  | tuple h parts hp => exact ⟨_, parts, h, hp, rfl, rfl⟩

theorem Open.of_list {pre : List Token} {done : List Term} {stack : List Frame}
    (h : Open pre (.list done :: stack)) :
    ∃ (pre' : List Token) (parts : List (List Token × Term)), Open pre' stack ∧
      (∀ p ∈ parts, Derives p.1 p.2) ∧ done = (parts.map Prod.snd).reverse ∧
      pre = pre' ++ .bracketOpen :: commaAfterEach (parts.map Prod.fst) := by
  cases h with
  | list h parts hp => exact ⟨_, parts, h, hp, rfl, rfl⟩

theorem Open.of_tail {pre : List Token} {done : List Term} {stack : List Frame}
    (h : Open pre (.tail done :: stack)) :
    ∃ (pre' : List Token) (parts : List (List Token × Term)), Open pre' stack ∧ parts ≠ [] ∧
      (∀ p ∈ parts, Derives p.1 p.2) ∧ done = (parts.map Prod.snd).reverse ∧
      pre = pre' ++ .bracketOpen :: commaJoin (parts.map Prod.fst) ++ [.bar] := by
  cases h with
  | tail h parts hne hp => exact ⟨_, parts, h, hne, hp, rfl, rfl⟩

/-! ## States -/

/-- The token of a sign. -/
def signToken (negative : Bool) : Token := if negative then .minus else .plus

/-- The tokens of the value of a segment, as far as it can be one: a floating-point number is
    refused only when the segment is complete. -/
def Heads (ts : List Token) (value : SegmentValue) : Prop :=
  IsSegmentValue ts value ∨ ∃ x, value = .float x

/-- The tokens of a segment that lead to a phase. -/
inductive SegmentAfter : List Token → SegmentPhase → Prop where
  | begin : SegmentAfter [] .begin
  | signed (negative : Bool) : SegmentAfter [signToken negative] (.signed negative)
  | chars (ss : List Text) (hne : ss ≠ []) : SegmentAfter (ss.map .string) (.chars ss.flatten)
  | value {ts : List Token} {value : SegmentValue} (hv : Heads ts value) :
    SegmentAfter ts (.value ⟨value, 8, []⟩)
  | size {ts : List Token} {value : SegmentValue} (hv : Heads ts value) :
    SegmentAfter (ts ++ [.colon]) (.size ⟨value, 8, []⟩)
  | sized {ts : List Token} {value : SegmentValue} (hv : Heads ts value) (n : Int) :
    SegmentAfter (ts ++ [.colon, .integer n]) (.sized ⟨value, n, []⟩)
  | firstType {ts : List Token} {value : SegmentValue} (hv : Heads ts value) (size : Option Int) :
    SegmentAfter (ts ++ sizeTokens size ++ [.slash]) (.type ⟨value, size.getD 8, []⟩)
  | nextType {ts : List Token} {value : SegmentValue} (hv : Heads ts value) (size : Option Int)
    (types : List Text) (hne : types ≠ []) :
    SegmentAfter (ts ++ sizeTokens size ++ typeTokens types ++ [.minus])
      (.type ⟨value, size.getD 8, types⟩)
  | typed {ts : List Token} {value : SegmentValue} (hv : Heads ts value) (size : Option Int)
    (types : List Text) (hne : types ≠ []) :
    SegmentAfter (ts ++ sizeTokens size ++ typeTokens types) (.typed ⟨value, size.getD 8, types⟩)

/-- The tokens that lead to a state. -/
inductive After : List Token → State → Prop where
  | begin {pre : List Token} {stack : List Frame} (h : Open pre stack) : After pre ⟨stack, .begin⟩
  | signed {pre : List Token} {stack : List Frame} (h : Open pre stack) (negative : Bool) :
    After (pre ++ [signToken negative]) ⟨stack, .signed negative⟩
  | chars {pre : List Token} {stack : List Frame} (h : Open pre stack) (ss : List Text)
    (hne : ss ≠ []) : After (pre ++ ss.map .string) ⟨stack, .chars ss.flatten⟩
  | opened {pre : List Token} {stack : List Frame} (h : Open pre stack) :
    After (pre ++ [.binaryOpen]) ⟨stack, .binary [] .opened⟩
  | binary {pre : List Token} {stack : List Frame} (h : Open pre stack)
    (parts : List (List Token × List UInt8)) (hp : ∀ p ∈ parts, IsSegment p.1 p.2)
    {ts : List Token} {phase : SegmentPhase} (hs : SegmentAfter ts phase) :
    After (pre ++ .binaryOpen :: commaAfterEach (parts.map Prod.fst) ++ ts)
      ⟨stack, .binary (parts.flatMap Prod.snd) phase⟩
  | value {pre : List Token} {stack : List Frame} (h : Open pre stack) {ts : List Token} {v : Term}
    (hv : Derives ts v) : After (pre ++ ts) ⟨stack, .value v⟩
  | terminated {ts : List Token} {v : Term} (hv : Derives ts v) :
    After (ts ++ [.dot]) ⟨[], .terminated v⟩
  | accepted {ts : List Token} {v : Term} (hv : Derives ts v) (rest : List Token) :
    After (ts ++ .dot :: .eof :: rest) ⟨[], .accepted v⟩

theorem isNumber_signedInt (negative : Bool) {t : Token} {n : Int} (h : IsNumber [t] (.int n)) :
    IsNumber [signToken negative, t] (.int (signedInt negative n)) := by
  cases negative with
  | false => exact .plus h
  | true => exact .minusInt h

theorem isNumber_signedFloat (negative : Bool) (x : Binary64) :
    IsNumber [signToken negative, .float x] (.float (signedFloat negative x)) := by
  cases negative with
  | false => exact .plus (.float x)
  | true => exact .minusFloat (.float x)

/-! ## Moves outside of binaries -/

theorem After.beginTerm {pre : List Token} {stack : List Frame} {t : Token} {s : State}
    (h : Open pre stack) (hs : beginTerm stack t = .ok s) : After (pre ++ [t]) s := by
  cases t with
  | atom name =>
    cases hs
    exact .value h (.atom name)
  | integer n =>
    cases hs
    exact .value h (.number (.integer n))
  | char n =>
    cases hs
    exact .value h (.number (.char n))
  | float x =>
    cases hs
    exact .value h (.number (.float x))
  | minus =>
    cases hs
    exact .signed h true
  | plus =>
    cases hs
    exact .signed h false
  | string t =>
    cases hs
    have hchars := After.chars h [t] (by simp)
    simpa using hchars
  | braceOpen =>
    cases hs
    exact .begin (.tuple h [] (by simp))
  | bracketOpen =>
    cases hs
    exact .begin (.list h [] (by simp))
  | binaryOpen =>
    cases hs
    exact .opened h
  | eof | dot | variableName _ | braceClose | bracketClose | binaryClose | comma | bar | colon
  | slash => cases hs

theorem After.beginOrClose {pre : List Token} {stack : List Frame} {t : Token} {s : State}
    (h : Open pre stack) (hs : beginOrClose stack t = .ok s) : After (pre ++ [t]) s := by
  unfold Parser.beginOrClose at hs
  split at hs
  · cases hs
    obtain ⟨pre', parts, h', -, hdone, rfl⟩ := h.of_tuple
    obtain rfl : parts = [] := by simpa using hdone
    have hvalue := After.value h' (Derives.tuple [] (by simp))
    simpa [commaJoin, commaAfterEach] using hvalue
  · cases hs
    obtain ⟨pre', parts, h', -, hdone, rfl⟩ := h.of_list
    obtain rfl : parts = [] := by simpa using hdone
    have hvalue := After.value h' (Derives.list [] (by simp))
    simpa [commaJoin, commaAfterEach] using hvalue
  · exact After.beginTerm h hs

/-- A complete term becomes the last element of what is open, or the whole term. -/
theorem After.afterTerm {pre ts : List Token} {stack : List Frame} {v : Term} {t : Token}
    {s : State} (h : Open pre stack) (hv : Derives ts v) (hs : afterTerm v stack t = .ok s) :
    After (pre ++ ts ++ [t]) s := by
  cases stack with
  | nil =>
    obtain rfl := h.of_nil
    cases t with
    | dot =>
      cases hs
      exact .terminated hv
    | _ => cases hs
  | cons frame rest =>
    cases frame with
    | tuple done =>
      obtain ⟨pre', parts, h', hp, rfl, rfl⟩ := h.of_tuple
      have hp' : ∀ p ∈ parts ++ [(ts, v)], Derives p.1 p.2 :=
        List.forall_mem_append.mpr ⟨hp, List.forall_mem_singleton.mpr hv⟩
      cases t with
      | comma =>
        cases hs
        have hbegin := After.begin (.tuple h' _ hp')
        simpa [commaAfterEach_append, commaAfterEach_singleton] using hbegin
      | braceClose =>
        cases hs
        have hvalue := After.value h' (.tuple _ hp')
        simpa [commaJoin_append_singleton] using hvalue
      | _ => cases hs
    | list done =>
      obtain ⟨pre', parts, h', hp, rfl, rfl⟩ := h.of_list
      have hp' : ∀ p ∈ parts ++ [(ts, v)], Derives p.1 p.2 :=
        List.forall_mem_append.mpr ⟨hp, List.forall_mem_singleton.mpr hv⟩
      cases t with
      | comma =>
        cases hs
        have hbegin := After.begin (.list h' _ hp')
        simpa [commaAfterEach_append, commaAfterEach_singleton] using hbegin
      | bar =>
        cases hs
        have hbegin := After.begin (.tail h' _ (by simp) hp')
        simpa [commaJoin_append_singleton] using hbegin
      | bracketClose =>
        cases hs
        have hvalue := After.value h' (.list _ hp')
        simpa [commaJoin_append_singleton] using hvalue
      | _ => cases hs
    | tail done =>
      obtain ⟨pre', parts, h', hne, hp, rfl, rfl⟩ := h.of_tail
      cases t with
      | bracketClose =>
        cases hs
        have hvalue := After.value h' (.withTail parts hne hp hv)
        simpa using hvalue
      | _ => cases hs

theorem After.afterSign {pre : List Token} {stack : List Frame} {negative : Bool} {t : Token}
    {s : State} (h : Open pre stack) (hs : afterSign stack negative t = .ok s) :
    After (pre ++ [signToken negative] ++ [t]) s := by
  rw [List.append_assoc]
  cases t with
  | integer n =>
    cases hs
    exact .value h (.number (isNumber_signedInt negative (.integer n)))
  | char n =>
    cases hs
    exact .value h (.number (isNumber_signedInt negative (.char n)))
  | float x =>
    cases hs
    exact .value h (.number (isNumber_signedFloat negative x))
  | _ => cases hs

/-! ## Moves inside a binary -/

theorem map_eq_ok {α β : Type} {x : Except Refusal α} {f : α → β} {b : β} (h : x.map f = .ok b) :
    ∃ a, x = .ok a ∧ f a = b := by
  cases x with
  | error refusal => cases h
  | ok a => exact ⟨a, rfl, Except.ok.inj h⟩

theorem SegmentAfter.beginSegment {t : Token} {phase : SegmentPhase}
    (hs : beginSegment t = .ok phase) : SegmentAfter [t] phase := by
  cases t with
  | string t =>
    cases hs
    have hchars := SegmentAfter.chars [t] (by simp)
    simpa using hchars
  | minus =>
    cases hs
    exact .signed true
  | plus =>
    cases hs
    exact .signed false
  | integer n =>
    cases hs
    exact .value (.inl (.integer (.integer n)))
  | char n =>
    cases hs
    exact .value (.inl (.integer (.char n)))
  | _ => cases hs

theorem SegmentAfter.afterSegmentSign {negative : Bool} {t : Token} {phase : SegmentPhase}
    (hs : afterSegmentSign negative t = .ok phase) :
    SegmentAfter ([signToken negative] ++ [t]) phase := by
  cases t with
  | integer n =>
    cases hs
    exact .value (.inl (.integer (isNumber_signedInt negative (.integer n))))
  | char n =>
    cases hs
    exact .value (.inl (.integer (isNumber_signedInt negative (.char n))))
  | float x =>
    cases hs
    exact .value (.inr ⟨_, rfl⟩)
  | _ => cases hs

theorem isSegment_of_bytes {ts : List Token} {value : SegmentValue} (hv : Heads ts value)
    {size : Option Int} {types : List Text} {bytes : List UInt8}
    (hb : (Segment.mk value (size.getD 8) types).bytes = .ok bytes) :
    IsSegment (ts ++ sizeTokens size ++ typeTokens types) bytes := by
  rcases hv with hv | ⟨x, rfl⟩
  · exact .mk size types hv (bytes_eq_ok_iff.mp hb)
  · cases hb

/-- A complete segment is followed by another one, or the binary is complete. -/
theorem After.afterSegment {pre ts : List Token} {stack : List Frame} (h : Open pre stack)
    {parts : List (List Token × List UInt8)} (hp : ∀ p ∈ parts, IsSegment p.1 p.2)
    {value : SegmentValue} (hv : Heads ts value) (size : Option Int) (types : List Text) {t : Token}
    {s : State}
    (hs : afterSegment stack (parts.flatMap Prod.snd) ⟨value, size.getD 8, types⟩ t = .ok s) :
    After (pre ++ .binaryOpen :: commaAfterEach (parts.map Prod.fst) ++
      (ts ++ sizeTokens size ++ typeTokens types) ++ [t]) s := by
  unfold Parser.afterSegment at hs
  cases hb : (Segment.mk value (size.getD 8) types).bytes with
  | error refusal =>
    rw [hb] at hs
    cases hs
  | ok bytes =>
    rw [hb] at hs
    have hp' : ∀ p ∈ parts ++ [(ts ++ sizeTokens size ++ typeTokens types, bytes)],
        IsSegment p.1 p.2 :=
      List.forall_mem_append.mpr ⟨hp, List.forall_mem_singleton.mpr (isSegment_of_bytes hv hb)⟩
    cases t with
    | comma =>
      cases hs
      have hbegin := After.binary h _ hp' .begin
      simpa [commaAfterEach_append, commaAfterEach_singleton] using hbegin
    | binaryClose =>
      cases hs
      have hvalue := After.value h (.binary _ hp' (binaryText_eq_iff.mp rfl))
      simpa [commaJoin_append_singleton] using hvalue
    | _ => cases hs

/-- The value of a segment may be followed by a size, by types or by neither. -/
theorem After.afterSegmentValue {pre ts : List Token} {stack : List Frame} (h : Open pre stack)
    {parts : List (List Token × List UInt8)} (hp : ∀ p ∈ parts, IsSegment p.1 p.2)
    {value : SegmentValue} (hv : Heads ts value) {t : Token} {s : State}
    (hs : afterSegmentValue stack (parts.flatMap Prod.snd) (.ofValue value) t = .ok s) :
    After (pre ++ .binaryOpen :: commaAfterEach (parts.map Prod.fst) ++ ts ++ [t]) s := by
  rw [List.append_assoc _ ts]
  unfold Parser.afterSegmentValue at hs
  split at hs
  · cases hs
    exact .binary h parts hp (.size hv)
  · cases hs
    have htype := SegmentAfter.firstType hv none
    simpa [sizeTokens, Segment.ofValue] using After.binary h parts hp htype
  · have hnext := After.afterSegment h hp hv none [] hs
    simpa [sizeTokens, typeTokens] using hnext

theorem typeTokens_append_singleton {types : List Text} (hne : types ≠ []) (name : Text) :
    typeTokens (types ++ [name]) = typeTokens types ++ [.minus, .atom name] := by
  cases types with
  | nil => exact absurd rfl hne
  | cons first more => simp [typeTokens]

/-- One move inside a binary. -/
theorem After.insideBinary {pre ts : List Token} {stack : List Frame} (h : Open pre stack)
    (parts : List (List Token × List UInt8)) (hp : ∀ p ∈ parts, IsSegment p.1 p.2)
    {phase : SegmentPhase} (hphase : SegmentAfter ts phase) {t : Token} {s : State}
    (hs : insideBinary stack (parts.flatMap Prod.snd) phase t = .ok s) :
    After (pre ++ .binaryOpen :: commaAfterEach (parts.map Prod.fst) ++ ts ++ [t]) s := by
  rw [List.append_assoc _ ts]
  cases hphase with
  | begin =>
    obtain ⟨phase, hbegin, rfl⟩ := map_eq_ok hs
    exact .binary h parts hp (.beginSegment hbegin)
  | signed negative =>
    obtain ⟨phase, hsign, rfl⟩ := map_eq_ok hs
    exact .binary h parts hp (.afterSegmentSign hsign)
  | @chars ss hne =>
    rw [Parser.insideBinary.eq_def] at hs
    cases t with
    | string more =>
      cases hs
      have hchars := SegmentAfter.chars (ss ++ [more]) (by simp)
      simpa using After.binary h parts hp hchars
    | _ =>
      rw [← List.append_assoc]
      exact After.afterSegmentValue h hp (.inl (.chars ss hne)) hs
  | value hv =>
    rw [← List.append_assoc]
    exact After.afterSegmentValue h hp hv hs
  | size hv =>
    cases t with
    | integer n =>
      cases hs
      simpa using After.binary h parts hp (.sized hv n)
    | _ => cases hs
  | @sized us value hv n =>
    cases t with
    | slash =>
      cases hs
      have htype := SegmentAfter.firstType hv (some n)
      simpa [sizeTokens] using After.binary h parts hp htype
    | _ =>
      have htokens : us ++ [.colon, .integer n] = us ++ sizeTokens (some n) ++ typeTokens [] :=
        (List.append_nil _).symm
      rw [htokens, ← List.append_assoc]
      exact After.afterSegment h hp hv (some n) [] hs
  | firstType hv size =>
    cases t with
    | atom name =>
      cases hs
      have htyped := SegmentAfter.typed hv size [name] (by simp)
      simpa [typeTokens] using After.binary h parts hp htyped
    | _ => cases hs
  | @nextType us value hv size types hne =>
    cases t with
    | atom name =>
      cases hs
      have htyped := SegmentAfter.typed hv size (types ++ [name]) (by simp)
      simpa [typeTokens_append_singleton hne] using After.binary h parts hp htyped
    | _ => cases hs
  | typed hv size types hne =>
    cases t with
    | minus =>
      cases hs
      exact .binary h parts hp (.nextType hv size types hne)
    | _ =>
      rw [← List.append_assoc]
      exact After.afterSegment h hp hv size types hs

/-! ## Runs -/

/-- One move. -/
theorem After.step {pre : List Token} {s s' : State} {t : Token} (h : After pre s)
    (hs : step s t = .ok s') : After (pre ++ [t]) s' := by
  cases h with
  | begin h => exact After.beginOrClose h hs
  | signed h negative => exact After.afterSign h hs
  | @chars pre stack h ss hne =>
    cases t with
    | string more =>
      cases hs
      have hchars := After.chars h (ss ++ [more]) (by simp)
      simpa using hchars
    | _ => exact After.afterTerm h (.chars ss hne) hs
  | @opened pre stack h =>
    cases t with
    | binaryClose =>
      cases hs
      have hvalue := After.value h (.binary [] (by simp) (binaryText_eq_iff.mp rfl))
      simpa [commaJoin] using hvalue
    | _ =>
      rw [← List.append_nil (pre ++ [Token.binaryOpen])]
      exact After.insideBinary h [] (by simp) .begin hs
  | binary h parts hp hphase => exact After.insideBinary h parts hp hphase hs
  | value h hv => exact After.afterTerm h hv hs
  | terminated hv =>
    cases t with
    | eof =>
      cases hs
      have haccepted := After.accepted hv []
      simpa using haccepted
    | _ => cases hs
  | accepted hv rest =>
    cases hs
    have haccepted := After.accepted hv (rest ++ [t])
    simpa using haccepted

theorem After.advance {ts : List Token} : ∀ {pre : List Token} {s s' : State}, After pre s →
    advance s ts = .ok s' → After (pre ++ ts) s' := by
  induction ts with
  | nil =>
    intro pre s s' h hs
    cases hs
    rwa [List.append_nil]
  | cons t ts ih =>
    intro pre s s' h hs
    cases hstep : Parser.step s t with
    | error refusal =>
      rw [Parser.advance, hstep] at hs
      cases hs
    | ok next =>
      rw [advance_cons hstep] at hs
      rw [List.append_cons]
      exact ih (h.step hstep) hs

/-- What is accepted begins with a term, the terminator and the end of the text. -/
theorem exists_derives_of_advance {ts : List Token} {stack : List Frame} {v : Term}
    (h : advance .start ts = .ok ⟨stack, .accepted v⟩) :
    ∃ us rest, Derives us v ∧ ts = us ++ .dot :: .eof :: rest := by
  have hafter := After.advance (.begin .bottom) h
  rw [List.nil_append] at hafter
  cases hafter with
  | accepted hv rest => exact ⟨_, rest, hv, rfl⟩

end Faultline.Term.Parser
