import Faultline.Proofs.Term.Acceptance
import Faultline.Proofs.Term.Lexing

/-!
# Reading what was written

A term that is written down is read as the same term. The proof puts the lexer and the grammar side
by side: `ReadsAs` says that a text in front of a boundary is read as tokens from which the grammar
derives the term, and it is closed under everything that the notation does.

Results:
* `readsAs_of_written`: every way to write a term is read as that term.
* `ofText_of_readsAs`: such a text as a whole is decoded to the term.
* `ofText_eq_ok_of_written`: hence decoding undoes writing.
-/

namespace Faultline.Term

open Lexer (Reads AtBoundary EndsNumber)

/-! ## Texts and the terms they are read as -/

/-- The text is read as tokens of the term, in front of any boundary. -/
def ReadsAs (t : Text) (v : Term) : Prop :=
  ∃ ts, Derives ts v ∧ ∀ rest, AtBoundary rest → Reads t ts rest

/-- A whole text that is read as tokens has them as its lexemes, with the end of the text behind
    them. -/
theorem tokenize_of_reads {t : Text} {ts : List Token} (h : Reads t ts []) :
    ∃ lexemes : List Lexeme, lexemes.map Lexeme.token = ts ∧
      tokenize t = .ok (lexemes ++ [⟨.eof, (1 + t.length : Nat)⟩]) := by
  obtain ⟨lexemes, rfl, hlex⟩ := h 1
  have hend : Lexer.lexFrom (1 + t.length) [] = ([⟨.eof, (1 + t.length : Nat)⟩], none) := by
    rw [Lexer.lexFrom]
  rw [List.append_nil, hend] at hlex
  exact ⟨lexemes, rfl, by rw [tokenize, hlex]⟩

/-- A text that is read as the tokens of a term is decoded to the term. -/
theorem ofText_of_reads {t : Text} {ts : List Token} {v : Term} (hderives : Derives ts v)
    (hreads : Reads t ts []) : ofText t = .ok v := by
  obtain ⟨lexemes, rfl, htokens⟩ := tokenize_of_reads hreads
  rw [ofText, htokens]
  refine parse_eq_ok_iff_advance.mpr ⟨[], ?_⟩
  rw [withTerminator_append_singleton, List.map_append]
  exact Parser.advance_of_derives hderives []

theorem ofText_of_readsAs {t : Text} {v : Term} (h : ReadsAs t v) : ofText t = .ok v := by
  obtain ⟨ts, hderives, hreads⟩ := h
  exact ofText_of_reads hderives (hreads [] .nil)

/-- A text with a token that the machine refuses is refused at the column of this token. -/
theorem ofText_eq_error_of_reads {t : Text} {pre post : List Token} {u : Token}
    (h : Reads t (pre ++ u :: post) []) {s : Parser.State} {refusal : Refusal}
    (hpre : Parser.advance .start pre = .ok s) (hstep : Parser.step s u = .error refusal) :
    ∃ column, ofText t = .error (refusal.failure t column) := by
  obtain ⟨lexemes, hlexemes, htokens⟩ := tokenize_of_reads h
  obtain ⟨front, back, rfl, rfl, hback⟩ := List.map_eq_append_iff.mp hlexemes
  obtain ⟨l, back, rfl, rfl, -⟩ := List.map_eq_cons_iff.mp hback
  refine ⟨l.column, ?_⟩
  rw [ofText, htokens]
  simp only [withTerminator_append_singleton]
  rw [parse, List.append_assoc, List.cons_append]
  exact Parser.run_eq_error hstep hpre

/-! ## Atoms, integers and binaries -/

theorem readsAs_quotedAtom (name : Text) : ReadsAs (enclose '\'' name) (.atom name) :=
  ⟨_, .atom name, fun rest _ => Lexer.reads_quotedAtom name rest⟩

theorem readsAs_bareName {name : Text} (h : IsBareName name) : ReadsAs name (.atom name) :=
  ⟨_, .atom name, fun _ hrest => Lexer.reads_bareName h hrest.takeWhile_isNamePart⟩

theorem exists_reads_ofInt {n : Int}
    (h : (Numeral.ofNat n.natAbs).length ≤ Numeral.decimalLimit) :
    ∃ ts, IsNumber ts (.int n) ∧ ∀ rest, EndsNumber rest → Reads (Numeral.ofInt n) ts rest := by
  cases n with
  | ofNat n => exact ⟨_, .integer n, fun rest hrest => Lexer.reads_ofNat h hrest⟩
  | negSucc n =>
    refine ⟨_, .minusInt (.integer (n + 1 : Nat)), ?_⟩
    intro rest hrest
    exact (Lexer.reads_mark .minus rfl _).append (Lexer.reads_ofNat h hrest)

theorem readsAs_int {n : Int} (h : (Numeral.ofNat n.natAbs).length ≤ Numeral.decimalLimit) :
    ReadsAs (Numeral.ofInt n) (.int n) := by
  obtain ⟨ts, hnumber, hreads⟩ := exists_reads_ofInt h
  exact ⟨ts, .number hnumber, fun rest hrest => hreads rest hrest.endsNumber⟩

theorem withTail_of_not_list (elements : List Term) {tail : Term}
    (h : tail.listElements? = none) : Term.withTail elements tail = .improper elements tail := by
  cases tail with
  | list more => cases h
  | improper more last => cases h
  | _ => rfl

theorem isSegment_utf8 {t : Text} (h : ∀ c ∈ t, c.IsScalar) :
    IsSegment [.string t, .slash, .atom (text "utf8")] (t.flatMap Utf8.encodeOne) := by
  have hvalue : IsSegmentValue [.string t] (.chars t) := by
    have hchars := IsSegmentValue.chars [t] (by simp)
    simpa using hchars
  have hunicode : AsksUnicode [text "utf8"] :=
    ⟨text "utf8", List.mem_singleton_self _, List.mem_cons_self⟩
  exact .mk none [text "utf8"] hvalue (.encodedText hunicode h)

theorem readsAs_binary {t : Text} (h : ∀ c ∈ t, c.IsScalar) :
    ReadsAs (text "<<" ++ enclose '"' t ++ text "/utf8>>") (.binary t) := by
  have hsegment : ∀ p ∈ [([Token.string t, .slash, .atom (text "utf8")],
      t.flatMap Utf8.encodeOne)], IsSegment p.1 p.2 :=
    List.forall_mem_singleton.mpr (isSegment_utf8 h)
  have hspell : BytesSpell ([([Token.string t, .slash, .atom (text "utf8")],
      t.flatMap Utf8.encodeOne)].flatMap Prod.snd) t := by
    rw [List.flatMap_singleton]
    exact .utf8 h
  have hname : IsBareName (text "utf8") := .mk (by decide) (by decide) (by decide)
  refine ⟨_, .binary _ hsegment hspell, ?_⟩
  intro rest _
  have hname := (Lexer.reads_bareName hname rfl).append
    (Lexer.reads_mark .binaryClose rfl rest)
  have hslash := (Lexer.reads_mark .slash rfl _).append hname
  have hstring := (Lexer.reads_string t _).append hslash
  rw [List.append_assoc]
  exact (Lexer.reads_mark .binaryOpen rfl _).append hstring

/-! ## Tuples and lists -/

/-- Texts with commas between them are read one after the other, if each of them is read in front of
    a comma and in front of what stands behind the last one. -/
theorem exists_reads_join {α : Type} {Spells : List Token → α → Prop} {Behind : Text → Prop}
    (hcomma : ∀ rest, Behind (CodePoint.ofChar ',' :: rest)) {parts : List (α × Text)}
    (h : ∀ p ∈ parts, ∃ ts, Spells ts p.1 ∧ ∀ rest, Behind rest → Reads p.2 ts rest) :
    ∃ read : List (List Token × α), read.map Prod.snd = parts.map Prod.fst ∧
      (∀ q ∈ read, Spells q.1 q.2) ∧ ∀ rest, Behind rest →
        Reads (Text.join (text ",") (parts.map Prod.snd)) (commaJoin (read.map Prod.fst)) rest := by
  induction parts with
  | nil => exact ⟨[], rfl, by simp, fun rest _ => Lexer.reads_nil rest⟩
  | cons p parts ih =>
    obtain ⟨ts, hspells, hreads⟩ := h p List.mem_cons_self
    obtain ⟨read, hvalues, hall, hrest⟩ := ih fun q hq => h q (List.mem_cons_of_mem p hq)
    refine ⟨(ts, p.1) :: read, ?_, List.forall_mem_cons.mpr ⟨hspells, hall⟩, ?_⟩
    · rw [List.map_cons, List.map_cons, hvalues]
    · intro rest hbehind
      cases parts with
      | nil =>
        obtain rfl := List.map_eq_nil_iff.mp hvalues
        exact hreads rest hbehind
      | cons q parts =>
        cases read with
        | nil => cases hvalues
        | cons r read =>
          have hjoin := (Lexer.reads_mark .comma rfl _).append (hrest rest hbehind)
          have hfirst := (hreads _ (hcomma _)).append hjoin
          rw [← List.append_assoc] at hfirst
          exact hfirst

/-- Terms with commas between them. -/
theorem exists_reads_terms {parts : List (Term × Text)} (h : ∀ p ∈ parts, ReadsAs p.2 p.1) :
    ∃ read : List (List Token × Term), read.map Prod.snd = parts.map Prod.fst ∧
      (∀ q ∈ read, Derives q.1 q.2) ∧ ∀ rest, AtBoundary rest →
        Reads (Text.join (text ",") (parts.map Prod.snd)) (commaJoin (read.map Prod.fst)) rest :=
  exists_reads_join (fun _ => .cons List.mem_cons_self) h

theorem readsAs_tuple {parts : List (Term × Text)} (h : ∀ p ∈ parts, ReadsAs p.2 p.1) :
    ReadsAs (text "\x7b" ++ Text.join (text ",") (parts.map Prod.snd) ++ text "\x7d")
      (.tuple (parts.map Prod.fst)) := by
  obtain ⟨read, hvalues, hderives, hreads⟩ := exists_reads_terms h
  rw [← hvalues]
  refine ⟨_, .tuple read hderives, ?_⟩
  intro rest _
  have helements := (hreads _ (.cons (by decide))).append
    (Lexer.reads_mark .braceClose rfl rest)
  rw [List.append_assoc]
  exact (Lexer.reads_mark .braceOpen rfl _).append helements

theorem readsAs_list {parts : List (Term × Text)} (h : ∀ p ∈ parts, ReadsAs p.2 p.1) :
    ReadsAs (text "[" ++ Text.join (text ",") (parts.map Prod.snd) ++ text "]")
      (.list (parts.map Prod.fst)) := by
  obtain ⟨read, hvalues, hderives, hreads⟩ := exists_reads_terms h
  rw [← hvalues]
  refine ⟨_, .list read hderives, ?_⟩
  intro rest _
  have helements := (hreads _ (.cons (by decide))).append
    (Lexer.reads_mark .bracketClose rfl rest)
  rw [List.append_assoc]
  exact (Lexer.reads_mark .bracketOpen rfl _).append helements

theorem readsAs_improper {parts : List (Term × Text)} (hne : parts ≠ [])
    (h : ∀ p ∈ parts, ReadsAs p.2 p.1) {tail : Term} {t : Text} (ht : ReadsAs t tail)
    (hlist : tail.listElements? = none) :
    ReadsAs (text "[" ++ Text.join (text ",") (parts.map Prod.snd) ++ text "|" ++ t ++ text "]")
      (.improper (parts.map Prod.fst) tail) := by
  obtain ⟨read, hvalues, hderives, hreads⟩ := exists_reads_terms h
  obtain ⟨ts, hts, hreadsTail⟩ := ht
  have hread : read ≠ [] := by
    rintro rfl
    exact hne (List.map_eq_nil_iff.mp hvalues.symm)
  rw [← withTail_of_not_list _ hlist, ← hvalues]
  refine ⟨_, .withTail read hread hderives hts, ?_⟩
  intro rest _
  have htail := (hreadsTail _ (.cons (by decide))).append
    (Lexer.reads_mark .bracketClose rfl rest)
  have hbar := (Lexer.reads_mark .bar rfl _).append htail
  have helements := (hreads _ (.cons (by decide))).append hbar
  have hopen : Reads (text "[" ++ (Text.join (text ",") (parts.map Prod.snd) ++
      (text "|" ++ (t ++ text "]")))) _ rest :=
    (Lexer.reads_mark .bracketOpen rfl _).append helements
  simpa only [List.append_assoc, List.cons_append, List.nil_append] using hopen

/-! ## All terms -/

/-- Every way to write a term is read as that term. -/
theorem readsAs_of_written {v : Term} {t : Text} (h : Written v t) :
    Renderable v → ReadsAs t v := by
  induction h with
  | quotedAtom name =>
    intro _
    exact readsAs_quotedAtom name
  | bareAtom h =>
    intro _
    exact readsAs_bareName h
  | int n =>
    intro hv
    cases hv with
    | int h => exact readsAs_int h
  | binary t =>
    intro hv
    cases hv with
    | binary h => exact readsAs_binary h
  | tuple parts _ ih =>
    intro hv
    cases hv with
    | tuple h => exact readsAs_tuple fun p hp => ih p hp (h p.1 (List.mem_map_of_mem hp))
  | list parts _ ih =>
    intro hv
    cases hv with
    | list h => exact readsAs_list fun p hp => ih p hp (h p.1 (List.mem_map_of_mem hp))
  | improper parts _ _ ih iht =>
    intro hv
    cases hv with
    | improper hne h ht hlist =>
      have hparts : parts ≠ [] := by
        rintro rfl
        exact hne rfl
      exact readsAs_improper hparts (fun p hp => ih p hp (h p.1 (List.mem_map_of_mem hp)))
        (iht ht) hlist

theorem ofText_of_written {v : Term} {t : Text} (h : Written v t) (hv : Renderable v) :
    ofText t = .ok v :=
  ofText_of_readsAs (readsAs_of_written h hv)

/-- Decoding undoes writing: a term that can be read back is decoded from each of its writings, and
    `render` is one of them. -/
theorem ofText_eq_ok_of_written {v : Term} (hv : Renderable v) :
    Written v (render v) ∧ ∀ t, Written v t → ofText t = .ok v :=
  ⟨written_render hv, fun _ ht => ofText_of_written ht hv⟩

/-- A tuple of a plain name, a negative number and a list with a tail; the text in the list holds a
    double quote and the name behind its bar a single one. -/
theorem ofText_nested_writing :
    Renderable (.tuple [.atom (text "a@1"), .int (-12),
      .improper [.binary (text "x\"é")] (.atom (text "it's"))]) ∧
    Written (.tuple [.atom (text "a@1"), .int (-12),
      .improper [.binary (text "x\"é")] (.atom (text "it's"))])
      (text "\x7ba@1,-12,[<<\"x\\\"é\"/utf8>>|'it\\'s']\x7d") ∧
    ofText (text "\x7ba@1,-12,[<<\"x\\\"é\"/utf8>>|'it\\'s']\x7d") =
      .ok (.tuple [.atom (text "a@1"), .int (-12),
        .improper [.binary (text "x\"é")] (.atom (text "it's"))]) := by
  have hrenderable : Renderable (.tuple [.atom (text "a@1"), .int (-12),
      .improper [.binary (text "x\"é")] (.atom (text "it's"))]) := by
    refine .tuple (List.forall_mem_cons.mpr ⟨.atom _, List.forall_mem_cons.mpr
      ⟨.int (by decide +kernel), List.forall_mem_singleton.mpr ?_⟩⟩)
    exact .improper (by simp) (List.forall_mem_singleton.mpr (.binary (by decide))) (.atom _) rfl
  have hname : Written (.atom (text "a@1")) (text "a@1") :=
    .bareAtom (.mk (by decide) (by decide) (by decide))
  have hlist := Written.improper [(_, _)] (List.forall_mem_singleton.mpr (.binary (text "x\"é")))
    (.quotedAtom (text "it's"))
  have htuple := Written.tuple [(_, text "a@1"), (_, _), (_, _)] (List.forall_mem_cons.mpr
    ⟨hname, List.forall_mem_cons.mpr ⟨.int (-12), List.forall_mem_singleton.mpr hlist⟩⟩)
  have hwritten : Written (.tuple [.atom (text "a@1"), .int (-12),
      .improper [.binary (text "x\"é")] (.atom (text "it's"))])
      (text "\x7ba@1,-12,[<<\"x\\\"é\"/utf8>>|'it\\'s']\x7d") :=
    (congrArg (Written _) (by decide +kernel)).mp htuple
  exact ⟨hrenderable, hwritten, (ofText_eq_ok_of_written hrenderable).2 _ hwritten⟩

end Faultline.Term
