import Faultline.Proofs.Term.Cells
import Faultline.Proofs.Term.Equality
import Faultline.Proofs.Term.Position
import Faultline.Proofs.Term.ViablePrefix

/-!
# The form of lists

What is decoded holds every list in one form: a list in the tail of another is part of it, so an
improper list has a tail that is no list. The same elements may be written with any brackets in
tails; wherever such tokens stand, they are read alike.

Results:
* `normal_of_derives`: lists have the form at every place of a term.
* `reads_iff_derives`: tokens that are read on their own are terms of the grammar.
* `Bracketed.interchangeable`: lists of the same value are read alike in all surroundings.
* `lists_normalize`: the form of lists, and the ways to write them that make no difference.
-/

namespace Faultline.Term

/-! ## Improper lists -/

/-- Improper lists have elements and a tail that is no list, at every place of the term. -/
def Normal (v : Term) : Prop :=
  ∀ place elements tail, v.at? place = some (.improper elements tail) →
    elements ≠ [] ∧ tail.listElements? = none

theorem normal_of_branches {v : Term}
    (h : ∀ elements tail, v = .improper elements tail → elements ≠ [] ∧ tail.listElements? = none)
    (hbranches : ∀ way w, v.branch? way = some w → Normal w) : Normal v := by
  intro place elements tail hplace
  cases place with
  | nil => exact h elements tail (Option.some.inj hplace)
  | cons way place =>
    obtain ⟨w, hw, hinner⟩ := Option.bind_eq_some_iff.mp hplace
    exact hbranches way w hw place elements tail hinner

theorem Normal.branch {v w : Term} (h : Normal v) (way : Branch) (hw : v.branch? way = some w) :
    Normal w := by
  intro place elements tail hplace
  refine h (way :: place) elements tail ?_
  rw [at?, hw]
  exact hplace

theorem Normal.elements {v : Term} {elements : List Term} (h : Normal v)
    (hv : v.elements? = some elements) : ∀ w ∈ elements, Normal w := by
  intro w hw
  obtain ⟨index, hindex⟩ := List.mem_iff_getElem?.mp hw
  refine h.branch (.element index) ?_
  rw [branch?, hv]
  exact hindex

/-- The ways from a term that is no improper list lead to its elements. -/
theorem normal_of_elements {v : Term} {elements : List Term}
    (hv : v.elements?.getD [] = elements) (hproper : ∀ xs t, v ≠ .improper xs t)
    (h : ∀ w ∈ elements, Normal w) : Normal v := by
  refine normal_of_branches (fun xs t hxs => absurd hxs (hproper xs t)) ?_
  intro way w hw
  cases way with
  | element index =>
    obtain ⟨xs, hxs, hindex⟩ := Option.bind_eq_some_iff.mp hw
    rw [hxs, Option.getD_some] at hv
    subst hv
    exact h w (List.mem_of_getElem? hindex)
  | tail =>
    cases v with
    | improper xs t => exact absurd rfl (hproper xs t)
    | _ => cases hw

theorem normal_of_no_elements {v : Term} (h : v.elements? = none) : Normal v := by
  have hnone : v.elements?.getD [] = [] := by
    rw [h]
    rfl
  refine normal_of_elements hnone ?_ (List.forall_mem_nil _)
  rintro xs t rfl
  cases h

theorem normal_improper {elements : List Term} {tail : Term} (hne : elements ≠ [])
    (htail : tail.listElements? = none) (h : ∀ w ∈ elements, Normal w) (ht : Normal tail) :
    Normal (.improper elements tail) := by
  refine normal_of_branches ?_ ?_
  · rintro _ _ ⟨⟩
    exact ⟨hne, htail⟩
  · intro way w hw
    cases way with
    | element index => exact h w (List.mem_of_getElem? hw)
    | tail =>
      cases hw
      exact ht

/-- Elements in front of a tail are part of the list that the tail is, or the tail is no list. -/
theorem normal_withTail {elements : List Term} {tail : Term} (hne : elements ≠ [])
    (h : ∀ w ∈ elements, Normal w) (ht : Normal tail) : Normal (withTail elements tail) := by
  cases tail with
  | list more =>
    exact normal_of_elements rfl nofun (List.forall_mem_append.mpr ⟨h, ht.elements rfl⟩)
  | improper more last =>
    obtain ⟨-, hlast⟩ := ht [] more last rfl
    exact normal_improper (List.append_ne_nil_of_left_ne_nil hne more) hlast
      (List.forall_mem_append.mpr ⟨h, ht.elements rfl⟩) (ht.branch .tail rfl)
  | _ => exact normal_improper hne rfl h ht

theorem normal_of_isNumber {ts : List Token} {v : Term} (h : IsNumber ts v) : Normal v := by
  induction h with
  | plus h ih => exact ih
  | _ => exact normal_of_no_elements rfl

/-- Lists have the form at every place of a term that is written in the notation. -/
theorem normal_of_derives {ts : List Token} {v : Term} (h : Derives ts v) : Normal v := by
  induction h with
  | atom name => exact normal_of_no_elements rfl
  | number h => exact normal_of_isNumber h
  | chars ss hne =>
    refine normal_of_elements rfl nofun (List.forall_mem_map.mpr ?_)
    intro c _
    exact normal_of_no_elements rfl
  | tuple parts h ih | list parts h ih =>
    exact normal_of_elements rfl nofun (List.forall_mem_map.mpr ih)
  | withTail parts hne h ht ih iht =>
    exact normal_withTail (by simpa using hne) (List.forall_mem_map.mpr ih) iht
  | binary parts h ht => exact normal_of_no_elements rfl

/-! ## Terms on their own -/

/-- The tokens are one term, which is read as the value. -/
def Reads (ts : List Token) (v : Term) : Prop :=
  .eof ∉ ts ∧ ∀ lexemes whole, lexemes.map Lexeme.token = ts ++ [.dot, .eof] →
    parse lexemes whole = .ok v

/-- There is no end of the text in a term. -/
theorem eof_not_mem_of_derives {ts : List Token} {v : Term} (h : Derives ts v) : .eof ∉ ts := by
  intro heof
  obtain ⟨s, hs, hcomplete⟩ := Parser.completes_of_derives h []
  obtain ⟨stack, w, rfl⟩ := Parser.exists_accepted_of_eof_mem hs heof
  cases hcomplete

/-- Behind tokens without an end of the text the first one is the last token. -/
theorem eq_of_append_dot_eof {ts us rest : List Token} (heof : .eof ∉ ts)
    (h : ts ++ [.dot, .eof] = us ++ .dot :: .eof :: rest) : us = ts := by
  obtain rfl | ⟨init, last, rfl⟩ := List.eq_nil_or_concat' rest
  · exact (List.append_cancel_right h).symm
  · have hlast : (ts ++ [.dot]) ++ [.eof] = (us ++ .dot :: .eof :: init) ++ [last] := by
      simpa using h
    have hinit : ts ++ [.dot] = us ++ .dot :: .eof :: init := List.append_inj_left' hlast rfl
    have hmem : Token.eof ∈ ts ++ [.dot] := by
      rw [hinit]
      simp
    simp [heof] at hmem

/-- Tokens that are read on their own are terms of the grammar. -/
theorem reads_iff_derives {ts : List Token} {v : Term} : Reads ts v ↔ Derives ts v := by
  constructor
  · rintro ⟨heof, h⟩
    have hlexemes : ((ts ++ [Token.dot, Token.eof]).map fun t => (⟨t, 0⟩ : Lexeme)).map
        Lexeme.token = ts ++ [.dot, .eof] := by
      rw [List.map_map]
      exact List.map_id _
    have hparse := h _ [] hlexemes
    obtain ⟨us, rest, hus, htokens⟩ := parse_eq_ok_iff.mp hparse
    rw [hlexemes] at htokens
    rwa [eq_of_append_dot_eof heof htokens] at hus
  · intro h
    refine ⟨eof_not_mem_of_derives h, ?_⟩
    intro lexemes whole htokens
    exact parse_eq_ok_iff.mpr ⟨ts, [], h, htokens⟩

/-! ## Lists in all surroundings -/

/-- The tokens are read alike wherever they stand. -/
def Interchangeable (us vs : List Token) : Prop :=
  ∀ (pre post : List Token) (lexemes others : List Lexeme) (whole text : Text) (v : Term),
    lexemes.map Lexeme.token = pre ++ us ++ post → others.map Lexeme.token = pre ++ vs ++ post →
      (parse lexemes whole = .ok v ↔ parse others text = .ok v)

/-- A term that begins with a bracket and is complete behind its last token. -/
structure Bracketed (ts : List Token) (v : Term) : Prop where
  head : ∃ rest, ts = .bracketOpen :: rest
  derives : Derives ts v
  advance : ∀ stack, Parser.advance ⟨stack, .begin⟩ ts = .ok ⟨stack, .value v⟩

namespace Parser

/-- A bracket opens a list where a term has to begin. Elsewhere it is only taken behind the end of
    what is read. -/
theorem begin_or_accepted_of_step_bracketOpen {s next : State}
    (h : step s .bracketOpen = .ok next) : s.phase = .begin ∨ ∃ v, s.phase = .accepted v := by
  obtain ⟨stack, phase⟩ := s
  cases phase with
  | begin => exact .inl rfl
  | signed negative => cases h
  | chars t => exact absurd h (Fresh.afterTerm_ne_ok (.inr rfl) _ stack next)
  | binary bytes phase =>
    exact absurd h (Fresh.insideBinary_ne_ok (.inr rfl) stack bytes phase next)
  | value v => exact absurd h (Fresh.afterTerm_ne_ok (.inr rfl) v stack next)
  | terminated v => cases h
  | accepted v => exact .inr ⟨v, rfl⟩

end Parser

/-- A list takes the machine on exactly where a term has to begin, or behind the end. -/
theorem Bracketed.advance_eq_ok_iff {ts : List Token} {v : Term} (h : Bracketed ts v)
    {s s' : Parser.State} :
    Parser.advance s ts = .ok s' ↔
      (s.phase = .begin ∧ s' = ⟨s.stack, .value v⟩) ∨ ((∃ w, s.phase = .accepted w) ∧ s' = s) := by
  obtain ⟨stack, phase⟩ := s
  have hbegin := h.advance stack
  obtain ⟨rest, rfl⟩ := h.head
  constructor
  · intro hadvance
    cases hstep : Parser.step ⟨stack, phase⟩ .bracketOpen with
    | error refusal =>
      rw [Parser.advance, hstep] at hadvance
      cases hadvance
    | ok next =>
      rcases Parser.begin_or_accepted_of_step_bracketOpen hstep with hphase | ⟨w, hphase⟩
      · obtain rfl : phase = .begin := hphase
        exact .inl ⟨rfl, Except.ok.inj (hadvance.symm.trans hbegin)⟩
      · obtain rfl : phase = .accepted w := hphase
        rw [Parser.advance_accepted] at hadvance
        exact .inr ⟨⟨w, rfl⟩, (Except.ok.inj hadvance).symm⟩
  · rintro (⟨hphase, rfl⟩ | ⟨⟨w, hphase⟩, rfl⟩)
    · obtain rfl : phase = .begin := hphase
      exact hbegin
    · obtain rfl : phase = .accepted w := hphase
      exact Parser.advance_accepted stack w _

/-- Lists of the same value are read alike in all surroundings. -/
theorem Bracketed.interchangeable {us vs : List Token} {v : Term} (hus : Bracketed us v)
    (hvs : Bracketed vs v) : Interchangeable us vs := by
  have hsame (s s' : Parser.State) :
      Parser.advance s us = .ok s' ↔ Parser.advance s vs = .ok s' := by
    rw [hus.advance_eq_ok_iff, hvs.advance_eq_ok_iff]
  intro pre post lexemes others whole text w hlexemes hothers
  rw [parse_eq_ok_iff_advance, parse_eq_ok_iff_advance, hlexemes, hothers]
  simp only [Parser.advance_append_eq_ok_iff, hsame]

/-! ## Ways to write lists -/

/-- The tokens of a list with some elements. -/
def listTokens (elements : List (List Token)) : List Token :=
  .bracketOpen :: commaJoin elements ++ [.bracketClose]

/-- The tokens of a list with some elements in front of a bar and a tail behind it. -/
def tailTokens (elements : List (List Token)) (tail : List Token) : List Token :=
  .bracketOpen :: commaJoin elements ++ .bar :: tail ++ [.bracketClose]

/-- Both sequences of tokens are one term of the value, and each may stand for the other. -/
structure ReadAlike (us vs : List Token) (v : Term) : Prop where
  left : Reads us v
  right : Reads vs v
  interchangeable : Interchangeable us vs

theorem Bracketed.readAlike {us vs : List Token} {v : Term} (hus : Bracketed us v)
    (hvs : Bracketed vs v) : ReadAlike us vs v where
  left := reads_iff_derives.mpr hus.derives
  right := reads_iff_derives.mpr hvs.derives
  interchangeable := hus.interchangeable hvs

theorem bracketed_listTokens {parts : List (List Token × Term)}
    (h : ∀ p ∈ parts, Derives p.1 p.2) :
    Bracketed (listTokens (parts.map Prod.fst)) (.list (parts.map Prod.snd)) where
  head := ⟨_, rfl⟩
  derives := .list parts h
  advance stack := Parser.advance_list stack fun p hp => Parser.completes_of_derives (h p hp)

theorem bracketed_tailTokens {parts : List (List Token × Term)} (hne : parts ≠ [])
    (h : ∀ p ∈ parts, Derives p.1 p.2) {ts : List Token} {tail : Term} (ht : Derives ts tail) :
    Bracketed (tailTokens (parts.map Prod.fst) ts) (withTail (parts.map Prod.snd) tail) where
  head := ⟨_, rfl⟩
  derives := .withTail parts hne h ht
  advance stack := Parser.advance_withTail stack hne
    (fun p hp => Parser.completes_of_derives (h p hp)) (Parser.completes_of_derives ht)

/-- A list behind the bar is part of the list. -/
theorem readAlike_listTail {front back : List (List Token × Term)} (hne : front ≠ [])
    (h : ∀ p ∈ front ++ back, Derives p.1 p.2) :
    ReadAlike (tailTokens (front.map Prod.fst) (listTokens (back.map Prod.fst)))
      (listTokens ((front ++ back).map Prod.fst)) (.list ((front ++ back).map Prod.snd)) := by
  obtain ⟨hfront, hback⟩ := List.forall_mem_append.mp h
  have hnested := bracketed_tailTokens hne hfront (bracketed_listTokens hback).derives
  have hvalue : withTail (front.map Prod.snd) (.list (back.map Prod.snd)) =
      .list ((front ++ back).map Prod.snd) := by
    rw [List.map_append]
    rfl
  rw [hvalue] at hnested
  exact hnested.readAlike (bracketed_listTokens h)

/-- So are the elements of a list with a bar of its own, and its tail is the tail of the list. -/
theorem readAlike_tailTail {front back : List (List Token × Term)} (hfront : front ≠ [])
    (hback : back ≠ []) (h : ∀ p ∈ front ++ back, Derives p.1 p.2) {ts : List Token} {tail : Term}
    (ht : Derives ts tail) :
    ReadAlike (tailTokens (front.map Prod.fst) (tailTokens (back.map Prod.fst) ts))
      (tailTokens ((front ++ back).map Prod.fst) ts)
      (withTail ((front ++ back).map Prod.snd) tail) := by
  obtain ⟨hf, hb⟩ := List.forall_mem_append.mp h
  have hnested := bracketed_tailTokens hfront hf (bracketed_tailTokens hback hb ht).derives
  rw [withTail_withTail, ← List.map_append] at hnested
  exact hnested.readAlike
    (bracketed_tailTokens (List.append_ne_nil_of_left_ne_nil hfront back) h ht)

/-- The tokens of numbers that stand for the code points of a text, with their values. -/
def codeParts (t : Text) : List (List Token × Term) :=
  t.map fun c => ([.integer c.val], .int c.val)

/-- Strings behind the bar are the list of their code points. -/
theorem readAlike_stringTail {front : List (List Token × Term)} (hne : front ≠ [])
    (h : ∀ p ∈ front, Derives p.1 p.2) {ss : List Text} (hss : ss ≠ []) :
    ReadAlike (tailTokens (front.map Prod.fst) (ss.map .string))
      (listTokens ((front ++ codeParts ss.flatten).map Prod.fst))
      (.list ((front ++ codeParts ss.flatten).map Prod.snd)) := by
  have hcodes : ∀ p ∈ front ++ codeParts ss.flatten, Derives p.1 p.2 := by
    refine List.forall_mem_append.mpr ⟨h, List.forall_mem_map.mpr ?_⟩
    intro c _
    exact .number (.integer c.val)
  have hstrings := bracketed_tailTokens hne h (.chars ss hss)
  have hvalue : withTail (front.map Prod.snd) (.list (ss.flatten.map fun c => .int c.val)) =
      .list ((front ++ codeParts ss.flatten).map Prod.snd) := by
    rw [List.map_append, codeParts, List.map_map]
    rfl
  rw [hvalue] at hstrings
  exact hstrings.readAlike (bracketed_listTokens hcodes)

/-! ## Texts -/

/-- A text is read as a term exactly if its tokens, without the end of the text, are that term. -/
theorem ofText_eq_ok_iff_derives {t : Text} {v : Term} :
    ofText t = .ok v ↔
      ∃ front last, tokenize t = .ok (front ++ [last]) ∧ Derives (front.map Lexeme.token) v := by
  unfold ofText
  cases htokens : tokenize t with
  | error failure =>
    constructor
    · nofun
    · rintro ⟨_, _, ⟨⟩, _⟩
  | ok lexemes =>
    obtain ⟨front, rfl, heof⟩ := (wellPlaced_of_tokenize htokens).eof_last
    have hfront : .eof ∉ front.map Lexeme.token := by
      rintro hmem
      obtain ⟨l, hl, htoken⟩ := List.mem_map.mp hmem
      exact heof l hl htoken
    simp only [withTerminator_append_singleton, parse_eq_ok_iff, List.map_append, List.map_cons,
      List.map_nil]
    constructor
    · rintro ⟨us, rest, hus, htokens⟩
      rw [eq_of_append_dot_eof hfront htokens] at hus
      exact ⟨front, _, rfl, hus⟩
    · rintro ⟨inner, last, hinner, hderives⟩
      obtain ⟨rfl, -⟩ := List.append_inj' (Except.ok.inj hinner) rfl
      exact ⟨_, [], hderives, rfl⟩

/-- What is decoded holds its lists in one form: improper lists have elements and a tail that is no
    list. A list behind a bar may as well be written without the bar, wherever it stands, and so may
    strings. The value of a text is the value of the cells that its tokens denote. -/
theorem lists_normalize :
    (∀ t v place elements tail, ofText t = .ok v → v.at? place = some (.improper elements tail) →
      elements ≠ [] ∧ tail.listElements? = none) ∧
    (∀ front back : List (List Token × Term), front ≠ [] → (∀ p ∈ front ++ back, Reads p.1 p.2) →
      ReadAlike (tailTokens (front.map Prod.fst) (listTokens (back.map Prod.fst)))
        (listTokens ((front ++ back).map Prod.fst)) (.list ((front ++ back).map Prod.snd))) ∧
    (∀ (front back : List (List Token × Term)) (ts : List Token) (tail : Term), front ≠ [] →
      back ≠ [] → (∀ p ∈ front ++ back, Reads p.1 p.2) → Reads ts tail →
      ReadAlike (tailTokens (front.map Prod.fst) (tailTokens (back.map Prod.fst) ts))
        (tailTokens ((front ++ back).map Prod.fst) ts)
        (withTail ((front ++ back).map Prod.snd) tail)) ∧
    (∀ (front : List (List Token × Term)) (ss : List Text), front ≠ [] →
      (∀ p ∈ front, Reads p.1 p.2) → ss ≠ [] →
      ReadAlike (tailTokens (front.map Prod.fst) (ss.map .string))
        (listTokens ((front ++ codeParts ss.flatten).map Prod.fst))
        (.list ((front ++ codeParts ss.flatten).map Prod.snd))) ∧
    ∀ t v, ofText t = .ok v ↔ ∃ front last c, tokenize t = .ok (front ++ [last]) ∧
      Denotes (front.map Lexeme.token) c ∧ c.value = v := by
  have hparts {parts : List (List Token × Term)} (h : ∀ p ∈ parts, Reads p.1 p.2) :
      ∀ p ∈ parts, Derives p.1 p.2 := fun p hp => reads_iff_derives.mp (h p hp)
  refine ⟨?_, ?_, ?_, ?_, ?_⟩
  · intro t v place elements tail hread hplace
    obtain ⟨front, last, -, hderives⟩ := ofText_eq_ok_iff_derives.mp hread
    exact normal_of_derives hderives place elements tail hplace
  · intro front back hne h
    exact readAlike_listTail hne (hparts h)
  · intro front back ts tail hfront hback h ht
    exact readAlike_tailTail hfront hback (hparts h) (reads_iff_derives.mp ht)
  · intro front ss hne h hss
    exact readAlike_stringTail hne (hparts h) hss
  · intro t v
    simp only [ofText_eq_ok_iff_derives, derives_iff_exists_denotes]
    constructor
    · rintro ⟨front, last, htokens, c, hc, hvalue⟩
      exact ⟨front, last, c, htokens, hc, hvalue⟩
    · rintro ⟨front, last, c, htokens, hc, hvalue⟩
      exact ⟨front, last, htokens, c, hc, hvalue⟩

/-- A list in the tail of another, inside a tuple. -/
def nestedTail : Text := text "\x7b[a|[b|1]]\x7d"

theorem ofText_nestedTail :
    ofText nestedTail = .ok (.tuple [.improper [.atom (text "a"), .atom (text "b")] (.int 1)]) := by
  have hlexemes : (Lexer.lexFrom 1 nestedTail).1 = [⟨.braceOpen, 1⟩, ⟨.bracketOpen, 2⟩,
      ⟨.atom (text "a"), 3⟩, ⟨.bar, 4⟩, ⟨.bracketOpen, 5⟩, ⟨.atom (text "b"), 6⟩, ⟨.bar, 7⟩,
      ⟨.integer 1, 8⟩, ⟨.bracketClose, 9⟩, ⟨.bracketClose, 10⟩, ⟨.braceClose, 11⟩, ⟨.eof, 12⟩] := by
    decide +kernel
  have hstop : (Lexer.lexFrom 1 nestedTail).2 = none :=
    Option.isNone_iff_eq_none.mp (by decide +kernel)
  rw [ofText, tokenize_eq_ok hstop, hlexemes]
  rfl

theorem lists_normalize_nestedTail :
    (ofText nestedTail = .ok (.tuple [.improper [.atom (text "a"), .atom (text "b")] (.int 1)]) ∧
      [Term.atom (text "a"), .atom (text "b")] ≠ [] ∧ (Term.int 1).listElements? = none) ∧
    ReadAlike (tailTokens [[.atom (text "a")]] (listTokens [[.atom (text "b")]]))
      (listTokens [[.atom (text "a")], [.atom (text "b")]])
      (.list [.atom (text "a"), .atom (text "b")]) ∧
    ReadAlike (tailTokens [[.atom (text "a")]] (tailTokens [[.atom (text "b")]] [.integer 1]))
      (tailTokens [[.atom (text "a")], [.atom (text "b")]] [.integer 1])
      (.improper [.atom (text "a"), .atom (text "b")] (.int 1)) ∧
    ReadAlike (tailTokens [[.atom (text "a")]] [.string (text "b")])
      (listTokens [[.atom (text "a")], [.integer 98]]) (.list [.atom (text "a"), .int 98]) := by
  obtain ⟨hform, hlist, htail, hstrings, -⟩ := lists_normalize
  have ha : Reads [.atom (text "a")] (.atom (text "a")) := reads_iff_derives.mpr (.atom _)
  have hb : Reads [.atom (text "b")] (.atom (text "b")) := reads_iff_derives.mpr (.atom _)
  have hone : Reads [.integer 1] (.int 1) := reads_iff_derives.mpr (.number (.integer 1))
  have hfront : ∀ p ∈ [([Token.atom (text "a")], Term.atom (text "a"))], Reads p.1 p.2 :=
    List.forall_mem_singleton.mpr ha
  have hboth : ∀ p ∈ [([Token.atom (text "a")], Term.atom (text "a")),
      ([Token.atom (text "b")], Term.atom (text "b"))], Reads p.1 p.2 :=
    List.forall_mem_cons.mpr ⟨ha, List.forall_mem_singleton.mpr hb⟩
  refine ⟨⟨ofText_nestedTail, ?_⟩, ?_, ?_, ?_⟩
  · exact hform _ _ [.element 0] _ _ ofText_nestedTail rfl
  · exact hlist [(_, _)] [(_, _)] (by simp) hboth
  · exact htail [(_, _)] [(_, _)] _ _ (by simp) (by simp) hboth hone
  · exact hstrings [(_, _)] [text "b"] (by simp) hfront (by simp)

end Faultline.Term
