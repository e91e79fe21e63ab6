import Faultline.Proofs.Fragment.Ending
import Faultline.Proofs.Term.ListForm

/-!
# Tokens by their shape

`Structured.read` looks at the term that a token spells, the rules of messages look at how the text
of the token begins. The head of the text fixes the first tokens, and these fix the shape of the
term: behind `{sigil,` it is a tuple whose first element is the marker, behind `[` it is a list.

Results:
* `begins_of_derives`: what the first token of a term tells about its value.
* `exists_tuple_of_sigilMarker`, `isSome_listElements?_of_listMarker`: the terms that texts with
  these heads spell.
* `read_by_marker`: a token is read by its shape as it is read by its head.
-/

namespace Faultline

open Term (Written Renderable)

namespace Term

/-! ## Terms by their first tokens -/

/-- What the first token of a term and the tokens behind it tell about the value. -/
inductive Begins (v : Term) : Token → List Token → Prop where
  | atom {name : Text} (hv : v = .atom name) : Begins v (.atom name) []
  | number {t : Token} {ts : List Token} (h : IsNumber (t :: ts) v) : Begins v t ts
  | string {t : Text} {ts : List Token} : Begins v (.string t) ts
  | tuple (parts : List (List Token × Term)) (h : ∀ p ∈ parts, Derives p.1 p.2)
    (hv : v = .tuple (parts.map Prod.snd)) :
    Begins v .braceOpen (commaJoin (parts.map Prod.fst) ++ [.braceClose])
  | list {ts : List Token} (hv : v.listElements?.isSome = true) : Begins v .bracketOpen ts
  | binary {ts : List Token} : Begins v .binaryOpen ts

theorem isSome_listElements?_withTail (elements : List Term) (tail : Term) :
    (withTail elements tail).listElements?.isSome = true := by
  cases tail with
  | _ => rfl

theorem begins_of_derives {ts : List Token} {v : Term} (h : Derives ts v) :
    ∃ t us, ts = t :: us ∧ Begins v t us := by
  cases h with
  | atom name => exact ⟨_, _, rfl, .atom rfl⟩
  | number h =>
    cases ts with
    | nil => cases h
    | cons t us => exact ⟨t, us, rfl, .number h⟩
  | chars ss hne =>
    cases ss with
    | nil => exact absurd rfl hne
    | cons s ss => exact ⟨_, _, rfl, .string⟩
  | tuple parts h => exact ⟨_, _, rfl, .tuple parts h rfl⟩
  | list parts h => exact ⟨_, _, rfl, .list rfl⟩
  | withTail parts hne h ht => exact ⟨_, _, rfl, .list (isSome_listElements?_withTail _ _)⟩
  | binary parts h ht => exact ⟨_, _, rfl, .binary⟩

theorem begins_of_derives_cons {t : Token} {ts : List Token} {v : Term}
    (h : Derives (t :: ts) v) : Begins v t ts := by
  obtain ⟨_, _, htokens, hbegins⟩ := begins_of_derives h
  cases htokens
  exact hbegins

/-- An atom is a term of its own, whatever stands behind it. -/
theorem eq_atom_of_derives {name : Text} {ts : List Token} {v : Term}
    (h : Derives (.atom name :: ts) v) : v = .atom name := by
  cases begins_of_derives_cons h with
  | atom hv => exact hv
  | number h => cases h

/-- A term that begins with a bracket is a list. -/
theorem isSome_listElements?_of_derives {ts : List Token} {v : Term}
    (h : Derives (.bracketOpen :: ts) v) : v.listElements?.isSome = true := by
  cases begins_of_derives_cons h with
  | list hv => exact hv
  | number h => cases h

/-- A term that begins with a brace and an atom is a tuple with this atom in front. -/
theorem exists_tuple_of_derives {name : Text} {ts : List Token} {v : Term}
    (h : Derives (.braceOpen :: .atom name :: ts) v) : ∃ more, v = .tuple (.atom name :: more) := by
  generalize hinner : Token.atom name :: ts = us at h
  cases begins_of_derives_cons h with
  | number h => cases h
  | tuple parts hparts hv =>
    cases parts with
    | nil => cases hinner
    | cons first parts =>
      obtain ⟨hfirst, -⟩ := List.forall_mem_cons.mp hparts
      obtain ⟨vs, hvs⟩ := commaJoin_cons first.1 (parts.map Prod.fst)
      obtain ⟨t, ws, htokens, -⟩ := begins_of_derives hfirst
      rw [List.map_cons, hvs, htokens] at hinner
      cases hinner
      rw [htokens] at hfirst
      exact ⟨_, by rw [hv, List.map_cons, eq_atom_of_derives hfirst]⟩

/-! ## Texts by their heads -/

/-- The tokens at the head of a text are the first tokens of the term that it spells. -/
theorem exists_derives_of_reads {head rest : Text} {ts : List Token} {v : Term}
    (hhead : Lexer.Reads head ts rest) (heof : .eof ∉ ts) (h : ofText (head ++ rest) = .ok v) :
    ∃ more, Derives (ts ++ more) v := by
  obtain ⟨front, last, htokens, hderives⟩ := ofText_eq_ok_iff_derives.mp h
  obtain ⟨lexemes, rfl, hlex⟩ := hhead 1
  have hfirst : lexemes <+: front ++ [last] := by
    rw [← lexFrom_of_tokenize htokens, hlex]
    exact List.prefix_append _ _
  have hlast : last.token = .eof := by
    obtain ⟨inner, hinner, -⟩ := (wellPlaced_of_tokenize htokens).eof_last
    obtain ⟨-, hlast⟩ := List.append_inj' hinner rfl
    cases hlast
    rfl
  rcases List.prefix_concat_iff.mp hfirst with hwhole | ⟨more, rfl⟩
  · refine absurd ?_ heof
    rw [hwhole, List.map_append, List.map_singleton, hlast]
    exact List.mem_append_right _ (List.mem_singleton_self _)
  · rw [List.map_append] at hderives
    exact ⟨_, hderives⟩

end Term

namespace Structured

theorem exists_tuple_of_sigilMarker {token : Text} {v : Term} (hmarker : sigilMarker <+: token)
    (h : Term.ofText token = .ok v) : ∃ more, v = .tuple (.atom (text "sigil") :: more) := by
  obtain ⟨rest, rfl⟩ := hmarker
  have hname : Term.IsBareName (text "sigil") := .mk (by decide) (by decide) (by decide)
  have hhead : Term.Lexer.Reads sigilMarker [.braceOpen, .atom (text "sigil"), .comma] rest :=
    (Term.Lexer.reads_mark .braceOpen rfl _).append
      ((Term.Lexer.reads_bareName hname rfl).append (Term.Lexer.reads_mark .comma rfl rest))
  obtain ⟨more, hderives⟩ := Term.exists_derives_of_reads hhead (by simp) h
  exact Term.exists_tuple_of_derives hderives

theorem isSome_listElements?_of_listMarker {token : Text} {v : Term}
    (hmarker : listMarker <+: token) (h : Term.ofText token = .ok v) :
    v.listElements?.isSome = true := by
  obtain ⟨rest, rfl⟩ := hmarker
  obtain ⟨more, hderives⟩ :=
    Term.exists_derives_of_reads (Term.Lexer.reads_mark .bracketOpen rfl rest) (by simp) h
  exact Term.isSome_listElements?_of_derives hderives

/-! ## Structured tokens -/

theorem trimStart_of_listMarker {token : Text} (h : listMarker <+: token) :
    Text.trimStart token = token := by
  obtain ⟨rest, rfl⟩ := h
  exact List.dropWhile_cons_of_neg (by decide)

theorem isSigilTuple_of_listElements? {v : Term} (h : v.listElements?.isSome = true) :
    isSigilTuple v = false := by
  cases v with
  | tuple elements => cases h
  | _ => rfl

/-- A text that begins like a list is read as the alias in it only if it begins like an alias. -/
theorem read_of_listMarker {token : Text} {v : Term} (hmarker : listMarker <+: token)
    (h : Term.ofText token = .ok v) :
    read token = .ok (match aliasName? v with
      | some name => if aliasMarker <+: token then .identifier name else .list v
      | none => .list v) := by
  have hlist := isSome_listElements?_of_listMarker hmarker h
  rw [read, h]
  simp only [isSigilTuple_of_listElements? hlist, hlist, trimStart_of_listMarker hmarker,
    Fragment.startsWith_iff, Bool.false_eq_true, if_false, if_true]
  cases aliasName? v with
  | none => rfl
  | some name =>
    simp only
    split_ifs
    · rfl
    · rfl

theorem readList_of_listMarker {token : Text} {v : Term} (hmarker : listMarker <+: token)
    (h : Term.ofText token = .ok v) : readList token = .ok v := by
  rw [readList, h]
  exact if_pos (isSome_listElements?_of_listMarker hmarker h)

theorem read_of_sigilMarker {token : Text} (hmarker : sigilMarker <+: token) :
    read token = readSigil token := by
  unfold read readSigil
  cases h : Term.ofText token with
  | error failure => rfl
  | ok v =>
    obtain ⟨more, rfl⟩ := exists_tuple_of_sigilMarker hmarker h
    rfl

/-- A token is read by its shape as it is read by its head: a sigil as a sigil, an alias as an
    alias, and any other list as a list, also if it holds a single atom. -/
theorem read_by_marker (token : Text) :
    (sigilMarker <+: token → read token = readSigil token) ∧
    (aliasMarker <+: token →
      (∀ name, readAlias token = .ok name → read token = .ok (.identifier name)) ∧
      (∀ v failure, Term.ofText token = .ok v → readAlias token = .error failure →
        failure = refuse .aliasShape token ∧ readList token = .ok v ∧
          read token = .ok (.list v))) ∧
    (listMarker <+: token → ¬ aliasMarker <+: token → read token = (readList token).map .list) := by
  refine ⟨read_of_sigilMarker, ?_, ?_⟩
  · intro halias
    have hlist := Fragment.listMarker_of_aliasMarker halias
    cases h : Term.ofText token with
    | error failure =>
      rw [readAlias, h]
      constructor
      · intro name hname
        cases hname
      · intro v other hv
        cases hv
    | ok v =>
      rw [readAlias, h, read_of_listMarker hlist h, readList_of_listMarker hlist h]
      simp only
      cases aliasName? v with
      | none =>
        constructor
        · intro name hname
          cases hname
        · intro v' failure hv hfailure
          cases hv
          cases hfailure
          exact ⟨rfl, rfl, rfl⟩
      | some name =>
        simp only [if_pos halias]
        constructor
        · intro name' hname
          cases hname
          rfl
        · intro v' failure _ hfailure
          cases hfailure
  · intro hlist halias
    cases h : Term.ofText token with
    | error failure => rw [read, readList, h]; rfl
    | ok v =>
      rw [read_of_listMarker hlist h, readList_of_listMarker hlist h]
      cases aliasName? v with
      | none => rfl
      | some name =>
        simp only [if_neg halias]
        rfl

/-- A list of the atom `a` between quotes, which is an alias; the same in front of a bar; and a list
    of a bare atom, which is no alias. -/
theorem ofText_atomLists :
    Term.ofText (text "['a']") = .ok (.list [.atom (text "a")]) ∧
    Term.ofText (text "['a'|b]") = .ok (.improper [.atom (text "a")] (.atom (text "b"))) ∧
    Term.ofText (text "[a]") = .ok (.list [.atom (text "a")]) := by
  have hbare (name : Text) (h : Term.IsBareName name) : Written (.atom name) name := .bareAtom h
  have ha := hbare (text "a") (.mk (by decide) (by decide) (by decide))
  have hb := hbare (text "b") (.mk (by decide) (by decide) (by decide))
  have hquoted : ∀ p ∈ [(Term.atom (text "a"), Term.enclose '\'' (text "a"))],
      Written p.1 p.2 := List.forall_mem_singleton.mpr (.quotedAtom _)
  have hatoms : ∀ v ∈ [Term.atom (text "a")], Renderable v :=
    List.forall_mem_singleton.mpr (.atom _)
  refine ⟨Term.ofText_of_written (.list _ hquoted) (.list hatoms), ?_, ?_⟩
  · exact Term.ofText_of_written (.improper _ hquoted hb)
      (.improper (by simp) hatoms (.atom _) rfl)
  · exact Term.ofText_of_written (.list [(_, text "a")] (List.forall_mem_singleton.mpr ha))
      (.list hatoms)

/-- A sigil whose letter is no code point, an alias, what begins like an alias and is none, and a
    list of an atom that does not begin like an alias. -/
theorem read_by_marker_tokens :
    (sigilMarker <+: letterMinusOne ∧ read letterMinusOne = .error .notACodePoint) ∧
    (aliasMarker <+: text "['a']" ∧ read (text "['a']") = .ok (.identifier (text "a"))) ∧
    (aliasMarker <+: text "['a'|b]" ∧ read (text "['a'|b]") =
      .ok (.list (.improper [.atom (text "a")] (.atom (text "b"))))) ∧
    (listMarker <+: text "[a]" ∧ ¬ aliasMarker <+: text "[a]" ∧
      read (text "[a]") = .ok (.list (.list [.atom (text "a")]))) := by
  obtain ⟨hquoted, hsplice, hbare⟩ := ofText_atomLists
  refine ⟨?_, ?_, ?_, ?_⟩
  · have hmarker : sigilMarker <+: letterMinusOne := by decide +kernel
    refine ⟨hmarker, ?_⟩
    rw [(read_by_marker letterMinusOne).1 hmarker, readSigil, ofText_letterMinusOne]
    rfl
  · have hmarker : aliasMarker <+: text "['a']" := by decide +kernel
    refine ⟨hmarker, ((read_by_marker _).2.1 hmarker).1 _ ?_⟩
    rw [readAlias, hquoted]
    rfl
  · have hmarker : aliasMarker <+: text "['a'|b]" := by decide +kernel
    have hshape : readAlias (text "['a'|b]") = .error (refuse .aliasShape (text "['a'|b]")) := by
      rw [readAlias, hsplice]
      rfl
    exact ⟨hmarker, (((read_by_marker _).2.1 hmarker).2 _ _ hsplice hshape).2.2⟩
  · have hmarker : listMarker <+: text "[a]" := by decide +kernel
    have halias : ¬ aliasMarker <+: text "[a]" := by decide +kernel
    refine ⟨hmarker, halias, ?_⟩
    rw [(read_by_marker _).2.2 hmarker halias, readList, hbare]
    rfl

end Structured

end Faultline
