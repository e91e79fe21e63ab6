import Faultline.Proofs.Term.Lookahead
import Faultline.Proofs.Term.Machine

/-!
# Blanks between tokens

Blanks in front of a token change neither the tokens in front of them, since no scan depends on
blanks behind it, nor the token and those behind it, which stand further to the right. The machine
that reads tokens does not look at columns, so the text spells the same term, or still none.

Results:
* `lexFrom_insert`: blanks in front of a lexeme move it and those behind it to the right.
* `ofText_eq_ok_iff_of_tokenize`: where tokens stand does not matter to the term.
* `tokenize_spaced`: the tokens and the term of a text with blanks put in.
-/

namespace Faultline.Term.Lexer

/-! ## Lexemes -/

/-- Blanks at the head of a text move its lexemes to the right. -/
theorem lexFrom_blanks {w : Text} (hw : ∀ c ∈ w, Text.isBlank c = true) (column : Nat) (t : Text) :
    lexFrom column (w ++ t) =
      ((lexFrom column t).1.map (moved w.length),
        (lexFrom column t).2.map (Stop.shift w.length)) := by
  rw [← lexFrom_add, Nat.add_comm]
  induction w generalizing column with
  | nil => rfl
  | cons b w ih =>
    obtain ⟨hb, hw⟩ := List.forall_mem_cons.mp hw
    rw [List.cons_append, lexFrom, if_pos hb, ih hw, List.length_cons, Nat.add_assoc,
      Nat.add_comm 1]

/-- Blanks in front of a lexeme move it and those behind it to the right. -/
theorem lexFrom_insert {w : Text} (hw : ∀ c ∈ w, Text.isBlank c = true) {column : Nat} {t : Text}
    {front back : List Lexeme} {l : Lexeme} (h : lexFrom column t = (front ++ l :: back, none))
    (hchar : l.token = .eof → ∀ n place, front.getLast? ≠ some ⟨.char n, place⟩) :
    ∃ k, l.column = (column + k : Nat) ∧
      lexFrom column (t.take k ++ w ++ t.drop k) =
        (front ++ (l :: back).map (moved w.length), none) := by
  fun_induction lexFrom column t generalizing front with
  | case1 column =>
    have hlexemes := congrArg Prod.fst h
    cases front with
    | nil =>
      cases hlexemes
      refine ⟨0, rfl, ?_⟩
      rw [List.take_nil, List.drop_nil, List.nil_append, lexFrom_blanks hw, lexFrom.eq_def]
      rfl
    | cons f front => simp at hlexemes
  | case2 column c rest hc ih =>
    obtain ⟨k, hcolumn, hlex⟩ := ih h hchar
    refine ⟨k + 1, ?_, ?_⟩
    · rw [hcolumn]
      omega
    · rw [List.take_succ_cons, List.drop_succ_cons, List.cons_append, List.cons_append, lexFrom,
        if_pos hc, hlex]
  | case3 => cases (Prod.mk.inj h).2
  | case4 column c rest hc token more hscan lexemes stop hrest ih =>
    rw [Bool.not_eq_true] at hc
    obtain ⟨hlexemes, rfl⟩ := Prod.mk.inj h
    cases front with
    | nil =>
      obtain ⟨rfl, rfl⟩ := List.cons.inj hlexemes
      refine ⟨0, rfl, ?_⟩
      rw [List.take_zero, List.drop_zero, List.nil_append, lexFrom_blanks hw,
        lexFrom_of_scan hc hscan, hrest]
      rfl
    | cons f front =>
      obtain ⟨rfl, rfl⟩ := List.cons.inj hlexemes
      obtain ⟨read, behind, rfl, rfl⟩ : ∃ read behind, rest = read ++ behind ∧ read.length = more :=
        ⟨rest.take more, rest.drop more, (List.take_append_drop _ _).symm,
          List.length_take_of_le (more_le_of_scan hscan)⟩
      rw [List.drop_left] at hrest ih
      have hbehind (hnil : behind = []) (n : Int) : token ≠ .char n := by
        rintro rfl
        rw [hnil, lexFrom] at hrest
        have hlast := congrArg Prod.fst hrest
        cases front with
        | nil =>
          cases hlast
          exact hchar rfl n column rfl
        | cons f front => simp at hlast
      obtain ⟨k, hcolumn, hlex⟩ := ih hrest fun heof n place hlast =>
        hchar heof n place (by rw [List.getLast?_cons, hlast]; rfl)
      have hscan' := scan_spaced hscan (Spaced.insert hw behind k) hbehind
      refine ⟨(c :: read).length + k, ?_, ?_⟩
      · rw [hcolumn, List.length_cons]
        omega
      · rw [← List.cons_append, List.take_length_add_append, List.drop_length_add_append,
          List.append_assoc, List.append_assoc, List.cons_append, ← List.append_assoc (behind.take k),
          lexFrom_of_scan hc hscan', List.drop_left, hlex]
        rfl

end Faultline.Term.Lexer

namespace Faultline.Term

open Lexer

/-- A text with another one put in in front of the code point at a column. -/
def spacedAt (t : Text) (column : Int) (w : Text) : Text :=
  t.take (column - 1).toNat ++ w ++ t.drop (column - 1).toNat

/-- A lexeme when that many code points were put in at a column. -/
def movedFrom (column : Int) (k : Nat) (l : Lexeme) : Lexeme :=
  if l.column < column then l else { l with column := l.column + k }

/-- A character literal is the last token in front of the end of the text. -/
def EndsInChar (lexemes : List Lexeme) : Prop :=
  ∃ front n column last, lexemes = front ++ [⟨.char n, column⟩, last]

theorem token_movedFrom (column : Int) (k : Nat) (l : Lexeme) :
    (movedFrom column k l).token = l.token := by
  unfold movedFrom
  split_ifs
  all_goals rfl

theorem map_movedFrom {front back : List Lexeme} {l : Lexeme}
    (h : (front ++ l :: back).Pairwise fun l m => l.column < m.column) (k : Nat) :
    (front ++ l :: back).map (movedFrom l.column k) = front ++ (l :: back).map (moved k) := by
  obtain ⟨-, hback, hfront⟩ := List.pairwise_append.mp h
  have hstay : front.map (movedFrom l.column k) = front := by
    refine (List.map_congr_left (g := id) fun m hm => ?_).trans (List.map_id front)
    rw [movedFrom, if_pos (hfront m hm l List.mem_cons_self)]
    rfl
  have hmove : (l :: back).map (movedFrom l.column k) = (l :: back).map (moved k) := by
    refine List.map_congr_left fun m hm => ?_
    have hle : ¬ m.column < l.column := by
      rcases List.mem_cons.mp hm with rfl | hm
      · exact Int.lt_irrefl _
      · exact Int.not_lt.mpr (Int.le_of_lt ((List.pairwise_cons.mp hback).1 m hm))
    rw [movedFrom, if_neg hle, moved, Int.add_comm]
  rw [List.map_append, hstay, hmove]

theorem tokenize_insert {t w : Text} {front back : List Lexeme} {l : Lexeme}
    (h : tokenize t = .ok (front ++ l :: back)) (hw : ∀ c ∈ w, Text.isBlank c = true)
    (hchar : l.token = .eof → ∀ n place, front.getLast? ≠ some ⟨.char n, place⟩) :
    tokenize (spacedAt t l.column w) =
      .ok ((front ++ l :: back).map (movedFrom l.column w.length)) := by
  have hlex : lexFrom 1 t = (front ++ l :: back, none) := by
    unfold tokenize at h
    split at h
    · next lexemes hlex =>
      cases h
      exact hlex
    · cases h
  have hcolumns := pairwise_lexFrom 1 t
  rw [hlex] at hcolumns
  obtain ⟨k, hcolumn, hread⟩ := lexFrom_insert hw hlex hchar
  have hk : (l.column - 1).toNat = k := by omega
  unfold spacedAt
  rw [hk, tokenize_eq_ok (congrArg Prod.snd hread), hread, map_movedFrom hcolumns]

theorem map_token_withTerminator {f : Lexeme → Lexeme} (hf : ∀ l, (f l).token = l.token)
    (lexemes : List Lexeme) :
    (withTerminator (lexemes.map f)).map Lexeme.token =
      (withTerminator lexemes).map Lexeme.token := by
  fun_induction withTerminator lexemes with
  | case1 => rfl
  | case2 last => simp [withTerminator, hf]
  | case3 l next rest ih =>
    rw [List.map_cons] at ih
    rw [List.map_cons, List.map_cons, withTerminator, List.map_cons, List.map_cons, ih, hf]

/-- Where the tokens of a text stand does not matter to the term that it spells. -/
theorem ofText_eq_ok_iff_of_tokenize {t u : Text} {f : Lexeme → Lexeme}
    (hf : ∀ l, (f l).token = l.token) {lexemes : List Lexeme} (ht : tokenize t = .ok lexemes)
    (hu : tokenize u = .ok (lexemes.map f)) (v : Term) : ofText u = .ok v ↔ ofText t = .ok v := by
  unfold ofText
  rw [ht, hu]
  simp only
  rw [parse_eq_ok_iff_advance, parse_eq_ok_iff_advance, map_token_withTerminator hf]

/-- Blanks in front of a token or at the end of a text change no token but move those behind them,
    and the text spells the same term or still none. At the end of a text this holds if the last
    token is not a character literal. -/
theorem tokenize_spaced {t w : Text} {lexemes : List Lexeme} (h : tokenize t = .ok lexemes)
    (hw : ∀ c ∈ w, Text.isBlank c = true) :
    (∀ l ∈ lexemes, l.token ≠ .eof →
      tokenize (spacedAt t l.column w) = .ok (lexemes.map (movedFrom l.column w.length)) ∧
      ∀ v, ofText (spacedAt t l.column w) = .ok v ↔ ofText t = .ok v) ∧
    (¬ EndsInChar lexemes →
      tokenize (t ++ w) = .ok (lexemes.map (movedFrom (t.length + 1) w.length)) ∧
      ∀ v, ofText (t ++ w) = .ok v ↔ ofText t = .ok v) := by
  constructor
  · intro l hl htoken
    obtain ⟨front, back, rfl⟩ := List.append_of_mem hl
    have hread := tokenize_insert h hw fun heof => absurd heof htoken
    exact ⟨hread, ofText_eq_ok_iff_of_tokenize (token_movedFrom _ _) h hread⟩
  · intro hends
    obtain ⟨front, rfl, -⟩ := (wellPlaced_of_tokenize h).eof_last
    have hread := tokenize_insert h hw fun _ n place hlast => by
      obtain ⟨inner, rfl⟩ := List.getLast?_eq_some_iff.mp hlast
      exact hends ⟨inner, n, place, _, by rw [List.append_assoc]; rfl⟩
    have hspaced : spacedAt t (t.length + 1) w = t ++ w := by
      have hend : ((t.length : Int) + 1 - 1).toNat = t.length := by omega
      rw [spacedAt, hend, List.take_length, List.drop_length, List.append_nil]
    simp only at hread
    rw [hspaced] at hread
    exact ⟨hread, ofText_eq_ok_iff_of_tokenize (token_movedFrom _ _) h hread⟩

/-- Blanks in front of a character literal, and blanks behind the bracket that closes the list. -/
theorem tokenize_spaced_list :
    tokenize (text "[1,$a]") = .ok [⟨.bracketOpen, 1⟩, ⟨.integer 1, 2⟩, ⟨.comma, 3⟩, ⟨.char 97, 4⟩,
      ⟨.bracketClose, 6⟩, ⟨.eof, 7⟩] ∧
    tokenize (text "[1, \n$a]") = .ok [⟨.bracketOpen, 1⟩, ⟨.integer 1, 2⟩, ⟨.comma, 3⟩,
      ⟨.char 97, 6⟩, ⟨.bracketClose, 8⟩, ⟨.eof, 9⟩] ∧
    tokenize (text "[1,$a] \n") = .ok [⟨.bracketOpen, 1⟩, ⟨.integer 1, 2⟩, ⟨.comma, 3⟩,
      ⟨.char 97, 4⟩, ⟨.bracketClose, 6⟩, ⟨.eof, 9⟩] ∧
    (∀ v, ofText (text "[1,$a] \n") = .ok v ↔ ofText (text "[1, \n$a]") = .ok v) := by
  have hlexemes : (lexFrom 1 (text "[1,$a]")).1 = [⟨.bracketOpen, 1⟩, ⟨.integer 1, 2⟩, ⟨.comma, 3⟩,
      ⟨.char 97, 4⟩, ⟨.bracketClose, 6⟩, ⟨.eof, 7⟩] := by
    decide +kernel
  have hstop : (lexFrom 1 (text "[1,$a]")).2 = none :=
    Option.isNone_iff_eq_none.mp (by decide +kernel)
  have hread := tokenize_eq_ok hstop
  rw [hlexemes] at hread
  have hends : ¬ EndsInChar [⟨.bracketOpen, 1⟩, ⟨.integer 1, 2⟩, ⟨.comma, 3⟩, ⟨.char 97, 4⟩,
      ⟨.bracketClose, 6⟩, ⟨.eof, 7⟩] := by
    rintro ⟨front, n, column, last, h⟩
    have hlast := congrArg (fun lexemes => lexemes.dropLast.getLast?) h
    simp at hlast
  obtain ⟨hinside, hbehind⟩ := tokenize_spaced (w := text " \n") hread (by decide)
  obtain ⟨htokens, hterm⟩ := hinside ⟨.char 97, 4⟩ (by decide) (by decide)
  obtain ⟨htokens', hterm'⟩ := hbehind hends
  exact ⟨hread, htokens, htokens', fun v => (hterm' v).trans (hterm v).symm⟩

/-- A blank behind a character literal at the end of a text may become part of the literal. -/
example : (lexFrom 1 (text "$\\^")).1 = [⟨.char 94, 1⟩, ⟨.eof, 4⟩] ∧
    (lexFrom 1 (text "$\\^ ")).1 = [⟨.char 0, 1⟩, ⟨.eof, 5⟩] := by
  decide +kernel

end Faultline.Term
