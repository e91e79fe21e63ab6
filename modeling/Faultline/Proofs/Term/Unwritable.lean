import Faultline.Proofs.Number.Numeral
import Faultline.Proofs.Term.LongNumeral
import Faultline.Proofs.Term.Machine
import Faultline.Proofs.Term.Segment

/-!
# Segments that cannot be written

The parser tells the column of the token that it refuses, with one exception: the bytes of a segment
are computed when the segment ends, and that can fail in ways that are not told. `Unwritable` lists
these segments: surrogates under a Unicode type, numbers and sizes that are too long for a message,
and sizes that are negative or larger than any integer has bits.

Results:
* `failsUntold_bytes_iff`: the segments whose bytes fail without being told.
* `blamesToken_step`: outside binaries every refusal tells what is wrong with the token.
* `failsUntold_step_iff`: the moves of the machine that fail without being told.
* `settled_ofText_iff`: the texts that are decoded or refused with a message about them.
-/

namespace Faultline.Term

/-! ## Segments -/

/-- The refusal is told with a message about the text. -/
inductive Refusal.IsTold : Refusal → Prop where
  | malformed {cause : Malformed} (h : cause.isTooLong = false) : IsTold (.malformed cause)
  | other (e : DecodeError) : IsTold (.other (.decode e))

theorem Refusal.isTold_iff {refusal : Refusal} (whole : Text) (column : Int) :
    (∃ e, refusal.failure whole column = .decode e) ↔ refusal.IsTold := by
  constructor
  · rintro ⟨e, he⟩
    cases refusal with
    | malformed cause =>
      unfold Refusal.failure at he
      simp only at he
      split_ifs at he with hlong
      exact .malformed (Bool.not_eq_true _ ▸ hlong)
    | other failure =>
      cases he
      exact .other e
  · intro h
    cases h with
    | malformed h => exact ⟨_, if_neg (by rw [h]; decide)⟩
    | other e => exact ⟨e, rfl⟩

/-- A segment whose bytes fail without being told. -/
inductive Segment.Unwritable : Segment → Prop where
  /-- A text with a Unicode type holds a surrogate. -/
  | surrogates {t : Text} {size : Int} {types : List Text} (h : AsksUnicode types)
    (ht : ∃ c ∈ t, ¬ c.IsScalar) : Unwritable ⟨.chars t, size, types⟩
  /-- A number with a Unicode type is the number of a surrogate. -/
  | surrogate {c : CodePoint} {size : Int} {types : List Text} (h : AsksUnicode types)
    (hc : ¬ c.IsScalar) : Unwritable ⟨.integer c.val, size, types⟩
  /-- A number with a Unicode type is too long to be told. -/
  | longNumber {n size : Int} {types : List Text} (h : AsksUnicode types)
    (hn : 10 ^ Numeral.decimalLimit ≤ n.natAbs) : Unwritable ⟨.integer n, size, types⟩
  /-- A size is no whole number of bytes and too long to be told. -/
  | longSize {n size : Int} {types : List Text} (h : ¬ AsksUnicode types) (hpart : size % 8 ≠ 0)
    (hsize : 10 ^ Numeral.decimalLimit ≤ size.natAbs) : Unwritable ⟨.integer n, size, types⟩
  /-- A whole number of bytes is negative or has more bits than any integer. -/
  | size {n size : Int} {types : List Text} (h : ¬ AsksUnicode types) (hwhole : size % 8 = 0)
    (hsize : size < 0 ∨ bitLimit < size) : Unwritable ⟨.integer n, size, types⟩

/-- The bytes fail without being told. -/
def FailsUntold {α : Type} (x : Except Refusal α) : Prop :=
  ∃ refusal, x = .error refusal ∧ ¬ refusal.IsTold

theorem not_failsUntold_ok {α : Type} (a : α) : ¬ FailsUntold (.ok a : Except Refusal α) := by
  rintro ⟨refusal, h, -⟩
  cases h

theorem failsUntold_error_iff {α : Type} {refusal : Refusal} :
    FailsUntold (.error refusal : Except Refusal α) ↔ ¬ refusal.IsTold := by
  simp [FailsUntold]

/-- Other failures than those about the text are not told. -/
theorem failsUntold_other {α : Type} {failure : Failure} (h : ∀ e, failure ≠ .decode e) :
    FailsUntold (.error (.other failure) : Except Refusal α) := by
  rw [failsUntold_error_iff]
  intro htold
  cases htold with
  | other e => exact h e rfl

theorem failsUntold_malformed_iff {α : Type} {cause : Malformed} :
    FailsUntold (.error (.malformed cause) : Except Refusal α) ↔ cause.isTooLong = true := by
  rw [failsUntold_error_iff]
  constructor
  · intro h
    rw [← Bool.not_eq_false]
    exact fun hshort => h (.malformed hshort)
  · intro hlong h
    cases h with
    | malformed hshort =>
      rw [hlong] at hshort
      cases hshort

/-- If it fails, the token does not fit, and that can be told. -/
def BlamesToken {α : Type} (x : Except Refusal α) : Prop :=
  ∀ refusal, x = .error refusal → ∃ cause, refusal = .malformed cause ∧ cause.isTooLong = false

theorem blamesToken_ok {α : Type} (a : α) : BlamesToken (.ok a : Except Refusal α) := nofun

theorem blamesToken_malformed {α : Type} {cause : Malformed} (h : cause.isTooLong = false) :
    BlamesToken (.error (.malformed cause) : Except Refusal α) := by
  rintro refusal ⟨⟩
  exact ⟨cause, rfl, h⟩

theorem BlamesToken.not_failsUntold {α : Type} {x : Except Refusal α} (h : BlamesToken x) :
    ¬ FailsUntold x := by
  rintro ⟨refusal, hx, htold⟩
  obtain ⟨cause, rfl, hshort⟩ := h refusal hx
  exact htold (.malformed hshort)

theorem BlamesToken.map {α β : Type} {x : Except Refusal α} (h : BlamesToken x) (f : α → β) :
    BlamesToken (x.map f) := by
  cases x with
  | error refusal =>
    rintro _ ⟨⟩
    exact h refusal rfl
  | ok a => exact blamesToken_ok (f a)

/-- Numbers that are too long are no numbers of code points. -/
theorem lt_pow_decimalLimit (c : CodePoint) : c.val < 10 ^ Numeral.decimalLimit := by
  have hpow : 10 ^ 7 ≤ 10 ^ Numeral.decimalLimit := Nat.pow_le_pow_right (by decide) (by decide)
  have := c.val_lt
  omega

theorem failsUntold_utf8Bytes_iff {t : Text} :
    FailsUntold (utf8Bytes t) ↔ ∃ c ∈ t, ¬ c.IsScalar := by
  unfold utf8Bytes
  cases hencode : Utf8.encode t with
  | ok bytes =>
    have hscalar := (Utf8.encode_eq_ok_iff.mp hencode).1
    simp only [not_failsUntold_ok, false_iff, not_exists, not_and, not_not]
    exact hscalar
  | error run =>
    refine iff_of_true (failsUntold_other nofun) ?_
    by_contra hnone
    have hscalar : ∀ c ∈ t, c.IsScalar := by
      intro c hc
      by_contra hsurrogate
      exact hnone ⟨c, hc, hsurrogate⟩
    rw [Utf8.encode_eq_ok_iff.mpr ⟨hscalar, rfl⟩] at hencode
    cases hencode

theorem failsUntold_codePointBytes_iff {n : Int} :
    FailsUntold (codePointBytes n) ↔
      (∃ c : CodePoint, n = c.val ∧ ¬ c.IsScalar) ∨ 10 ^ Numeral.decimalLimit ≤ n.natAbs := by
  cases n with
  | negSucc k =>
    show FailsUntold (.error (.malformed (.codePoint (.negSucc k)))) ↔ _
    rw [failsUntold_malformed_iff, Malformed.isTooLong, Numeral.isTooLong_iff]
    refine ⟨.inr, fun h => h.resolve_left ?_⟩
    rintro ⟨c, hc, -⟩
    cases hc
  | ofNat k =>
    unfold codePointBytes
    by_cases hk : k < 0x110000
    · have hc : CodePoint.ofNat? k = some ⟨k, hk⟩ := dif_pos hk
      have hlt := lt_pow_decimalLimit ⟨k, hk⟩
      simp only [hc, failsUntold_utf8Bytes_iff, List.mem_singleton, exists_eq_left]
      constructor
      · intro hsurrogate
        exact .inl ⟨_, rfl, hsurrogate⟩
      · rintro (⟨c, hval, hsurrogate⟩ | hlong)
        · obtain rfl : k = c.val := Int.ofNat.inj hval
          exact hsurrogate
        · exact absurd hlong (Nat.not_le.mpr hlt)
    · have hc : CodePoint.ofNat? k = none := dif_neg hk
      simp only [hc]
      rw [failsUntold_malformed_iff, Malformed.isTooLong, Numeral.isTooLong_iff]
      refine ⟨.inr, fun h => h.resolve_left ?_⟩
      rintro ⟨c, hval, -⟩
      obtain rfl : k = c.val := Int.ofNat.inj hval
      exact hk c.val_lt

theorem failsUntold_sizedBytes_iff {size n : Int} :
    FailsUntold (sizedBytes size n) ↔
      (size % 8 ≠ 0 ∧ 10 ^ Numeral.decimalLimit ≤ size.natAbs) ∨
        size % 8 = 0 ∧ (size < 0 ∨ bitLimit < size) := by
  unfold sizedBytes
  split_ifs with hpart hnegative hlimit
  · rw [failsUntold_malformed_iff, Malformed.isTooLong, Numeral.isTooLong_iff]
    simp only [hpart, ne_eq, not_false_eq_true, true_and, false_and, or_false]
  · exact iff_of_true (failsUntold_other nofun) (.inr ⟨by omega, .inl hnegative⟩)
  · exact iff_of_true (failsUntold_other nofun) (.inr ⟨by omega, .inr hlimit⟩)
  · simp only [not_failsUntold_ok, false_iff]
    rintro (⟨hpart', -⟩ | ⟨-, hnegative' | hlimit'⟩)
    · exact hpart hpart'
    · exact hnegative hnegative'
    · exact hlimit hlimit'

/-- The segments whose bytes fail without being told. -/
theorem failsUntold_bytes_iff {s : Segment} : FailsUntold s.bytes ↔ s.Unwritable := by
  obtain ⟨value, size, types⟩ := s
  unfold Segment.bytes
  constructor
  · intro h
    cases value with
    | float x => exact absurd h (blamesToken_malformed rfl).not_failsUntold
    | chars t =>
      simp only at h
      split_ifs at h with hu
      · exact .surrogates (isUnicode_iff.mp hu) (failsUntold_utf8Bytes_iff.mp h)
      · exact absurd h (not_failsUntold_ok _)
    | integer n =>
      simp only at h
      split_ifs at h with hu
      · rcases failsUntold_codePointBytes_iff.mp h with ⟨c, rfl, hc⟩ | hlong
        · exact .surrogate (isUnicode_iff.mp hu) hc
        · exact .longNumber (isUnicode_iff.mp hu) hlong
      · have hplain := mt isUnicode_iff.mpr hu
        rcases failsUntold_sizedBytes_iff.mp h with ⟨hpart, hlong⟩ | ⟨hwhole, hsize⟩
        · exact .longSize hplain hpart hlong
        · exact .size hplain hwhole hsize
  · intro h
    cases h with
    | surrogates h ht =>
      simp only
      rw [if_pos (isUnicode_iff.mpr h)]
      exact failsUntold_utf8Bytes_iff.mpr ht
    | surrogate h hc =>
      simp only
      rw [if_pos (isUnicode_iff.mpr h)]
      exact failsUntold_codePointBytes_iff.mpr (.inl ⟨_, rfl, hc⟩)
    | longNumber h hn =>
      simp only
      rw [if_pos (isUnicode_iff.mpr h)]
      exact failsUntold_codePointBytes_iff.mpr (.inr hn)
    | longSize h hpart hsize =>
      simp only
      rw [if_neg (mt isUnicode_iff.mp h)]
      exact failsUntold_sizedBytes_iff.mpr (.inl ⟨hpart, hsize⟩)
    | size h hwhole hsize =>
      simp only
      rw [if_neg (mt isUnicode_iff.mp h)]
      exact failsUntold_sizedBytes_iff.mpr (.inr ⟨hwhole, hsize⟩)

/-! ## Moves -/

namespace Parser

/-- The token ends the segment that has been read in a phase. -/
inductive EndsSegment : SegmentPhase → Token → Segment → Prop where
  | chars {t : Text} {token : Token} (hstring : ∀ more, token ≠ .string more)
    (hcolon : token ≠ .colon) (hslash : token ≠ .slash) :
    EndsSegment (.chars t) token (.ofValue (.chars t))
  | value {s : Segment} {token : Token} (hcolon : token ≠ .colon) (hslash : token ≠ .slash) :
    EndsSegment (.value s) token s
  | sized {s : Segment} {token : Token} (hslash : token ≠ .slash) : EndsSegment (.sized s) token s
  | typed {s : Segment} {token : Token} (hminus : token ≠ .minus) : EndsSegment (.typed s) token s

/-- The token ends a segment that cannot be written. -/
def StuckAt (s : State) (t : Token) : Prop :=
  ∃ bytes phase segment, s.phase = .binary bytes phase ∧ EndsSegment phase t segment ∧
    segment.Unwritable

theorem failsUntold_afterSegment_iff {stack : List Frame} {bytes : List UInt8} {s : Segment}
    {t : Token} : FailsUntold (afterSegment stack bytes s t) ↔ s.Unwritable := by
  rw [← failsUntold_bytes_iff]
  unfold afterSegment
  cases hbytes : s.bytes with
  | error refusal => simp only [failsUntold_error_iff]
  | ok more =>
    simp only [not_failsUntold_ok, iff_false]
    split
    · exact not_failsUntold_ok _
    · exact not_failsUntold_ok _
    · exact (blamesToken_malformed rfl).not_failsUntold

theorem blamesToken_beginTerm (stack : List Frame) (t : Token) :
    BlamesToken (beginTerm stack t) := by
  cases t with
  | eof | dot | variableName _ | braceClose | bracketClose | binaryClose | comma | bar | colon
  | slash => exact blamesToken_malformed rfl
  | _ => exact blamesToken_ok _

theorem blamesToken_beginOrClose (stack : List Frame) (t : Token) :
    BlamesToken (beginOrClose stack t) := by
  unfold beginOrClose
  split
  · exact blamesToken_ok _
  · exact blamesToken_ok _
  · exact blamesToken_beginTerm _ _

theorem blamesToken_afterTerm (v : Term) (stack : List Frame) (t : Token) :
    BlamesToken (afterTerm v stack t) := by
  cases stack with
  | nil =>
    cases t with
    | dot => exact blamesToken_ok _
    | _ => exact blamesToken_malformed rfl
  | cons frame rest =>
    cases frame with
    | tuple done =>
      cases t with
      | comma | braceClose => exact blamesToken_ok _
      | _ => exact blamesToken_malformed rfl
    | list done =>
      cases t with
      | comma | bar | bracketClose => exact blamesToken_ok _
      | _ => exact blamesToken_malformed rfl
    | tail done =>
      cases t with
      | bracketClose => exact blamesToken_ok _
      | _ => exact blamesToken_malformed rfl

theorem blamesToken_afterSign (stack : List Frame) (negative : Bool) (t : Token) :
    BlamesToken (afterSign stack negative t) := by
  cases t with
  | integer n | char n | float x => exact blamesToken_ok _
  | _ => exact blamesToken_malformed rfl

theorem blamesToken_beginSegment (t : Token) : BlamesToken (beginSegment t) := by
  cases t with
  | string t | minus | plus | integer n | char n => exact blamesToken_ok _
  | _ => exact blamesToken_malformed rfl

theorem blamesToken_afterSegmentSign (negative : Bool) (t : Token) :
    BlamesToken (afterSegmentSign negative t) := by
  cases t with
  | integer n | char n | float x => exact blamesToken_ok _
  | _ => exact blamesToken_malformed rfl

theorem EndsSegment.insideBinary_eq {phase : SegmentPhase} {t : Token} {segment : Segment}
    (h : EndsSegment phase t segment) (stack : List Frame) (bytes : List UInt8) :
    insideBinary stack bytes phase t = afterSegment stack bytes segment t := by
  cases h with
  | chars hstring hcolon hslash =>
    cases t with
    | string more => exact absurd rfl (hstring more)
    | colon => exact absurd rfl hcolon
    | slash => exact absurd rfl hslash
    | _ => rfl
  | value hcolon hslash =>
    cases t with
    | colon => exact absurd rfl hcolon
    | slash => exact absurd rfl hslash
    | _ => rfl
  | sized hslash =>
    cases t with
    | slash => exact absurd rfl hslash
    | _ => rfl
  | typed hminus =>
    cases t with
    | minus => exact absurd rfl hminus
    | _ => rfl

theorem blamesToken_insideBinary_begin (stack : List Frame) (bytes : List UInt8) (t : Token) :
    BlamesToken (insideBinary stack bytes .begin t) :=
  (blamesToken_beginSegment t).map _

/-- A token that does not end a segment is taken, or it is to blame. -/
theorem endsSegment_or_blamesToken (stack : List Frame) (bytes : List UInt8)
    (phase : SegmentPhase) (t : Token) :
    (∃ segment, EndsSegment phase t segment) ∨
      BlamesToken (insideBinary stack bytes phase t) := by
  cases phase with
  | opened =>
    by_cases ht : t = .binaryClose
    · subst ht
      exact .inr (blamesToken_ok _)
    · rw [insideBinary_opened stack bytes ht]
      exact .inr (blamesToken_insideBinary_begin stack bytes t)
  | begin => exact .inr (blamesToken_insideBinary_begin stack bytes t)
  | signed negative => exact .inr ((blamesToken_afterSegmentSign negative t).map _)
  | chars s =>
    cases t with
    | string more | colon | slash => exact .inr (blamesToken_ok _)
    | _ => exact .inl ⟨_, .chars (by simp) (by simp) (by simp)⟩
  | value s =>
    cases t with
    | colon | slash => exact .inr (blamesToken_ok _)
    | _ => exact .inl ⟨_, .value (by simp) (by simp)⟩
  | size s =>
    cases t with
    | integer n => exact .inr (blamesToken_ok _)
    | _ => exact .inr (blamesToken_malformed rfl)
  | sized s =>
    cases t with
    | slash => exact .inr (blamesToken_ok _)
    | _ => exact .inl ⟨_, .sized (by simp)⟩
  | type s =>
    cases t with
    | atom name => exact .inr (blamesToken_ok _)
    | _ => exact .inr (blamesToken_malformed rfl)
  | typed s =>
    cases t with
    | minus => exact .inr (blamesToken_ok _)
    | _ => exact .inl ⟨_, .typed (by simp)⟩

/-- Inside a binary a move fails without being told exactly if it ends a segment that cannot be
    written. -/
theorem failsUntold_insideBinary_iff {stack : List Frame} {bytes : List UInt8}
    {phase : SegmentPhase} {t : Token} :
    FailsUntold (insideBinary stack bytes phase t) ↔
      ∃ segment, EndsSegment phase t segment ∧ segment.Unwritable := by
  constructor
  · intro h
    obtain ⟨segment, hends⟩ := (endsSegment_or_blamesToken stack bytes phase t).resolve_right
      (fun hblames => hblames.not_failsUntold h)
    rw [hends.insideBinary_eq, failsUntold_afterSegment_iff] at h
    exact ⟨segment, hends, h⟩
  · rintro ⟨segment, hends, hunwritable⟩
    rw [hends.insideBinary_eq, failsUntold_afterSegment_iff]
    exact hunwritable

/-- Outside binaries the token is to blame for every refusal. -/
theorem blamesToken_step {s : State} (hs : ∀ bytes phase, s.phase ≠ .binary bytes phase)
    (t : Token) : BlamesToken (step s t) := by
  obtain ⟨stack, phase⟩ := s
  cases phase with
  | begin => exact blamesToken_beginOrClose stack t
  | signed negative => exact blamesToken_afterSign stack negative t
  | chars cs =>
    cases t with
    | string more => exact blamesToken_ok _
    | _ => exact blamesToken_afterTerm (codeList cs) stack _
  | binary bytes phase => exact absurd rfl (hs bytes phase)
  | value v => exact blamesToken_afterTerm v stack t
  | terminated v =>
    cases t with
    | eof => exact blamesToken_ok _
    | _ => exact blamesToken_malformed rfl
  | accepted v => exact blamesToken_ok _

/-- The moves that fail without being told. -/
theorem failsUntold_step_iff {s : State} {t : Token} : FailsUntold (step s t) ↔ StuckAt s t := by
  by_cases hs : ∃ bytes phase, s.phase = .binary bytes phase
  · obtain ⟨bytes, phase, hphase⟩ := hs
    have hstep : step s t = insideBinary s.stack bytes phase t := by
      rw [step, hphase]
    rw [hstep, failsUntold_insideBinary_iff]
    constructor
    · rintro ⟨segment, hends, hunwritable⟩
      exact ⟨bytes, phase, segment, hphase, hends, hunwritable⟩
    · rintro ⟨_, _, segment, hphase', hends, hunwritable⟩
      rw [hphase] at hphase'
      cases hphase'
      exact ⟨segment, hends, hunwritable⟩
  · refine iff_of_false
      (blamesToken_step (fun bytes phase h => hs ⟨bytes, phase, h⟩) t).not_failsUntold ?_
    rintro ⟨bytes, phase, segment, hphase, -⟩
    exact hs ⟨bytes, phase, hphase⟩

/-! ## Runs -/

/-- The machine comes to the end of a segment that cannot be written. -/
def Stuck (s : State) (ts : List Token) : Prop :=
  ∃ pre t post s', ts = pre ++ t :: post ∧ advance s pre = .ok s' ∧ StuckAt s' t

theorem stuck_cons_of_step {s next : State} {t : Token} (hs : step s t = .ok next)
    (ts : List Token) : Stuck s (t :: ts) ↔ Stuck next ts := by
  constructor
  · rintro ⟨pre, u, post, s', htokens, hadvance, hstuck⟩
    cases pre with
    | nil =>
      cases htokens
      cases hadvance
      have hfails := failsUntold_step_iff.mpr hstuck
      rw [hs] at hfails
      exact absurd hfails (not_failsUntold_ok _)
    | cons _ pre =>
      cases htokens
      rw [advance_cons hs] at hadvance
      exact ⟨pre, u, post, s', rfl, hadvance, hstuck⟩
  · rintro ⟨pre, u, post, s', rfl, hadvance, hstuck⟩
    exact ⟨t :: pre, u, post, s', rfl, (advance_cons hs pre).trans hadvance, hstuck⟩

theorem stuck_cons_of_error {s : State} {t : Token} {refusal : Refusal}
    (hs : step s t = .error refusal) (ts : List Token) : Stuck s (t :: ts) ↔ ¬ refusal.IsTold := by
  have hfails : FailsUntold (step s t) ↔ ¬ refusal.IsTold := by
    rw [hs, failsUntold_error_iff]
  rw [← hfails, failsUntold_step_iff]
  constructor
  · rintro ⟨pre, u, post, s', htokens, hadvance, hstuck⟩
    cases pre with
    | nil =>
      cases htokens
      cases hadvance
      exact hstuck
    | cons _ pre =>
      cases htokens
      rw [advance, hs] at hadvance
      cases hadvance
  · intro hstuck
    exact ⟨[], t, ts, s, rfl, rfl, hstuck⟩

/-- Tokens that go on with nothing that was begun. -/
def Fresh (t : Token) : Prop := t = .eof ∨ t = .bracketOpen

theorem Fresh.afterTerm_ne_ok {t : Token} (ht : Fresh t) (v : Term) (stack : List Frame)
    (next : State) : afterTerm v stack t ≠ .ok next := by
  rcases ht with rfl | rfl
  all_goals
    cases stack with
    | nil => nofun
    | cons frame rest =>
      cases frame with
      | tuple done | list done | tail done => nofun

theorem Fresh.afterSegment_ne_ok {t : Token} (ht : Fresh t) (stack : List Frame)
    (bytes : List UInt8) (s : Segment) (next : State) : afterSegment stack bytes s t ≠ .ok next := by
  unfold afterSegment
  rcases ht with rfl | rfl
  all_goals
    cases s.bytes with
    | error refusal => nofun
    | ok more => nofun

theorem Fresh.insideBinary_ne_ok {t : Token} (ht : Fresh t) (stack : List Frame)
    (bytes : List UInt8) (phase : SegmentPhase) (next : State) :
    insideBinary stack bytes phase t ≠ .ok next := by
  have hsegment (s : Segment) : afterSegment stack bytes s t ≠ .ok next :=
    ht.afterSegment_ne_ok stack bytes s next
  rcases ht with rfl | rfl
  all_goals
    cases phase with
    | opened | begin | signed negative | size s | type s => nofun
    | chars t => exact hsegment (.ofValue (.chars t))
    | value s | sized s | typed s => exact hsegment s

/-- The end of the text is taken only behind a terminated term, which it makes accepted. -/
theorem accepted_of_step_eof {s next : State} (h : step s .eof = .ok next) :
    ∃ stack v, next = ⟨stack, .accepted v⟩ := by
  obtain ⟨stack, phase⟩ := s
  cases phase with
  | begin =>
    rw [step_begin stack (by simp) (by simp)] at h
    cases h
  | signed negative => cases h
  | chars t => exact absurd h (Fresh.afterTerm_ne_ok (.inl rfl) _ stack next)
  | binary bytes phase => exact absurd h (Fresh.insideBinary_ne_ok (.inl rfl) stack bytes phase next)
  | value v => exact absurd h (Fresh.afterTerm_ne_ok (.inl rfl) v stack next)
  | terminated v =>
    cases h
    exact ⟨stack, v, rfl⟩
  | accepted v =>
    cases h
    exact ⟨stack, v, rfl⟩

theorem settled_run_cons_iff {whole : Text} {s : State} {l : Lexeme} {rest : List Lexeme}
    (h : ∀ next, step s l.token = .ok next →
      (Settled (run whole next rest) ↔ ¬ Stuck next (rest.map Lexeme.token))) :
    Settled (run whole s (l :: rest)) ↔ ¬ Stuck s ((l :: rest).map Lexeme.token) := by
  rw [run, List.map_cons]
  cases hs : step s l.token with
  | ok next => rw [stuck_cons_of_step hs, h next hs]
  | error refusal =>
    rw [stuck_cons_of_error hs, settled_error_iff, Refusal.isTold_iff, Classical.not_not]

/-- A run to the end of the text is settled unless the machine comes to the end of a segment that
    cannot be written. -/
theorem settled_run_iff (whole : Text) {last : Lexeme} (hlast : last.token = .eof)
    (lexemes : List Lexeme) : ∀ s : State, Settled (run whole s (lexemes ++ [last])) ↔
      ¬ Stuck s ((lexemes ++ [last]).map Lexeme.token) := by
  induction lexemes with
  | nil =>
    intro s
    apply settled_run_cons_iff
    intro next hs
    rw [hlast] at hs
    obtain ⟨stack, v, rfl⟩ := accepted_of_step_eof hs
    refine iff_of_true (settled_ok v) ?_
    rintro ⟨pre, t, post, s', htokens, -⟩
    exact absurd htokens (by simp)
  | cons l lexemes ih =>
    intro s
    exact settled_run_cons_iff fun next _ => ih next

end Parser

/-! ## Texts -/

/-- A text that is neither decoded nor refused with a message about it: reading comes to a numeral
    that is too long, or all tokens are read and the machine comes to the end of a segment that
    cannot be written. -/
inductive Undecodable (t : Text) : Prop where
  | numeral (h : Lexer.ReachesLongNumeral t)
  | segment {lexemes : List Lexeme} (h : tokenize t = .ok lexemes)
    (hstuck : Parser.Stuck .start ((withTerminator lexemes).map Lexeme.token))

/-- The texts that are decoded or refused with a message about them. -/
theorem settled_ofText_iff {t : Text} : Settled (ofText t) ↔ ¬ Undecodable t := by
  have htokenize := settled_tokenize_iff (t := t)
  unfold ofText
  cases htokens : tokenize t with
  | error failure =>
    rw [htokens, settled_error_iff] at htokenize
    simp only [settled_error_iff, htokenize]
    have hundecodable : Undecodable t ↔ Lexer.ReachesLongNumeral t := by
      constructor
      · intro h
        cases h with
        | numeral h => exact h
        | segment h =>
          rw [htokens] at h
          cases h
      · exact .numeral
    rw [hundecodable]
  | ok lexemes =>
    rw [htokens] at htokenize
    have hnumeral := htokenize.mp (settled_ok lexemes)
    have hundecodable : Undecodable t ↔
        Parser.Stuck .start ((withTerminator lexemes).map Lexeme.token) := by
      constructor
      · intro h
        cases h with
        | numeral h => exact absurd h hnumeral
        | segment h hstuck =>
          rw [htokens] at h
          cases h
          exact hstuck
      · exact .segment htokens
    obtain ⟨front, last, rfl, hlast⟩ := exists_eof_of_tokenize htokens
    have hrun := Parser.settled_run_iff t hlast (front ++ [⟨.dot, last.column⟩]) .start
    rw [List.append_assoc] at hrun
    rw [hundecodable, withTerminator_append_singleton]
    simp only [parse, withTerminator_append_singleton]
    exact hrun

end Faultline.Term
