import Faultline.Proofs.Term.RoundTrip

/-!
# Written binaries

A binary is written as segments with commas between them. `WrittenSegment` is a segment in any of
the ways to write it, and `bytesOf` gives the bytes that segments stand for one behind the other.
Not every written segment stands for bytes, so a binary may be refused although each of its segments
is well written.

What a part of a binary means does not depend on the rest of it: `Contributes` says that some texts,
whatever segments stand in front of them and behind them, give these bytes to the binary, and
`IsRefused` that no binary with them is decoded.

Results:
* `ofText_binaryOf_eq_ok_iff`: a binary is decoded exactly if each of its segments stands for bytes.
* `exists_ofText_eq_error`: the first segment that stands for none is blamed.
* `contributes_of_bytesOf`, `isRefused_of_bytesOf`: written segments give the bytes they stand for.
-/

namespace Faultline.Term

open Lexer (Reads)

/-! ## Segments one behind the other -/

/-- The bytes that segments stand for, one behind the other. -/
def bytesOf : List Segment → Except Refusal (List UInt8)
  | [] => .ok []
  | s :: rest =>
    match s.bytes with
    | .error refusal => .error refusal
    | .ok bytes => (bytesOf rest).map (bytes ++ ·)

theorem bytesOf_cons {s : Segment} {bytes : List UInt8} (h : s.bytes = .ok bytes)
    (rest : List Segment) : bytesOf (s :: rest) = (bytesOf rest).map (bytes ++ ·) := by
  rw [bytesOf, h]

theorem bytesOf_singleton (s : Segment) : bytesOf [s] = s.bytes := by
  rw [bytesOf]
  cases s.bytes with
  | error refusal => rfl
  | ok bytes => exact congrArg Except.ok (List.append_nil bytes)

theorem bytesOf_cons_eq_ok_iff {s : Segment} {rest : List Segment} {bytes : List UInt8} :
    bytesOf (s :: rest) = .ok bytes ↔
      ∃ xs ys, s.bytes = .ok xs ∧ bytesOf rest = .ok ys ∧ bytes = xs ++ ys := by
  rw [bytesOf]
  cases s.bytes with
  | error refusal => simp
  | ok xs =>
    cases bytesOf rest with
    | error refusal => simp [Except.map]
    | ok ys => simp [Except.map, eq_comm]

theorem bytesOf_append_eq_ok_iff {first second : List Segment} :
    ∀ {bytes : List UInt8}, bytesOf (first ++ second) = .ok bytes ↔
      ∃ xs ys, bytesOf first = .ok xs ∧ bytesOf second = .ok ys ∧ bytes = xs ++ ys := by
  induction first with
  | nil =>
    intro bytes
    simp [bytesOf]
  | cons s first ih =>
    intro bytes
    rw [List.cons_append, bytesOf_cons_eq_ok_iff]
    constructor
    · rintro ⟨xs, rest, hs, hrest, rfl⟩
      obtain ⟨ys, zs, hfirst, hsecond, rfl⟩ := ih.mp hrest
      exact ⟨_, zs, bytesOf_cons_eq_ok_iff.mpr ⟨xs, ys, hs, hfirst, rfl⟩, hsecond,
        (List.append_assoc xs ys zs).symm⟩
    · rintro ⟨front, zs, hfront, hsecond, rfl⟩
      obtain ⟨xs, ys, hs, hfirst, rfl⟩ := bytesOf_cons_eq_ok_iff.mp hfront
      exact ⟨xs, ys ++ zs, hs, ih.mpr ⟨ys, zs, hfirst, hsecond, rfl⟩, List.append_assoc xs ys zs⟩

theorem bytesOf_map {α : Type} {f : α → Segment} {g : α → List UInt8} {l : List α}
    (h : ∀ a ∈ l, (f a).bytes = .ok (g a)) : bytesOf (l.map f) = .ok (l.flatMap g) := by
  induction l with
  | nil => rfl
  | cons a l ih =>
    obtain ⟨ha, hl⟩ := List.forall_mem_cons.mp h
    rw [List.map_cons, bytesOf_cons ha, ih hl, List.flatMap_cons]
    rfl

/-- If each segment has one width, so many bytes there are. -/
theorem mul_length_of_bytesOf {k m : Nat} : ∀ {segments : List Segment} {bytes : List UInt8},
    (∀ s ∈ segments, ∀ xs, s.bytes = .ok xs → k * xs.length = m) →
      bytesOf segments = .ok bytes → k * bytes.length = m * segments.length
  | [], bytes, _, hbytes => by
    cases hbytes
    rfl
  | s :: segments, bytes, h, hbytes => by
    obtain ⟨hs, hsegments⟩ := List.forall_mem_cons.mp h
    obtain ⟨xs, ys, hxs, hys, rfl⟩ := bytesOf_cons_eq_ok_iff.mp hbytes
    rw [List.length_append, Nat.mul_add, hs xs hxs, mul_length_of_bytesOf hsegments hys,
      List.length_cons]
    ring

/-- Segments that do not stand for bytes have a first one that does not. -/
theorem exists_of_bytesOf_error {refusal : Refusal} : ∀ {segments : List Segment},
    bytesOf segments = .error refusal →
      ∃ front s back xs, segments = front ++ s :: back ∧ bytesOf front = .ok xs ∧
        s.bytes = .error refusal
  | [], h => nomatch h
  | s :: rest, h => by
    cases hs : s.bytes with
    | error other =>
      rw [bytesOf, hs] at h
      cases h
      exact ⟨[], s, rest, [], rfl, rfl, hs⟩
    | ok bytes =>
      cases hrest : bytesOf rest with
      | ok more =>
        rw [bytesOf_cons hs, hrest] at h
        cases h
      | error other =>
        rw [bytesOf_cons hs, hrest] at h
        cases h
        obtain ⟨front, t, back, xs, rfl, hfront, ht⟩ := exists_of_bytesOf_error hrest
        exact ⟨s :: front, t, back, bytes ++ xs, rfl,
          bytesOf_cons_eq_ok_iff.mpr ⟨bytes, xs, hs, hfront, rfl⟩, ht⟩

/-! ## Ways to write segments and binaries -/

/-- The tokens of a segment. Without a size it has eight bits. -/
inductive SegmentTokens : List Token → Segment → Prop where
  | mk {ts : List Token} {value : SegmentValue} (size : Option Int) (types : List Text)
    (hv : IsSegmentValue ts value) :
    SegmentTokens (ts ++ sizeTokens size ++ typeTokens types) ⟨value, size.getD 8, types⟩

/-- What stands behind a segment: a comma or the closing mark. -/
inductive BehindSegment : Text → Prop where
  | comma (rest : Text) : BehindSegment (CodePoint.ofChar ',' :: rest)
  | close (rest : Text) : BehindSegment (text ">>" ++ rest)

/-- The text is read as the tokens of the segment. -/
def SpellsSegment (t : Text) (s : Segment) : Prop :=
  ∃ ts, SegmentTokens ts s ∧ ∀ rest, BehindSegment rest → Reads t ts rest

/-- A segment and a way to write it. -/
structure WrittenSegment where
  segment : Segment
  text : Text
  spells : SpellsSegment text segment

/-- The text of a binary, given the texts of its segments. -/
def binaryOf (segments : List Text) : Text :=
  text "<<" ++ Text.join (text ",") segments ++ text ">>"

/-- The text of a binary in which written segments stand in front of some texts and behind them. -/
def binaryAround (front : List WrittenSegment) (ts : List Text) (back : List WrittenSegment) :
    Text :=
  binaryOf (front.map (·.text) ++ ts ++ back.map (·.text))

theorem binaryAround_eq (front parts back : List WrittenSegment) :
    binaryAround front (parts.map (·.text)) back =
      binaryOf ((front ++ parts ++ back).map (·.text)) := by
  rw [binaryAround, List.map_append, List.map_append]

theorem binaryAround_singleton (front : List WrittenSegment) (part : WrittenSegment)
    (back : List WrittenSegment) :
    binaryAround front [part.text] back = binaryOf ((front ++ part :: back).map (·.text)) := by
  rw [List.append_cons]
  exact binaryAround_eq front [part] back

/-- A written binary is read as its segments between the marks. -/
theorem exists_reads_binaryOf (parts : List WrittenSegment) :
    ∃ read : List (List Token × Segment), read.map Prod.snd = parts.map (·.segment) ∧
      (∀ q ∈ read, SegmentTokens q.1 q.2) ∧
      ∀ rest, Reads (binaryOf (parts.map (·.text)))
        (.binaryOpen :: (commaJoin (read.map Prod.fst) ++ [.binaryClose])) rest := by
  have hspells : ∀ p ∈ parts.map fun p => (p.segment, p.text),
      ∃ ts, SegmentTokens ts p.1 ∧ ∀ rest, BehindSegment rest → Reads p.2 ts rest := by
    intro p hp
    obtain ⟨p, -, rfl⟩ := List.mem_map.mp hp
    exact p.spells
  obtain ⟨read, hsegments, htokens, hreads⟩ := exists_reads_join .comma hspells
  rw [List.map_map] at hsegments
  refine ⟨read, hsegments, htokens, ?_⟩
  intro rest
  have hinner := (hreads _ (.close rest)).append (Lexer.reads_mark .binaryClose rfl rest)
  rw [List.map_map] at hinner
  rw [binaryOf, List.append_assoc]
  exact (Lexer.reads_mark .binaryOpen rfl _).append hinner

/-! ## Binaries that are decoded -/

/-- Segments that stand for bytes are segments of the grammar. -/
theorem exists_isSegment {read : List (List Token × Segment)}
    (h : ∀ q ∈ read, SegmentTokens q.1 q.2) : ∀ {bytes : List UInt8},
    bytesOf (read.map Prod.snd) = .ok bytes →
      ∃ parts : List (List Token × List UInt8), parts.map Prod.fst = read.map Prod.fst ∧
        (∀ p ∈ parts, IsSegment p.1 p.2) ∧ parts.flatMap Prod.snd = bytes := by
  induction read with
  | nil =>
    intro bytes hbytes
    cases hbytes
    exact ⟨[], rfl, by simp, rfl⟩
  | cons q read ih =>
    intro bytes hbytes
    obtain ⟨hq, hread⟩ := List.forall_mem_cons.mp h
    obtain ⟨xs, ys, hxs, hys, rfl⟩ := bytesOf_cons_eq_ok_iff.mp hbytes
    obtain ⟨parts, hfst, hall, hflat⟩ := ih hread hys
    obtain ⟨ts, segment⟩ := q
    have hsegment : IsSegment ts xs := by
      cases hq with
      | mk size types hv => exact .mk size types hv (bytes_eq_ok_iff.mp hxs)
    refine ⟨(ts, xs) :: parts, ?_, List.forall_mem_cons.mpr ⟨hsegment, hall⟩, ?_⟩
    · rw [List.map_cons, List.map_cons, hfst]
    · rw [List.flatMap_cons, hflat]

/-- Segments that stand for bytes are a binary of these bytes. -/
theorem ofText_binaryOf {parts : List WrittenSegment} {bytes : List UInt8}
    (h : bytesOf (parts.map (·.segment)) = .ok bytes) :
    ofText (binaryOf (parts.map (·.text))) = .ok (.binary (binaryText bytes)) := by
  obtain ⟨read, hsegments, htokens, hreads⟩ := exists_reads_binaryOf parts
  rw [← hsegments] at h
  obtain ⟨contributed, hfst, hall, rfl⟩ := exists_isSegment htokens h
  refine ofText_of_readsAs ⟨_, .binary contributed hall (binaryText_eq_iff.mp rfl), ?_⟩
  intro rest _
  rw [hfst]
  exact hreads rest

/-- Segments that stand for the UTF-8 bytes of a string are a binary of the string. -/
theorem ofText_binaryOf_string (parts : List WrittenSegment) {s : String}
    (h : bytesOf (parts.map (·.segment)) = .ok s.toUTF8.data.toList) :
    ofText (binaryOf (parts.map (·.text))) = .ok (.binary (text s)) := by
  rw [ofText_binaryOf h, binaryText, Utf8.decode_eq_ok_text_iff.mpr rfl]

/-! ## Binaries that are refused -/

theorem exists_commaJoin_close (ts : List Token) (parts : List (List Token)) :
    ∃ u post, (u = .comma ∨ u = .binaryClose) ∧
      commaJoin (ts :: parts) ++ [.binaryClose] = ts ++ u :: post := by
  cases parts with
  | nil => exact ⟨.binaryClose, [], .inr rfl, rfl⟩
  | cons us parts =>
    refine ⟨.comma, commaJoin (us :: parts) ++ [.binaryClose], .inl rfl, ?_⟩
    rw [commaJoin, List.append_assoc, List.cons_append]

/-- A segment that stands for no bytes is refused at the token behind it. -/
theorem exists_advance_refused {read : List (List Token × Segment)}
    (h : ∀ q ∈ read, SegmentTokens q.1 q.2) {xs : List UInt8}
    (hxs : bytesOf (read.map Prod.snd) = .ok xs) {ts : List Token} {s : Segment}
    (hs : SegmentTokens ts s) {refusal : Refusal} (hrefused : s.bytes = .error refusal) :
    ∃ state, Parser.advance .start (.binaryOpen :: (commaAfterEach (read.map Prod.fst) ++ ts)) =
        .ok state ∧
      ∀ u, u = .comma ∨ u = .binaryClose → Parser.step state u = .error refusal := by
  obtain ⟨parts, hfst, hall, hflat⟩ := exists_isSegment h hxs
  have hopen : Parser.step .start .binaryOpen = .ok ⟨[], .binary [] .opened⟩ :=
    Parser.step_begin [] (by simp) (by simp)
  cases hs with
  | @mk ts value size types hv =>
    -- the tokens of the segment are taken; only the token behind them asks for its bytes
    obtain ⟨state, hstate, hends⟩ := Parser.exists_advance_written [] xs hv size types
    obtain ⟨t, us, rfl, ht⟩ := Parser.exists_cons_of_isSegmentValue hv
    rw [List.append_assoc, List.cons_append] at hstate
    refine ⟨state, ?_, ?_⟩
    · rw [Parser.advance_cons hopen, ← hfst, List.append_assoc, List.cons_append,
        Parser.advance_opened_segments [] hall ht, hflat, hstate]
    · rintro u (rfl | rfl)
      · rw [hends.comma, Parser.afterSegment, hrefused]
      · rw [hends.close, Parser.afterSegment, hrefused]

/-- The first segment that stands for no bytes is blamed. -/
theorem exists_ofText_eq_error (front : List WrittenSegment) (part : WrittenSegment)
    (back : List WrittenSegment) {xs : List UInt8} {refusal : Refusal}
    (hfront : bytesOf (front.map (·.segment)) = .ok xs)
    (hpart : part.segment.bytes = .error refusal) :
    ∃ column, ofText (binaryAround front [part.text] back) =
      .error (refusal.failure (binaryAround front [part.text] back) column) := by
  rw [binaryAround_singleton]
  obtain ⟨read, hsegments, htokens, hreads⟩ := exists_reads_binaryOf (front ++ part :: back)
  rw [List.map_append, List.map_cons] at hsegments
  obtain ⟨before, after, rfl, hbefore, hafter⟩ := List.map_eq_append_iff.mp hsegments
  obtain ⟨⟨ts, segment⟩, after, rfl, rfl, -⟩ := List.map_eq_cons_iff.mp hafter
  obtain ⟨hbeforeTokens, hafterTokens⟩ := List.forall_mem_append.mp htokens
  have hts : SegmentTokens ts part.segment := hafterTokens _ List.mem_cons_self
  rw [← hbefore] at hfront
  obtain ⟨state, hstate, hrefused⟩ := exists_advance_refused hbeforeTokens hfront hts hpart
  obtain ⟨u, post, hu, hjoin⟩ := exists_commaJoin_close ts (after.map Prod.fst)
  have hsplit : commaJoin ((before ++ (ts, part.segment) :: after).map Prod.fst) ++
      [.binaryClose] = commaAfterEach (before.map Prod.fst) ++ ts ++ u :: post := by
    rw [List.map_append, List.map_cons, commaJoin_append _ (List.cons_ne_nil _ _),
      List.append_assoc, hjoin, List.append_assoc]
  have hreads := hreads []
  rw [hsplit, ← List.cons_append] at hreads
  exact ofText_eq_error_of_reads hreads hstate (hrefused u hu)

/-- Segments that do not stand for bytes are no binary. -/
theorem exists_ofText_error_of_bytesOf {parts : List WrittenSegment} {refusal : Refusal}
    (h : bytesOf (parts.map (·.segment)) = .error refusal) :
    ∃ failure, ofText (binaryOf (parts.map (·.text))) = .error failure := by
  obtain ⟨front, s, back, xs, hsplit, hfront, hs⟩ := exists_of_bytesOf_error h
  obtain ⟨front, rest, rfl, rfl, hrest⟩ := List.map_eq_append_iff.mp hsplit
  obtain ⟨part, back, rfl, rfl, -⟩ := List.map_eq_cons_iff.mp hrest
  obtain ⟨column, hcolumn⟩ := exists_ofText_eq_error front part back hfront hs
  rw [binaryAround_singleton] at hcolumn
  exact ⟨_, hcolumn⟩

/-- A binary is decoded exactly if each of its segments stands for bytes. -/
theorem ofText_binaryOf_eq_ok_iff {parts : List WrittenSegment} {v : Term} :
    ofText (binaryOf (parts.map (·.text))) = .ok v ↔
      ∃ bytes, bytesOf (parts.map (·.segment)) = .ok bytes ∧ v = .binary (binaryText bytes) := by
  cases hbytes : bytesOf (parts.map (·.segment)) with
  | ok bytes =>
    rw [ofText_binaryOf hbytes]
    simp [eq_comm]
  | error refusal =>
    obtain ⟨failure, hfailure⟩ := exists_ofText_error_of_bytesOf hbytes
    rw [hfailure]
    simp

/-! ## Parts of binaries -/

/-- Whatever segments stand around them, the texts give these bytes to the binary. -/
def Contributes (ts : List Text) (bytes : List UInt8) : Prop :=
  ∀ (front back : List WrittenSegment) (v : Term),
    ofText (binaryAround front ts back) = .ok v ↔
      ∃ xs ys, bytesOf (front.map (·.segment)) = .ok xs ∧
        bytesOf (back.map (·.segment)) = .ok ys ∧ v = .binary (binaryText (xs ++ bytes ++ ys))

/-- Whatever segments stand around them, a binary with the texts is refused. -/
def IsRefused (ts : List Text) : Prop :=
  ∀ front back : List WrittenSegment, ∃ failure, ofText (binaryAround front ts back) = .error failure

theorem contributes_of_bytesOf (parts : List WrittenSegment) {bytes : List UInt8}
    (h : bytesOf (parts.map (·.segment)) = .ok bytes) :
    Contributes (parts.map (·.text)) bytes := by
  intro front back v
  rw [binaryAround_eq, ofText_binaryOf_eq_ok_iff, List.map_append, List.map_append]
  constructor
  · rintro ⟨_, hall, rfl⟩
    obtain ⟨_, ys, hfirst, hys, rfl⟩ := bytesOf_append_eq_ok_iff.mp hall
    obtain ⟨xs, zs, hxs, hzs, rfl⟩ := bytesOf_append_eq_ok_iff.mp hfirst
    obtain rfl : bytes = zs := Except.ok.inj (h.symm.trans hzs)
    exact ⟨xs, ys, hxs, hys, rfl⟩
  · rintro ⟨xs, ys, hxs, hys, rfl⟩
    exact ⟨_, bytesOf_append_eq_ok_iff.mpr
      ⟨_, ys, bytesOf_append_eq_ok_iff.mpr ⟨xs, bytes, hxs, h, rfl⟩, hys, rfl⟩, rfl⟩

theorem isRefused_of_bytesOf (parts : List WrittenSegment) {refusal : Refusal}
    (h : bytesOf (parts.map (·.segment)) = .error refusal) : IsRefused (parts.map (·.text)) := by
  intro front back
  rw [binaryAround_eq]
  cases hall : bytesOf ((front ++ parts ++ back).map (·.segment)) with
  | error other => exact exists_ofText_error_of_bytesOf hall
  | ok bytes =>
    rw [List.map_append, List.map_append] at hall
    obtain ⟨_, _, hfirst, -, -⟩ := bytesOf_append_eq_ok_iff.mp hall
    obtain ⟨_, _, -, hparts, -⟩ := bytesOf_append_eq_ok_iff.mp hfirst
    rw [h] at hparts
    cases hparts

/-- Texts that contribute bytes are not refused. -/
theorem Contributes.not_isRefused {ts : List Text} {bytes : List UInt8} (h : Contributes ts bytes) :
    ¬ IsRefused ts := by
  intro hrefused
  obtain ⟨failure, hfailure⟩ := hrefused [] []
  have hdecoded := (h [] [] _).mpr ⟨[], [], rfl, rfl, rfl⟩
  rw [hfailure] at hdecoded
  cases hdecoded

end Faultline.Term
