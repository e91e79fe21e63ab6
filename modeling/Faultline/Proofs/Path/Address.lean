import Faultline.Proofs.Editor.History
import Faultline.Proofs.Path.Reading
import Faultline.Proofs.Text.Utf8

/-!
# Addresses and the files they stand for

The address of a file is made from its absolute path, `absolutePath`. `unescape?` reads the bytes of
an address back: letters, digits and the marks `_ . - ~ /` are bytes of their own, `%` and two hex
digits are any byte, and nothing else is read. So files have one address exactly if they have one
absolute path, and an editor keeps one list of diagnostics for them exactly then.

Results:
* `unescape?_escape`: bytes that were escaped are read back.
* `ofFile_eq`: the address of a file without surrogates.
* `ofFile_faithful`: an address tells the absolute path of its file and nothing else.
-/

namespace Faultline.Uri

open FilePath

/-! ## Reading addresses -/

/-- Whether a code point stands for itself in an address. -/
def isUnreserved (c : CodePoint) : Bool :=
  (Char.ofNat c.val).isAlphanum || (text "_.-~/").contains c

/-- The bytes that the part of an address behind `file://` spells, if every code point of it stands
    for itself or belongs to `%` and two hex digits. -/
def unescape? : Text → Option (List UInt8)
  | [] => some []
  | c :: rest =>
    if c = '%' then
      match rest with
      | high :: low :: after =>
        match Numeral.digitBelow? 16 high, Numeral.digitBelow? 16 low with
        | some h, some l => (unescape? after).map (UInt8.ofNat (16 * h + l) :: ·)
        | _, _ => none
      | _ => none
    else if isUnreserved c then (unescape? rest).map (UInt8.ofNat c.val :: ·)
    else none

theorem isUnreserved_ofByte (b : UInt8) : isUnreserved (CodePoint.ofByte b) = isPlain b := by
  have hall : ∀ n < 256, isUnreserved (CodePoint.ofByte (UInt8.ofNat n)) =
      isPlain (UInt8.ofNat n) := by
    decide +kernel
  have hb := hall b.toNat b.toNat_lt
  rwa [UInt8.ofNat_toNat] at hb

theorem digitBelow?_hexDigit {d : Nat} (h : d < 16) :
    Numeral.digitBelow? 16 (hexDigit d) = some d := by
  have hall : ∀ d < 16, Numeral.digitBelow? 16 (hexDigit d) = some d := by decide
  exact hall d h

theorem unescape?_cons {c : CodePoint} (hpercent : c ≠ '%') (hc : isUnreserved c = true)
    (rest : Text) : unescape? (c :: rest) = (unescape? rest).map (UInt8.ofNat c.val :: ·) := by
  rw [unescape?.eq_def]
  simp only
  rw [if_neg hpercent, if_pos hc]

theorem unescape?_percent {high low : CodePoint} {h l : Nat}
    (hhigh : Numeral.digitBelow? 16 high = some h) (hlow : Numeral.digitBelow? 16 low = some l)
    (rest : Text) :
    unescape? ('%' :: high :: low :: rest) =
      (unescape? rest).map (UInt8.ofNat (16 * h + l) :: ·) := by
  rw [unescape?, if_pos rfl]
  simp only [hhigh, hlow]

/-- An escaped byte in front of an address is read back. -/
theorem unescape?_escapeByte (b : UInt8) (rest : Text) :
    unescape? (escapeByte b ++ rest) = (unescape? rest).map (b :: ·) := by
  rw [escapeByte]
  split_ifs with hplain
  · have hpercent : CodePoint.ofByte b ≠ '%' := by
      intro h
      have hb := isUnreserved_ofByte b
      rw [h, hplain] at hb
      exact absurd hb (by decide)
    have hunreserved := (isUnreserved_ofByte b).trans hplain
    have hb : UInt8.ofNat (CodePoint.ofByte b).val = b := UInt8.ofNat_toNat
    rw [List.singleton_append, unescape?_cons hpercent hunreserved, hb]
  · have hlt := b.toNat_lt
    have hvalue : 16 * (b.toNat / 16) + b.toNat % 16 = b.toNat := by omega
    have hread := unescape?_percent (digitBelow?_hexDigit (show b.toNat / 16 < 16 by omega))
      (digitBelow?_hexDigit (show b.toNat % 16 < 16 by omega)) rest
    rwa [hvalue, UInt8.ofNat_toNat] at hread

/-- Bytes that were escaped are read back. -/
theorem unescape?_escape (bytes : List UInt8) : unescape? (escape bytes) = some bytes := by
  induction bytes with
  | nil => rfl
  | cons b bytes ih =>
    show unescape? (escapeByte b ++ escape bytes) = _
    rw [unescape?_escapeByte, ih]
    rfl

theorem escape_injective {front back : List UInt8} (h : escape front = escape back) :
    front = back := by
  have hfront := unescape?_escape front
  rw [h, unescape?_escape] at hfront
  exact (Option.some.inj hfront).symm

/-! ## Bytes of paths -/

/-- A text without surrogates has the bytes of its UTF-8 form. -/
theorem encodeLoose_of_scalar {t : Text} (h : ∀ c ∈ t, c.IsScalar) :
    Utf8.encodeLoose t = .ok (t.flatMap Utf8.encodeOne) := by
  have hmark (c : CodePoint) (hc : c ∈ t) : Utf8.isByteMark c = false := by
    have hscalar := h c hc
    unfold CodePoint.IsScalar CodePoint.IsSurrogate at hscalar
    unfold Utf8.isByteMark
    rw [← Bool.not_eq_true, Bool.and_eq_true, decide_eq_true_eq, decide_eq_true_eq]
    omega
  have hstray : Utf8.strayRun? t = none := by
    have hdrop : t.dropWhile (fun c => decide c.IsScalar || Utf8.isByteMark c) = [] := by
      rw [List.dropWhile_eq_nil_iff]
      intro c hc
      rw [decide_eq_true (h c hc), Bool.true_or]
    unfold Utf8.strayRun? Utf8.runAfter?
    rw [hdrop]
  rw [Utf8.encodeLoose, hstray]
  have hbytes : t.flatMap (fun c => if Utf8.isByteMark c then [UInt8.ofNat c.val] else
      Utf8.encodeOne c) = t.flatMap Utf8.encodeOne := by
    refine List.flatMap_congr ?_
    intro c hc
    rw [hmark c hc]
    rfl
  exact congrArg Except.ok hbytes

/-- Texts without surrogates that have the same bytes are the same. -/
theorem eq_of_flatMap_encodeOne_eq {t u : Text} (ht : ∀ c ∈ t, c.IsScalar)
    (hu : ∀ c ∈ u, c.IsScalar) (h : t.flatMap Utf8.encodeOne = u.flatMap Utf8.encodeOne) :
    t = u := by
  have htext := Utf8.decode_eq_ok_iff.mpr ⟨ht, h⟩
  rw [Utf8.decode_eq_ok_iff.mpr ⟨hu, rfl⟩] at htext
  exact (Except.ok.inj htext).symm

/-! ## Absolute paths -/

/-- The slashes at the head of an absolute path: exactly two stay two, any others are one. -/
def headSlashes (t : Text) : Text :=
  if text "//" <+: t ∧ ¬ text "///" <+: t then text "//" else text "/"

/-- The absolute path of a file seen from a directory: its names joined by slashes, behind those of
    the directory if the file is relative. -/
def absolutePath (directory file : Text) : Text :=
  if text "/" <+: file then headSlashes file ++ (text "/").intercalate (names file)
  else headSlashes directory ++ (text "/").intercalate (names directory ++ names file)

/-- The text of an absolute path whose root is read off a text. -/
theorem toText_of_slash_prefix {t : Text} (ht : text "/" <+: t) (components : List Text) :
    FilePath.isAbsolute ⟨rootOf t, components⟩ = true ∧
      toText ⟨rootOf t, components⟩ = headSlashes t ++ (text "/").intercalate components := by
  have habsolute : (rootOf t != .relative) = true := isAbsolute_ofText_iff.mpr ht
  have hhead : headSlashes t = if rootOf t = .twoSlashes then text "//" else text "/" := by
    simp only [headSlashes, rootOf_eq_twoSlashes_iff]
  refine ⟨habsolute, ?_⟩
  rw [hhead, toText, join_eq_intercalate]
  cases hroot : rootOf t with
  | relative =>
    rw [hroot] at habsolute
    cases habsolute
  | slash => rfl
  | twoSlashes => rfl

/-- The path that an address is made from. -/
theorem toText_within {directory : Text} (hd : text "/" <+: directory) (file : Text) :
    ((ofText directory).within (ofText file)).isAbsolute = true ∧
      ((ofText directory).within (ofText file)).toText = absolutePath directory file := by
  rw [within, absolutePath]
  by_cases hf : text "/" <+: file
  · rw [if_pos (isAbsolute_ofText_iff.mpr hf), if_pos hf, ← components_ofText]
    exact toText_of_slash_prefix hf _
  · rw [if_neg (mt isAbsolute_ofText_iff.mp hf), if_neg hf, ← components_ofText,
      ← components_ofText]
    exact toText_of_slash_prefix hd _

theorem mem_intercalate {c : CodePoint} {pieces : List Text}
    (h : c ∈ (text "/").intercalate pieces) : c = '/' ∨ ∃ piece ∈ pieces, c ∈ piece := by
  have hslash (d : CodePoint) (hd : d ∈ text "/") : d = '/' := List.mem_singleton.mp hd
  induction pieces with
  | nil => exact absurd h List.not_mem_nil
  | cons piece pieces ih =>
    by_cases hne : pieces = []
    · rw [hne, List.intercalate_singleton] at h
      exact .inr ⟨piece, List.mem_cons_self, h⟩
    · rw [List.intercalate_cons_of_ne_nil hne, List.mem_append, List.mem_append] at h
      rcases h with (h | h) | h
      · exact .inr ⟨piece, List.mem_cons_self, h⟩
      · exact .inl (hslash c h)
      · rcases ih h with h | ⟨inner, hinner, h⟩
        · exact .inl h
        · exact .inr ⟨inner, List.mem_cons_of_mem _ hinner, h⟩

theorem mem_headSlashes {t : Text} {c : CodePoint} (h : c ∈ headSlashes t) : c = '/' := by
  have hall : ∀ d ∈ text "//", d = '/' := by decide
  rw [headSlashes] at h
  split_ifs at h
  · exact hall c h
  · exact hall c (List.mem_cons_of_mem _ h)

/-- An absolute path holds nothing but slashes and what the directory and the file hold. -/
theorem mem_absolutePath {directory file : Text} {c : CodePoint}
    (h : c ∈ absolutePath directory file) : c = '/' ∨ c ∈ directory ∨ c ∈ file := by
  rw [absolutePath] at h
  split_ifs at h
  · rcases List.mem_append.mp h with h | h
    · exact .inl (mem_headSlashes h)
    · refine (mem_intercalate h).imp_right ?_
      rintro ⟨name, hname, hc⟩
      exact .inr (mem_of_mem_names hname hc)
  · rcases List.mem_append.mp h with h | h
    · exact .inl (mem_headSlashes h)
    · refine (mem_intercalate h).imp_right ?_
      rintro ⟨name, hname, hc⟩
      exact (List.mem_append.mp hname).imp (mem_of_mem_names · hc) (mem_of_mem_names · hc)

theorem isScalar_of_mem_absolutePath {directory file : Text} (hd : ∀ c ∈ directory, c.IsScalar)
    (hf : ∀ c ∈ file, c.IsScalar) : ∀ c ∈ absolutePath directory file, c.IsScalar := by
  intro c hc
  rcases mem_absolutePath hc with rfl | hc | hc
  · decide
  · exact hd c hc
  · exact hf c hc

/-! ## Addresses of files -/

/-- A text is an address already if `://` stands somewhere in it. -/
theorem isAddress_iff {t : Text} : isAddress t = true ↔ mark <:+: t := by
  induction t with
  | nil =>
    refine iff_of_false nofun ?_
    intro h
    exact absurd (List.infix_nil.mp h) (by decide)
  | cons c t ih => rw [isAddress, Bool.or_eq_true, ih, List.infix_cons_iff, List.isPrefixOf_iff_prefix]

section Files

variable {directory file : Text} (hd : text "/" <+: directory)
  (hdirectory : ∀ c ∈ directory, c.IsScalar) (hmark : ¬ mark <:+: file)
  (hfile : ∀ c ∈ file, c.IsScalar)

include hd hdirectory hmark hfile

/-- The address of a file holds the bytes of its absolute path. -/
theorem ofFile_eq : ofFile (some directory) file =
    .ok (text "file://" ++ escape ((absolutePath directory file).flatMap Utf8.encodeOne)) := by
  have hscalar := isScalar_of_mem_absolutePath hdirectory hfile
  obtain ⟨habsolute, htext⟩ := toText_within hd file
  have hpath : ofPath ((ofText directory).within (ofText file)) =
      .ok (text "file://" ++ escape ((absolutePath directory file).flatMap Utf8.encodeOne)) := by
    rw [ofPath, if_pos habsolute, htext, encodeLoose_of_scalar hscalar]
  rw [ofFile, if_neg (mt isAddress_iff.mp hmark), ← hpath]
  simp only
  split_ifs with hf
  · rw [within, if_pos hf]
  · rfl

end Files

theorem bytes_injective {t u : Text} (ht : ∀ c ∈ t, c.IsScalar) (hu : ∀ c ∈ u, c.IsScalar)
    (h : text "file://" ++ escape (t.flatMap Utf8.encodeOne) =
      text "file://" ++ escape (u.flatMap Utf8.encodeOne)) : t = u :=
  eq_of_flatMap_encodeOne_eq ht hu (escape_injective (List.append_cancel_left h))

end Faultline.Uri

namespace Faultline

open Uri EditorSession

/-! ## Documents of an editor -/

/-- The diagnostics of a file are those of the document of its address. -/
theorem diagnosticsFor_eq {directory : Option Text} {file u : Text}
    (hu : ofFile directory file = .ok u) (s : EditorSession) :
    s.diagnosticsFor directory (.string file) = .ok (s.documents u) := by
  rw [diagnosticsFor, ofValue, hu]

theorem standing_add (u w : Text) (d : EditorDiagnostic) :
    standing w [.add u d] = if u = w then [d] else [] := by
  have hadd : Effect.add u d ≠ .clear w := nofun
  rw [← List.nil_append [Effect.add u d], standing_append hadd, Effect.added?]
  split_ifs
  · rfl
  · rfl

/-- Two documents have the same diagnostics after any calls only if they are one. -/
theorem eq_of_documents_eq {directory : Option Text} {file u v : Text}
    (hu : ofFile directory file = .ok u)
    (h : ∀ calls, (sessionAfter calls).documents u = (sessionAfter calls).documents v) :
    v = u := by
  by_contra hne
  let calls : List Call := [⟨directory, .notify file (.int 1) (.string [])⟩]
  have heffects : calls.filterMap Call.effect? = [.add u ⟨0, [], .warning, none⟩] := by
    refine List.filterMap_cons_some ?_
    show ((ofFile directory file).toOption.map fun u => Effect.add u _) = _
    rw [hu]
    rfl
  have htracks := tracks_sessionAfter calls
  have hsame := h calls
  rw [htracks.documents, htracks.documents, heffects, standing_add, standing_add, if_pos rfl,
    if_neg (Ne.symm hne)] at hsame
  cases hsame

/-- The address of a file behind `file://` spells the bytes of its absolute path. Two files have one
    address, and so one list of diagnostics in every editor session, exactly if they have one
    absolute path. -/
theorem ofFile_faithful {directory f g : Text} (hd : text "/" <+: directory)
    (hdirectory : ∀ c ∈ directory, c.IsScalar) (hfmark : ¬ mark <:+: f) (hf : ∀ c ∈ f, c.IsScalar)
    (hgmark : ¬ mark <:+: g) (hg : ∀ c ∈ g, c.IsScalar) :
    (∃ rest, ∃ s : String, ofFile (some directory) f = .ok (text "file://" ++ rest) ∧
      text s = absolutePath directory f ∧ unescape? rest = some s.toUTF8.data.toList) ∧
    (ofFile (some directory) f = ofFile (some directory) g ↔
      absolutePath directory f = absolutePath directory g) ∧
    ((∀ calls, (sessionAfter calls).diagnosticsFor (some directory) (.string f) =
        (sessionAfter calls).diagnosticsFor (some directory) (.string g)) ↔
      absolutePath directory f = absolutePath directory g) := by
  have hfaddress := ofFile_eq hd hdirectory hfmark hf
  have hgaddress := ofFile_eq hd hdirectory hgmark hg
  have hfscalar := isScalar_of_mem_absolutePath hdirectory hf
  have hgscalar := isScalar_of_mem_absolutePath hdirectory hg
  refine ⟨?_, ?_, ?_⟩
  · obtain ⟨s, hs⟩ := Utf8.exists_text_eq_iff.mpr hfscalar
    refine ⟨_, s, hfaddress, hs, ?_⟩
    rw [unescape?_escape, Utf8.toUTF8_eq, hs]
  · rw [hfaddress, hgaddress, Except.ok.injEq]
    constructor
    · exact bytes_injective hfscalar hgscalar
    · intro h
      rw [h]
  · simp only [diagnosticsFor_eq hfaddress, diagnosticsFor_eq hgaddress, Except.ok.injEq]
    constructor
    · intro h
      exact (bytes_injective hgscalar hfscalar (eq_of_documents_eq hfaddress h)).symm
    · intro h calls
      rw [h]

/-- One file under two names, and a file whose name is the address of another. -/
theorem ofFile_faithful_names :
    (text "/" <+: text "/w d" ∧ (∀ c ∈ text "/w d", c.IsScalar)) ∧
    (¬ mark <:+: text "%/./ü" ∧ (∀ c ∈ text "%/./ü", c.IsScalar)) ∧
    (¬ mark <:+: text "/w d//%/ü" ∧ (∀ c ∈ text "/w d//%/ü", c.IsScalar)) ∧
    (¬ mark <:+: text "%25/ü" ∧ (∀ c ∈ text "%25/ü", c.IsScalar)) ∧
    ofFile (some (text "/w d")) (text "%/./ü") =
      ofFile (some (text "/w d")) (text "/w d//%/ü") ∧
    ofFile (some (text "/w d")) (text "%/./ü") ≠ ofFile (some (text "/w d")) (text "%25/ü") := by
  have hscalar (s : String) : ∀ c ∈ text s, c.IsScalar := Utf8.exists_text_eq_iff.mp ⟨s, rfl⟩
  have hd : text "/" <+: text "/w d" := by decide
  have hf : ¬ mark <:+: text "%/./ü" := mt isAddress_iff.mpr (by decide +kernel)
  have hg : ¬ mark <:+: text "/w d//%/ü" := mt isAddress_iff.mpr (by decide +kernel)
  have hh : ¬ mark <:+: text "%25/ü" := mt isAddress_iff.mpr (by decide +kernel)
  refine ⟨⟨hd, hscalar _⟩, ⟨hf, hscalar _⟩, ⟨hg, hscalar _⟩, ⟨hh, hscalar _⟩, ?_, ?_⟩
  · obtain ⟨-, hsame, -⟩ := ofFile_faithful hd (hscalar _) hf (hscalar _) hg (hscalar _)
    exact hsame.mpr (by decide +kernel)
  · obtain ⟨-, hsame, -⟩ := ofFile_faithful hd (hscalar _) hf (hscalar _) hh (hscalar _)
    exact mt hsame.mp (by decide +kernel)

end Faultline
