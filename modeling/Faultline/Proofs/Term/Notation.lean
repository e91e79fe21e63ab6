import Faultline.Term.Basic
import Faultline.Text.Numeric
import Faultline.Text.Uppercase

/-!
# Written terms

How terms without floating-point numbers are written down. `Written v t` gives the rules of the
notation: an atom stands between single quotes or, if it is a plain name, without them; an integer
in decimal; the text of a binary between double quotes, with its type; and the elements of tuples
and lists with commas between them and no blanks. `render` is the writing that quotes every atom.

Not every term can be read back from what is written: `Renderable` leaves out floating-point
numbers, integers past the limit of decimal numerals, texts with surrogates, and lists whose tail is
a list again.

Results:
* `written_render`: what `render` writes follows the rules.
-/

namespace Faultline.Term

/-! ## Names and texts -/

/-- A code point between quotes: a backslash protects backslashes and the quotes themselves. -/
def protect (quote c : CodePoint) : Text :=
  if c = '\\' ∨ c = quote then ['\\', c] else [c]

/-- A text between quotes. -/
def enclose (quote : CodePoint) (t : Text) : Text :=
  quote :: (t.flatMap (protect quote) ++ [quote])

/-- A name that is an atom without quotes: a letter that is no capital, followed by letters, digits,
    underscores and at signs. -/
inductive IsBareName : Text → Prop where
  | mk {c : CodePoint} {more : Text} (hletter : Text.isLetter c = true)
    (hcase : Text.isUppercase c = false)
    (hmore : ∀ d ∈ more, Text.isAlphanumeric d = true ∨ d = '_' ∨ d = '@') : IsBareName (c :: more)

/-! ## Terms -/

/-- The text is a way to write the term. -/
inductive Written : Term → Text → Prop where
  | quotedAtom (name : Text) : Written (.atom name) (enclose '\'' name)
  | bareAtom {name : Text} (h : IsBareName name) : Written (.atom name) name
  | int (n : Int) : Written (.int n) (Numeral.ofInt n)
  | binary (t : Text) : Written (.binary t) (text "<<" ++ enclose '"' t ++ text "/utf8>>")
  | tuple (parts : List (Term × Text)) (h : ∀ p ∈ parts, Written p.1 p.2) :
    Written (.tuple (parts.map Prod.fst))
      (text "\x7b" ++ Text.join (text ",") (parts.map Prod.snd) ++ text "\x7d")
  | list (parts : List (Term × Text)) (h : ∀ p ∈ parts, Written p.1 p.2) :
    Written (.list (parts.map Prod.fst))
      (text "[" ++ Text.join (text ",") (parts.map Prod.snd) ++ text "]")
  | improper (parts : List (Term × Text)) (h : ∀ p ∈ parts, Written p.1 p.2) {tail : Term}
    {t : Text} (ht : Written tail t) :
    Written (.improper (parts.map Prod.fst) tail)
      (text "[" ++ Text.join (text ",") (parts.map Prod.snd) ++ text "|" ++ t ++ text "]")

/-- The terms whose writings can be read back. -/
inductive Renderable : Term → Prop where
  | atom (name : Text) : Renderable (.atom name)
  | int {n : Int} (h : (Numeral.ofNat n.natAbs).length ≤ Numeral.decimalLimit) :
    Renderable (.int n)
  | binary {t : Text} (h : ∀ c ∈ t, c.IsScalar) : Renderable (.binary t)
  | tuple {elements : List Term} (h : ∀ v ∈ elements, Renderable v) : Renderable (.tuple elements)
  | list {elements : List Term} (h : ∀ v ∈ elements, Renderable v) : Renderable (.list elements)
  | improper {elements : List Term} (hne : elements ≠ []) (h : ∀ v ∈ elements, Renderable v)
    {tail : Term} (ht : Renderable tail) (hlist : tail.listElements? = none) :
    Renderable (.improper elements tail)

mutual

/-- The term with every atom between quotes. -/
def render : Term → Text
  | .atom name => enclose '\'' name
  | .binary t => text "<<" ++ enclose '"' t ++ text "/utf8>>"
  | .int n => Numeral.ofInt n
  | .float x => x.display
  | .tuple elements => text "\x7b" ++ Text.join (text ",") (renderEach elements) ++ text "\x7d"
  | .list elements => text "[" ++ Text.join (text ",") (renderEach elements) ++ text "]"
  | .improper elements tail =>
    text "[" ++ Text.join (text ",") (renderEach elements) ++ text "|" ++ render tail ++ text "]"
termination_by structural v => v

/-- The terms of a list, each as `render` writes it. -/
def renderEach : List Term → List Text
  | [] => []
  | v :: rest => render v :: renderEach rest
termination_by structural vs => vs

end

theorem renderEach_eq_map (elements : List Term) : renderEach elements = elements.map render := by
  induction elements with
  | nil => rfl
  | cons v rest ih => rw [renderEach, ih, List.map_cons]

/-- Elements together with their writings. -/
def rendered (elements : List Term) : List (Term × Text) := elements.map fun v => (v, render v)

theorem map_fst_rendered (elements : List Term) : (rendered elements).map Prod.fst = elements := by
  unfold rendered
  rw [List.map_map]
  exact List.map_id elements

theorem map_snd_rendered (elements : List Term) :
    (rendered elements).map Prod.snd = renderEach elements := by
  unfold rendered
  rw [List.map_map, renderEach_eq_map]
  rfl

theorem written_rendered {elements : List Term} (h : ∀ v ∈ elements, Written v (render v)) :
    ∀ p ∈ rendered elements, Written p.1 p.2 := by
  intro p hp
  obtain ⟨v, hv, rfl⟩ := List.mem_map.mp hp
  exact h v hv

/-- What `render` writes follows the rules. -/
theorem written_render {v : Term} (h : Renderable v) : Written v (render v) := by
  induction h with
  | atom name => exact .quotedAtom name
  | int h => exact .int _
  | binary h => exact .binary _
  | @tuple elements _ ih =>
    have htuple := Written.tuple _ (written_rendered ih)
    rwa [map_fst_rendered, map_snd_rendered] at htuple
  | @list elements _ ih =>
    have hlist := Written.list _ (written_rendered ih)
    rwa [map_fst_rendered, map_snd_rendered] at hlist
  | @improper elements hne _ tail _ hlist ih iht =>
    have himproper := Written.improper _ (written_rendered ih) iht
    rwa [map_fst_rendered, map_snd_rendered] at himproper

end Faultline.Term
