import Faultline.Proofs.Term.Segment
import Faultline.Term.Parser

/-!
# The grammar of terms

`Derives ts v` says that the tokens `ts` are a term of the value `v`. In the usual notation:

```
term    = ATOM | number | STRING+
        | "{" [term ("," term)*] "}"
        | "[" [term ("," term)*] "]"
        | "[" term ("," term)* "|" term "]"
        | "<<" [segment ("," segment)*] ">>"
number  = ["-" | "+"] (INTEGER | FLOAT | CHAR)
segment = (STRING+ | ["-" | "+"] (INTEGER | CHAR))
          [":" INTEGER] ["/" ATOM ("-" ATOM)*]
```

The grammar does not mention the machine that reads tokens; that the two agree is
`parse_eq_ok_iff`.
-/

namespace Faultline.Term

/-! ## Sequences with commas -/

/-- Sequences of tokens with a comma between neighbours. -/
def commaJoin : List (List Token) → List Token
  | [] => []
  | [ts] => ts
  | ts :: us :: rest => ts ++ .comma :: commaJoin (us :: rest)

/-- Sequences of tokens with a comma behind each. -/
def commaAfterEach (parts : List (List Token)) : List Token :=
  parts.flatMap fun ts => ts ++ [.comma]

theorem commaAfterEach_append (parts more : List (List Token)) :
    commaAfterEach (parts ++ more) = commaAfterEach parts ++ commaAfterEach more :=
  List.flatMap_append

theorem commaAfterEach_singleton (ts : List Token) : commaAfterEach [ts] = ts ++ [.comma] := by
  unfold commaAfterEach
  rw [List.flatMap_singleton]

/-- Between the sequences stand commas: one behind each but the last. -/
theorem commaJoin_append (parts : List (List Token)) {more : List (List Token)} (hne : more ≠ []) :
    commaJoin (parts ++ more) = commaAfterEach parts ++ commaJoin more := by
  induction parts with
  | nil => rfl
  | cons us parts ih =>
    have hcons : commaJoin (us :: (parts ++ more)) = us ++ .comma :: commaJoin (parts ++ more) := by
      cases parts with
      | nil =>
        cases more with
        | nil => exact absurd rfl hne
        | cons ts more => rfl
      | cons vs parts => rfl
    rw [List.cons_append, hcons, ih]
    unfold commaAfterEach
    rw [List.flatMap_cons, List.append_assoc, List.append_assoc, List.singleton_append]

theorem commaJoin_append_singleton (parts : List (List Token)) (ts : List Token) :
    commaJoin (parts ++ [ts]) = commaAfterEach parts ++ ts :=
  commaJoin_append parts (List.cons_ne_nil ts [])

theorem commaJoin_cons (ts : List Token) (parts : List (List Token)) :
    ∃ us, commaJoin (ts :: parts) = ts ++ us := by
  cases parts with
  | nil => exact ⟨[], (List.append_nil ts).symm⟩
  | cons next parts => exact ⟨.comma :: commaJoin (next :: parts), rfl⟩

/-! ## Numbers -/

/-- The tokens of a number, which may have a sign. -/
inductive IsNumber : List Token → Term → Prop where
  | integer (n : Int) : IsNumber [.integer n] (.int n)
  | char (n : Int) : IsNumber [.char n] (.int n)
  | float (x : Binary64) : IsNumber [.float x] (.float x)
  | plus {t : Token} {v : Term} (h : IsNumber [t] v) : IsNumber [.plus, t] v
  | minusInt {t : Token} {n : Int} (h : IsNumber [t] (.int n)) : IsNumber [.minus, t] (.int (-n))
  | minusFloat {t : Token} {x : Binary64} (h : IsNumber [t] (.float x)) :
    IsNumber [.minus, t] (.float x.negate)

/-! ## Segments -/

/-- The tokens of the value of a segment. -/
inductive IsSegmentValue : List Token → SegmentValue → Prop where
  /-- Strings that stand next to each other are one text. -/
  | chars (ss : List Text) (h : ss ≠ []) : IsSegmentValue (ss.map .string) (.chars ss.flatten)
  | integer {ts : List Token} {n : Int} (h : IsNumber ts (.int n)) : IsSegmentValue ts (.integer n)

/-- The tokens of an optional size. -/
def sizeTokens : Option Int → List Token
  | none => []
  | some n => [.colon, .integer n]

/-- The tokens of optional type names. -/
def typeTokens : List Text → List Token
  | [] => []
  | name :: more => .slash :: .atom name :: more.flatMap fun m => [.minus, .atom m]

/-- The tokens of a segment and the bytes it stands for. Without a size it has eight bits. -/
inductive IsSegment : List Token → List UInt8 → Prop where
  | mk {ts : List Token} {value : SegmentValue} (size : Option Int) (types : List Text)
    {bytes : List UInt8} (hv : IsSegmentValue ts value)
    (hb : Segment.StandsFor ⟨value, size.getD 8, types⟩ bytes) :
    IsSegment (ts ++ sizeTokens size ++ typeTokens types) bytes

/-! ## Terms -/

/-- The tokens of a term and its value. -/
inductive Derives : List Token → Term → Prop where
  | atom (name : Text) : Derives [.atom name] (.atom name)
  | number {ts : List Token} {v : Term} (h : IsNumber ts v) : Derives ts v
  /-- Strings that stand next to each other are the list of all their code points. -/
  | chars (ss : List Text) (h : ss ≠ []) :
    Derives (ss.map .string) (.list (ss.flatten.map fun c => .int c.val))
  | tuple (parts : List (List Token × Term)) (h : ∀ p ∈ parts, Derives p.1 p.2) :
    Derives (.braceOpen :: commaJoin (parts.map Prod.fst) ++ [.braceClose])
      (.tuple (parts.map Prod.snd))
  | list (parts : List (List Token × Term)) (h : ∀ p ∈ parts, Derives p.1 p.2) :
    Derives (.bracketOpen :: commaJoin (parts.map Prod.fst) ++ [.bracketClose])
      (.list (parts.map Prod.snd))
  /-- Elements in front of a bar are put in front of the tail. -/
  | withTail (parts : List (List Token × Term)) (hne : parts ≠ [])
    (h : ∀ p ∈ parts, Derives p.1 p.2) {ts : List Token} {tail : Term} (ht : Derives ts tail) :
    Derives (.bracketOpen :: commaJoin (parts.map Prod.fst) ++ .bar :: ts ++ [.bracketClose])
      (Term.withTail (parts.map Prod.snd) tail)
  /-- The bytes of the segments are the bytes of the text. -/
  | binary (parts : List (List Token × List UInt8)) (h : ∀ p ∈ parts, IsSegment p.1 p.2) {t : Text}
    (ht : BytesSpell (parts.flatMap Prod.snd) t) :
    Derives (.binaryOpen :: commaJoin (parts.map Prod.fst) ++ [.binaryClose]) (.binary t)

end Faultline.Term
