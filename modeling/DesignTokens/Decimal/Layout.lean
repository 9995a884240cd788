import DesignTokens.Decimal.Shortest

/-!
# How a double is laid out

`Layout` holds the decisions of a number format, and `Double.text` writes a double by them.
`tokenNumbers` is the layout of token values and messages.
-/

namespace DesignTokens.Double

/-- The decisions that remain once the digits are chosen. -/
structure Layout where
  /-- The least exponent of the leading digit that is written positionally. -/
  plainFrom : Int
  /-- The least exponent above it that is not. -/
  plainBelow : Int
  /-- The least number of digits of a written exponent. -/
  exponentWidth : Nat
  /-- The word for what is no number. -/
  nanWord : String
  /-- The word for infinity, which takes a sign. -/
  infinityWord : String

/-- Numbers in token values are written positionally from 0.0001 up to below 10 ^ 16, always with a
point. Other numbers get a signed exponent of at least two digits. -/
def tokenNumbers : Layout := ⟨-4, 16, 2, "nan", "inf"⟩

/-- Places the digits of a positive decimal. -/
def Layout.place (layout : Layout) (d : Decimal) : List Char :=
  let digits := Nat.toDigits 10 d.digits
  let leading : Int := d.exponent + digits.length - 1
  if layout.plainFrom ≤ leading ∧ leading < layout.plainBelow then
    if 0 ≤ d.exponent then digits ++ List.replicate d.exponent.toNat '0' ++ ['.', '0']
    else if 0 ≤ leading then
      digits.take (leading + 1).toNat ++ '.' :: digits.drop (leading + 1).toNat
    else '0' :: '.' :: List.replicate (-leading - 1).toNat '0' ++ digits
  else
    let fraction := if digits.length = 1 then [] else '.' :: digits.drop 1
    let exponent := Nat.toDigits 10 leading.natAbs
    digits.take 1 ++ fraction ++ ['e', if leading < 0 then '-' else '+'] ++
      List.replicate (layout.exponentWidth - exponent.length) '0' ++ exponent

/-- A double as text. Zero keeps its sign. -/
def text (layout : Layout) (x : Double) : String :=
  let sign := if x.negative then "-" else ""
  if x.isNaN then layout.nanWord
  else if x.isInfinite then sign ++ layout.infinityWord
  else if x.scaled.mantissa = 0 then sign ++ "0.0"
  else sign ++ String.ofList (layout.place x.scaled.shortest)

example : text tokenNumbers (ofDecimal 1 (-1)) = "0.1" := by decide +kernel
example : text tokenNumbers (ofDecimal 1 16) = "1e+16" := by decide +kernel

end DesignTokens.Double
