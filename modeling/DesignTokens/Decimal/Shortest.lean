import DesignTokens.Decimal.Double

/-!
# The shortest decimal that reads back

A double stands for the interval of reals that round to it. `shortest` finds the decimal with the
fewest digits in that interval, and of those the one nearest to the double. The search tries grids
of one digit, two digits, and so on. If any point of a grid lies in the interval, so does one of
the two neighbours of the double on that grid, and only those two are tested.
-/

namespace DesignTokens.Double

/-- `digits * 10 ^ exponent`. -/
structure Decimal where
  digits : Nat
  exponent : Int
  deriving DecidableEq

/-- Compares `a * 10 ^ i` with `b * 2 ^ j` by clearing both denominators. -/
def compareScaled (a : Nat) (i : Int) (b : Nat) (j : Int) : Ordering :=
  compare (a * .pow 10 i.toNat * .pow 2 (-j).toNat) (b * .pow 2 j.toNat * .pow 10 (-i).toNat)

/-- Whether the decimal lies among the reals that round to the double. The interval reaches halfway
to each neighbour, and holds its ends exactly when the mantissa is even. -/
def Scaled.readsBack (x : Scaled) (d : Decimal) : Bool :=
  let low := if x.narrowBelow then 4 * x.mantissa - 1 else 4 * x.mantissa - 2
  let high := 4 * x.mantissa + 2
  let closed := x.mantissa % 2 == 0
  let atLow := compareScaled d.digits d.exponent low (x.exponent - 2)
  let atHigh := compareScaled d.digits d.exponent high (x.exponent - 2)
  (atLow == .gt || (closed && atLow == .eq)) && (atHigh == .lt || (closed && atHigh == .eq))

/-- The least `k` with `mantissa * 2 ^ exponent < 10 ^ k`, from an estimate by the binary logarithm
and at most three exact comparisons. -/
def Scaled.scale (x : Scaled) : Int :=
  let estimate := ((x.mantissa.log2 : Int) + x.exponent) * 30103 / 100000
  let below (k : Int) : Bool := compareScaled 1 k x.mantissa x.exponent == .gt
  if below estimate then estimate
  else if below (estimate + 1) then estimate + 1
  else if below (estimate + 2) then estimate + 2
  else estimate + 3

/-- The two neighbours of the double on the grid of `10 ^ exponent`, tested. Of two hits the nearer
wins, and of two equally near the even one. -/
def Scaled.onGrid (x : Scaled) (exponent : Int) : Option Decimal :=
  let num := x.mantissa * .pow 2 x.exponent.toNat * .pow 10 (-exponent).toNat
  let den := Nat.pow 2 (-x.exponent).toNat * .pow 10 exponent.toNat
  let below := num / den
  match x.readsBack ⟨below, exponent⟩, x.readsBack ⟨below + 1, exponent⟩ with
  | false, false => none
  | true, false => some ⟨below, exponent⟩
  | false, true => some ⟨below + 1, exponent⟩
  | true, true =>
    match compare (2 * (num % den)) den with
    | .lt => some ⟨below, exponent⟩
    | .gt => some ⟨below + 1, exponent⟩
    | .eq => some ⟨if below % 2 = 0 then below else below + 1, exponent⟩

/-- The digits without trailing zeros. -/
def Decimal.strip (d : Decimal) : Decimal :=
  let zeros := ((Nat.toDigits 10 d.digits).reverse.takeWhile (· == '0')).length
  if d.digits = 0 then d else ⟨d.digits / .pow 10 zeros, d.exponent + zeros⟩

/-- The shortest decimal that reads back to a positive finite double. Seventeen digits are enough
for every double. Should a search fail, the exact value is returned. -/
def Scaled.shortest (x : Scaled) : Decimal :=
  let k := x.scale
  let found := (List.range 17).findSome? fun (n : Nat) => x.onGrid (k - 1 - n)
  let exact : Decimal :=
    ⟨x.mantissa * .pow 2 x.exponent.toNat * .pow 5 (-x.exponent).toNat, min 0 x.exponent⟩
  (found.getD exact).strip

end DesignTokens.Double
