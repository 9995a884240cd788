/-!
# Doubles as bit patterns

A number of a data format that is not an integer is an IEEE double. It is kept as its bit pattern,
so that equality is plain equality and everything about it is integer arithmetic.

* `Double.ofDecimal` rounds a decimal to the nearest double, ties to even. What is too large
  becomes infinite.
* `Double.scaled` reads a finite pattern as `mantissa * 2 ^ exponent`.
-/

namespace DesignTokens

/-- An IEEE double by its bits. -/
structure Double where
  bits : UInt64
  deriving DecidableEq

namespace Double

def ofFloat (x : Float) : Double := ⟨x.toBits⟩

def infinity : Double := ⟨0x7FF0000000000000⟩

def notANumber : Double := ⟨0x7FF8000000000000⟩

/-- Whether the sign bit is set. -/
def negative (x : Double) : Bool := x.bits >>> 63 == 1

def neg (x : Double) : Double := ⟨x.bits ^^^ 0x8000000000000000⟩

/-- The eleven exponent bits. -/
def exponentBits (x : Double) : Nat := ((x.bits >>> 52) &&& 0x7FF).toNat

/-- The fifty-two fraction bits. -/
def fractionBits (x : Double) : Nat := (x.bits &&& 0xFFFFFFFFFFFFF).toNat

def isNaN (x : Double) : Bool := x.exponentBits == 0x7FF && x.fractionBits != 0

def isInfinite (x : Double) : Bool := x.exponentBits == 0x7FF && x.fractionBits == 0

/-- The double nearest to `digits * 10 ^ exponent`. Beyond the widest range of doubles the answer
is known from the place of the leading digit alone, so no power of ten larger than that range is
ever computed. -/
def ofDecimal (digits : Nat) (exponent : Int) : Double :=
  if digits = 0 then ⟨0⟩
  else
    let leading := (Nat.toDigits 10 digits).length + exponent
    if leading > 400 then infinity
    else if leading < -400 then ⟨0⟩
    else ofFloat (Float.ofScientific digits (exponent < 0) exponent.natAbs)

/-- The magnitude of a finite double, `mantissa * 2 ^ exponent`. -/
structure Scaled where
  mantissa : Nat
  exponent : Int
  /-- The gap to the double below is half the gap to the double above. -/
  narrowBelow : Bool

/-- The magnitude of a finite double. -/
def scaled (x : Double) : Scaled :=
  if x.exponentBits = 0 then ⟨x.fractionBits, -1074, false⟩
  else ⟨Nat.pow 2 52 + x.fractionBits, (x.exponentBits : Int) - 1075,
    x.fractionBits == 0 && x.exponentBits > 1⟩

end Double

end DesignTokens
