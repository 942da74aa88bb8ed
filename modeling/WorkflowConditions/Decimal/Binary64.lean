namespace WorkflowConditions

/-!
# Binary floating-point numbers

A number with a fraction is held as the 64 bits of its IEEE 754 double, so two of
them are equal exactly when their bits are, and every question about its value is
a question about integers.
-/

/-- A double-precision number, by its bits. -/
structure Binary64 where
  bits : UInt64
  deriving Repr, DecidableEq, Inhabited

namespace Binary64

/-- Whether the sign bit is set. -/
def isNegative (x : Binary64) : Bool :=
  x.bits >>> 63 == 1

/-- The biased exponent. -/
def exponentField (x : Binary64) : Nat :=
  ((x.bits >>> 52) &&& 0x7ff).toNat

/-- The 52 bits of the fraction. -/
def fractionField (x : Binary64) : Nat :=
  (x.bits &&& 0xfffffffffffff).toNat

/-- Whether the bits stand for a number that is neither infinite nor undefined. -/
def isFinite (x : Binary64) : Bool :=
  x.exponentField != 0x7ff

/-- Whether the bits stand for no number at all. -/
def isNaN (x : Binary64) : Bool :=
  x.exponentField == 0x7ff && x.fractionField != 0

/-- The leading bit of a normal significand, which its fraction leaves out. -/
def hiddenBit : Nat :=
  0x10000000000000

/-- The integer `m` of a finite magnitude `m · 2 ^ q`. -/
def significand (x : Binary64) : Nat :=
  if x.exponentField = 0 then x.fractionField else x.fractionField + hiddenBit

/-- The exponent `q` of a finite magnitude `m · 2 ^ q`. -/
def scale (x : Binary64) : Int :=
  if x.exponentField = 0 then -1074 else (x.exponentField : Int) - 1075

/-- Positive infinity. -/
def infinity : Binary64 :=
  ⟨0x7ff0000000000000⟩

/-- The undefined number. -/
def nan : Binary64 :=
  ⟨0x7ff8000000000000⟩

/-- The number of the opposite sign. -/
def negate (x : Binary64) : Binary64 :=
  ⟨x.bits ^^^ 0x8000000000000000⟩

/-- Number of decimal digits beyond which the magnitude of a decimal overflows in rounding. -/
def decimalLimit : Int :=
  400

/-- The double nearest to `digits · 10 ^ exponent`. -/
def ofDecimal
    (digits : Nat)
    (exponent : Int) :
    Binary64 :=
  let width : Int := (Nat.toDigits 10 digits).length
  if digits = 0 then ⟨0⟩
  else if width + exponent > decimalLimit then infinity
  else if width + exponent < -decimalLimit then ⟨0⟩
  else if 0 ≤ exponent then ⟨(Float.ofScientific digits false exponent.toNat).toBits⟩
  else ⟨(Float.ofScientific digits true (-exponent).toNat).toBits⟩

/-- The integer that a number without fraction is equal to. -/
def toInt? (x : Binary64) : Option Int :=
  if !x.isFinite then none
  else
    let magnitude : Option Nat :=
      if 0 ≤ x.scale then some (x.significand * Nat.pow 2 x.scale.toNat)
      else
        let unit := Nat.pow 2 (-x.scale).toNat
        if x.significand % unit = 0 then some (x.significand / unit) else none
    magnitude.map fun natural => if x.isNegative then -(natural : Int) else natural

end Binary64

end WorkflowConditions
