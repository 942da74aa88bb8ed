import WorkflowConditions.Decimal.Binary64

namespace WorkflowConditions.Decimal

/-!
# Shortest decimals

A double is written with the fewest decimal digits that read back as the same
double; of the shortest candidates the one nearest to its value is taken.
Candidates are tested exactly: a finite magnitude is `m · 2 ^ q`, and the reals
that round to it form an interval whose ends are rational.
-/

/-- A positive decimal `digits · 10 ^ exponent`. -/
structure Scientific where
  digits : Nat
  exponent : Int
  deriving Repr, DecidableEq

/-- The reals between `low` and `high`, in units of one over `unit`, that round to `value`. -/
structure Interval where
  low : Nat
  value : Nat
  high : Nat
  unit : Nat
  /-- Whether the two ends round to the value too. -/
  closed : Bool
  deriving Repr

namespace Interval

/-- The interval around a positive finite double. -/
def around (x : Binary64) : Interval :=
  let m := x.significand
  let q := x.scale
  -- Below a power of two the neighbours are half as far apart.
  let narrow := m = Binary64.hiddenBit ∧ x.exponentField > 1
  let below := if narrow then 4 * m - 1 else 4 * m - 2
  let above := 4 * m + 2
  let closed := m % 2 = 0
  if 0 ≤ q then
    let factor := Nat.pow 2 q.toNat
    ⟨below * factor, 4 * m * factor, above * factor, 4, closed⟩
  else
    ⟨below, 4 * m, above, 4 * Nat.pow 2 (-q).toNat, closed⟩

/-- Whether `count · 10 ^ exponent` lies in the interval. -/
def holds
    (interval : Interval)
    (count : Nat)
    (exponent : Int) :
    Bool :=
  let (scaled, factor) :=
    if 0 ≤ exponent then (count * Nat.pow 10 exponent.toNat * interval.unit, 1)
    else (count * interval.unit, Nat.pow 10 (-exponent).toNat)
  let low := interval.low * factor
  let high := interval.high * factor
  if interval.closed then low ≤ scaled && scaled ≤ high else low < scaled && scaled < high

/-- Largest count with `count · 10 ^ exponent` at most the value. -/
def floorCount
    (interval : Interval)
    (exponent : Int) :
    Nat :=
  if 0 ≤ exponent then interval.value / (interval.unit * Nat.pow 10 exponent.toNat)
  else interval.value * Nat.pow 10 (-exponent).toNat / interval.unit

/-- Whether the count after `count` is nearer to the value; a tie goes to the even one. -/
def prefersNext
    (interval : Interval)
    (count : Nat)
    (exponent : Int) :
    Bool :=
  -- Compare twice the value with the sum of both candidates, over a common denominator.
  let (sum, value) :=
    if 0 ≤ exponent then
      ((2 * count + 1) * Nat.pow 10 exponent.toNat * interval.unit, 2 * interval.value)
    else
      ((2 * count + 1) * interval.unit, 2 * interval.value * Nat.pow 10 (-exponent).toNat)
  sum < value || (sum == value && count % 2 == 1)

/-- The candidate on the grid of multiples of `10 ^ exponent`, if one reads back. -/
def candidate?
    (interval : Interval)
    (exponent : Int) :
    Option Scientific :=
  let count := interval.floorCount exponent
  let lower := count ≠ 0 && interval.holds count exponent
  let upper := interval.holds (count + 1) exponent
  if lower && upper then
    some ⟨if interval.prefersNext count exponent then count + 1 else count, exponent⟩
  else if lower then some ⟨count, exponent⟩
  else if upper then some ⟨count + 1, exponent⟩
  else none

/-- Exponent of the leading decimal digit of the value. -/
def leadingExponent (interval : Interval) : Int :=
  if interval.unit ≤ interval.value then
    ((Nat.toDigits 10 (interval.value / interval.unit)).length : Int) - 1
  else
    -((Nat.toDigits 10 ((interval.unit - 1) / interval.value)).length : Int)

/-- First candidate on ever finer grids; `finer` more grids are tried. -/
def search
    (interval : Interval)
    (exponent : Int) :
    (finer : Nat) → Option Scientific
  | 0 => none
  | finer + 1 =>
      match interval.candidate? exponent with
      | some found => some found
      | none => search interval (exponent - 1) finer

end Interval

/-- Drop trailing zeros of a decimal, at most `limit` of them. -/
def Scientific.strip : (limit : Nat) → Scientific → Scientific
  | 0, number => number
  | limit + 1, number =>
      if number.digits ≠ 0 ∧ number.digits % 10 = 0 then
        strip limit ⟨number.digits / 10, number.exponent + 1⟩
      else number

/-- The shortest decimal that reads back as a positive finite double. -/
def shortest (x : Binary64) : Scientific :=
  let interval := Interval.around x
  let found := interval.search (interval.leadingExponent + 1) 20
  (found.getD ⟨0, 0⟩).strip 400

/-- Decimal digits of a natural number. -/
def digitText (n : Nat) : String :=
  String.ofList (Nat.toDigits 10 n)

/-- A number of zeros. -/
def zeros (count : Nat) : String :=
  String.ofList (List.replicate count '0')

/-- The least exponent of a leading digit in positional notation: the fourth place after the
point. -/
def leastPositional : Int :=
  -4

/-- The greatest exponent of a leading digit in positional notation: the sixteenth place before
the point. -/
def greatestPositional : Int :=
  15

/-- An exponent with its sign and at least two digits. -/
def exponentText (exponent : Int) : String :=
  let size := digitText exponent.natAbs
  (if exponent < 0 then "-" else "+") ++ (if size.length < 2 then "0" ++ size else size)

/-- Text of a positive decimal; a whole number keeps one zero after the point. -/
def Scientific.text (number : Scientific) : String :=
  let digits := digitText number.digits
  let leading := number.exponent + (digits.length : Int) - 1
  if leastPositional ≤ leading ∧ leading ≤ greatestPositional then
    if 0 ≤ number.exponent then digits ++ zeros number.exponent.toNat ++ ".0"
    else if leading < 0 then "0." ++ zeros (-leading - 1).toNat ++ digits
    else
      let whole := leading.toNat + 1
      String.ofList (digits.toList.take whole) ++ "." ++ String.ofList (digits.toList.drop whole)
  else
    let first := String.ofList (digits.toList.take 1)
    let others := String.ofList (digits.toList.drop 1)
    first ++ (if others = "" then "" else "." ++ others) ++ "e" ++ exponentText leading

end WorkflowConditions.Decimal

namespace WorkflowConditions.Binary64

/-- Text of a double: its sign and the shortest decimal that reads back. -/
def text (x : Binary64) : String :=
  let sign := if x.isNegative then "-" else ""
  if x.isNaN then "nan"
  else if !x.isFinite then sign ++ "inf"
  else if x.significand = 0 then sign ++ "0.0"
  else sign ++ (Decimal.shortest x).text

end WorkflowConditions.Binary64
