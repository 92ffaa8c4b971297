/-!
# The shortest decimal of a binary fraction

A positive double is `m · 2^q`. The reals that round to it form an interval around it, whose ends
belong to it exactly when `m` is even. Among all decimals in that interval this module finds the one
with the fewest digits and, of those, the one nearest to the double.

Everything is exact arithmetic on natural numbers: the double and the ends of its interval are put
over one common denominator, and for 1, 2, … 17 digits the two neighbours of the double on the grid
of such decimals are tried.
-/

namespace SourceTree.Decimal

/-- `digits · 10^exponent`. -/
structure Scientific where
  digits : Nat
  exponent : Int
  deriving DecidableEq, Repr

/-- A positive number and the ends of its rounding interval, over one denominator. -/
structure Interval where
  low : Nat
  value : Nat
  high : Nat
  denominator : Nat
  /-- Whether the ends themselves round to the number. -/
  closed : Bool
  deriving Repr

/-- The interval of `mantissa · 2^power`. The lower neighbour of a power of two is half as far
away as the upper one, unless the number is subnormal. -/
def Interval.ofBinary (mantissa : Nat) (power : Int) (powerOfTwo : Bool) : Interval :=
  let scale := if power ≥ 2 then Nat.pow 2 (power - 2).toNat else 1
  let denominator := if power ≥ 2 then 1 else Nat.pow 2 (2 - power).toNat
  { low := (4 * mantissa - if powerOfTwo then 1 else 2) * scale
    value := 4 * mantissa * scale
    high := (4 * mantissa + 2) * scale
    denominator
    closed := mantissa % 2 = 0 }

/-- The interval with numbers measured in units of `10^exponent`. -/
def Interval.inUnits (interval : Interval) (exponent : Int) : Interval :=
  if exponent ≥ 0 then
    { interval with denominator := interval.denominator * Nat.pow 10 exponent.toNat }
  else
    let scale := Nat.pow 10 (-exponent).toNat
    { interval with
      low := interval.low * scale, value := interval.value * scale, high := interval.high * scale }

/-- Whether an integer lies in the interval. -/
def Interval.contains (interval : Interval) (number : Nat) : Bool :=
  let scaled := number * interval.denominator
  if interval.closed then interval.low ≤ scaled && scaled ≤ interval.high
  else interval.low < scaled && scaled < interval.high

/-- The integer nearest to the value among its two neighbours, if one lies in the interval. Of
two equally near ones the even one is taken. -/
def Interval.nearest? (interval : Interval) : Option Nat :=
  let below := interval.value / interval.denominator
  let above := below + 1
  match interval.contains below && below > 0, interval.contains above with
  | true, true =>
      let fromBelow := interval.value - below * interval.denominator
      let fromAbove := above * interval.denominator - interval.value
      if fromBelow < fromAbove || (fromBelow = fromAbove && below % 2 = 0) then some below
      else some above
  | true, false => some below
  | false, true => some above
  | false, false => none

/-- The decimal exponent of the leading digit of `value / denominator`, where at most `fuel`
zeros follow the point. -/
def leadingExponent (value denominator : Nat) : (fuel : Nat) → Int
  | 0 => 0
  | fuel + 1 =>
      if value ≥ denominator then (Nat.toDigits 10 (value / denominator)).length - 1
      else leadingExponent (value * 10) denominator fuel - 1

/-- A decimal without trailing zeros in its digits. -/
def Scientific.trim (digits : Nat) (exponent : Int) : (fuel : Nat) → Scientific
  | 0 => ⟨digits, exponent⟩
  | fuel + 1 =>
      if digits % 10 = 0 then Scientific.trim (digits / 10) (exponent + 1) fuel
      else ⟨digits, exponent⟩

/-- The most digits that a double needs. -/
def maxDigits : Nat := 17

/-- The shortest decimal in the interval, with at least `maxDigits - remaining` digits. -/
def Interval.shortestFrom (interval : Interval) (leading : Int) : (remaining : Nat) → Scientific
  | 0 => ⟨interval.value / interval.denominator, 0⟩
  | remaining + 1 =>
      let exponent := leading - (maxDigits - remaining - 1 : Nat)
      match (interval.inUnits exponent).nearest? with
      | some digits => Scientific.trim digits exponent maxDigits
      | none => interval.shortestFrom leading remaining

/-- The shortest decimal in the interval. -/
def Interval.shortest (interval : Interval) : Scientific :=
  interval.shortestFrom (leadingExponent interval.value interval.denominator 400) maxDigits

/-- The shortest decimal that reads back as the positive finite double with these bits. -/
def shortestOfBits (bits : UInt64) : Scientific :=
  let unit : UInt64 := 0x10000000000000
  let fraction := (bits % unit).toNat
  let biased := (bits / unit % 2048).toNat
  let interval :=
    if biased = 0 then Interval.ofBinary fraction (-1074) false
    else Interval.ofBinary (unit.toNat + fraction) (biased - 1075) (fraction = 0 && biased > 1)
  interval.shortest

end SourceTree.Decimal
