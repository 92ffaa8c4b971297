import SourceTree.Decimal.Shortest

/-!
# Writing a double

Doubles are written with the fewest digits that read back. Numbers whose leading digit stands
between five places behind the point and fifteen before the units are written out, always with a
point; all others get an exponent with its sign.
-/

namespace SourceTree.Decimal

/-- Least exponent of the leading digit that is written without an exponent. -/
def leastPositional : Int := -5

/-- Greatest exponent of the leading digit that is written without an exponent. -/
def greatestPositional : Int := 15

/-- Copies of the digit zero. -/
def zeros (count : Nat) : String :=
  String.ofList (List.replicate count '0')

/-- The text of a positive decimal. -/
def Scientific.render (decimal : Scientific) : String :=
  let digits := Nat.toDigits 10 decimal.digits
  let leading : Int := decimal.exponent + digits.length - 1
  if leading < leastPositional || greatestPositional < leading then
    let sign := if leading < 0 then "-" else "+"
    let fraction := match digits.drop 1 with
      | [] => ""
      | rest => "." ++ String.ofList rest
    String.ofList (digits.take 1) ++ fraction ++ "e" ++ sign ++ toString leading.natAbs
  else if leading < 0 then
    "0." ++ zeros (leading.natAbs - 1) ++ String.ofList digits
  else if decimal.exponent ≥ 0 then
    String.ofList digits ++ zeros decimal.exponent.toNat ++ ".0"
  else
    let whole := (leading + 1).toNat
    String.ofList (digits.take whole) ++ "." ++ String.ofList (digits.drop whole)

/-- The text of a finite double. -/
def renderFloat (number : Float) : String :=
  let bits := number.toBits
  let signBit : UInt64 := 0x8000000000000000
  let sign := if bits ≥ signBit then "-" else ""
  let magnitude := bits % signBit
  sign ++ if magnitude = 0 then "0.0" else (shortestOfBits magnitude).render

end SourceTree.Decimal
