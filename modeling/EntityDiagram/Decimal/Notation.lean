import EntityDiagram.Decimal.Shortest

namespace EntityDiagram

namespace Decimal

/-- Numbers with this power of ten at their leading digit are written without an exponent. -/
def isPositional (magnitude : Int) : Bool := -5 ≤ magnitude && magnitude ≤ 15

/-- Digits with a point before the last `-exponent` of them, and at least one digit on each side. -/
def positional (digits : List Char) (exponent : Int) : List Char :=
  let places := (-exponent).toNat
  let padded := List.replicate (places + 1 - digits.length) '0' ++ digits ++
    List.replicate exponent.toNat '0'
  let whole := padded.length - places
  padded.take whole ++ '.' :: if places = 0 then ['0'] else padded.drop whole

/-- One digit before the point, and the power of ten with its sign. -/
def scientific (digits : List Char) (magnitude : Int) : List Char :=
  let fraction := if digits.tail = [] then [] else '.' :: digits.tail
  let sign := if magnitude < 0 then '-' else '+'
  digits.take 1 ++ fraction ++ 'e' :: sign :: Nat.toDigits 10 magnitude.natAbs

/-- The text of a decimal, always with a point or an exponent. -/
def render (d : Decimal) : String :=
  let digits := Nat.toDigits 10 d.coefficient
  let magnitude := d.exponent + digits.length - 1
  String.ofList <|
    if isPositional magnitude then positional digits d.exponent else scientific digits magnitude

end Decimal

/-- The shortest text that reads back as the double; infinities and NaN have none. -/
def decimalText? (x : Float) : Option String :=
  (Dyadic.ofBits? x.toBits).map fun magnitude =>
    let text := if magnitude.significand = 0 then "0.0" else magnitude.shortest.render
    if x.toBits >>> 63 = 1 then "-" ++ text else text

end EntityDiagram
