namespace EntityDiagram

/-- The number `coefficient * 10 ^ exponent`. -/
structure Decimal where
  coefficient : Nat
  exponent : Int
  deriving DecidableEq, Repr

/-- The number `significand * 2 ^ exponent` of the double grid. -/
structure Dyadic where
  significand : Nat
  exponent : Int
  /-- The grid below is twice as fine, so the neighbour below is at half the distance. -/
  finerBelow : Bool
  deriving DecidableEq, Repr

namespace Dyadic

/-- The bit that the significand of a normal double begins with. -/
def leadingBit : Nat := 0x10000000000000

/-- The absolute value of a double by its bits; infinities and NaN have none. -/
def ofBits? (bits : UInt64) : Option Dyadic :=
  let biased := (bits.toNat / leadingBit) % 2048
  let fraction := bits.toNat % leadingBit
  if biased = 2047 then none
  else if biased = 0 then some ⟨fraction, -1074, false⟩
  else some ⟨leadingBit + fraction, biased - 1075, fraction = 0 && 1 < biased⟩

/-- The lower end of the interval that rounds to the number, in quarters of its last place. -/
def low (x : Dyadic) : Nat := 4 * x.significand - if x.finerBelow then 1 else 2

/-- The upper end of that interval. -/
def high (x : Dyadic) : Nat := 4 * x.significand + 2

/-- What a quarter of the last place weighs, where `decimalUnit` is the weight of `10 ^ e`. -/
def quarter (x : Dyadic) (e : Int) : Nat :=
  Nat.pow 2 (x.exponent - 2).toNat * Nat.pow 10 (-e).toNat

/-- What `10 ^ e` weighs beside `quarter`. -/
def decimalUnit (x : Dyadic) (e : Int) : Nat :=
  Nat.pow 10 e.toNat * Nat.pow 2 (2 - x.exponent).toNat

/-- The decimal lies in the interval; its ends belong to it when the significand is even. -/
def roundsFrom (x : Dyadic) (d : Decimal) : Bool :=
  let point := d.coefficient * x.decimalUnit d.exponent
  let low := x.low * x.quarter d.exponent
  let high := x.high * x.quarter d.exponent
  if x.significand % 2 = 0 then low ≤ point && point ≤ high else low < point && point < high

/-- The power of ten of the leading digit. -/
def magnitude (x : Dyadic) : Int :=
  let guess := (x.significand.log2 + x.exponent) * 30103 / 100000
  let reached (e : Int) : Bool := x.decimalUnit e ≤ 4 * x.significand * x.quarter e
  if reached (guess + 1) then guess + 1 else if reached guess then guess else guess - 1

/-- The nearest multiple of `10 ^ e` that rounds to the number, the even one of two as near. -/
def onGrid? (x : Dyadic) (e : Int) : Option Decimal :=
  let value := 4 * x.significand * x.quarter e
  let unit := x.decimalUnit e
  let below : Decimal := ⟨value / unit, e⟩
  let above : Decimal := ⟨value / unit + 1, e⟩
  let nearer := if 2 * (value % unit) < unit ∨
    (2 * (value % unit) = unit ∧ below.coefficient % 2 = 0) then below else above
  [nearer, below, above].find? x.roundsFrom

end Dyadic

/-- The number without zeros at the end of its coefficient, of which `fuel` are looked at. -/
def Decimal.strip : Nat → Decimal → Decimal
  | 0, d => d
  | fuel + 1, d =>
    if d.coefficient ≠ 0 ∧ d.coefficient % 10 = 0 then
      strip fuel ⟨d.coefficient / 10, d.exponent + 1⟩
    else d

/-- The decimal of fewest digits that rounds to the number, the nearest of these. -/
def Dyadic.shortest (x : Dyadic) : Decimal :=
  let grids := (List.range 17).map fun (n : Nat) => x.magnitude - n
  ((grids.findSome? x.onGrid?).getD ⟨0, 0⟩).strip 17

end EntityDiagram
