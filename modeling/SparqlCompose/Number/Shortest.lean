import SparqlCompose.Number.Double

namespace SparqlCompose.Number

/-- A positive number with the ends of its interval, all three over the same denominator. -/
structure Interval where
  low : Nat
  value : Nat
  high : Nat
  den : Nat
  closed : Bool

namespace Interval

def ofFinite (mantissa : Nat) (exponent : Int) : Interval :=
  let below := if mantissa = Nat.pow 2 52 ∧ Double.leastExponent < exponent then 1 else 2
  let (num, den) := Double.scale 1 1 (2 - exponent)
  ⟨(4 * mantissa - below) * num, 4 * mantissa * num, (4 * mantissa + 2) * num, den,
    mantissa % 2 == 0⟩

def magnitude (i : Interval) : Int :=
  if i.den ≤ i.value then (toString (i.value / i.den)).length
  else 1 - ((toString (i.den / i.value)).length : Int)

def holds (i : Interval) (digit num den : Nat) : Bool :=
  let x := digit * num * i.den
  if i.closed then i.low * den ≤ x && x ≤ i.high * den
  else i.low * den < x && x < i.high * den

/-- The digits with grid step `10 ^ exponent` that read back, if there are any. -/
def onGrid? (i : Interval) (exponent : Int) : Option Nat :=
  let (num, den) :=
    if exponent < 0 then (1, Nat.pow 10 (-exponent).toNat) else (Nat.pow 10 exponent.toNat, 1)
  let below := i.value * den / (i.den * num)
  let above := below + 1
  match i.holds below num den, i.holds above num den with
  | true, true =>
    let half := (below + above) * num * i.den
    let point := 2 * i.value * den
    if point < half then some below
    else if half < point then some above
    else if below % 2 = 0 then some below else some above
  | true, false => some below
  | false, true => some above
  | false, false => none

def search (i : Interval) (fuel : Nat) (exponent : Int) : Nat × Int :=
  match i.onGrid? exponent, fuel with
  | some digits, _ => (digits, exponent)
  | none, 0 => (0, exponent)
  | none, fuel + 1 => i.search fuel (exponent - 1)

end Interval

/-- Digits and exponent of the shortest decimal that reads back as `mantissa · 2 ^ exponent`.
Seventeen digits always suffice. -/
def shortest (mantissa : Nat) (exponent : Int) : Nat × Int :=
  let i := Interval.ofFinite mantissa exponent
  i.search 17 (i.magnitude - 1)

end SparqlCompose.Number
