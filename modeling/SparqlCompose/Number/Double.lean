namespace SparqlCompose.Number

inductive Double
  | nan
  | infinite (negative : Bool)
  | finite (negative : Bool) (mantissa : Nat) (exponent : Int)
deriving DecidableEq, Inhabited

namespace Double

def leastExponent : Int := -1074

def greatestExponent : Int := 971

def zero (negative : Bool) : Double := .finite negative 0 leastExponent

def same : Double → Double → Bool
  | .infinite n, .infinite m => n == m
  | .finite n a i, .finite m b j => (a == 0 && b == 0) || (n == m && a == b && i == j)
  | _, _ => false

/-- Division rounded to the nearest, a half going to the even neighbour. -/
def roundDiv (num den : Nat) : Nat :=
  let q := num / den
  let r := num % den
  if 2 * r < den then q
  else if den < 2 * r then q + 1
  else if q % 2 = 0 then q else q + 1

def scale (num den : Nat) (e : Int) : Nat × Nat :=
  if e < 0 then (num * Nat.pow 2 (-e).toNat, den) else (num, den * Nat.pow 2 e.toNat)

/-- The number nearest to `num / den`, a half going to the even mantissa. -/
def ofRatio (negative : Bool) (num den : Nat) : Double :=
  if num = 0 then zero negative
  else
    let guess : Int := (Nat.log2 num : Int) - (Nat.log2 den : Int) - 52
    let (a, b) := scale num den guess
    let e := if a / b < Nat.pow 2 52 then guess - 1 else guess
    let e := max e leastExponent
    let (a, b) := scale num den e
    let m := roundDiv a b
    let (m, e) := if m = Nat.pow 2 53 then (Nat.pow 2 52, e + 1) else (m, e)
    if greatestExponent < e then .infinite negative else .finite negative m e

def ofDecimal (negative : Bool) (digits : Nat) (exponent : Int) : Double :=
  let length : Int := (toString digits).length
  if digits = 0 then zero negative
  else if 310 < length + exponent then .infinite negative
  else if length + exponent < -330 then zero negative
  else if exponent < 0 then ofRatio negative digits (Nat.pow 10 (-exponent).toNat)
  else ofRatio negative (digits * Nat.pow 10 exponent.toNat) 1

def isZero : Double → Bool
  | .finite _ 0 _ => true
  | _ => false

end Double

end SparqlCompose.Number
