import SparqlCompose.Number.Shortest

namespace SparqlCompose.Number

structure Layout where
  leastPositional : Int
  greatestPositional : Int
  exponentDigits : Nat

def Layout.standard : Layout := ⟨-4, 15, 2⟩

def dropZeros (cs : List Char) : List Char :=
  (cs.reverse.dropWhile (· == '0')).reverse

def positional (ds : List Char) (point : Int) : List Char :=
  if point ≤ 0 then '0' :: '.' :: List.replicate (-point).toNat '0' ++ ds
  else
    let n := point.toNat
    let whole := ds.take n ++ List.replicate (n - ds.length) '0'
    let rest := ds.drop n
    whole ++ '.' :: (if rest.isEmpty then ['0'] else rest)

def scientific (width : Nat) (ds : List Char) (exponent : Int) : List Char :=
  let tail := ds.drop 1
  let size := (toString exponent.natAbs).toList
  ds.take 1 ++ (if tail.isEmpty then [] else '.' :: tail) ++
    ['e', if exponent < 0 then '-' else '+'] ++
    List.replicate (width - size.length) '0' ++ size

def Layout.magnitude (l : Layout) (mantissa : Nat) (exponent : Int) : List Char :=
  if mantissa = 0 then ['0', '.', '0']
  else
    let (digits, step) := shortest mantissa exponent
    let all := (toString digits).toList
    let first : Int := step + all.length - 1
    let ds := dropZeros all
    if l.leastPositional ≤ first ∧ first ≤ l.greatestPositional then positional ds (first + 1)
    else scientific l.exponentDigits ds first

/-- The most digits that an integer may have in a text. -/
def digitLimit : Nat := 4300

/-- An integer with more digits has no text. -/
def integerText? (n : Int) : Option String :=
  if n.natAbs < Nat.pow 10 digitLimit then some (toString n) else none

def Double.text : Double → String
  | .nan => "nan"
  | .infinite negative => if negative then "-inf" else "inf"
  | .finite negative m e =>
    let body := Layout.standard.magnitude m e
    String.ofList (if negative then '-' :: body else body)

end SparqlCompose.Number
