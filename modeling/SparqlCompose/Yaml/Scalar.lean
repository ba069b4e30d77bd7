import SparqlCompose.Number.Read
import SparqlCompose.Value

namespace SparqlCompose.Yaml

open Number Text

def isSpelling (word : String) (s : String) : Bool :=
  s == word || s == word.capitalize || s == word.toUpper

def boolean? (s : String) : Option Bool :=
  if ["yes", "true", "on"].any (isSpelling · s) then some true
  else if ["no", "false", "off"].any (isSpelling · s) then some false
  else none

def isNull (s : String) : Bool := s.isEmpty || s == "~" || isSpelling "null" s

def binaryDigit? (c : Char) : Option Nat :=
  if c = '0' then some 0 else if c = '1' then some 1 else none

def octalDigit? (c : Char) : Option Nat :=
  if '0' ≤ c ∧ c ≤ '7' then some (c.toNat - 48) else none

/-- Digits among which underscores may stand anywhere. -/
def looseDigits? (digit? : Char → Option Nat) : List Char → Option (List Nat)
  | [] => some []
  | c :: cs => do
    let rest ← looseDigits? digit? cs
    if c = '_' then return rest else return (← digit? c) :: rest

def colonParts : List Char → List (List Char)
  | [] => [[]]
  | c :: cs =>
    if c = ':' then [] :: colonParts cs
    else
      match colonParts cs with
      | part :: parts => (c :: part) :: parts
      | [] => [[c]]

def sixty? : List Char → Option Nat
  | [d] => asciiDigit? d
  | [d, e] => do
    let d ← asciiDigit? d
    let e ← asciiDigit? e
    if d < 6 then some (10 * d + e) else none
  | _ => none

def natural? (cs : List Char) : Option Nat :=
  match cs with
  | ['0'] => some 0
  | '0' :: 'b' :: rest => do
    if rest.isEmpty then none else return ofDigits 2 (← looseDigits? binaryDigit? rest)
  | '0' :: 'x' :: rest => do
    if rest.isEmpty then none else return ofDigits 16 (← looseDigits? hexDigit? rest)
  | '0' :: rest => return ofDigits 8 (← looseDigits? octalDigit? rest)
  | c :: _ => do
    let _ ← asciiDigit? c
    match colonParts cs with
    | whole :: parts =>
      let whole := ofDigits 10 (← looseDigits? asciiDigit? whole)
      return ofDigits 60 (whole :: (← parts.mapM sixty?))
    | [] => none
  | [] => none

def integer? (cs : List Char) : Option Int :=
  let (negative, rest) := takeSign cs
  (natural? rest).map (signed negative)

def exponent? : List Char → Option Int
  | [] => some 0
  | e :: s :: d :: ds =>
    if (e = 'e' ∨ e = 'E') ∧ (s = '+' ∨ s = '-') then
      match spanDigits (d :: ds) with
      | (digits, []) => some (signed (s = '-') (ofDigits 10 digits))
      | _ => none
    else none
  | _ => none

def isLoose (c : Char) : Bool := c.isDigit || c == '_'

def pointed? (negative : Bool) (cs : List Char) : Option Double :=
  let whole := cs.takeWhile isLoose
  match cs.dropWhile isLoose with
  | '.' :: rest => do
    if startsDigit whole then
      let fraction := rest.takeWhile isLoose
      let e ← exponent? (rest.dropWhile isLoose)
      return decimal negative (← looseDigits? asciiDigit? whole)
        (← looseDigits? asciiDigit? fraction) e
    else none
  | ':' :: _ => do
    match (colonParts cs).reverse with
    | last :: parts@(_ :: _) =>
      let seconds := last.takeWhile Char.isDigit
      match last.dropWhile Char.isDigit, parts.reverse with
      | '.' :: fraction, whole :: middle =>
        if startsDigit whole then
          let whole := ofDigits 10 (← looseDigits? asciiDigit? whole)
          let middle ← middle.mapM sixty?
          let seconds ← sixty? seconds
          let fraction ← looseDigits? asciiDigit? fraction
          let total := ofDigits 60 (whole :: middle ++ [seconds])
          return .ofRatio negative (total * Nat.pow 10 fraction.length + ofDigits 10 fraction)
            (Nat.pow 10 fraction.length)
        else none
      | _, _ => none
    | _ => none
  | _ => none
where
  startsDigit : List Char → Bool
    | c :: _ => c.isDigit
    | [] => false

def bare? : List Char → Option Double
  | '.' :: d :: rest =>
    if d.isDigit then do
      let fraction := (d :: rest).takeWhile isLoose
      let e ← exponent? ((d :: rest).dropWhile isLoose)
      return decimal false [0] (← looseDigits? asciiDigit? fraction) e
    else none
  | _ => none

def float? (cs : List Char) : Option Double :=
  let (negative, rest) := takeSign cs
  let word := String.ofList rest
  if word = ".inf" ∨ word = ".Inf" ∨ word = ".INF" then some (.infinite negative)
  else if [".nan", ".NaN", ".NAN"].contains (String.ofList cs) then some .nan
  else (pointed? negative rest).orElse fun _ => bare? cs

def plainValue? (s : String) : Option Value :=
  if isNull s then some .null
  else if s = "=" ∨ s = "<<" then none
  else
    match boolean? s, float? s.toList, integer? s.toList with
    | some b, _, _ => some (.boolean b)
    | none, some x, _ => some (.float x)
    | none, none, some n => some (.integer n)
    | none, none, none => some (.text s)

def scalarValue? (plain : Bool) (s : String) : Option Value :=
  if plain then plainValue? s else some (.text s)

end SparqlCompose.Yaml
