import SparqlCompose.Number.Text
import SparqlCompose.Text.RawText

namespace SparqlCompose.Number

open Text

def ofDigits (base : Nat) (ds : List Nat) : Nat :=
  ds.foldl (fun n d => base * n + d) 0

/-- A run of digits in which single underscores may stand between two digits. The flag says that
the last character was a digit. -/
def spacedDigits? (digit? : Char → Option Nat) : Bool → List Char → Option (List Nat)
  | afterDigit, [] => if afterDigit then some [] else none
  | afterDigit, c :: cs =>
    if c = '_' then
      if afterDigit then spacedDigits? digit? false cs else none
    else
      match digit? c with
      | some d => (spacedDigits? digit? true cs).map (d :: ·)
      | none => none

def takeSign : List Char → Bool × List Char
  | '-' :: cs => (true, cs)
  | '+' :: cs => (false, cs)
  | cs => (false, cs)

def signed (negative : Bool) (n : Nat) : Int :=
  if negative then -(n : Int) else n

/-- Blanks around an integer do not count; the separators U+001C–U+001F are not among them. -/
def isNumberBlank (c : Char) : Bool :=
  isBlank c && !(28 ≤ c.toNat && c.toNat ≤ 31)

/-- An integer: blanks around it, a sign, decimal digits of any script with single underscores
between them, at most `digitLimit` digits. -/
def readInteger? (s : String) : Option Int :=
  let (negative, cs) := takeSign (trim isNumberBlank s.toList)
  match spacedDigits? digitValue? false cs with
  | some ds => if ds.length ≤ digitLimit then some (signed negative (ofDigits 10 ds)) else none
  | none => none

def integerIn? (r : RawText) : Option Int := r.toString?.bind readInteger?

def spanDigits (cs : List Char) : List Nat × List Char :=
  ((cs.takeWhile Char.isDigit).filterMap asciiDigit?, cs.dropWhile Char.isDigit)

def takeExponent? : List Char → Option (Int × List Char)
  | c :: cs =>
    if c = 'e' ∨ c = 'E' then
      let (negative, rest) := takeSign cs
      match spanDigits rest with
      | ([], _) => none
      | (ds, rest) => some (signed negative (ofDigits 10 ds), rest)
    else none
  | [] => none

def takeFraction? : List Char → Option (List Nat × List Char)
  | '.' :: cs =>
    match spanDigits cs with
    | ([], _) => none
    | (ds, rest) => some (ds, rest)
  | _ => none

def decimal (negative : Bool) (whole fraction : List Nat) (exponent : Int) : Double :=
  .ofDecimal negative (ofDigits 10 (whole ++ fraction)) (exponent - fraction.length)

end SparqlCompose.Number
