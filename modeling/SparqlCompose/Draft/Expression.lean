import SparqlCompose.Text.Blank
import SparqlCompose.Text.Word

namespace SparqlCompose

open Text

/-- An expression and the name its value goes by. -/
structure Computed where
  expression : String
  name : String
deriving DecidableEq

namespace Computed

def isLetterS (c : Char) : Bool := c == 's' || c == 'S' || c.toNat == 0x17F

def isLetterA (c : Char) : Bool := c == 'a' || c == 'A'

/-- The expression before a keyword, read from the back: blanks, the keyword, blanks, and at least
one character. -/
def expressionBack? (back : List Char) : Option (List Char) :=
  match back.takeWhile isBlank, back.dropWhile isBlank with
  | _ :: _, s :: a :: rest =>
    if isLetterS s && isLetterA a then
      match rest.takeWhile isBlank, rest.dropWhile isBlank with
      | _ :: _, c :: cs => some (c :: cs).reverse
      | _, _ => none
    else none
  | _, _ => none

/-- A word may be an alias when it starts with a letter or an underscore. -/
def isAlias : List Char → Bool
  | c :: _ => isWordStart c
  | [] => false

/-- Splits a text at its trailing alias. -/
def ofText? (s : String) : Option Computed :=
  let back := (trim isBlank s.toList).reverse
  let name := (back.takeWhile isWord).reverse
  match back.dropWhile isWord with
  | '?' :: rest =>
    if isAlias name then
      (expressionBack? rest).map fun e => ⟨String.ofList e, String.ofList name⟩
    else none
  | _ => none

def text (c : Computed) : String := s!"({c.expression} AS ?{c.name})"

end Computed

end SparqlCompose
