import SparqlCompose.Value

namespace SparqlCompose.Json

open Text Number

def unitEscape (unit : Nat) : List Char := backslash :: 'u' :: hexDigits 4 unit

def escapeChar (c : Char) : List Char :=
  let n := c.toNat
  if c = doubleQuote ∨ c = backslash then [backslash, c]
  else if c = '\n' then [backslash, 'n']
  else if c = '\r' then [backslash, 'r']
  else if c = '\t' then [backslash, 't']
  else if n = 8 then [backslash, 'b']
  else if n = 12 then [backslash, 'f']
  else if 32 ≤ n ∧ n < 127 then [c]
  else if n < 0x10000 then unitEscape n
  else
    let m := n - 0x10000
    unitEscape (0xD800 + m / 0x400) ++ unitEscape (0xDC00 + m % 0x400)

def escapePoint : Point → List Char
  | .char c => escapeChar c
  | .surrogate offset => unitEscape (0xD800 + offset)

def quote (r : RawText) : String :=
  String.ofList (doubleQuote :: r.points.flatMap escapePoint ++ [doubleQuote])

def number : Double → String
  | .nan => "NaN"
  | .infinite negative => if negative then "-Infinity" else "Infinity"
  | x => x.text

def nameOf? : Value → Option RawText
  | .null => some "null"
  | .boolean b => some (if b then "true" else "false" : String)
  | .integer n => (integerText? n).map .ofString
  | .float x => some (number x)
  | .text r => some r
  | _ => none

/-- What is written between the parts of a container. -/
structure Style where
  separator : String
  lineBreak : Nat → String

def Style.compact : Style := ⟨", ", fun _ => ""⟩

def Style.indented : Style :=
  ⟨",", fun depth => String.ofList ('\n' :: List.replicate (2 * depth) ' ')⟩

def Style.wrap (style : Style) (depth : Nat) (opening closing : String) (parts : List String) :
    String :=
  if parts.isEmpty then opening ++ closing
  else opening ++ style.lineBreak (depth + 1) ++
    (style.separator ++ style.lineBreak (depth + 1)).intercalate parts ++
    style.lineBreak depth ++ closing

mutual

/-- Integers that are too long and values without a counterpart are not written. -/
def render (style : Style) (depth : Nat) : Value → Option String
  | .null => some "null"
  | .boolean b => some (if b then "true" else "false")
  | .integer n => integerText? n
  | .float x => some (number x)
  | .text r => some (quote r)
  | .list items => do return style.wrap depth "[" "]" (← renderItems style (depth + 1) items)
  | .mapping entries => do
    return style.wrap depth "\x7b" "\x7d" (← renderMembers style (depth + 1) entries)
  | .other .. => none

def renderItems (style : Style) (depth : Nat) : List Value → Option (List String)
  | [] => some []
  | v :: vs => do return (← render style depth v) :: (← renderItems style depth vs)

def renderMembers (style : Style) (depth : Nat) : List (Value × Value) → Option (List String)
  | [] => some []
  | (k, v) :: rest => do
    let member := quote (← nameOf? k) ++ ": " ++ (← render style depth v)
    return member :: (← renderMembers style depth rest)

end

def compact (v : Value) : Option String := render .compact 0 v

def indented (v : Value) : Option String := render .indented 0 v

end SparqlCompose.Json
