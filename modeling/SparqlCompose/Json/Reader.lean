import SparqlCompose.Number.Read
import SparqlCompose.Value

namespace SparqlCompose.Json

open Number Text

inductive Fault
  | malformed
  | tooDeep
deriving DecidableEq

def depthLimit : Nat := 990

def isSpace (p : Point) : Bool := p == ' ' || p == '\t' || p == '\n' || p == '\r'

def skipSpace (ps : List Point) : List Point := ps.dropWhile isSpace

def after? : List Char → List Point → Option (List Point)
  | [], ps => some ps
  | c :: word, p :: ps => if Point.char c = p then after? word ps else none
  | _ :: _, [] => none

def hexDigit? : Point → Option Nat
  | .char c => Text.hexDigit? c
  | .surrogate _ => none

def takeUnit : List Point → Except Fault (Nat × List Point)
  | a :: b :: c :: d :: rest =>
    match hexDigit? a, hexDigit? b, hexDigit? c, hexDigit? d with
    | some a, some b, some c, some d => .ok (((a * 16 + b) * 16 + c) * 16 + d, rest)
    | _, _, _, _ => .error .malformed
  | _ => .error .malformed

/-- The code point of a code unit; the escape of a high surrogate takes that of a low one behind it
for its second half. -/
def joinUnits (unit : Nat) (rest : List Point) : Except Fault (Point × List Point) :=
  if 0xD800 ≤ unit ∧ unit < 0xDC00 then
    match rest with
    | .char '\\' :: .char 'u' :: after =>
      match takeUnit after with
      | .ok (low, after) =>
        if 0xDC00 ≤ low ∧ low < 0xE000 then
          .ok (Point.ofNat (0x10000 + (unit - 0xD800) * 0x400 + (low - 0xDC00)), after)
        else .ok (Point.ofNat unit, rest)
      | .error e => .error e
    | _ => .ok (Point.ofNat unit, rest)
  else .ok (Point.ofNat unit, rest)

def escape? : Point → Option Char
  | .char c =>
    if c = doubleQuote ∨ c = backslash ∨ c = '/' then some c
    else if c = 'b' then some '\x08'
    else if c = 'f' then some '\x0c'
    else if c = 'n' then some '\n'
    else if c = 'r' then some '\r'
    else if c = 't' then some '\t'
    else none
  | .surrogate _ => none

def isControl : Point → Bool
  | .char c => c.toNat < 32
  | .surrogate _ => false

/-- The rest of a string up to its closing quote, added to the code points before it, the last one
first. `fuel` bounds the number of code points. -/
def string (fuel : Nat) (before : List Point) (ps : List Point) :
    Except Fault (RawText × List Point) :=
  match fuel, ps with
  | 0, _ => .error .malformed
  | _ + 1, [] => .error .malformed
  | fuel + 1, p :: ps =>
    if p = doubleQuote then .ok (⟨before.reverse⟩, ps)
    else if p = backslash then
      match ps with
      | .char 'u' :: ps =>
        match takeUnit ps with
        | .ok (unit, ps) =>
          match joinUnits unit ps with
          | .ok (p, ps) => string fuel (p :: before) ps
          | .error e => .error e
        | .error e => .error e
      | e :: ps =>
        match escape? e with
        | some c => string fuel (.char c :: before) ps
        | none => .error .malformed
      | [] => .error .malformed
    else if isControl p then .error .malformed
    else string fuel (p :: before) ps

def magnitude (negative : Bool) (cs : List Char) : Except Fault (Value × List Char) :=
  let (whole, rest) :=
    match cs with
    | '0' :: rest => ([0], rest)
    | _ => spanDigits cs
  if whole.isEmpty then .error .malformed
  else
    match takeFraction? rest with
    | some (fraction, rest) =>
      match takeExponent? rest with
      | some (e, rest) => .ok (.float (decimal negative whole fraction e), rest)
      | none => .ok (.float (decimal negative whole fraction 0), rest)
    | none =>
      match takeExponent? rest with
      | some (e, rest) => .ok (.float (decimal negative whole [] e), rest)
      | none =>
        if whole.length ≤ digitLimit then .ok (.integer (signed negative (ofDigits 10 whole)), rest)
        else .error .malformed

def leading : List Point → List Char
  | .char c :: ps => c :: leading ps
  | _ => []

def numeral (negative : Bool) (ps : List Point) : Except Fault (Value × List Point) :=
  match magnitude negative (leading ps) with
  | .ok (v, rest) => .ok (v, ps.drop ((leading ps).length - rest.length))
  | .error e => .error e

def words : List (String × Value) :=
  [("null", .null), ("true", .boolean true), ("false", .boolean false), ("NaN", .float .nan),
    ("Infinity", .float (.infinite false)), ("-Infinity", .float (.infinite true))]

def word? (ps : List Point) : Option (Value × List Point) :=
  words.findSome? fun (w, v) => (after? w.toList ps).map fun rest => (v, rest)

mutual

/-- A value at the front. `fuel` bounds the number of calls, `depth` the nesting still allowed. -/
def value (fuel depth : Nat) (ps : List Point) : Except Fault (Value × List Point) :=
  match fuel with
  | 0 => .error .malformed
  | fuel + 1 =>
    match ps with
    | [] => .error .malformed
    | p :: rest =>
      if p = doubleQuote then do
        let (r, rest) ← string fuel [] rest
        return (.text r, rest)
      else if p = '[' then
        match depth with
        | 0 => .error .tooDeep
        | depth + 1 =>
          match skipSpace rest with
          | .char ']' :: rest => .ok (.list [], rest)
          | rest => do
            let (items, rest) ← items fuel depth rest
            return (.list items, rest)
      else if p = '\x7b' then
        match depth with
        | 0 => .error .tooDeep
        | depth + 1 =>
          match skipSpace rest with
          | .char '\x7d' :: rest => .ok (.mapping [], rest)
          | rest => do
            let (entries, rest) ← members fuel depth [] rest
            return (.mapping entries, rest)
      else
        match word? ps with
        | some (v, rest) => .ok (v, rest)
        | none => if p = '-' then numeral true rest else numeral false ps

def items (fuel depth : Nat) (ps : List Point) : Except Fault (List Value × List Point) :=
  match fuel with
  | 0 => .error .malformed
  | fuel + 1 => do
    let (v, rest) ← value fuel depth ps
    match skipSpace rest with
    | .char ']' :: rest => return ([v], rest)
    | .char ',' :: rest =>
      let (vs, rest) ← items fuel depth (skipSpace rest)
      return (v :: vs, rest)
    | _ => .error .malformed

/-- The members of an object up to its closing brace, added to those read before. -/
def members (fuel depth : Nat) (seen : List (Value × Value)) (ps : List Point) :
    Except Fault (List (Value × Value) × List Point) :=
  match fuel with
  | 0 => .error .malformed
  | fuel + 1 =>
    match ps with
    | p :: rest =>
      if p = doubleQuote then do
        let (key, rest) ← string fuel [] rest
        match skipSpace rest with
        | .char ':' :: rest =>
          let (v, rest) ← value fuel depth (skipSpace rest)
          let seen := Value.bind (.text key) v seen
          match skipSpace rest with
          | .char '\x7d' :: rest => return (seen, rest)
          | .char ',' :: rest => members fuel depth seen (skipSpace rest)
          | _ => .error .malformed
        | _ => .error .malformed
      else .error .malformed
    | [] => .error .malformed

end

def read (r : RawText) : Except Fault Value := do
  let ps := r.points
  let (v, rest) ← value (2 * ps.length + 2) depthLimit (skipSpace ps)
  if (skipSpace rest).isEmpty then return v else .error .malformed

end SparqlCompose.Json
