import SparqlCompose.Text.Digit
import SparqlCompose.Text.Quoted

namespace SparqlCompose.Yaml

open Text

inductive Token
  | documentStart
  | documentEnd
  | sequenceStart
  | mappingStart
  | blockEnd
  | flowSequenceStart
  | flowSequenceEnd
  | flowMappingStart
  | flowMappingEnd
  | entry
  | flowEntry
  | key
  | value
  | scalar (plain : Bool) (text : String)
deriving DecidableEq

namespace Token

def opens (t : Token) : Bool :=
  [sequenceStart, mappingStart, flowSequenceStart, flowMappingStart].contains t

def closes (t : Token) : Bool := [blockEnd, flowSequenceEnd, flowMappingEnd].contains t

end Token

structure KeyPlace where
  flow : Nat
  position : Nat
  /-- A colon has to follow, because a key is the only thing that can stand here. -/
  required : Bool
  index : Nat
  line : Nat
  column : Nat

structure Scanner where
  rest : List Char
  index : Nat
  line : Nat
  column : Nat
  indent : Int
  outer : List Int
  flow : Nat
  keyAllowed : Bool
  places : List KeyPlace
  tokens : Array Token

def isBreak (c : Char) : Bool :=
  c == '\n' || c == '\r' || c.toNat == 0x85 || c.toNat == 0x2028 || c.toNat == 0x2029

def atGap : List Char → Bool
  | [] => true
  | c :: _ => c == ' ' || c == '\t' || isBreak c

def startsWith (c : Char) : List Char → Bool
  | d :: _ => d == c
  | [] => false

def atDocumentMark : List Char → Bool
  | a :: b :: c :: rest =>
    (a == '-' || a == '.') && b == a && c == a && atGap rest
  | _ => false

def takeBreak? : List Char → Option (Char × List Char)
  | '\r' :: '\n' :: rest => some ('\n', rest)
  | c :: rest =>
    if isBreak c then
      some (if c.toNat == 0x2028 || c.toNat == 0x2029 then c else '\n', rest)
    else none
  | [] => none

namespace Scanner

def start (cs : List Char) : Scanner :=
  ⟨cs, 0, 0, 0, -1, [], 0, true, [], #[]⟩

def emit (s : Scanner) (t : Token) : Scanner := { s with tokens := s.tokens.push t }

def step (s : Scanner) : Scanner :=
  match s.rest with
  | [] => s
  | c :: rest =>
    if isBreak c && !(c == '\r' && startsWith '\n' rest) then
      { s with rest, index := s.index + 1, line := s.line + 1, column := 0 }
    else if c.toNat == 0xFEFF then { s with rest, index := s.index + 1 }
    else { s with rest, index := s.index + 1, column := s.column + 1 }

def steps (s : Scanner) : Nat → Scanner
  | 0 => s
  | n + 1 => s.step.steps n

def stepTo (s : Scanner) (rest : List Char) : Scanner :=
  s.steps (s.rest.length - rest.length)

/-- Blanks, comments and line breaks before the next token. A line break makes way for a key. -/
def skipGap (fuel : Nat) (s : Scanner) : Scanner :=
  match fuel with
  | 0 => s
  | fuel + 1 =>
    let s := s.stepTo (s.rest.dropWhile (· == ' '))
    let s := if startsWith '#' s.rest then s.stepTo (s.rest.dropWhile (!isBreak ·)) else s
    match takeBreak? s.rest with
    | some (_, rest) =>
      let s := s.stepTo rest
      skipGap fuel (if s.flow = 0 then { s with keyAllowed := true } else s)
    | none => s

def place? (s : Scanner) : Option KeyPlace := s.places.find? (·.flow == s.flow)

def dropPlace? (s : Scanner) : Option Scanner :=
  match s.place? with
  | some p =>
    if p.required then none
    else some { s with places := s.places.filter (·.flow != s.flow) }
  | none => some s

def dropStale? (s : Scanner) : Option Scanner :=
  let stale (p : KeyPlace) := p.line != s.line || s.index - p.index > 1024
  if s.places.any fun p => stale p && p.required then none
  else some { s with places := s.places.filter fun p => !stale p }

def savePlace? (s : Scanner) : Option Scanner :=
  if s.keyAllowed then do
    let required := s.flow = 0 && s.indent == s.column
    let s ← s.dropPlace?
    let p : KeyPlace := ⟨s.flow, s.tokens.size, required, s.index, s.line, s.column⟩
    return { s with places := p :: s.places }
  else some s

def unwind (column : Int) : Nat → Scanner → Scanner
  | 0, s => s
  | fuel + 1, s =>
    if column < s.indent then
      match s.outer with
      | i :: outer => unwind column fuel { (s.emit .blockEnd) with indent := i, outer }
      | [] => { (s.emit .blockEnd) with indent := -1 }
    else s

def unwindTo (s : Scanner) (column : Int) : Scanner :=
  if s.flow = 0 then s.unwind column (s.outer.length + 1) else s

def deepen? (s : Scanner) (column : Int) : Option Scanner :=
  if s.indent < column then some { s with indent := column, outer := s.indent :: s.outer }
  else none

def insertAt (tokens : Array Token) (position : Nat) (new : List Token) : Array Token :=
  (tokens.toList.take position ++ new ++ tokens.toList.drop position).toArray

def documentMark? (s : Scanner) (t : Token) : Option Scanner := do
  let s ← (s.unwindTo (-1)).dropPlace?
  return ({ s with keyAllowed := false }.steps 3).emit t

def openFlow? (s : Scanner) (t : Token) : Option Scanner := do
  let s ← s.savePlace?
  return { s with flow := s.flow + 1, keyAllowed := true }.step.emit t

def closeFlow? (s : Scanner) (t : Token) : Option Scanner := do
  if s.flow = 0 then none
  else
    let s ← s.dropPlace?
    return { s with flow := s.flow - 1, keyAllowed := false }.step.emit t

def flowEntry? (s : Scanner) : Option Scanner := do
  let s ← { s with keyAllowed := true }.dropPlace?
  return s.step.emit .flowEntry

def entry? (s : Scanner) : Option Scanner := do
  let s ←
    if s.flow = 0 then
      if s.keyAllowed then some (((s.deepen? s.column).map (·.emit .sequenceStart)).getD s)
      else none
    else some s
  let s ← { s with keyAllowed := true }.dropPlace?
  return s.step.emit .entry

def key? (s : Scanner) : Option Scanner := do
  let s ←
    if s.flow = 0 then
      if s.keyAllowed then some (((s.deepen? s.column).map (·.emit .mappingStart)).getD s)
      else none
    else some s
  let s ← { s with keyAllowed := s.flow = 0 }.dropPlace?
  return s.step.emit .key

def value? (s : Scanner) : Option Scanner := do
  match s.place? with
  | some p =>
    let s := { s with places := s.places.filter (·.flow != s.flow) }
    let deeper := if s.flow = 0 then s.deepen? p.column else none
    let new := if deeper.isSome then [.mappingStart, .key] else [.key]
    let s := deeper.getD s
    let tokens := insertAt s.tokens p.position new
    return { s with tokens := tokens, keyAllowed := false }.step.emit .value
  | none =>
    let s ←
      if s.flow = 0 then
        if s.keyAllowed then some (((s.deepen? s.column).map (·.emit .mappingStart)).getD s)
        else none
      else some s
    let s ← { s with keyAllowed := s.flow = 0 }.dropPlace?
    return s.step.emit .value

end Scanner

def escapes : List (Char × Nat) :=
  [('0', 0), ('a', 7), ('b', 8), ('t', 9), ('\t', 9), ('n', 10), ('v', 11), ('f', 12), ('r', 13),
    ('e', 27), (' ', 32), (doubleQuote, 34), (backslash, 92), ('/', 47), ('N', 0x85), ('_', 0xA0),
    ('L', 0x2028), ('P', 0x2029)]

def takeHex? : Nat → Nat → List Char → Option (Nat × List Char)
  | 0, n, cs => some (n, cs)
  | width + 1, n, c :: cs => (hexDigit? c).bind fun d => takeHex? width (16 * n + d) cs
  | _ + 1, _, [] => none

def quotedBreaks? (fuel : Nat) (cs : List Char) : Option (List Char × List Char) :=
  match fuel with
  | 0 => none
  | fuel + 1 =>
    if atDocumentMark cs then none
    else
      let cs := cs.dropWhile fun c => c == ' ' || c == '\t'
      match takeBreak? cs with
      | some (b, rest) => (quotedBreaks? fuel rest).map fun (bs, rest) => (b :: bs, rest)
      | none => some ([], cs)

/-- The rest of a quoted scalar up to its closing quote, behind the characters before it, the last
one first. A line break folds to a space, further ones stay. -/
def quotedBody? (double : Bool) (fuel : Nat) (before : List Char) (cs : List Char) :
    Option (List Char × List Char) :=
  match fuel, cs with
  | 0, _ => none
  | _ + 1, [] => none
  | fuel + 1, c :: cs =>
    if c == ' ' || c == '\t' then
      let gap := (c :: cs).takeWhile fun c => c == ' ' || c == '\t'
      let rest := (c :: cs).dropWhile fun c => c == ' ' || c == '\t'
      if rest.isEmpty then none
      else if (takeBreak? rest).isSome then quotedBody? double fuel before rest
      else quotedBody? double fuel (gap.reverse ++ before) rest
    else if isBreak c then do
      let (b, rest) ← takeBreak? (c :: cs)
      let (bs, rest) ← quotedBreaks? (rest.length + 1) rest
      let folded := if b != '\n' then b :: bs else if bs.isEmpty then [' '] else bs
      quotedBody? double fuel (folded.reverse ++ before) rest
    else if double then
      if c == doubleQuote then some (before.reverse, cs)
      else if c == backslash then
        match cs with
        | [] => none
        | e :: rest =>
          match escapes.lookup e with
          | some n => quotedBody? double fuel (Char.ofNat n :: before) rest
          | none =>
            if isBreak e then do
              let (_, rest) ← takeBreak? (e :: rest)
              let (bs, rest) ← quotedBreaks? (rest.length + 1) rest
              quotedBody? double fuel (bs.reverse ++ before) rest
            else do
              let width ←
                if e == 'x' then some 2 else if e == 'u' then some 4
                else if e == 'U' then some 8 else none
              let (n, rest) ← takeHex? width 0 rest
              quotedBody? double fuel (Char.ofNat n :: before) rest
      else quotedBody? double fuel (c :: before) cs
    else if c == apostrophe then
      match cs with
      | '\x27' :: rest => quotedBody? double fuel (apostrophe :: before) rest
      | _ => some (before.reverse, cs)
    else quotedBody? double fuel (c :: before) cs

def indicators : List Char := "-?:,[]\x7b\x7d#&*!|>'\"%@\x60".toList

def atPlain (flow : Nat) : List Char → Bool
  | [] => false
  | c :: rest =>
    (!atGap [c] && !indicators.contains c) ||
      (!atGap rest && (c == '-' || (flow == 0 && (c == '?' || c == ':'))))

def plainStops (flow : Nat) : List Char → Bool
  | [] => true
  | c :: rest =>
    atGap [c] ||
      (c == ':' && (atGap rest || (flow != 0 && ",[]\x7b\x7d".toList.contains (rest.headD ' ')))) ||
      (flow != 0 && ",?[]\x7b\x7d".toList.contains c)

def plainRun (flow : Nat) : List Char → List Char × List Char
  | [] => ([], [])
  | c :: cs =>
    if plainStops flow (c :: cs) then ([], c :: cs)
    else ((c :: (plainRun flow cs).1), (plainRun flow cs).2)

def plainBreaks? (fuel : Nat) (cs : List Char) : Option (List Char) × List Char :=
  match fuel with
  | 0 => (none, cs)
  | fuel + 1 =>
    match cs with
    | ' ' :: rest => plainBreaks? fuel rest
    | _ =>
      match takeBreak? cs with
      | some (b, rest) =>
        if atDocumentMark rest then (none, rest)
        else
          match plainBreaks? fuel rest with
          | (some bs, rest) => (some (b :: bs), rest)
          | (none, rest) => (none, rest)
      | none => (some [], cs)

/-- What stands between two runs of a plain scalar, whether a line ended, and what follows. Nothing
means that the scalar is over. -/
def plainGap (cs : List Char) : List Char × Bool × List Char :=
  let blanks := cs.takeWhile (· == ' ')
  let rest := cs.dropWhile (· == ' ')
  match takeBreak? rest with
  | some (b, rest) =>
    if atDocumentMark rest then ([], true, rest)
    else
      match plainBreaks? (rest.length + 1) rest with
      | (none, rest) => ([], true, rest)
      | (some bs, rest) =>
        (if b != '\n' then b :: bs else if bs.isEmpty then [' '] else bs, true, rest)
  | none => (blanks, false, rest)

namespace Scanner

def plain (indent : Int) : Nat → List Char → List Char → Scanner → List Char × Scanner
  | 0, text, _, s => (text, s)
  | fuel + 1, text, gap, s =>
    if startsWith '#' s.rest then (text, s)
    else
      let (run, rest) := plainRun s.flow s.rest
      if run.isEmpty then (text, s)
      else
        let text := text ++ gap ++ run
        let s := { s with keyAllowed := false }.stepTo rest
        let (gap, broke, rest) := plainGap s.rest
        let s := s.stepTo rest
        let s := if broke then { s with keyAllowed := true } else s
        if gap.isEmpty || startsWith '#' s.rest || (s.flow == 0 && (s.column : Int) < indent) then
          (text, s)
        else plain indent fuel text gap s

def plain? (s : Scanner) : Option Scanner := do
  let s ← s.savePlace?
  let s := { s with keyAllowed := false }
  let (text, s) := s.plain (s.indent + 1) (s.rest.length + 1) [] []
  return s.emit (.scalar true (String.ofList text))

def quoted? (s : Scanner) (double : Bool) : Option Scanner := do
  let s ← s.savePlace?
  let s := { s with keyAllowed := false }.step
  let (text, rest) ← quotedBody? double (s.rest.length + 1) [] s.rest
  return (s.stepTo rest).emit (.scalar false (String.ofList text))

def next? (s : Scanner) : Option Scanner :=
  match s.rest with
  | [] => none
  | c :: rest =>
    if s.column = 0 && atDocumentMark s.rest then
      s.documentMark? (if c == '-' then .documentStart else .documentEnd)
    else if c == '[' then s.openFlow? .flowSequenceStart
    else if c == '\x7b' then s.openFlow? .flowMappingStart
    else if c == ']' then s.closeFlow? .flowSequenceEnd
    else if c == '\x7d' then s.closeFlow? .flowMappingEnd
    else if c == ',' then s.flowEntry?
    else if c == '-' && atGap rest then s.entry?
    else if c == '?' && (s.flow != 0 || atGap rest) then s.key?
    else if c == ':' && (s.flow != 0 || atGap rest) then s.value?
    else if c == apostrophe then s.quoted? false
    else if c == doubleQuote then s.quoted? true
    else if atPlain s.flow s.rest then s.plain?
    else none

def run? : Nat → Scanner → Option (List Token)
  | 0, _ => none
  | fuel + 1, s => do
    let s := s.skipGap (s.rest.length + 1)
    let s ← s.dropStale?
    let s := s.unwindTo s.column
    if s.rest.isEmpty then
      let s ← (s.unwindTo (-1)).dropPlace?
      return s.tokens.toList
    else
      run? fuel (← s.next?)

end Scanner

def isDocumentChar (c : Char) : Bool :=
  let n := c.toNat
  n == 9 || n == 10 || n == 13 || (32 ≤ n && n ≤ 126) || n == 0x85 ||
    (0xA0 ≤ n && n ≤ 0xD7FF) || (0xE000 ≤ n && n ≤ 0xFFFD) || 0x10000 ≤ n

def Token.ofText? (s : String) : Option (List Token) :=
  let cs := s.toList
  if cs.all isDocumentChar then
    let scanner := Scanner.start cs
    let scanner := if (cs.headD ' ').toNat = 0xFEFF then scanner.step else scanner
    scanner.run? (cs.length + 2)
  else none

end SparqlCompose.Yaml
