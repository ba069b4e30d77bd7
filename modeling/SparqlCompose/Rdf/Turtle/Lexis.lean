import SparqlCompose.Text.Digit
import SparqlCompose.Text.Quoted

namespace SparqlCompose.Rdf.Turtle

open Text

def skipBlanks : (inComment : Bool) → List Char → List Char
  | false, ' ' :: rest => skipBlanks false rest
  | false, '\t' :: rest => skipBlanks false rest
  | false, '\n' :: rest => skipBlanks false rest
  | false, '\r' :: '\n' :: rest => skipBlanks false rest
  | false, '#' :: rest => skipBlanks true rest
  | false, cs => cs
  | true, '\n' :: rest => skipBlanks false rest
  | true, _ :: rest => skipBlanks true rest
  | true, [] => []

def blanks (cs : List Char) : List Char := skipBlanks false cs

def nameEnds : List Char := "\t\r\n !\"#$&'()*+,/;<=>?@[\\]^\x60\x7b|\x7d~".toList

def isLocalChar (c : Char) : Bool := !nameEnds.contains c

def isNameChar (c : Char) : Bool := isLocalChar c && c != ':'

def word? (w : String) (cs : List Char) : Option (List Char) :=
  let n := w.toList.length
  match cs.drop n with
  | c :: rest =>
    if cs.take n = w.toList ∧ (!isLocalChar c ∨ c = '.') then some (c :: rest) else none
  | [] => none

def anyCaseWord? (w : String) (cs : List Char) : Option (List Char) :=
  let n := w.toList.length
  match cs.drop n with
  | c :: rest =>
    if (cs.take n).map Char.toUpper = w.toList ∧ !isLocalChar c then some (c :: rest) else none
  | [] => none

def nameEscapes : List Char := "(_~.-!$&'()*+,;=/?#@%)".toList

def localChars? : List Char → Option (List Char × List Char)
  | '\x5c' :: c :: rest =>
    if nameEscapes.contains c then (localChars? rest).map fun (l, r) => (c :: l, r) else none
  | ['\x5c'] => none
  | '%' :: a :: b :: rest =>
    if (hexDigit? a).isSome ∧ (hexDigit? b).isSome then
      (localChars? (a :: b :: rest)).map fun (l, r) => ('%' :: l, r)
    else none
  | ['%'] => none
  | ['%', _] => none
  | c :: rest =>
    if isLocalChar c then (localChars? rest).map fun (l, r) => (c :: l, r)
    else some ([], c :: rest)
  | [] => some ([], [])

/-- Gives a point at the end of a name back: it ends the statement. -/
def releasePoint : List Char × List Char → List Char × List Char
  | (l, r) =>
    match l.reverse with
    | '.' :: front => (front.reverse, '.' :: r)
    | _ => (l, r)

def prefixedName? (cs : List Char) : Option ((String × String) × List Char) :=
  match cs with
  | c :: _ =>
    if c.isDigit ∨ c = '-' ∨ c = '+' ∨ c = '.' then none
    else
      let label := cs.takeWhile isNameChar
      match cs.dropWhile isNameChar with
      | ':' :: rest =>
        if label.getLast? = some '.' then none
        else do
          let (name, rest) := releasePoint (← localChars? rest)
          return ((String.ofList label, String.ofList name), rest)
      | _ => none
  | [] => none

def hexNumber? (ds : List Char) : Option Nat :=
  (ds.mapM hexDigit?).map (·.foldl (fun n d => 16 * n + d) 0)

/-- What an escape by number stands for. Without proper digits it stands for itself; a number that
is no character is refused. -/
def numbered? (mark : Char) (ds : List Char) : Option (List Char) :=
  match hexNumber? ds with
  | some n => if n.isValidChar then some [Char.ofNat n] else none
  | none => some (backslash :: mark :: ds)

def numberWidth? : Char → Option Nat
  | 'u' => some 4
  | 'U' => some 8
  | _ => none

def expandIri? (fuel : Nat) (cs : List Char) : Option (List Char) :=
  match fuel with
  | 0 => some []
  | fuel + 1 =>
    match cs with
    | [] => some []
    | '\x5c' :: mark :: rest =>
      match numberWidth? mark with
      | some width =>
        if rest.length < width then (expandIri? fuel (mark :: rest)).map (backslash :: ·)
        else do
          return (← numbered? mark (rest.take width)) ++ (← expandIri? fuel (rest.drop width))
      | none => (expandIri? fuel (mark :: rest)).map (backslash :: ·)
    | c :: rest => (expandIri? fuel rest).map (c :: ·)

def isAbsolute (iri : List Char) : Bool :=
  (iri.find? fun c => c == ':' || c == '/') == some ':'

def bracketed? (cs : List Char) : Option (String × List Char) :=
  match cs.dropWhile (· != '>') with
  | '>' :: rest => do
    let iri ← expandIri? cs.length (cs.takeWhile (· != '>'))
    if isAbsolute iri then some (String.ofList iri, rest) else none
  | _ => none

def simpleEscape? : Char → Option Char
  | 'a' => some '\x07'
  | 'b' => some '\x08'
  | 'f' => some '\x0c'
  | 'r' => some '\r'
  | 't' => some '\t'
  | 'v' => some '\x0b'
  | 'n' => some '\n'
  | '\x5c' => some '\x5c'
  | '\x22' => some '\x22'
  | '\x27' => some '\x27'
  | _ => none

def closing? (quote : Char) (long : Bool) (cs : List Char) : Option (List Char × List Char) :=
  let run := (cs.takeWhile (· == quote)).length
  if long then
    if 3 ≤ run then
      let kept := min run 5 - 3
      some (List.replicate kept quote, cs.drop (3 + kept))
    else none
  else if 1 ≤ run then some ([], cs.drop 1)
  else none

def stringChars? (quote : Char) (long : Bool) (fuel : Nat) (cs : List Char) :
    Option (List Char × List Char) :=
  match fuel with
  | 0 => none
  | fuel + 1 =>
    match closing? quote long cs with
    | some found => some found
    | none =>
      match cs with
      | [] => none
      | '\x5c' :: mark :: rest =>
        match simpleEscape? mark, numberWidth? mark with
        | some c, _ => do
          let (s, r) ← stringChars? quote long fuel rest
          return (c :: s, r)
        | none, some width =>
          if rest.length < width then none
          else do
            let front ← numbered? mark (rest.take width)
            let (s, r) ← stringChars? quote long fuel (rest.drop width)
            return (front ++ s, r)
        | none, none => none
      | c :: rest =>
        if c = '\x5c' ∨ (!long ∧ (c = '\n' ∨ c = '\r')) then none
        else do
          let (s, r) ← stringChars? quote long fuel rest
          return (c :: s, r)

def string? (quote : Char) (cs : List Char) : Option (String × List Char) := do
  let triple := List.replicate 3 quote
  let long := triple.isPrefixOf cs
  let (s, rest) ← stringChars? quote long (cs.length + 1) (cs.drop (if long then 3 else 1))
  return (String.ofList s, rest)

def isTagChar (c : Char) : Bool := c.isAlpha || c.isDigit

def subtags (fuel : Nat) (cs : List Char) : List Char × List Char :=
  match fuel, cs with
  | fuel + 1, '-' :: rest =>
    match rest.takeWhile isTagChar with
    | [] => ([], cs)
    | part =>
      let (more, left) := subtags fuel (rest.dropWhile isTagChar)
      ('-' :: part ++ more, left)
  | _, _ => ([], cs)

def languageTag? (cs : List Char) : Option (String × List Char) :=
  match cs.takeWhile Char.isAlpha with
  | [] => none
  | first =>
    let (more, rest) := subtags cs.length (cs.dropWhile Char.isAlpha)
    some (String.ofList (first ++ more), rest)

end SparqlCompose.Rdf.Turtle
