import SparqlCompose.Number.Text
import SparqlCompose.Failure
import SparqlCompose.Text.Quoted
import SparqlCompose.Vocabulary

namespace SparqlCompose

open Text Number

def iriExcluded : List Char := "<>\" \x7b\x7d|\\^\x60".toList

/-- Which texts may stand between angle brackets. The writers take the check that is in scope, and
are given the standard one where none is. -/
class IriCheck where
  allows : String → Bool

instance IriCheck.standard : IriCheck where
  allows iri := iri.toList.all fun c => !iriExcluded.contains c

def iriAllowed [IriCheck] (iri : String) : Bool := IriCheck.allows iri

def writeIri [IriCheck] (iri : String) : Except Failure String :=
  if iriAllowed iri then .ok ("<" ++ iri ++ ">") else .error (.unwritableIri iri)

namespace Literal

def escapeShort (c : Char) : List Char :=
  if c = backslash ∨ c = doubleQuote then [backslash, c]
  else if c = '\r' then [backslash, 'r']
  else [c]

def doubleBackslash (c : Char) : List Char :=
  if c = backslash then [backslash, backslash] else [c]

def escapeReturn (c : Char) : List Char := if c = '\r' then [backslash, 'r'] else [c]

/-- Escapes the quotes of every three in a row, from the left. -/
def guardTriples : List Char → List Char
  | '\x22' :: '\x22' :: '\x22' :: rest =>
    backslash :: '\x22' :: backslash :: '\x22' :: backslash :: '\x22' :: guardTriples rest
  | c :: rest => c :: guardTriples rest
  | [] => []

/-- Escapes a quote at the very end, unless a backslash stands before it. -/
def guardLast (cs : List Char) : List Char :=
  match cs.reverse with
  | '\x22' :: c :: rest =>
    if c = backslash then cs else (doubleQuote :: backslash :: c :: rest).reverse
  | _ => cs

def longBody (cs : List Char) : List Char :=
  (guardLast (guardTriples (cs.flatMap doubleBackslash))).flatMap escapeReturn

def writeChars (cs : List Char) : List Char :=
  if cs.contains '\n' then
    List.replicate 3 doubleQuote ++ longBody cs ++ List.replicate 3 doubleQuote
  else doubleQuote :: cs.flatMap escapeShort ++ [doubleQuote]

def writeText (s : String) : String := String.ofList (writeChars s.toList)

def typed (value datatype : String) : String :=
  writeText value ++ "^^<" ++ Vocabulary.xsd ++ datatype ++ ">"

def floatText : Double → String
  | .nan => "NaN"
  | .infinite negative => if negative then "-INF" else "INF"
  | x => x.text

def written : Literal → String
  | .text s => writeText s
  | .integer n => typed (toString n) "integer"
  | .float x => typed (floatText x) "double"
  | .boolean b => typed (if b then "true" else "false") "boolean"

end Literal

def BlankNode.text (b : BlankNode) : String := "_:" ++ b.label

namespace Term

def written [IriCheck] : Term → Except Failure String
  | .variable v => .ok v.text
  | .resource r => writeIri r.iri
  | .blank b => .ok b.text
  | .literal l => .ok l.written

/-- The name of a graph: a plain text is taken as its IRI. -/
def writtenScope [IriCheck] : Term → Except Failure String
  | .literal (.text s) => .ok ("<" ++ s ++ ">")
  | t => t.written

end Term

def Pattern.written [IriCheck] (p : Pattern) : Except Failure String := do
  let s ← p.subject.written
  let v ← p.predicate.written
  let o ← p.object.written
  let triple := s ++ " " ++ v ++ " " ++ o
  match p.graph with
  | none => return triple ++ " ."
  | some g => return "GRAPH " ++ (← g.writtenScope) ++ " \x7b " ++ triple ++ " . \x7d"

end SparqlCompose
