import SparqlCompose.Entries
import SparqlCompose.Number.Read
import SparqlCompose.Rdf.Triple
import SparqlCompose.Rdf.Turtle.Lexis
import SparqlCompose.Vocabulary

namespace SparqlCompose.Rdf.Turtle

open Number

def integerType : String := Vocabulary.xsd ++ "integer"

def booleanType : String := Vocabulary.xsd ++ "boolean"

def booleanText (s : String) : String :=
  let lower := String.ofList (s.toList.map Char.toLower)
  if lower = "true" ∨ lower = "1" then "true" else "false"

def typedLiteral (s datatype : String) : Node :=
  if datatype = integerType then
    .literal (((readInteger? s).map toString).getD s) (some datatype) none
  else if datatype = booleanType then .literal (booleanText s) (some datatype) none
  else .literal s (some datatype) none

def iri? (prefixes : List (String × String)) (cs : List Char) : Option (String × List Char) :=
  let cs := blanks cs
  match prefixedName? cs with
  | some ((label, name), rest) =>
    (Entries.get? label prefixes).map fun space => (space ++ name, rest)
  | none =>
    match cs with
    | '<' :: rest => bracketed? rest
    | _ => none

def literal? (prefixes : List (String × String)) (quote : Char) (cs : List Char) :
    Option (Node × List Char) := do
  let (s, rest) ← string? quote cs
  let (language, rest) ←
    match rest with
    | '@' :: r => (languageTag? r).map fun (tag, r) => (some tag, r)
    | _ => some (none, rest)
  match rest with
  | '^' :: '^' :: r =>
    let (datatype, r) ← iri? prefixes r
    return (typedLiteral s datatype, r)
  | _ => return (.literal s none language, rest)

def integer? (cs : List Char) : Option (Node × List Char) :=
  let (negative, digits) := takeSign cs
  match spanDigits digits with
  | ([], _) => none
  | (ds, rest) =>
    if digitLimit < ds.length ∨ (takeFraction? rest).isSome ∨ (takeExponent? rest).isSome then none
    else
      some (.literal (toString (signed negative (ofDigits 10 ds))) (some integerType) none, rest)

def keyword? (w : String) : List Char → Option (List Char)
  | '@' :: cs => word? w cs
  | cs => word? w cs

def boolean? (cs : List Char) : Option (Node × List Char) :=
  match keyword? "true" cs, keyword? "false" cs with
  | some rest, _ => some (.literal "true" (some booleanType) none, rest)
  | none, some rest => some (.literal "false" (some booleanType) none, rest)
  | none, none => none

structure Scope where
  spaces : List (String × String)
  label : String

/-- A blank node with a name, or an empty pair of brackets, which is one by its place. -/
def blankNode? (scope : Scope) (cs : List Char) : Option (Node × List Char) :=
  match cs with
  | '[' :: rest =>
    match blanks rest with
    | ']' :: rest => some (.blank s!"{scope.label}b{cs.length}", rest)
    | _ => none
  | _ =>
    match prefixedName? cs with
    | some (("_", name), rest) => some (.blank s!"{scope.label}_{name}", rest)
    | _ => none

def term? (scope : Scope) (cs : List Char) : Option (Node × List Char) :=
  let cs := blanks cs
  match cs with
  | [] => none
  | c :: _ =>
    if c = '\x22' ∨ c = '\x27' then literal? scope.spaces c cs
    else if c.isDigit ∨ c = '+' ∨ c = '-' then integer? cs
    else
      match (boolean? cs).or (blankNode? scope cs) with
      | some found => some found
      | none => (iri? scope.spaces cs).map fun (iri, rest) => (.iri iri, rest)

/-- The objects of a list, and what stands behind them; something must. They count once the list has
been read to its end. -/
def objects? (scope : Scope) (fuel : Nat) (cs : List Char) :
    Option (List Node × List Char) :=
  match fuel with
  | 0 => none
  | fuel + 1 => do
    let (first, rest) ← term? scope cs
    match blanks rest with
    | [] => none
    | ',' :: rest =>
      let (more, rest) ← objects? scope fuel rest
      return (first :: more, rest)
    | rest => return ([first], rest)

def predicate? (scope : Scope) (cs : List Char) : Option (Node × List Char) :=
  match keyword? "a" cs with
  | some rest => some (.iri (Vocabulary.rdf ++ "type"), rest)
  | none => term? scope cs

def statements (scope : Scope) (subject : Node) (fuel : Nat) (cs : List Char) :
    List Triple × Option (List Char) :=
  match fuel with
  | 0 => ([], none)
  | fuel + 1 =>
    match blanks cs with
    | ';' :: rest => statements scope subject fuel rest
    | '.' :: rest => ([], some rest)
    | cs =>
      match predicate? scope cs with
      | none => ([], none)
      | some (predicate, rest) =>
        match objects? scope (rest.length + 1) rest with
        | none => ([], none)
        | some (found, rest) =>
          let triples := found.map fun o => ⟨subject, predicate, o⟩
          match rest with
          | '.' :: rest => (triples, some rest)
          | ';' :: rest =>
            let (more, left) := statements scope subject fuel rest
            (triples ++ more, left)
          | _ => (triples, none)

def declaration? (prefixes : List (String × String)) (cs : List Char) :
    Option ((String × String) × List Char) := do
  let ((label, _), rest) ← prefixedName? (blanks cs)
  let (space, rest) ← iri? prefixes rest
  return ((label, space), rest)

def atPrefix? : List Char → Option (List Char)
  | '@' :: cs =>
    match word? "prefix" cs with
    | some rest => some rest
    | none => if "prefix:".toList.isPrefixOf cs then some (cs.drop 6) else none
  | _ => none

def Scope.bind (scope : Scope) (label space : String) : Scope :=
  { scope with spaces := Entries.put label space scope.spaces }

def documentFrom (scope : Scope) (fuel : Nat) (cs : List Char) : List Triple × Bool :=
  match fuel with
  | 0 => ([], false)
  | fuel + 1 =>
    match blanks cs with
    | [] => ([], true)
    | cs =>
      match anyCaseWord? "PREFIX" cs, atPrefix? cs with
      | some rest, _ =>
        match declaration? scope.spaces rest with
        | some ((label, space), rest) => documentFrom (scope.bind label space) fuel rest
        | none => ([], false)
      | none, some rest =>
        match declaration? scope.spaces rest with
        | some ((label, space), rest) =>
          match blanks rest with
          | '.' :: rest => documentFrom (scope.bind label space) fuel rest
          | _ => ([], false)
        | none => ([], false)
      | none, none =>
        match term? scope cs with
        | none => ([], false)
        | some (subject, rest) =>
          match statements scope subject (rest.length + 1) rest with
          | (triples, none) => (triples, false)
          | (triples, some rest) =>
            let (more, complete) := documentFrom scope fuel rest
            (triples ++ more, complete)

/-- Reads a part of Turtle. Blank nodes are told apart by the number of documents before theirs. -/
def read : Reader := fun known s =>
  let cs := s.toList
  documentFrom ⟨[], s!"d{known.length}"⟩ (cs.length + 1) cs

end SparqlCompose.Rdf.Turtle
