import SparqlCompose.Json.Printer

namespace SparqlCompose.Rdf

inductive Node
  | iri (text : String)
  | blank (name : String)
  | literal (text : String) (datatype language : Option String)
deriving DecidableEq

namespace Node

/-- The node with its language tag in lower case. Literals that agree up to the letter case of the tag
are the same part of a statement; the one that came first is kept. -/
def folded : Node → Node
  | .literal text datatype language =>
    .literal text datatype (language.map fun l => String.ofList (l.toList.map Char.toLower))
  | n => n

def document : Node → Value
  | .iri text => .text text
  | .blank name => .mapping [(.text "blank", .text name)]
  | .literal text datatype language =>
    let part (p : Option String) : Value := (p.map fun s => Value.text s).getD .null
    .mapping [(.text "datatype", part datatype), (.text "lang", part language),
      (.text "literal", .text text)]

end Node

structure Triple where
  subject : Node
  predicate : Node
  object : Node
deriving DecidableEq

namespace Triple

def folded (t : Triple) : Triple := ⟨t.subject.folded, t.predicate.folded, t.object.folded⟩

def document (t : Triple) : Value :=
  .list [t.subject.document, t.predicate.document, t.object.document]

def insert (t : Triple) (ts : List Triple) : List Triple :=
  if ts.any (·.folded == t.folded) then ts else ts ++ [t]

def insertAll (new ts : List Triple) : List Triple :=
  new.foldl (fun all t => t.insert all) ts

def sorted (ts : List Triple) : List Triple :=
  let texts := ts.map fun t => ((Json.compact t.document).getD "", t)
  (texts.mergeSort fun a b => !decide (b.1 < a.1)).map Prod.snd

end Triple

/-- What reads documents into triples. It may tell apart the blank nodes of documents by those that
were read before; these are its first argument. The flag says whether a document was read to its
end. -/
abbrev Reader := List String → String → List Triple × Bool

end SparqlCompose.Rdf
