import SparqlCompose.Draft.Query
import SparqlCompose.Draft.Written

namespace SparqlCompose

def standardIndent : String := "  "

namespace Draft

def opening : GroupKind → String
  | .plain => "\x7b"
  | .graph uri => "GRAPH <" ++ uri ++ "> \x7b"
  | .optional => "OPTIONAL \x7b"

def indentation (indent : String) (level : Nat) : String :=
  String.join (List.replicate level indent)

/-- The lines of a group's elements at a level; groups nested deeper than `depth` are not
followed. -/
def lines [IriCheck] (d : Draft) (indent : String) :
    Nat → Nat → GroupId → Except Failure (List String)
  | 0, _, _ => .error .tooDeep
  | depth + 1, level, g => do
    let pad := indentation indent level
    let parts ← (d.group g).elements.mapM fun
      | .pattern p => do return [pad ++ (← p.written)]
      | .group inner => do
        let body ← d.lines indent depth (level + 1) inner
        return (pad ++ opening (d.group inner).kind) :: body ++ [pad ++ "\x7d"]
      | .stray thing => .error (.invalid (.strayElement (d.entityKind thing)))
    return parts.flatten

def projected (d : Draft) (v : Variable) : String :=
  match d.expression? v with
  | some expression => (Computed.mk expression v.name).text
  | none => v.text

def groupingText [IriCheck] : Entity → Except Failure String
  | e =>
    match e.term? with
    | some t => t.written
    | none => .error .unsupported

def selectLine (d : Draft) (distinct : Bool) (projection : List Variable) : String :=
  (if distinct then "SELECT DISTINCT " else "SELECT ") ++
    (if projection.isEmpty then "*" else " ".intercalate (projection.map d.projected))

def namespaceLines (q : Query) : List String :=
  q.namespaces.map fun (label, uri) => "PREFIX " ++ label ++ ": <" ++ uri ++ ">"

def headLines [IriCheck] (d : Draft) (indent : String) (q : Query) :
    Except Failure (List String) :=
  match q.form with
  | .select distinct projection _ => .ok [d.selectLine distinct projection]
  | .construct template => do
    return "CONSTRUCT \x7b" :: (← d.lines indent d.depth 1 template) ++ ["\x7d"]
  | .formless => .error (.invalid .formlessQuery)

def tailLines [IriCheck] (q : Query) : Except Failure (List String) :=
  match q.form with
  | .select _ _ (e :: es) => do
    return ["GROUP BY " ++ " ".intercalate (← (e :: es).mapM groupingText)]
  | _ => .ok []

def queryLines [IriCheck] (d : Draft) (indent : String) (q : QueryId) :
    Except Failure (List String) := do
  let query := d.query q
  let head ← d.headLines indent query
  let body ← d.lines indent d.depth 1 query.body
  let tail ← tailLines query
  return namespaceLines query ++ head ++ "WHERE \x7b" :: body ++ "\x7d" :: tail

def formName : Form → String
  | .select .. => "SELECT"
  | .construct _ => "CONSTRUCT"
  | .formless => ""

def sparql [IriCheck] (d : Draft) (indent : String) (q : QueryId) : Except Failure String := do
  return String.join ((← d.queryLines indent q).map (· ++ "\n"))

end Draft

namespace Edit

def sparql [IriCheck] (indent : String) (q : QueryId) : Edit String := do
  let d ← get
  let text ← ofExcept (d.sparql indent q)
  log .debug s!"Serialized {Draft.formName (d.query q).form} query:\n{text}"
  return text

end Edit

end SparqlCompose
