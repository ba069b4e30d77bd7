import SparqlCompose.Draft.Expression
import SparqlCompose.Draft.Group
import SparqlCompose.Vocabulary

namespace SparqlCompose

namespace Draft

def intern (d : Draft) (q : QueryId) (i : Identifier) : Draft :=
  match Entries.get? i (d.query q).asked with
  | some _ => d
  | none =>
    d.setQuery q
      { d.query q with asked := Entries.put i none (d.query q).asked }

def setExpression (d : Draft) (q : QueryId) (i : Identifier) (expression : String) : Draft :=
  d.setQuery q
    { d.query q with asked := Entries.put i (some expression) (d.query q).asked }

def graph? (d : Draft) (q : QueryId) (uri : String) : Option GroupId :=
  (d.group (d.query q).body).groups.find? fun g => (d.group g).kind = .graph uri

/-- The variables of a list without later repetitions of an identifier. -/
def keepFirst (vs : List Variable) : List Variable :=
  vs.foldl (fun kept v =>
    if kept.any (·.identifier == v.identifier) then kept else kept ++ [v]) []

def variablesFor (d : Draft) : List Operand → Except Failure (List Variable)
  | [] => .ok []
  | .entity (.variable v) :: rest => do return v :: (← d.variablesFor rest)
  | x :: _ => .error (.invalid (.notVariable (d.operandKind x)))

def projection? (d : Draft) (q : QueryId) : Option (List Variable) :=
  match (d.query q).form with
  | .select _ projection _ => some projection
  | _ => none

end Draft

namespace Edit

def identifier (text : String) : Edit Identifier :=
  match Identifier.ofText? text with
  | some i => return i
  | none => throw (.invalid .emptyIdentifier)

def internVariable (q : QueryId) (text : String) : Edit Variable := do
  let i ← identifier text
  modify (·.intern q i)
  return ⟨q, i⟩

def internResource (q : QueryId) (text : String) : Edit Resource := do
  let i ← identifier text
  modify fun d =>
    let known := (d.query q).resources
    if i ∈ known then d else d.setQuery q { d.query q with resources := known ++ [i] }
  return ⟨q, i⟩

def newBlank (q : QueryId) : Edit BlankNode := do
  let d ← get
  let n := (d.query q).blanks
  set (d.setQuery q { d.query q with blanks := n + 1 })
  return ⟨q, n⟩

/-- The named graph with this name in the body; it is added at the end when there is none. -/
def internGraph (q : QueryId) (uri : String) : Edit GroupId := do
  match (← get).graph? q uri with
  | some g => return g
  | none =>
    let g ← newGraph uri
    addElement ((← get).query q).body (some (.group g))
    return g

/-- Refuses a conflict in a strict query and reports it in any other. -/
def settle (strict : Bool) (c : Conflict) : Edit Unit :=
  if strict then throw (.conflict c) else log .warning c.message

def bindNamespace (q : QueryId) (label uri : String) : Edit Unit := do
  let query := (← get).query q
  match Entries.get? label query.namespaces with
  | some old =>
    if old = uri then pure () else settle query.strict (.namespaceRebound label old uri)
  | none => pure ()
  modify fun d =>
    d.setQuery q { d.query q with namespaces := Entries.put label uri (d.query q).namespaces }

def template (q : QueryId) : Edit GroupId := do
  match ((← get).query q).form with
  | .construct g => return g
  | _ => throw .unsupported

def projection (q : QueryId) : Edit (List Variable) := do
  match (← get).projection? q with
  | some vs => return vs
  | none => throw .unsupported

def modifySelection (q : QueryId)
    (f : Bool → List Variable → List Entity → Bool × List Variable × List Entity) :
    Edit Unit := do
  let d ← get
  match (d.query q).form with
  | .select distinct projection grouping =>
    let (distinct, projection, grouping) := f distinct projection grouping
    set (d.setQuery q { d.query q with form := .select distinct projection grouping })
  | _ => throw .unsupported

def project (q : QueryId) (xs : List Operand) : Edit Unit := do
  let _ ← projection q
  let vs ← ofExcept ((← get).variablesFor xs)
  modifySelection q fun distinct _ grouping => (distinct, Draft.keepFirst vs, grouping)

def addProjection (q : QueryId) (x : Operand) : Edit Unit := do
  let vs ← projection q
  project q (vs.map (fun v => .entity (.variable v)) ++ [x])

def setDistinct (q : QueryId) (flag : Bool) : Edit Unit :=
  modifySelection q fun _ projection grouping => (flag, projection, grouping)

def groupBy (q : QueryId) (e : Entity) : Edit Unit :=
  modifySelection q fun distinct projection grouping =>
    (distinct, projection, if grouping.any (·.equal e) then grouping else grouping ++ [e])

def sharedIdentifier (name : String) : Identifier := ⟨Vocabulary.queryVariable, name⟩

/-- The computed variable that a text like `COUNT(?x) as ?count` describes. An alias that is already
a variable of patterns is refused. -/
def expression (q : QueryId) (text : Option String) : Edit Variable := do
  let _ ← projection q
  match text.bind Computed.ofText? with
  | none => throw (.invalid (.missingAlias text))
  | some c =>
    let query := (← get).query q
    let i := sharedIdentifier c.name
    match Entries.get? i query.asked with
    | none => modify (·.setExpression q i c.expression)
    | some none => throw (.invalid (.aliasTaken c.name))
    | some (some old) =>
      if old = c.expression then pure ()
      else
        settle query.strict (.expressionRedefined c.name old c.expression)
        modify (·.setExpression q i c.expression)
    return ⟨q, i⟩

end Edit

end SparqlCompose
