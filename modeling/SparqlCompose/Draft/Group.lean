import SparqlCompose.Draft.Basic

namespace SparqlCompose

def Pattern.answers (p : Pattern) (s v o : Operand) : Bool :=
  s.accepts p.subject && v.accepts p.predicate && o.accepts p.object

namespace Draft

def entityKind (d : Draft) : Entity → String
  | .variable _ => "Variable"
  | .resource _ => "QueryResource"
  | .blank _ => "BlankNode"
  | .pattern _ => "BasicPattern"
  | .bare _ => "GraphComponent"
  | .group g =>
    match (d.group g).kind with
    | .plain => "GraphComponentCollection"
    | .graph _ => "NamedGraphComponent"
    | .optional => "OptionalComponent"
  | .query q =>
    match (d.query q).form with
    | .select .. => "SelectQuery"
    | .construct _ => "ConstructQuery"
    | .formless => "Query"

def operandKind (d : Draft) : Operand → String
  | .absent => "NoneType"
  | .entity e => d.entityKind e
  | .literal l => l.kind
  | .foreign kind => kind

def termFor (d : Draft) (role : Role) (x : Operand) : Except Failure Term :=
  match x, x.term? with
  | .absent, _ => .error (.invalid (.missingTerm role))
  | x, none => .error (.invalid (.unsupportedTerm role (d.operandKind x)))
  | _, some (.variable v) =>
    if (d.expression? v).isSome then .error (.invalid (.expressionTerm role v.name))
    else .ok (.variable v)
  | _, some t => .ok t

def scopeFor (d : Draft) : Operand → Except Failure (Option Term)
  | .absent => .ok none
  | x => (d.termFor .graph x).map some

/-- The four parts of a pattern, the first unfit one being reported. -/
def patternFor (d : Draft) (serial : Nat) (s v o g : Operand) : Except Failure Pattern := do
  let s ← d.termFor .subject s
  let v ← d.termFor .predicate v
  let o ← d.termFor .object o
  let g ← d.scopeFor g
  return ⟨serial, s, v, o, g⟩

def append (d : Draft) (g : GroupId) (e : Element) : Draft :=
  d.setGroup g { d.group g with elements := (d.group g).elements ++ [e] }

/-- Whether `target` is `g` or stands below it, at most `depth` levels down. -/
def reaches (d : Draft) (target : GroupId) : Nat → GroupId → Bool
  | 0, g => g == target
  | depth + 1, g => g == target || (d.group g).groups.any (d.reaches target depth)

/-- The groups at and below `g`, from the top and in order, that hold a pattern answering the
search. A group that is reached along several paths is listed once for each. -/
def findBelow (d : Draft) (s v o : Operand) : Nat → GroupId → List GroupId
  | 0, _ => []
  | depth + 1, g =>
    (if (d.group g).patterns.any (·.answers s v o) then [g] else []) ++
      (d.group g).groups.flatMap (d.findBelow s v o depth)

/-- Nesting is never deeper than the number of groups. -/
def depth (d : Draft) : Nat := d.groups.size

def find (d : Draft) (g : GroupId) (s v o : Operand) : List GroupId :=
  d.findBelow s v o d.depth g

end Draft

namespace Edit

def newPattern (s v o g : Operand) : Edit Pattern := do
  let p ← ofExcept ((← get).patternFor (← get).serial s v o g)
  let _ ← newSerial
  return p

def append (g : GroupId) (e : Element) : Edit Unit := modify (·.append g e)

def addPattern (group : GroupId) (s v o g : Operand) : Edit Pattern := do
  let p ← newPattern s v o g
  append group (.pattern p)
  return p

def addElement (group : GroupId) (e : Option Element) : Edit Unit := do
  match e with
  | none => throw (.invalid .missingElement)
  | some e =>
    let d ← get
    match e with
    | .group inner =>
      if d.reaches group d.depth inner then throw (.invalid .cyclicNesting)
      else append group e
    | _ => append group e

def newGraph (uri : String) : Edit GroupId :=
  if uri.isEmpty then throw (.invalid .emptyGraphName) else newGroup (.graph uri)

end Edit

end SparqlCompose
