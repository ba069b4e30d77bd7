import SparqlCompose.Entries
import SparqlCompose.Failure
import SparqlCompose.Journal

namespace SparqlCompose

inductive GroupKind
  | plain
  | graph (uri : String)
  | optional
deriving DecidableEq, Inhabited

inductive Element
  | pattern (p : Pattern)
  | group (g : GroupId)
  /-- A thing that is neither a pattern nor a group; it has no written form. -/
  | stray (thing : Entity)
deriving DecidableEq

namespace Element

def ofEntity : Entity → Element
  | .pattern p => .pattern p
  | .group g => .group g
  | e => .stray e

def group? : Element → Option GroupId
  | .group g => some g
  | _ => none

def pattern? : Element → Option Pattern
  | .pattern p => some p
  | _ => none

end Element

structure Group where
  kind : GroupKind
  elements : List Element
deriving DecidableEq, Inhabited

namespace Group

def patterns (g : Group) : List Pattern := g.elements.filterMap Element.pattern?

def groups (g : Group) : List GroupId := g.elements.filterMap Element.group?

end Group

inductive Form
  | select (distinct : Bool) (projection : List Variable) (grouping : List Entity)
  | construct (template : GroupId)
  | formless
deriving DecidableEq, Inhabited

structure Query where
  strict : Bool
  namespaces : List (String × String)
  body : GroupId
  /-- The variables that were asked for; one with an expression is computed, not matched. -/
  asked : List (Identifier × Option String)
  resources : List Identifier
  blanks : Nat
  form : Form
deriving DecidableEq, Inhabited

structure Draft where
  groups : Array Group
  queries : Array Query
  serial : Nat
  journal : Array Entry
deriving Inhabited

/-- A step of composition. A step that fails leaves the draft as it was at the failure. -/
abbrev Edit := EStateM Failure Draft

namespace Draft

def empty : Draft := ⟨#[], #[], 0, #[]⟩

def group (d : Draft) (g : GroupId) : Group := d.groups[g.index]?.getD default

def query (d : Draft) (q : QueryId) : Query := d.queries[q.index]?.getD default

def setGroup (d : Draft) (g : GroupId) (new : Group) : Draft :=
  { d with groups := d.groups.setIfInBounds g.index new }

def setQuery (d : Draft) (q : QueryId) (new : Query) : Draft :=
  { d with queries := d.queries.setIfInBounds q.index new }

def expression? (d : Draft) (v : Variable) : Option String :=
  (Entries.get? v.identifier (d.query v.query).asked).join

end Draft

namespace Edit

def ofExcept {α : Type} : Except Failure α → Edit α
  | .ok a => pure a
  | .error e => throw e

def log (level : Level) (message : String) : Edit Unit :=
  modify fun d => { d with journal := d.journal.push ⟨level, message⟩ }

def newGroup (kind : GroupKind) : Edit GroupId := do
  let d ← get
  set { d with groups := d.groups.push ⟨kind, []⟩ }
  return ⟨d.groups.size⟩

def newSerial : Edit Nat := do
  let d ← get
  set { d with serial := d.serial + 1 }
  return d.serial

def newBare : Edit Entity := do
  return .bare (← newSerial)

def addQuery (strict : Bool) (form : Form) : Edit QueryId := do
  let body ← newGroup .plain
  let d ← get
  set { d with queries := d.queries.push ⟨strict, [], body, [], [], 0, form⟩ }
  return ⟨d.queries.size⟩

def newSelect (strict : Bool) : Edit QueryId := do
  let q ← addQuery strict (.select false [] [])
  log .debug "Created new SELECT query"
  return q

def newConstruct (strict : Bool) : Edit QueryId := do
  let template ← newGroup .plain
  let q ← addQuery strict (.construct template)
  log .debug "Created new CONSTRUCT query"
  return q

/-- A query without a form, which can be composed but not written. -/
def newFormless (strict : Bool) : Edit QueryId := addQuery strict .formless

def newQuery (strict : Bool) (form : String) : Edit QueryId :=
  if form = "SELECT" then newSelect strict
  else if form = "CONSTRUCT" then newConstruct strict
  else throw (.invalid (.unknownForm form))

end Edit

end SparqlCompose
