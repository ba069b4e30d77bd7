import SparqlCompose.Module

namespace SparqlCompose

structure Pipeline where
  modules : List Module
  services : Services

namespace Pipeline

def servicesOf (turtle : Rdf.Reader) (c : Config) : Except Failure Services := do
  return ⟨c, (← c.strict).truthy, turtle⟩

def repeatedNames (names : List String) : List String :=
  ((names.filter fun n => 1 < names.count n).eraseDups).mergeSort fun a b => !decide (b < a)

def make (modules : List Module) (services : Services) : Edit Pipeline := do
  match repeatedNames (modules.map (·.name)) with
  | [] => pure ()
  | names => throw (.configuration (.repeatedNames names))
  modules.forM fun m => Edit.log .info s!"Registered module {m.text}"
  return ⟨modules, services⟩

def module? (p : Pipeline) (name : RawText) : Option Module :=
  p.modules.find? fun m => (m.name : RawText) == name

/-- Reports the visit of a module to a query; a query without a form has none to report. -/
def reportVisit (r : Request) (q : QueryId) (m : Module) : Edit Unit := do
  match ((← get).query q).form with
  | .formless => throw .unsupported
  | form => Edit.report r .debug s!"{m.name} visiting {Draft.formName form} query"

def visitQuery (p : Pipeline) (r : Request) (q : QueryId) : Edit Unit :=
  p.modules.forM fun m => do
    reportVisit r q m
    m.visitQuery p.services r q

def visitDataModel (p : Pipeline) (r : Request) : Act Unit :=
  p.modules.forM fun m => do
    Edit.report r .debug s!"{m.name} visiting data model"
    m.visitDataModel p.services r

def domains (p : Pipeline) (r : Request) : Act (List Domain) := do
  let found ← (p.modules.filterMap (·.domains?)).mapM fun domains => domains p.services r
  return found.flatten

def methods (p : Pipeline) : List (String × String) :=
  p.modules.flatMap fun m => m.methods.map fun (name, _) => (m.name, name)

def invoke (p : Pipeline) (moduleName method : RawText) (r : Request) : Act Response := do
  match p.module? moduleName with
  | none => throw (.unknownMethod (.unknownModule moduleName))
  | some m =>
    match method.toString?.bind fun name => Entries.get? name m.methods with
    | none => throw (.unknownMethod (.unknownMethod moduleName method))
    | some f =>
      Edit.report r .debug s!"Invoking {moduleName.shown}.{method.shown}"
      f p.services r

end Pipeline

end SparqlCompose
