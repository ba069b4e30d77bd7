import SparqlCompose.Session
import SparqlCompose.Text.Blank

namespace SparqlCompose

structure Request where
  id : String
  parameters : List (RawText × Value)
deriving Inhabited

namespace Request

def parameter? (r : Request) (name : RawText) : Option Value := Entries.get? name r.parameters

/-- Nothing, and a text of blanks only, count as not given. -/
def isMissing : Option Value → Bool
  | none => true
  | some .null => true
  | some (.text t) => t.isAllBlank
  | some _ => false

def require (r : Request) (name : String) (remark : String) : Except Failure Value :=
  match r.parameter? name with
  | some v => if isMissing (some v) then .error (.parameter name remark) else .ok v
  | none => .error (.parameter name remark)

def mark (r : Request) (message : String) : String := s!"[{r.id}] {message}"

def text (r : Request) : Option String := do
  let parameters ← (Value.mapping (r.parameters.map fun (k, v) => (.text k, v))).literal
  return "Request(id=" ++ r.id ++ ", params=" ++ parameters ++ ")"

end Request

def Edit.report (r : Request) (level : Level) (message : String) : Edit Unit :=
  log level (r.mark message)

end SparqlCompose
