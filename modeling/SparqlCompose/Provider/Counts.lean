import SparqlCompose.Number.Read
import SparqlCompose.Provider.Basic
import SparqlCompose.Provider.Outcome

namespace SparqlCompose.Provider

def isGiven (r : Request) (name : RawText) : Bool :=
  match r.parameter? name with
  | none => false
  | some .null => false
  | some _ => true

def addRegion (q : QueryId) (body : GroupId) (site : Variable) (r : Request) : Edit Unit := do
  let (county, stateCode) ← Edit.ofExcept (region r)
  let hasCounty ← Edit.internResource q (Vocabulary.pollution ++ "hasCounty")
  addStatements body site [(hasCounty, .literal (.text county))]
  let hasState ← Edit.internResource q (Vocabulary.pollution ++ "hasState")
  addStatements body site [(hasState, .literal (.text stateCode))]

def countQuery (s : Services) (r : Request) : Edit QueryId := do
  let q ← Edit.newSelect s.strict
  let site ← Edit.internVariable q (Vocabulary.queryVariable ++ Vocabulary.site)
  let type ← Edit.internVariable q (Vocabulary.queryVariable ++ "type")
  let hasType ← Edit.internResource q typeIri
  let count ← Edit.expression q (some ("COUNT(DISTINCT ?" ++ Vocabulary.site ++ ") as ?count"))
  Edit.project q [.entity (.variable type), .entity (.variable count)]
  Edit.groupBy q (.variable type)
  let body := ((← get).query q).body
  addStatements body site [(hasType, .variable type)]
  if isGiven r "county" || isGiven r "stateCode" then addRegion q body site r else pure ()
  return q

/-- The counts of the classes that the rows bind; the last row of a class counts. -/
def countsOf (known : List (RawText × Int)) : List Row → Except ResultFault (List (RawText × Int))
  | [] => .ok known
  | row :: rest =>
    match row.value? "type", row.value? "count" with
    | some type, some text =>
      match Number.integerIn? text with
      | some n => countsOf (Entries.put type n known) rest
      | none => .error (.countNotInteger type text)
    | _, _ => countsOf known rest

def instanceCount (counts : List (RawText × Int)) (uri : String) : Except Failure InstanceCount :=
  match Identifier.ofText? uri with
  | some i => .ok ⟨uri, i.name, (Entries.get? (uri : RawText) counts).getD 0⟩
  | none => .error (.invalid .emptyIdentifier)

def instanceCounts (counts : List (RawText × Int)) :
    List String → Except Failure (List InstanceCount)
  | [] => .ok []
  | uri :: rest => do
    let count ← instanceCount counts uri
    return count :: (← instanceCounts counts rest)

def tryCounts (s : Services) (r : Request) (q : QueryId) (classes : List String) :
    Act Response := do
  let table ← table s r q ["type", "count"] fun _ => pure ()
  let counts ← Act.ofExcept ((countsOf [] table.rows).mapError .results)
  return .counts true (some (← Act.ofExcept (instanceCounts counts classes)))

def countInstances (s : Services) (r : Request) (classes : List String) : Act Response := do
  let q ← countQuery s r
  recovering r "count instances" (tryCounts s r q classes)

def siteCounts (s : Services) (r : Request) : Act Response := do
  Edit.report r .debug "get_site_counts"
  countInstances s r [siteIri, Vocabulary.pollution ++ "Facility"]

end SparqlCompose.Provider
