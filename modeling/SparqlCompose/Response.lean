import SparqlCompose.Json.Printer

namespace SparqlCompose

structure Source where
  uri : RawText
  label : RawText
deriving DecidableEq

structure InstanceCount where
  type : String
  label : String
  count : Int
deriving DecidableEq

inductive Response
  | bare (success : Bool)
  | sources (success : Bool) (data : Option (List Source))
  | counts (success : Bool) (data : Option (List InstanceCount))
deriving DecidableEq

def Source.document (s : Source) : Value :=
  .mapping [(.text "uri", .text s.uri), (.text "label", .text s.label)]

def InstanceCount.document (c : InstanceCount) : Value :=
  .mapping [(.text "type", .text c.type), (.text "label", .text c.label),
    (.text "count", .integer c.count)]

namespace Response

def failed : Response := .bare false

def kind : Response → String
  | .bare _ => "QueryMethodResponse"
  | .sources .. => "SourceListResponse"
  | .counts .. => "InstanceCountResponse"

def success : Response → Bool
  | .bare s => s
  | .sources s _ => s
  | .counts s _ => s

def entries? : Response → Option (List Value)
  | .bare _ => none
  | .sources _ data => data.map (·.map Source.document)
  | .counts _ data => data.map (·.map InstanceCount.document)

/-- The answer as a document; without data it has no member for them. -/
def document (r : Response) : Value :=
  .mapping <| (.text "success", .boolean r.success) ::
    match r.entries? with
    | some entries => [(.text "data", .list entries)]
    | none => []

def json (r : Response) : Option String := Json.compact r.document

end Response

end SparqlCompose
