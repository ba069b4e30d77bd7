import SparqlCompose.Identifier
import SparqlCompose.Provider.Outcome

namespace SparqlCompose.Provider

def sourceQuery (strict : Bool) : Edit QueryId := do
  let q ← Edit.newSelect strict
  let source ← Edit.internVariable q (Vocabulary.queryVariable ++ Vocabulary.source)
  let label ← Edit.internVariable q (Vocabulary.queryVariable ++ Vocabulary.label)
  let hasSource ← Edit.internResource q (Vocabulary.dublinCore ++ Vocabulary.source)
  let hasLabel ← Edit.internResource q (Vocabulary.rdfs ++ Vocabulary.label)
  let graph ← Edit.newBlank q
  Edit.project q [.entity (.variable source), .entity (.variable label)]
  Edit.setDistinct q true
  let metadata ← Edit.internGraph q Vocabulary.metadataGraph
  let _ ← Edit.addPattern metadata (.ofTerm (.blank graph)) (.ofTerm (.resource hasSource))
    (.ofTerm (.variable source)) .absent
  let optional ← Edit.newGroup .optional
  Edit.addElement metadata (some (.group optional))
  let _ ← Edit.addPattern optional (.ofTerm (.variable source)) (.ofTerm (.resource hasLabel))
    (.ofTerm (.variable label)) .absent
  return q

def sourceOf (row : Row) : Except ResultFault Source :=
  match row.value? Vocabulary.source with
  | none => .error .noSource
  | some uri => .ok ⟨uri, (row.value? Vocabulary.label).getD (deriveLabel uri)⟩

def sourcesOf : List Row → Except ResultFault (List Source)
  | [] => .ok []
  | row :: rest => do
    let source ← sourceOf row
    return source :: (← sourcesOf rest)

def listSources (s : Services) (r : Request) : Act Response := do
  Edit.report r .debug "query_for_data_sources"
  let q ← sourceQuery s.strict
  recovering r "query data sources" do
    let table ← table s r q [Vocabulary.source, Vocabulary.label] fun body =>
      Edit.report r .debug s!"Results: {body}"
    let sources ← Act.ofExcept ((sourcesOf table.rows).mapError .results)
    return .sources true (some sources)

def knownSources (s : Services) (r : Request) : Act (List (RawText × RawText)) := do
  match ← listSources s r with
  | .sources _ (some data) => return data.map fun source => (source.uri, source.label)
  | _ =>
    Edit.report r .warning "Water data sources unavailable"
    return []

end SparqlCompose.Provider
