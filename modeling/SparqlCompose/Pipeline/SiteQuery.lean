import SparqlCompose.Pipeline.Basic
import SparqlCompose.Provider.Basic

namespace SparqlCompose.Pipeline

def siteQuery (strict : Bool) : Edit QueryId := do
  let q ← Edit.newSelect strict
  let site ← Edit.internVariable q (Vocabulary.queryVariable ++ Vocabulary.site)
  Edit.project q [.entity (.variable site)]
  Edit.setDistinct q true
  let type ← Edit.internResource q Provider.typeIri
  let siteClass ← Edit.internResource q Provider.siteIri
  let _ ← Edit.addPattern ((← get).query q).body (.ofTerm (.variable site))
    (.ofTerm (.resource type)) (.ofTerm (.resource siteClass)) .absent
  return q

def composeSites (p : Pipeline) (r : Request) : Edit String := do
  let q ← siteQuery p.services.strict
  p.visitQuery r q
  Edit.sparql standardIndent q

end SparqlCompose.Pipeline
