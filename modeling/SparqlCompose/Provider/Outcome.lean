import SparqlCompose.ResultTable
import SparqlCompose.Module

namespace SparqlCompose.Provider

def table (s : Services) (r : Request) (q : QueryId) (names : List RawText)
    (onBody : String → Act Unit) : Act ResultTable := do
  let endpoint ← Act.ofExcept (s.endpoint r)
  let endpoint ← Act.ofExcept (endpoint.accepting (.text Vocabulary.sparqlJson))
  let body ← endpoint.executeQuery q
  onBody body
  Edit.decodeTable (some names) (.text body)

/-- Answers with failure, and reports the task that failed, where the endpoint gives no body or the
body is no table of the kind that was asked for. -/
def recovering (r : Request) (task : String) (a : Act Response) : Act Response :=
  tryCatch a fun
    | .execution fault => do
      Edit.report r .error s!"Unable to {task}: {fault.message}"
      return .failed
    | .results fault => do
      Edit.report r .error s!"Unable to parse JSON results: {fault.message}"
      return .failed
    | failure => throw failure

end SparqlCompose.Provider
