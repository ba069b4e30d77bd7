import SparqlCompose.Config.Basic
import SparqlCompose.Endpoint

namespace SparqlCompose

def Config.endpointFor (c : Config) (request : Option Request) : Except Failure Endpoint := do
  let url ← c.url
  let method ← c.method
  let timeout ← c.timeout
  Endpoint.make url (.text method) timeout (← c.accept) request

end SparqlCompose
