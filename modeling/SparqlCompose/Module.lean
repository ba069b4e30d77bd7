import SparqlCompose.Config.Endpoint
import SparqlCompose.Domain
import SparqlCompose.Rdf.Triple
import SparqlCompose.Response

namespace SparqlCompose

structure Version where
  major : Int
  minor : Int
  extra : Option String
deriving DecidableEq

namespace Version

def initial : Version := ⟨1, 0, none⟩

def text (v : Version) : String :=
  let number := s!"{v.major}.{v.minor}"
  match v.extra with
  | some e => if e.isEmpty then number else s!"{number}-{e}"
  | none => number

end Version

/-- What the modules of a pipeline share. -/
structure Services where
  config : Config
  strict : Bool
  turtle : Rdf.Reader

def Services.endpoint (s : Services) (r : Request) : Except Failure Endpoint :=
  s.config.endpointFor (some r)

structure Module where
  /-- What the module is an instance of. -/
  kind : String
  name : String
  version : Version
  visitQuery : Services → Request → QueryId → Edit Unit
  visitDataModel : Services → Request → Act Unit
  domains? : Option (Services → Request → Act (List Domain))
  methods : List (String × (Services → Request → Act Response))
  dataQuery? : Option (Services → Request → Edit QueryId)

def Module.text (m : Module) : String :=
  m.kind ++ "(" ++ Text.quoted m.name ++ ", " ++ m.version.text ++ ")"

/-- Adds the triples that are read from a document to the data model. A fault in the document is
reported after the triples in front of it have been added. -/
def Act.load (read : Rdf.Reader) (document : String) : Act Unit := do
  let (triples, complete) := read (← get).documents document
  modify fun s => { s with
    triples := Rdf.Triple.insertAll triples s.triples, documents := s.documents ++ [document] }
  if complete then pure () else throw .turtle

end SparqlCompose
