import SparqlCompose.Pipeline.Basic
import SparqlCompose.Provider.Air
import SparqlCompose.Provider.Water
import SparqlCompose.Rdf.Turtle.Document

namespace SparqlCompose

/-- What a name of a package stands for. -/
inductive Attribute
  | module (m : Module)
  /-- A module that leaves something open, so that none can be made. -/
  | unfinished
  | other

/-- What can be imported: packages, each with its names, and the reader of Turtle. -/
structure Library where
  packages : List (RawText × List (RawText × Attribute))
  turtle : Rdf.Reader

namespace Library

def parts (path : RawText) : RawText × RawText :=
  let parts := Identifier.splitAfterLast (· == Point.char '.') path.points
  (⟨parts.1.dropLast⟩, ⟨parts.2⟩)

/-- What a path stands for. A package that starts with a dot is relative to another one, and there
is none that it could be relative to. -/
def lookUp (lib : Library) (path : RawText) : Except Failure Attribute := do
  let (package, name) := parts path
  if package.points.head? = some (.char '.') then throw .kind
  if package.isEmpty then throw (.configuration (.unloadable path))
  match (Entries.get? package lib.packages).bind (Entries.get? name) with
  | some a => return a
  | none => throw (.configuration (.unloadable path))

def moduleFor (lib : Library) : Value → Except Failure Module
  | .text path => do
    match ← lib.lookUp path with
    | .module m => return m
    | .unfinished => throw .kind
    | .other => throw (.configuration (.notModule path))
  | _ => throw .unsupported

def package (name : String) (unfinished others : List String) :
    RawText × List (RawText × Attribute) :=
  let listed (a : Attribute) : String → RawText × Attribute := fun n => (n, a)
  (name, unfinished.map (listed .unfinished) ++ others.map (listed .other))

def provider (name module : String) (p : Provider) (others : List String) :
    RawText × List (RawText × Attribute) :=
  let (name, names) := package name ["DataProviderModule"] others
  (name, (module, .module p.toModule) :: names)

def standard : Library where
  packages :=
    [provider "semanteco.providers.air_data_provider" "AirDataProviderModule" Provider.air
       ["Domain", "Request", "AIR_MEASUREMENT_GRAPH", "AIR_NS"],
     provider "semanteco.providers.water_data_provider" "WaterDataProviderModule" Provider.water
       ["QueryExecutionError", "FAILURE", "QueryMethodResponse", "SourceEntry",
       "SourceListResponse", "Domain", "query_method", "Request", "RDFS_NS", "VAR_NS",
       "QueryType", "ResultDecodeError", "decode_results", "derive_label", "InstanceCounter",
       "DC_NS", "LABEL_VAR", "POL_NS", "SEMANTECO_METADATA", "SOURCE_VAR", "SPARQL_JSON",
       "WATER_MEASUREMENT_GRAPH", "WATER_NS", "REGULATION_NS"],
     package "semanteco.module" ["Module"]
       ["Request", "ModuleConfigurationError", "Domain", "DataType", "ProvidesDomain",
       "query_method", "ModuleConfiguration", "ModulePipeline", "UnknownQueryMethodError"],
     package "semanteco.module.module_inf" ["Module"]
       ["Query", "Request", "QUERY_METHOD_ATTR", "query_method", "is_query_method",
       "ProvidesDomain"],
     package "semanteco.module.pipeline" ["Module"]
       ["ClientConfigurationError", "SemantEcoConfig", "Query", "Domain", "ModuleConfiguration",
       "ProvidesDomain", "is_query_method", "Request", "UnknownQueryMethodError",
       "load_module_class", "ModulePipeline"],
     package "semanteco.providers.data_provider" ["Module", "DataProviderModule"]
       ["Domain", "ProvidesDomain", "Request", "RDF_NS", "VAR_NS", "ConstructQuery", "Query",
       "QueryType", "SelectQuery", "POL_NS", "SITE_VAR", "TURTLE", "UNIT_NS"],
     package "semanteco.providers.instance_counter" []
       ["QueryExecutionError", "FAILURE", "InstanceCount", "InstanceCountResponse",
       "QueryMethodResponse", "ModuleConfiguration", "Request", "RDF_NS", "VAR_NS", "QueryType",
       "SelectQuery", "split_identifier", "ResultDecodeError", "decode_results", "POL_NS",
       "SITE_VAR", "SPARQL_JSON", "InstanceCounter"],
     package "semanteco.providers.vocab" []
       ["POL_NS", "WATER_NS", "AIR_NS", "DC_NS", "UNIT_NS", "SEMANTECO_METADATA",
       "AIR_MEASUREMENT_GRAPH", "WATER_MEASUREMENT_GRAPH", "SITE_VAR", "SOURCE_VAR", "LABEL_VAR",
       "SPARQL_JSON", "TURTLE"],
     package "semanteco.query" []
       ["BlankNode", "QueryResource", "Variable", "BasicPattern", "GraphComponent",
       "GraphComponentCollection", "NamedGraphComponent", "OptionalComponent", "RDF_NS", "RDFS_NS",
       "VAR_NS", "CompositionConflictError", "ConstructQuery", "Query", "QueryType", "SelectQuery",
       "QueryFactory", "SparqlSerializer"],
     package "semanteco.query.query" []
       ["GraphComponentCollection", "NamedGraphComponent", "OptionalComponent", "BlankNode",
       "QueryResource", "Variable", "split_identifier", "RDF_NS", "RDFS_NS", "VAR_NS", "QueryType",
       "CompositionConflictError", "Query", "SelectQuery", "ConstructQuery"],
     package "json" []
       ["JSONDecodeError", "JSONDecoder", "JSONEncoder", "dump", "dumps", "load", "loads"]]
  turtle := Rdf.Turtle.read

end Library

namespace Pipeline

def ofLibrary (lib : Library) (c : Config) : Edit Pipeline := do
  let services ← Edit.ofExcept (servicesOf lib.turtle c)
  let entries ← Edit.ofExcept c.modules
  make (← Edit.ofExcept (entries.mapM lib.moduleFor)) services

def ofConfig (c : Config) : Edit Pipeline := ofLibrary .standard c

end Pipeline

end SparqlCompose
