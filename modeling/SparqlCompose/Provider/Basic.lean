import SparqlCompose.Module

namespace SparqlCompose

structure Provider where
  kind : String
  name : String
  space : String
  short : String
  label : String
  siteClass : String
  /-- The variable that tells whether a site belongs to the domain. -/
  flag : String
  graph : String
  regulations : List (String × String)
  dataTypes : List DataType
  sources : Services → Request → Act (List (RawText × RawText))
  methods : List (String × (Services → Request → Act Response))

namespace Provider

def typeIri : String := Vocabulary.rdf ++ "type"

def siteIri : String := Vocabulary.pollution ++ "MeasurementSite"

def flagText (p : Provider) : String :=
  "EXISTS \x7b ?" ++ Vocabulary.site ++ " a " ++ p.short ++ ":" ++ p.siteClass ++ " \x7d as ?" ++
    p.flag

def addSiteFlag (p : Provider) (q : QueryId) : Edit Unit := do
  Edit.bindNamespace q p.short p.space
  let flag ← Edit.expression q (some p.flagText)
  Edit.addProjection q (.entity (.variable flag))

/-- Marks the sites in a SELECT query that asks for measurement sites. -/
def visitQuery (p : Provider) (r : Request) (q : QueryId) : Edit Unit := do
  Edit.report r .debug s!"{p.name} updating query"
  match ((← get).query q).form with
  | .select .. =>
    let site ← Edit.internVariable q (Vocabulary.queryVariable ++ Vocabulary.site)
    let type ← Edit.internResource q typeIri
    let siteClass ← Edit.internResource q siteIri
    let d ← get
    let found := d.find (d.query q).body (.ofTerm (.variable site)) (.ofTerm (.resource type))
      (.ofTerm (.resource siteClass))
    if found.isEmpty then pure () else p.addSiteFlag q
  | _ => pure ()

def countyRemark : String := "County parameter not supplied."

def stateCodeRemark : String := "State code parameter not supplied."

def stateRemark : String :=
  "State parameter not supplied. Expected two letter state abbreviation, e.g. CA."

def measurementStatements (q : QueryId) (county stateCode : String) :
    Edit (Variable × List (Resource × Term)) := do
  let named (name : String) := Edit.internVariable q (Vocabulary.queryVariable ++ name)
  let measurement ← named "measurement"
  let element ← named "element"
  let value ← named "value"
  let unit ← named "unit"
  let hasCounty ← Edit.internResource q (Vocabulary.pollution ++ "hasCounty")
  let hasState ← Edit.internResource q (Vocabulary.pollution ++ "hasState")
  let hasCharacteristic ← Edit.internResource q (Vocabulary.pollution ++ "hasCharacteristic")
  let hasValue ← Edit.internResource q (Vocabulary.pollution ++ "hasValue")
  let hasUnit ← Edit.internResource q (Vocabulary.unit ++ "hasUnit")
  return (measurement,
    [(hasCounty, .literal (.text county)), (hasState, .literal (.text stateCode)),
     (hasCharacteristic, .variable element), (hasValue, .variable value),
     (hasUnit, .variable unit)])

def addStatements (group : GroupId) (subject : Variable) (statements : List (Resource × Term)) :
    Edit Unit :=
  statements.forM fun (predicate, object) => do
    let _ ← Edit.addPattern group (.ofTerm (.variable subject)) (.ofTerm (.resource predicate))
      (.ofTerm object) .absent

def region (r : Request) : Except Failure (String × String) := do
  let county ← r.require "county" countyRemark
  let stateCode ← r.require "stateCode" stateCodeRemark
  let county ← county.shown
  let stateCode ← stateCode.shown
  return (← county.plain, ← stateCode.plain)

/-- The query for the measurements of a county: what is matched in the graph of the measurements is
what is made. -/
def dataQuery (p : Provider) (s : Services) (r : Request) : Edit QueryId := do
  let _ ← Edit.ofExcept (r.require "state" stateRemark)
  let (county, stateCode) ← Edit.ofExcept (region r)
  let q ← Edit.newConstruct s.strict
  let (measurement, statements) ← measurementStatements q county stateCode
  let graph ← Edit.internGraph q p.graph
  let template ← Edit.template q
  addStatements graph measurement statements
  addStatements template measurement statements
  return q

def visitDataModel (p : Provider) (s : Services) (r : Request) : Act Unit := do
  Edit.report r .debug s!"Visiting {p.name} building data model"
  let q ← p.dataQuery s r
  let endpoint ← Act.ofExcept (s.endpoint r)
  let endpoint ← Act.ofExcept (endpoint.accepting (.text Vocabulary.turtle))
  let document ← endpoint.executeQuery q
  let before := (← get).triples.length
  Act.load s.turtle document
  Edit.report r .info s!"{p.name} loaded {(← get).triples.length - before} triples"

def domain (p : Provider) (s : Services) (r : Request) : Act Domain := do
  let d := (Domain.ofUri p.space).withLabel p.label
  let d := d.addSources (← p.sources s r)
  return (d.addRegulations p.regulations).addDataTypes p.dataTypes

def toModule (p : Provider) : Module where
  kind := p.kind
  name := p.name
  version := .initial
  visitQuery := fun _ r q => p.visitQuery r q
  visitDataModel := p.visitDataModel
  domains? := some fun s r => do return [← p.domain s r]
  methods := p.methods
  dataQuery? := some p.dataQuery

end Provider

end SparqlCompose
