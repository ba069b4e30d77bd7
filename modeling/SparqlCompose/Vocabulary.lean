namespace SparqlCompose.Vocabulary

def rdf : String := "http://www.w3.org/1999/02/22-rdf-syntax-ns#"
def rdfs : String := "http://www.w3.org/2000/01/rdf-schema#"
def xsd : String := "http://www.w3.org/2001/XMLSchema#"
def dublinCore : String := "http://purl.org/dc/terms/"

/-- The space of all variables that modules share by name. -/
def queryVariable : String :=
  "http://aquarius.tw.rpi.edu/projects/semantaqua/data-source/query-variable/"

def pollution : String := "http://escience.rpi.edu/ontology/semanteco/2/0/pollution.owl#"
def water : String := "http://escience.rpi.edu/ontology/semanteco/2/0/water.owl#"
def air : String := "http://was.tw.rpi.edu/ontology/semanteco/air/air.owl#"
def unit : String := "http://sweet.jpl.nasa.gov/2.1/reprSciUnits.owl#"

def metadataGraph : String := "http://sparql.tw.rpi.edu/semanteco/data-source"
def airMeasurements : String := "http://was.tw.rpi.edu/air-measurement-data"
def waterMeasurements : String := "http://was.tw.rpi.edu/water-measurement-data"
def waterRegulations : String := "http://escience.rpi.edu/ontology/semanteco/2/0/"

def site : String := "site"
def source : String := "source"
def label : String := "label"

def sparqlJson : String := "application/sparql-results+json"
def turtle : String := "text/turtle"

end SparqlCompose.Vocabulary
