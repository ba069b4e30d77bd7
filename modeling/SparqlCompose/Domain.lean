import SparqlCompose.Entries
import SparqlCompose.Text.RawText

namespace SparqlCompose

structure DataType where
  identifier : String
  label : String
  icon : Option String
deriving DecidableEq

structure Domain where
  uri : String
  label : Option String
  sources : List (RawText × RawText)
  regulations : List (String × String)
  dataTypes : List (String × DataType)
deriving DecidableEq

namespace Domain

def ofUri (uri : String) : Domain := ⟨uri, none, [], [], []⟩

def withLabel (d : Domain) (label : String) : Domain := { d with label := some label }

def addSource (d : Domain) (uri label : RawText) : Domain :=
  { d with sources := Entries.put uri label d.sources }

def addRegulation (d : Domain) (uri label : String) : Domain :=
  { d with regulations := Entries.put uri label d.regulations }

def addDataType (d : Domain) (t : DataType) : Domain :=
  { d with dataTypes := Entries.put t.identifier t d.dataTypes }

def addSources (d : Domain) (sources : List (RawText × RawText)) : Domain :=
  sources.foldl (fun d (uri, label) => d.addSource uri label) d

def addRegulations (d : Domain) (regulations : List (String × String)) : Domain :=
  regulations.foldl (fun d (uri, label) => d.addRegulation uri label) d

def addDataTypes (d : Domain) (types : List DataType) : Domain := types.foldl addDataType d

end Domain

end SparqlCompose
