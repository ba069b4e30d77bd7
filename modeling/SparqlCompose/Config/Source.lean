import SparqlCompose.Config.Basic
import SparqlCompose.Files

namespace SparqlCompose.Config

def unifyLineEnds : List Char → List Char
  | '\r' :: '\n' :: rest => '\n' :: unifyLineEnds rest
  | '\r' :: rest => '\n' :: unifyLineEnds rest
  | c :: rest => c :: unifyLineEnds rest
  | [] => []

def decode? (bytes : ByteArray) : Option String :=
  (String.fromUTF8? bytes).map fun s => String.ofList (unifyLineEnds s.toList)

def standardPaths (files : Files) : List RawText :=
  ["semanteco-config.yaml", "semanteco_config/semanteco-config.yaml",
   files.home ++ "/.semanteco/semanteco-config.yaml", "/etc/semanteco/semanteco-config.yaml"]

def standardModules : List RawText :=
  ["semanteco.providers.water_data_provider.WaterDataProviderModule",
   "semanteco.providers.air_data_provider.AirDataProviderModule"]

def builtinRoot : Value :=
  .mapping
    [(.text "endpoint", .mapping
      [(.text "url", .text standardUrl), (.text "method", .text "POST"),
       (.text "timeout", .integer standardTimeout), (.text "accept", .text Vocabulary.sparqlJson)]),
     (.text "modules", .list (standardModules.map .text)),
     (.text "app", .mapping
      [(.text "log_level", .text "INFO"), (.text "strict_composition", .boolean false)])]

def builtinPath : RawText := "<built-in defaults>"

def ofRoot (root : Value) (environment : List (String × RawText)) : Config :=
  ⟨root, "<programmatic>", environment⟩

end SparqlCompose.Config
