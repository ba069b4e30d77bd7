import SparqlCompose.Value

namespace SparqlCompose.Yaml

inductive Fault
  | malformed
  | tooDeep
deriving DecidableEq

/-- What reads YAML: a text, and bytes that are not UTF-8. -/
structure Reader where
  load : String → Except Fault Value
  /-- Whether the text in front of the first wrong byte is found malformed before that byte is
  reached. -/
  stops : ByteArray → Bool

end SparqlCompose.Yaml
