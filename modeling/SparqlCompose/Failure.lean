import SparqlCompose.Term
import SparqlCompose.Value

namespace SparqlCompose

inductive Invalid
  | emptyIdentifier
  | missingTerm (role : Role)
  | unsupportedTerm (role : Role) (kind : String)
  | expressionTerm (role : Role) (name : String)
  | missingElement
  | cyclicNesting
  | emptyGraphName
  | notVariable (kind : String)
  | missingAlias (text : Option String)
  | aliasTaken (name : String)
  | unknownForm (form : String)
  | formlessQuery
  | strayElement (kind : String)
  | unsupportedMethod (method : RawText)
deriving DecidableEq

def Invalid.message : Invalid → String
  | .emptyIdentifier => "Identifier must be a non-empty string"
  | .missingTerm role => s!"Pattern {role.name} must not be None"
  | .unsupportedTerm role kind => s!"Unsupported pattern {role.name}: {kind}"
  | .expressionTerm role name =>
    s!"Expression variable ?{name} cannot be used as pattern {role.name}"
  | .missingElement => "Graph component must not be None"
  | .cyclicNesting => "A collection cannot contain itself"
  | .emptyGraphName => "Named graph URI must be a non-empty string"
  | .notVariable kind => s!"Projection entries must be variables, got {kind}"
  | .missingAlias text =>
    "Variable expression must end with 'as ?name': " ++
      (text.map fun t : String => Text.quoted t).getD "None"
  | .aliasTaken name => s!"?{name} is already a pattern variable"
  | .unknownForm form => s!"Unsupported query type: {form}"
  | .formlessQuery => "Unsupported query class: Query"
  | .strayElement kind => s!"Unsupported graph component: {kind}"
  | .unsupportedMethod method => s!"Unsupported HTTP method: {method.shown}"

inductive Conflict
  | namespaceRebound (label old new : String)
  | expressionRedefined (name old new : String)
deriving DecidableEq

def Conflict.message : Conflict → String
  | .namespaceRebound label old new =>
    s!"Namespace prefix '{label}' rebound from <{old}> to <{new}>"
  | .expressionRedefined name old new => s!"Projection ?{name} redefined from '{old}' to '{new}'"

inductive ConfigFault
  | notFound (path : RawText)
  | unreadable (reason : String)
  | malformed
  | rootNotMapping
  | timeoutVariable (text : RawText)
  | emptyUrl
  | urlScheme
  | methodName
  | timeoutValue
  | moduleEntry (entry : String)
  | repeatedModules
  | strictFlag
  | unloadable (path : RawText)
  | notModule (path : RawText)
  | repeatedNames (names : List String)

def ConfigFault.message : ConfigFault → String
  | .notFound path => s!"Configuration file not found: {path.shown}"
  | .unreadable reason => s!"Error loading configuration file: {reason}"
  | .malformed => "Error parsing YAML configuration"
  | .rootNotMapping => "Configuration root must be a mapping"
  | .timeoutVariable text =>
    "SEMANTECO_ENDPOINT_TIMEOUT must be an integer: " ++ Text.quoted text
  | .emptyUrl => "Endpoint URL must be a non-empty string"
  | .urlScheme => "Endpoint URL must start with http:// or https://"
  | .methodName => "Endpoint method must be GET or POST"
  | .timeoutValue => "Timeout must be a positive integer"
  | .moduleEntry entry => s!"Module entry must be a dotted class path: {entry}"
  | .repeatedModules => "Module list contains duplicate entries"
  | .strictFlag => "strict_composition must be a boolean value"
  | .unloadable path => s!"Cannot load module class '{path.shown}'"
  | .notModule path => s!"'{path.shown}' is not a SemantEco Module"
  | .repeatedNames names =>
    "Duplicate module names: [" ++
      ", ".intercalate (names.map fun n : String => Text.quoted n) ++ "]"

inductive ExecutionFault
  | transport (reason : String)
  | status (code : Int)
  | emptyBody (code : Int)
deriving DecidableEq

namespace ExecutionFault

def message : ExecutionFault → String
  | .transport reason => s!"SPARQL endpoint request failed: {reason}"
  | .status code => s!"SPARQL query failed with status {code}"
  | .emptyBody _ => "SPARQL endpoint returned an empty response"

def code? : ExecutionFault → Option Int
  | .transport _ => none
  | .status code => some code
  | .emptyBody code => some code

end ExecutionFault

inductive ResultFault
  | noResponse
  | notJson
  | rootNotObject
  | noResults
  | noBindings
  | rowNotObject (index : Nat)
  | noValue (name : RawText)
  | valueNotText (name : RawText)
  | noSource
  | countNotInteger (uri count : RawText)
deriving DecidableEq

def ResultFault.message : ResultFault → String
  | .noResponse => "No response to decode"
  | .notJson => "Response is not valid JSON"
  | .rootNotObject => "Response root is not an object"
  | .noResults => "Response has no 'results' object"
  | .noBindings => "Response has no 'bindings' array"
  | .rowNotObject index => s!"Row {index} is not an object"
  | .noValue name => s!"Binding for '{name.shown}' has no 'value'"
  | .valueNotText name => s!"Binding value for '{name.shown}' is not a string"
  | .noSource => "Row without ?source binding"
  | .countNotInteger uri count =>
    s!"Count for {uri.shown} is not an integer: " ++ Text.quoted count

inductive MethodFault
  | unknownModule (name : RawText)
  | unknownMethod (moduleName method : RawText)
deriving DecidableEq

def MethodFault.message : MethodFault → String
  | .unknownModule name => s!"No module named '{name.shown}'"
  | .unknownMethod moduleName method =>
    s!"'{moduleName.shown}' has no query method '{method.shown}'"

inductive Failure
  | invalid (cause : Invalid)
  | conflict (cause : Conflict)
  | unwritableIri (iri : String)
  | parameter (name remark : String)
  | configuration (cause : ConfigFault)
  | setting (name : String)
  | execution (cause : ExecutionFault)
  | results (cause : ResultFault)
  | unknownMethod (cause : MethodFault)
  | option (item : RawText)
  | unanswered (method url : String)
  | absentName (name : RawText)
  | turtle
  | encoding
  /-- A text with surrogates that is to be written as UTF-8. -/
  | unencodable
  /-- An integer with too many digits that is to be written in digits. -/
  | digits
  /-- What the file system reports about a path that it cannot look up. -/
  | system (reason : String)
  | unsupported
  | kind
  | tooDeep

namespace Failure

def message : Failure → String
  | .invalid cause => cause.message
  | .conflict cause => cause.message
  | .unwritableIri iri =>
    s!"\"{iri}\" does not look like a valid URI, I cannot serialize this as N3/Turtle. " ++
      "Perhaps you wanted to urlencode it?"
  | .parameter name remark =>
    if remark.isEmpty then s!"Required parameter '{name}' not supplied." else remark
  | .configuration cause => cause.message
  | .setting name => s!"Required parameter '{name}' is missing or empty"
  | .execution cause => cause.message
  | .results cause => cause.message
  | .unknownMethod cause => cause.message
  | .option item => s!"Expected key=value, got '{item.shown}'"
  | .unanswered method url => s!"Unexpected request: {method} {url}"
  | .absentName name => name.shown
  | .turtle => "malformed Turtle document"
  | .encoding => "text is not UTF-8"
  | .unencodable => "text with surrogates"
  | .digits =>
    "Exceeds the limit (4300 digits) for integer string conversion; " ++
      "use sys.set_int_max_str_digits() to increase the limit"
  | .system reason => reason
  | .unsupported => "unsupported operation"
  | .kind => "unsupported kind of value"
  | .tooDeep => "nesting too deep"

end Failure

def Value.shown (v : Value) : Except Failure RawText := v.display.elim (.error .digits) .ok

def RawText.plain (r : RawText) : Except Failure String :=
  r.toString?.elim (.error .unencodable) .ok

@[simp] theorem Value.shown_eq_ok_iff {v : Value} {r : RawText} :
    v.shown = .ok r ↔ v.display = some r := by
  rw [shown]
  cases v.display <;> simp

theorem RawText.plain_cases (r : RawText) :
    (∃ s : String, r = s ∧ r.plain = .ok s) ∨
      (∀ s : String, r ≠ s) ∧ r.plain = .error .unencodable := by
  rw [plain]
  cases found : r.toString? with
  | some s => exact .inl ⟨s, toString?_eq_some_iff.mp found, rfl⟩
  | none =>
    refine .inr ⟨fun s same => ?_, rfl⟩
    rw [toString?_eq_some_iff.mpr same] at found
    cases found

@[simp] theorem RawText.plain_eq_ok_iff {r : RawText} {s : String} :
    r.plain = .ok s ↔ r = s := by
  rw [← toString?_eq_some_iff, plain]
  cases r.toString? <;> simp

end SparqlCompose
