import SparqlCompose.Config.Basic

namespace SparqlCompose.Config

def given? (c : Config) (name : RawText) : Option Value :=
  match c.root with
  | .mapping entries => Value.member? name entries
  | _ => none

def settingGiven? (c : Config) (part name : RawText) : Option Value :=
  match c.given? part with
  | some (.mapping entries) => Value.member? name entries
  | _ => none

/-- The section is given and is no mapping. -/
def Shapeless (c : Config) (part : RawText) : Prop :=
  ∃ v, c.given? part = some v ∧ ∀ entries, v ≠ .mapping entries

def urlInEffect (c : Config) : Value :=
  match Entries.get? "SEMANTECO_ENDPOINT_URL" c.environment with
  | some s => .text s
  | none => (c.settingGiven? "endpoint" "url").getD (.text standardUrl)

def methodInEffect? (c : Config) : Option RawText :=
  ((c.settingGiven? "endpoint" "method").getD (.text "POST")).display.map Text.upper

def timeoutInEffect? (c : Config) : Option Value :=
  match Entries.get? "SEMANTECO_ENDPOINT_TIMEOUT" c.environment with
  | some s => (Number.integerIn? s).map .integer
  | none => some ((c.settingGiven? "endpoint" "timeout").getD (.integer standardTimeout))

def acceptInEffect (c : Config) : Value :=
  (c.settingGiven? "endpoint" "accept").getD (.text Vocabulary.sparqlJson)

def modulesInEffect (c : Config) : Value := (c.given? "modules").getD (.list [])

def strictInEffect (c : Config) : Value :=
  (c.settingGiven? "app" "strict_composition").getD (.boolean false)

variable {c : Config} {entries : List (Value × Value)} {part : RawText}

theorem setting_of_ne {v : Value} (other : ∀ entries, v ≠ .mapping entries) (name : RawText)
    (standard : Value) : setting v name standard = .error .unsupported := by
  cases v with
  | mapping entries => exact absurd rfl (other entries)
  | _ => rfl

theorem setting_root (is : c.root = .mapping entries) (name : RawText) (standard : Value) :
    setting c.root name standard = .ok ((c.given? name).getD standard) := by
  rw [given?, is]
  rfl

theorem exists_section (is : c.root = .mapping entries) (shaped : ¬ c.Shapeless part) :
    ∃ members, setting c.root part (.mapping []) = .ok (.mapping members) ∧
      ∀ name standard, setting (.mapping members) name standard =
        .ok ((c.settingGiven? part name).getD standard) := by
  rw [setting_root is]
  unfold settingGiven?
  cases found : c.given? part with
  | none => exact ⟨[], rfl, fun _ _ => rfl⟩
  | some v =>
    cases v with
    | mapping members => exact ⟨members, rfl, fun _ _ => rfl⟩
    | _ => exact absurd ⟨_, found, nofun⟩ shaped

theorem exists_shapeless (is : c.root = .mapping entries) (shapeless : c.Shapeless part) :
    ∃ v, setting c.root part (.mapping []) = .ok v ∧
      ∀ name standard, setting v name standard = .error .unsupported := by
  obtain ⟨v, found, other⟩ := shapeless
  exact ⟨v, by rw [setting_root is, found]; rfl, setting_of_ne other⟩

section Shaped

variable (is : c.root = .mapping entries)

include is

theorem url_eq (shaped : ¬ c.Shapeless "endpoint") : c.url = .ok c.urlInEffect := by
  obtain ⟨members, found, gives⟩ := exists_section is shaped
  rw [url, endpoint, found, urlInEffect]
  dsimp only [bind, Except.bind]
  rw [gives]
  cases Entries.get? "SEMANTECO_ENDPOINT_URL" c.environment <;> rfl

theorem url_of_shapeless (shapeless : c.Shapeless "endpoint") : c.url = .error .unsupported := by
  obtain ⟨v, found, fails⟩ := exists_shapeless is shapeless
  rw [url, endpoint, found]
  dsimp only [bind, Except.bind]
  rw [fails]

theorem method_eq (shaped : ¬ c.Shapeless "endpoint") :
    c.method = c.methodInEffect?.elim (.error .digits) .ok := by
  obtain ⟨members, found, gives⟩ := exists_section is shaped
  rw [method, endpoint, found, methodInEffect?]
  dsimp only [bind, Except.bind]
  rw [gives]
  dsimp only
  rw [Value.shown]
  cases ((c.settingGiven? "endpoint" "method").getD (.text "POST")).display <;> rfl

theorem timeout_of_some (shaped : ¬ c.Shapeless "endpoint") {v : Value}
    (inEffect : c.timeoutInEffect? = some v) : c.timeout = .ok v := by
  obtain ⟨members, found, gives⟩ := exists_section is shaped
  unfold timeoutInEffect? at inEffect
  unfold timeout
  cases given : Entries.get? "SEMANTECO_ENDPOINT_TIMEOUT" c.environment with
  | some s =>
    rw [given] at inEffect
    obtain ⟨n, reads, rfl⟩ := Option.map_eq_some_iff.mp inEffect
    dsimp only
    rw [reads]
  | none =>
    rw [given] at inEffect
    cases inEffect
    rw [endpoint, found]
    exact gives _ _

theorem accept_eq (shaped : ¬ c.Shapeless "endpoint") : c.accept = .ok c.acceptInEffect := by
  obtain ⟨members, found, gives⟩ := exists_section is shaped
  rw [accept, endpoint, found]
  exact gives _ _

theorem strict_eq (shaped : ¬ c.Shapeless "app") : c.strict = .ok c.strictInEffect := by
  obtain ⟨members, found, gives⟩ := exists_section is shaped
  rw [strict, app, found]
  exact gives _ _

theorem strict_of_shapeless (shapeless : c.Shapeless "app") : c.strict = .error .unsupported := by
  obtain ⟨v, found, fails⟩ := exists_shapeless is shapeless
  rw [strict, app, found]
  exact fails _ _

theorem modules_eq : c.modules = listed c.modulesInEffect := by
  rw [modules, setting_root is]
  rfl

end Shaped

theorem timeout_of_none (unread : c.timeoutInEffect? = none) :
    ∃ fault, c.timeout = .error (.configuration fault) := by
  unfold timeoutInEffect? at unread
  unfold timeout
  cases given : Entries.get? "SEMANTECO_ENDPOINT_TIMEOUT" c.environment with
  | some s =>
    rw [given] at unread
    dsimp only
    rw [Option.map_eq_none_iff.mp unread]
    exact ⟨_, rfl⟩
  | none =>
    rw [given] at unread
    cases unread

end SparqlCompose.Config
