import SparqlCompose.Config.Endpoint
import SparqlCompose.Config.Source
import SparqlCompose.Proofs.Config.Validity

namespace SparqlCompose.Config

theorem exists_method {name : RawText} (known : name = "GET" ∨ name = "POST") :
    ∃ method : Method, .ofString method.name = name := by
  rcases known with rfl | rfl
  · exact ⟨.get, rfl⟩
  · exact ⟨.post, rfl⟩

theorem methodNamed_name (method : Method) :
    Endpoint.methodNamed (.text method.name) = .ok method := by
  cases method with
  | get =>
    have get : Method.ofName? (Text.upper Method.get.name) = some .get := by decide +kernel
    rw [Endpoint.methodNamed, get]
  | post =>
    have post : Method.ofName? (Text.upper Method.post.name) = some .post := by decide +kernel
    rw [Endpoint.methodNamed, post]

variable {c : Config}

theorem exists_root_of_valid (valid : c.validate = .ok ()) :
    ∃ entries, c.root = .mapping entries := by
  obtain ⟨url, reads, -⟩ := exists_of_bind_eq_ok valid
  obtain ⟨part, found, -⟩ := exists_of_bind_eq_ok reads
  rw [endpoint] at found
  cases root : c.root with
  | mapping entries => exact ⟨entries, rfl⟩
  | _ =>
    rw [root] at found
    cases found

theorem passed_of_valid (valid : c.validate = .ok ()) :
    ∃ entries, c.root = .mapping entries ∧ (∀ part ∈ ["endpoint", "app"], ¬ c.Shapeless part) ∧
      c.EndpointValid ∧ (NamesModules c.modulesInEffect ∨ Mistaken c.modulesInEffect) ∧
      ∃ b, c.strictInEffect = .boolean b := by
  obtain ⟨entries, is⟩ := exists_root_of_valid valid
  have verdict := verdict_validate is
  rw [valid] at verdict
  cases verdict with
  | passed shaped sound passes strict => exact ⟨entries, is, shaped, sound, passes, strict⟩

theorem endpointFor_of_valid (valid : c.validate = .ok ()) :
    ∃ url method n, c.urlInEffect = .text url ∧ c.methodInEffect? = some (.ofString method.name) ∧
      c.timeoutInEffect? = some (.integer n) ∧ 0 < n ∧ ∀ request, c.endpointFor request =
        .ok ⟨.text url, method, .integer n, c.acceptInEffect, request⟩ := by
  obtain ⟨entries, is, shaped, sound, -⟩ := passed_of_valid valid
  have shaped := shaped "endpoint" (by simp)
  obtain ⟨url, isUrl, some⟩ := checkUrl_eq_ok ((checkUrl_eq_ok_iff _).mpr sound.url)
  obtain ⟨name, isMethod, known⟩ := sound.method
  obtain ⟨method, rfl⟩ := exists_method known
  obtain ⟨n, isTimeout, positive⟩ := sound.timeout
  have complete : Endpoint.requireSettings [("endpoint_url", .text url)] = .ok () := by
    simp only [Endpoint.requireSettings, some, Bool.false_eq_true, if_false]
  refine ⟨url, method, n, isUrl, isMethod, isTimeout, positive, fun request => ?_⟩
  rw [endpointFor, url_eq is shaped, method_eq is shaped, timeout_of_some is shaped isTimeout,
    accept_eq is shaped, isUrl, isMethod]
  show Endpoint.make (.text url) (.text method.name) (.integer n) c.acceptInEffect request = _
  rw [Endpoint.make, complete, methodNamed_name]
  rfl

/-- The endpoint that the configuration describes, whoever asks. -/
structure Describes (c : Config) (e : Endpoint) : Prop where
  addressed : ∃ url, e.url = .text url
  endpointFor : ∀ request, c.endpointFor request = .ok { e with request := request }

theorem exists_describes (valid : c.validate = .ok ()) : ∃ e, c.Describes e := by
  obtain ⟨url, method, n, -, -, -, -, describes⟩ := endpointFor_of_valid valid
  exact ⟨⟨.text url, method, .integer n, c.acceptInEffect, none⟩, ⟨url, rfl⟩, describes⟩

theorem exists_paths (valid : c.validate = .ok ()) :
    ∃ paths : List RawText, c.modules = .ok (paths.map .text) ∧ AreClassPaths paths := by
  obtain ⟨entries, is, -, -, passes, -⟩ := passed_of_valid valid
  rw [modules_eq is]
  exact (listed_eq_ok_iff _).mpr passes

theorem exists_strict (valid : c.validate = .ok ()) : ∃ b, c.strict = .ok (.boolean b) := by
  obtain ⟨entries, is, shaped, -, -, b, strict⟩ := passed_of_valid valid
  exact ⟨b, by rw [strict_eq is (shaped "app" (by simp)), strict]⟩

def builtin (environment : List (String × RawText)) : Config :=
  ⟨builtinRoot, builtinPath, environment⟩

theorem valid_builtin : (builtin []).validate = .ok () := by rfl

end SparqlCompose.Config
