import SparqlCompose.Proofs.Pipeline.Assembly

namespace SparqlCompose

namespace Library

variable {m : Module} {path : RawText}

def OnlyProviders (e : RawText × List (RawText × Attribute)) : Prop :=
  ∀ name m, (name, .module m) ∈ e.2 → ∃ p : Provider, (p = .water ∨ p = .air) ∧ p.toModule = m

theorem onlyProviders_package (name : String) (unfinished others : List String) :
    OnlyProviders (package name unfinished others) := by
  intro n m member
  rcases List.mem_append.mp member with left | right
  · obtain ⟨_, -, same⟩ := List.mem_map.mp left
    cases same
  · obtain ⟨_, -, same⟩ := List.mem_map.mp right
    cases same

theorem onlyProviders_provider {p : Provider} (known : p = .water ∨ p = .air) (name module : String)
    (others : List String) : OnlyProviders (provider name module p others) := by
  intro n m member
  rcases List.mem_cons.mp member with same | later
  · cases same
    exact ⟨p, known, rfl⟩
  · exact onlyProviders_package name ["DataProviderModule"] others n m later

theorem onlyProviders_standard : ∀ e ∈ standard.packages, OnlyProviders e := by
  simp only [standard, List.forall_mem_cons]
  refine ⟨onlyProviders_provider (.inr rfl) _ _ _, onlyProviders_provider (.inl rfl) _ _ _, ?_⟩
  simp [onlyProviders_package]

theorem exists_provider_of_has (has : standard.Has path (.module m)) :
    ∃ p : Provider, (p = .water ∨ p = .air) ∧ p.toModule = m := by
  obtain ⟨-, -, -, known, named⟩ := has
  exact onlyProviders_standard _ (Entries.mem_of_get? known) _ m (Entries.mem_of_get? named)

theorem exists_providers_of_has {paths : List RawText} {ms : List Module}
    (has : List.Forall₂ (fun path m => standard.Has path (.module m)) paths ms) :
    ∃ ps : List Provider, (∀ p ∈ ps, p = .water ∨ p = .air) ∧ ps.map Provider.toModule = ms := by
  induction has with
  | nil => exact ⟨[], List.forall_mem_nil _, rfl⟩
  | cons first _ ih =>
    obtain ⟨p, known, rfl⟩ := exists_provider_of_has first
    obtain ⟨ps, others, rfl⟩ := ih
    exact ⟨p :: ps, List.forall_mem_cons.mpr ⟨known, others⟩, rfl⟩

end Library

namespace Pipeline

theorem exists_ofDomains {c : Config} {p : Pipeline} {d d' : Draft} (valid : c.validate = .ok ())
    (made : (ofConfig c).run d = .ok p d') :
    (∃ ps, p.OfDomains ps) ∧ p.services.config = c := by
  obtain ⟨paths, listed, are⟩ := Config.exists_paths valid
  obtain ⟨services, provided, configured⟩ := exists_services valid Library.standard.turtle
  rw [ofConfig, run_ofLibrary d .standard provided listed] at made
  rcases Library.standard.modulesFor_cases are.dotted with
    ⟨-, failed⟩ | ⟨fault, failed⟩ | ⟨ms, loaded, has⟩
  · rw [failed] at made
    cases made
  · rw [failed] at made
    cases made
  obtain ⟨ps, known, rfl⟩ := Library.exists_providers_of_has has
  rw [loaded] at made
  change (make (ps.map Provider.toModule) services).run d = _ at made
  refine ⟨⟨ps, ofDomains_of_make known made⟩, ?_⟩
  rcases run_make (ps.map Provider.toModule) services d with ⟨-, registered⟩ | ⟨-, fault, refused⟩
  · rw [registered] at made
    cases made
    exact configured
  · rw [refused] at made
    cases made

end Pipeline

end SparqlCompose
