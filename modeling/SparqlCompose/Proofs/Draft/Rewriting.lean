import SparqlCompose.Proofs.Draft.Journal
import SparqlCompose.Proofs.Draft.QueryRuns

namespace SparqlCompose.Edit

open Draft

/-- The step gives the answer and rewrites the query. Only in trouble does it fail, or report more
than what it is doing. -/
def Rewrites (trouble : Prop) (q : QueryId) (f : Query → Query) {α : Type} (a : α) (e : Edit α)
    (d : Draft) : Prop :=
  (trouble ∧ ∃ failure d', e.run d = .error failure d') ∨
    ∃ es : Array Entry, (¬ trouble → ∀ entry ∈ es, entry.level = .debug) ∧
      e.run d = .ok a ((d.revise q f).recordAll es)

variable {α β : Type} {trouble : Prop} {q : QueryId} {f g : Query → Query} {a : α} {b : β}
  {d : Draft}

theorem Rewrites.mono {worse : Prop} {e : Edit α} (h : e.Rewrites trouble q f a d)
    (le : trouble → worse) : e.Rewrites worse q f a d := by
  rcases h with ⟨now, failed⟩ | ⟨es, levels, outcome⟩
  · exact .inl ⟨le now, failed⟩
  · exact .inr ⟨es, fun never => levels fun now => never (le now), outcome⟩

theorem Rewrites.of_run {e k : Edit α} {es : Array Entry}
    (run : e.run d = k.run ((d.revise q f).recordAll es))
    (levels : ¬ trouble → ∀ entry ∈ es, entry.level = .debug)
    (rest : k.Rewrites trouble q g a ((d.revise q f).recordAll es)) :
    e.Rewrites trouble q (fun query => g (f query)) a d := by
  rcases rest with ⟨now, failure, d', failed⟩ | ⟨fs, laterLevels, later⟩
  · exact .inl ⟨now, failure, d', run.trans failed⟩
  refine .inr ⟨es ++ fs, ?_, ?_⟩
  · intro never entry member
    rcases Array.mem_append.mp member with member | member
    · exact levels never entry member
    · exact laterLevels never entry member
  · rw [run, later, revise_recordAll, revise_revise, recordAll_recordAll]

theorem Rewrites.bind {e : Edit α} {k : α → Edit β} (first : e.Rewrites trouble q f a d)
    (rest : ∀ es, (k a).Rewrites trouble q g b ((d.revise q f).recordAll es)) :
    (e >>= k).Rewrites trouble q (fun query => g (f query)) b d := by
  rcases first with ⟨now, failure, d', failed⟩ | ⟨es, levels, outcome⟩
  · exact .inl ⟨now, failure, d', by rw [EStateM.run_bind, failed]⟩
  · exact .of_run (by rw [EStateM.run_bind, outcome]) levels (rest es)

theorem Rewrites.congr {e : Edit α} (h : e.Rewrites trouble q f a d)
    (same : f (d.query q) = g (d.query q)) : e.Rewrites trouble q g a d := by
  unfold Rewrites at h ⊢
  rw [← revise_congr d q same]
  exact h

/-- Where every step of a loop keeps the condition that the next one needs, the loop rewrites the
query as its steps do in turn. -/
theorem Rewrites.forM {ι : Type} {xs : List ι} {step : ι → Edit Unit} {f : ι → Query → Query}
    (I : Draft → Prop) (each : ∀ x ∈ xs, ∀ d, I d → (step x).Rewrites trouble q (f x) () d)
    (keep : ∀ x ∈ xs, ∀ d es, I d → I ((d.revise q (f x)).recordAll es)) (h : I d) :
    (xs.forM step).Rewrites trouble q (fun query => xs.foldl (fun query x => f x query) query) ()
      d := by
  induction xs generalizing d with
  | nil => exact .inr ⟨#[], nofun, by rw [revise_eq_self d q _ rfl, recordAll_empty]; rfl⟩
  | cons x xs ih =>
    have first := each x (by simp) d h
    refine first.bind (g := fun query => xs.foldl (fun query x => f x query) query) fun es => ?_
    exact ih (fun y member => each y (by simp [member])) (fun y member => keep y (by simp [member]))
      (keep x (by simp) d es h)

theorem rewrites_pure (trouble : Prop) (q : QueryId) (a : α) (d : Draft) :
    (pure a : Edit α).Rewrites trouble q id a d :=
  .inr ⟨#[], nofun, by rw [revise_eq_self d q _ rfl, recordAll_empty]; rfl⟩

theorem Rewrites.get {k : Draft → Edit α} (h : (k d).Rewrites trouble q f a d) :
    (MonadState.get >>= k).Rewrites trouble q f a d := h

theorem rewrites_log (trouble : Prop) (q : QueryId) (message : String) (d : Draft) :
    (log .debug message).Rewrites trouble q id () d := by
  refine .inr ⟨#[⟨.debug, message⟩], fun _ entry member => ?_, ?_⟩
  · rw [Array.mem_singleton.mp member]
  · rw [revise_eq_self d q id rfl, run_log, record_eq_recordAll]

theorem settling_rewrites (conflict? : Option Conflict) {e : Edit α}
    (run : e.run d = d.settling q conflict? a f) :
    e.Rewrites (conflict? ≠ none) q f a d := by
  cases conflict? with
  | none => exact .inr ⟨#[], nofun, by rw [run, recordAll_empty]; rfl⟩
  | some c =>
    have trouble : some c ≠ none := nofun
    by_cases strict : (d.query q).strict
    · exact .inl ⟨trouble, .conflict c, d, by simp only [run, settling, strict, if_true]⟩
    · refine .inr ⟨#[⟨.warning, c.message⟩], fun never => absurd trouble never, ?_⟩
      rw [run, settling, if_neg strict, record_eq_recordAll, revise_recordAll]

theorem rewrites_bindNamespace (label uri : String) (q : QueryId) (d : Draft) :
    (bindNamespace q label uri).Rewrites ((d.query q).prefixConflict? label uri ≠ none) q
      (·.bind label uri) () d :=
  settling_rewrites _ (run_bindNamespace d q label uri)

theorem rewrites_expression {text : String} {c : Computed}
    (read : Computed.ofText? text = some c) (select : (d.query q).form.IsSelect) :
    (expression q (some text)).Rewrites
      (Entries.get? (sharedIdentifier c.name) (d.query q).asked = some none ∨
        (d.query q).aliasConflict? c ≠ none) q
      (·.express (sharedIdentifier c.name) c.expression) ⟨q, sharedIdentifier c.name⟩ d := by
  have run := run_expression d q (some text)
  rw [if_pos select, Option.bind_some, read] at run
  dsimp only at run
  by_cases taken : Entries.get? (sharedIdentifier c.name) (d.query q).asked = some none
  · rw [if_pos taken] at run
    exact .inl ⟨.inl taken, _, _, run⟩
  · rw [if_neg taken] at run
    exact (settling_rewrites _ run).mono .inr

theorem rewrites_addProjection (trouble : Prop) (v : Variable)
    (select : (d.query q).form.IsSelect) :
    (addProjection q (.entity (.variable v))).Rewrites trouble q (·.join [v]) () d := by
  refine .inr ⟨#[], nofun, ?_⟩
  rw [run_addProjection, if_pos select, recordAll_empty]
  rfl

end SparqlCompose.Edit
