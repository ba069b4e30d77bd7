import SparqlCompose.Proofs.Composition.Change
import SparqlCompose.Proofs.Draft.Frame
import SparqlCompose.Proofs.Nesting.Depth

namespace SparqlCompose

namespace Draft

/-- No group stands inside itself, and what stands in a group is there. -/
structure WellNested (d : Draft) : Prop where
  acyclic : d.Acyclic
  closed : d.Closed

variable {d : Draft} {outer inner : GroupId}

theorem contains_addGroup (d : Draft) (kind : GroupKind) :
    (d.addGroup kind).Contains = d.Contains := by
  funext a b
  simp only [Contains, Group.groups, elements_addGroup]

theorem contains_append {e : Element} (there : d.HasGroup outer) (a b : GroupId) :
    (d.append outer e).Contains a b ↔ d.Contains a b ∨ a = outer ∧ e = .group b := by
  simp only [Contains, Group.groups, group_append d outer e there]
  by_cases same : a = outer
  · subst same
    cases e <;> simp [Element.group?, eq_comm]
  · simp [same]

theorem contains_append_of_ne_group {e : Element} (there : d.HasGroup outer)
    (other : ∀ inner, e ≠ .group inner) : (d.append outer e).Contains = d.Contains := by
  funext a b
  simp [contains_append there, other]

theorem transGen_append (there : d.HasGroup outer) {a b : GroupId}
    (h : Relation.TransGen (d.append outer (.group inner)).Contains a b) :
    Relation.TransGen d.Contains a b ∨ d.Encloses a outer ∧ d.Encloses inner b := by
  -- an end that is new was reached through the new place, whatever came before
  induction h with
  | single edge =>
    rcases (contains_append there _ _).mp edge with old | ⟨rfl, new⟩
    · exact .inl (.single old)
    · cases new
      exact .inr ⟨.refl, .refl⟩
  | tail _ edge ih =>
    rcases (contains_append there _ _).mp edge with old | ⟨rfl, new⟩
    · rcases ih with ways | ⟨above, below⟩
      · exact .inl (ways.tail old)
      · exact .inr ⟨above, below.tail old⟩
    · cases new
      rcases ih with ways | ⟨above, below⟩
      · exact .inr ⟨ways.to_reflTransGen, .refl⟩
      · exact .inr ⟨above, .refl⟩

theorem acyclic_append_iff (acyclic : d.Acyclic) (there : d.HasGroup outer) :
    (d.append outer (.group inner)).Acyclic ↔ ¬ d.Encloses inner outer := by
  have old : ∀ a b, d.Contains a b → (d.append outer (.group inner)).Contains a b :=
    fun a b edge => (contains_append there a b).mpr (.inl edge)
  have new : (d.append outer (.group inner)).Contains outer inner :=
    (contains_append there outer inner).mpr (.inr ⟨rfl, rfl⟩)
  constructor
  · intro still enclosed
    have back : Relation.ReflTransGen (d.append outer (.group inner)).Contains inner outer :=
      Relation.ReflTransGen.mono old inner outer enclosed
    exact still outer (Relation.TransGen.head' new back)
  · intro free g cycle
    rcases transGen_append there cycle with before | ⟨above, below⟩
    · exact acyclic g before
    · exact free (below.trans above)

theorem WellNested.bounded (nested : d.WellNested) (here : d.HasGroup inner) :
    d.Bounded d.depth inner :=
  bounded_depth nested.acyclic nested.closed here

theorem WellNested.reaches_iff (nested : d.WellNested) (here : d.HasGroup inner)
    (target : GroupId) : d.reaches target d.depth inner = true ↔ d.Encloses inner target :=
  (nested.bounded here).reaches_iff

theorem WellNested.mem_find (nested : d.WellNested) {s v o : Operand} {g found : GroupId}
    (here : d.HasGroup g) :
    found ∈ d.find g s v o ↔
      d.Encloses g found ∧ (d.group found).patterns.any (·.answers s v o) = true :=
  (nested.bounded here).mem_findBelow

theorem Frame.contains {q : QueryId} {d' : Draft} (h : d.Frame q d') :
    d'.Contains = d.Contains := by
  funext outer inner
  rw [Contains, Contains, h.group_eq]

theorem Frame.wellNested {q : QueryId} {d' : Draft} (h : d.Frame q d') (nested : d.WellNested) :
    d'.WellNested where
  acyclic := by
    rw [Acyclic, h.contains]
    exact nested.acyclic
  closed := by
    intro outer inner edge
    rw [h.contains] at edge
    exact (h.hasGroup inner).mpr (nested.closed outer inner edge)

theorem WellNested.addGroup (nested : d.WellNested) (kind : GroupKind) :
    (d.addGroup kind).WellNested where
  acyclic := by
    rw [Acyclic, contains_addGroup]
    exact nested.acyclic
  closed := by
    intro outer inner edge
    rw [contains_addGroup] at edge
    exact (hasGroup_addGroup d kind inner).mpr (.inl (nested.closed outer inner edge))

theorem WellNested.append_of_ne_group {e : Element} (nested : d.WellNested)
    (there : d.HasGroup outer) (other : ∀ inner, e ≠ .group inner) :
    (d.append outer e).WellNested where
  acyclic := by
    rw [Acyclic, contains_append_of_ne_group there other]
    exact nested.acyclic
  closed := by
    intro a b edge
    rw [contains_append_of_ne_group there other] at edge
    exact (hasGroup_append d outer e b).mpr (nested.closed a b edge)

theorem WellNested.append_group (nested : d.WellNested) (there : d.HasGroup outer)
    (here : d.HasGroup inner) (free : d.reaches outer d.depth inner = false) :
    (d.append outer (.group inner)).WellNested where
  acyclic := by
    apply (acyclic_append_iff nested.acyclic there).mpr
    intro enclosed
    rw [(nested.reaches_iff here outer).mpr enclosed] at free
    cases free
  closed := by
    intro a b edge
    apply (hasGroup_append d outer _ b).mpr
    rcases (contains_append there a b).mp edge with old | ⟨rfl, new⟩
    · exact nested.closed a b old
    · cases new
      exact here

end Draft

namespace Composition

open Draft

theorem Change.wellNested {c c' : Composition} (h : Change c c') (nested : c.draft.WellNested) :
    c'.draft.WellNested := by
  cases h with
  | record | advance | makePattern | revise => exact ⟨nested.acyclic, nested.closed⟩
  | addGroup named => exact nested.addGroup _
  | addQuery strict fresh =>
    have made := nested.addGroup .plain
    exact ⟨made.acyclic, made.closed⟩
  | @append group e there admissible =>
    cases e with
    | group inner => exact nested.append_group there admissible.1 admissible.2
    | pattern p => exact nested.append_of_ne_group there nofun
    | stray thing => exact nested.append_of_ne_group there nofun

theorem start_wellNested : start.draft.WellNested where
  acyclic := by
    intro g cycle
    obtain ⟨below, edge, -⟩ := Relation.TransGen.head'_iff.mp cycle
    cases edge
  closed := nofun

theorem Reachable.wellNested [IriCheck] {c : Composition} (h : c.Reachable) : c.draft.WellNested :=
  h.invariant start_wellNested Change.wellNested

/-- However a draft came about, its groups nest without a cycle: from any group the ways down end,
and what walks down with a bound does the same with every greater one. A group is refused as an
element of another just when that other is it or stands in it. -/
theorem nesting_acyclic {c : Composition} (h : c.Reachable) :
    c.draft.Acyclic ∧
    (∀ g, c.draft.HasGroup g →
      Acc (fun inner outer => c.draft.Contains outer inner) g ∧
      ∀ n, c.draft.depth ≤ n →
        (∀ target, c.draft.reaches target n g = c.draft.reaches target c.draft.depth g) ∧
        (∀ s v o, c.draft.findBelow s v o n g = c.draft.find g s v o) ∧
        ∀ indent level,
          c.draft.lines indent n level g = c.draft.lines indent c.draft.depth level g ∧
          c.draft.lines indent n level g ≠ .error .tooDeep) ∧
    ∀ outer inner, c.draft.HasGroup outer → c.draft.HasGroup inner →
      (¬ (c.draft.append outer (.group inner)).Acyclic ↔ c.draft.Encloses inner outer) ∧
      (c.draft.Encloses inner outer →
        (Edit.addElement outer (some (.group inner))).run c.draft =
          .error (.invalid .cyclicNesting) c.draft) ∧
      (¬ c.draft.Encloses inner outer →
        (Edit.addElement outer (some (.group inner))).run c.draft =
          .ok () (c.draft.append outer (.group inner))) := by
  have nested := h.wellNested
  refine ⟨nested.acyclic, ?_, ?_⟩
  · intro g here
    have bounded := bounded_depth nested.acyclic nested.closed here
    refine ⟨bounded.acc, fun n le => ⟨?_, ?_, ?_⟩⟩
    · intro target
      exact bounded.reaches_eq le
    · intro s v o
      exact bounded.findBelow_eq le
    · intro indent level
      exact ⟨bounded.lines_eq le, (bounded.mono le).lines_ne_tooDeep⟩
  · intro outer inner there here
    have guard := nested.reaches_iff here outer
    refine ⟨?_, ?_, ?_⟩
    · rw [acyclic_append_iff nested.acyclic there, not_not]
    · intro enclosed
      rw [Edit.run_addElement_group, guard.mpr enclosed, if_pos rfl]
    · intro free
      rw [Edit.run_addElement_group, if_neg (mt guard.mp free)]

def twiceOptional : List Operation :=
  [.newQuery false "SELECT", .newOptional, .addElement ⟨0⟩ (some (.group ⟨1⟩)),
   .addElement ⟨0⟩ (some (.group ⟨1⟩))]

theorem nesting_acyclic_twiceOptional :
    start.Admits twiceOptional ∧ (start.replay twiceOptional).draft.Acyclic ∧
      (Edit.addElement ⟨1⟩ (some (.group ⟨0⟩))).run (start.replay twiceOptional).draft =
        .error (.invalid .cyclicNesting) (start.replay twiceOptional).draft := by
  have admits : start.Admits twiceOptional := by decide +kernel
  have nested := nesting_acyclic (reachable_replay admits)
  have edge : (start.replay twiceOptional).draft.Contains ⟨0⟩ ⟨1⟩ := by
    unfold Contains
    decide +kernel
  exact ⟨admits, nested.1, (nested.2.2 ⟨1⟩ ⟨0⟩ (by decide +kernel) (by decide +kernel)).2.1
    (.single edge)⟩

end Composition

end SparqlCompose
