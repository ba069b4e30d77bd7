import SparqlCompose.Proofs.Sharing.Follows

namespace SparqlCompose

open Draft

inductive Paired (ν : Naming) (d D : Draft) {α β : Type} (ren : α → β) :
    EStateM.Result Failure Draft α → EStateM.Result Failure Draft β → Prop
  | answered {a : α} {b : β} {d' D' : Draft} (same : b = ren a) (follows : d.Follows ν D d' D') :
    Paired ν d D ren (.ok a d') (.ok b D')
  | failed {e : Failure} {d' D' : Draft} (follows : d.Follows ν D d' D') :
    Paired ν d D ren (.error e d') (.error e D')

def Naming.Meets (ν : Naming) (d d' D : Draft) : Prop :=
  ∀ k n, d.count k ≤ n → n < d'.count k → ν.number k n = D.count k + (n - d.count k)

variable {ν : Naming} {d d' D : Draft}

theorem Naming.Meets.next (h : ν.Meets d d' D) {k : Counted} (grown : d.count k < d'.count k) :
    ν.number k (d.count k) = D.count k := by
  rw [h k _ (Nat.le_refl _) grown, Nat.sub_self, Nat.add_zero]

theorem Naming.Meets.nextGroup (h : ν.Meets d d' D) (grown : d.groups.size < d'.groups.size) :
    d.nextGroup.rename ν = D.nextGroup :=
  congrArg GroupId.mk (h.next (k := .groups) grown)

theorem Naming.Meets.nextQuery (h : ν.Meets d d' D) (grown : d.queries.size < d'.queries.size) :
    d.nextQuery.rename ν = D.nextQuery :=
  congrArg QueryId.mk (h.next (k := .queries) grown)

theorem Naming.Meets.nextBody (h : ν.Meets d d' D) (groups : d'.groups.size = d.groups.size + 1)
    (queries : d'.queries.size = d.queries.size + 1) :
    d.nextGroup.rename ν = D.nextGroup ∧ d.nextQuery.rename ν = D.nextQuery :=
  ⟨h.nextGroup (by omega), h.nextQuery (by omega)⟩

theorem Naming.Meets.nextGroup_addGroup (h : ν.Meets d d' D) (kind : GroupKind)
    (grown : d.groups.size + 1 < d'.groups.size) :
    (d.addGroup kind).nextGroup.rename ν = (D.addGroup kind).nextGroup := by
  have second := h .groups (d.groups.size + 1) (Nat.le_succ _) grown
  simp only [count, Nat.add_sub_cancel_left] at second
  simp only [Draft.nextGroup, GroupId.rename, size_groups_addGroup, second]

namespace Paired

variable {α β α' β' : Type} {ren : α → β} {ren' : α' → β'}
  {r : EStateM.Result Failure Draft α} {R : EStateM.Result Failure Draft β}

theorem follows (h : Paired ν d D ren r R) : d.Follows ν D (Edit.left r) (Edit.left R) := by
  cases h with
  | answered same follows => exact follows
  | failed follows => exact follows

theorem bind {e : Edit α} {E : Edit β} {k : α → Edit α'} {K : β → Edit β'}
    (first : Paired ν d D ren (e.run d) (E.run D))
    (rest : ∀ {a d' D'}, e.run d = .ok a d' → d'.Mirrors ν D' →
      Paired ν d' D' ren' ((k a).run d') ((K (ren a)).run D')) :
    Paired ν d D ren' ((e >>= k).run d) ((E >>= K).run D) := by
  rw [EStateM.run_bind, EStateM.run_bind]
  generalize result : e.run d = r at first
  generalize E.run D = R at first
  cases first with
  | failed earlier => exact .failed earlier
  | answered same earlier =>
    subst same
    have later := rest result earlier.mirrors
    dsimp only
    generalize (k _).run _ = r at later
    generalize (K _).run _ = R at later
    cases later with
    | failed later => exact .failed (earlier.trans later)
    | answered same later => exact .answered same (earlier.trans later)

theorem answering {e : Edit α} {E : Edit β} (h : Paired ν d D ren (e.run d) (E.run D))
    {answer : α → α'} {answer' : β → β'} (commutes : ∀ a, answer' (ren a) = ren' (answer a)) :
    Paired ν d D ren' ((do return answer (← e) : Edit α').run d)
      ((do return answer' (← E) : Edit β').run D) :=
  h.bind fun _ mirrors => .answered (commutes _) (.refl mirrors)

theorem settling {q : QueryId} {a : α} {b : β} {f f' : Query → Query} (h : d.Mirrors ν D)
    (there : d.HasQuery q) (conflict? : Option Conflict) (answer : b = ren a)
    (same : f' ((d.query q).rename ν) = (f (d.query q)).rename ν) :
    Paired ν d D ren (d.settling q conflict? a f) (D.settling (q.rename ν) conflict? b f') := by
  cases conflict? with
  | none => exact .answered answer (.revise h there same)
  | some c =>
    have strict : (D.query (q.rename ν)).strict = (d.query q).strict := by
      rw [h.query q there]
      rfl
    rw [Draft.settling, Draft.settling, strict]
    cases (d.query q).strict with
    | true => exact .failed (.refl h)
    | false =>
      have recorded := Follows.record h ⟨.warning, c.message⟩ ⟨.warning, c.message⟩
      exact .answered answer (recorded.trans (.revise recorded.mirrors there same))

theorem selecting {q : QueryId} (h : d.Mirrors ν D) (there : d.HasQuery q)
    (chosen : Paired ν d D ren r R) :
    Paired ν d D ren (if (d.query q).form.IsSelect then r else .error .unsupported d)
      (if (D.query (q.rename ν)).form.IsSelect then R else .error .unsupported D) := by
  have select : (D.query (q.rename ν)).form.IsSelect ↔ (d.query q).form.IsSelect := by
    rw [h.query q there]
    exact (d.query q).form.isSelect_rename
  by_cases is : (d.query q).form.IsSelect
  · rw [if_pos is, if_pos (select.mpr is)]
    exact chosen
  · rw [if_neg is, if_neg (mt select.mp is)]
    exact .failed (.refl h)

end Paired

section Queries

open Edit

variable {q : QueryId} (h : d.Mirrors ν D) (there : d.HasQuery q)
include h there

theorem paired_internVariable (text : String) :
    Paired ν d D (Variable.rename ν) ((internVariable q text).run d)
      ((internVariable (q.rename ν) text).run D) := by
  rw [run_internVariable, run_internVariable]
  cases Identifier.ofText? text with
  | none => exact .failed (.refl h)
  | some i => exact .answered rfl (.revise h there rfl)

theorem paired_internResource (text : String) :
    Paired ν d D (Resource.rename ν) ((internResource q text).run d)
      ((internResource (q.rename ν) text).run D) := by
  rw [run_internResource, run_internResource]
  cases Identifier.ofText? text with
  | none => exact .failed (.refl h)
  | some i => exact .answered rfl (.revise h there rfl)

theorem paired_newBlank :
    Paired ν d D (BlankNode.rename ν) ((newBlank q).run d) ((newBlank (q.rename ν)).run D) := by
  rw [run_newBlank, run_newBlank, h.query q there]
  exact .answered rfl (.revise h there rfl)

theorem paired_bindNamespace (label uri : String) :
    Paired ν d D (fun _ => ()) ((bindNamespace q label uri).run d)
      ((bindNamespace (q.rename ν) label uri).run D) := by
  rw [run_bindNamespace, run_bindNamespace, h.query q there]
  exact .settling h there _ rfl rfl

theorem paired_expression (text : Option String) :
    Paired ν d D (Variable.rename ν) ((expression q text).run d)
      ((expression (q.rename ν) text).run D) := by
  have asked : (D.query (q.rename ν)).asked = (d.query q).asked := (h.query_eq q).1
  have conflict : ∀ x, (D.query (q.rename ν)).aliasConflict? x = (d.query q).aliasConflict? x := by
    intro x
    rw [Query.aliasConflict?, Query.aliasConflict?, asked]
  rw [run_expression, run_expression]
  refine .selecting h there ?_
  cases text.bind Computed.ofText? with
  | none => exact .failed (.refl h)
  | some x =>
    simp only [asked, conflict]
    split
    · exact .failed (.refl h)
    · exact .settling h there _ rfl rfl

theorem paired_project (xs : List Operand) :
    Paired ν d D (fun _ => ()) ((project q xs).run d)
      ((project (q.rename ν) (xs.map (·.rename ν))).run D) := by
  rw [run_project, run_project, h.variablesFor]
  refine .selecting h there ?_
  cases d.variablesFor xs with
  | error e => exact .failed (.refl h)
  | ok vs =>
    refine .answered rfl (.revise h there ((d.query q).rename_reform ?_).symm)
    rw [keepFirst_rename, Form.rename_withProjection]

theorem paired_addProjection (x : Operand) :
    Paired ν d D (fun _ => ()) ((addProjection q x).run d)
      ((addProjection (q.rename ν) (x.rename ν)).run D) := by
  have one : [x.rename ν] = [x].map (·.rename ν) := rfl
  rw [run_addProjection, run_addProjection, one, h.variablesFor]
  refine .selecting h there ?_
  cases d.variablesFor [x] with
  | error e => exact .failed (.refl h)
  | ok vs => exact .answered rfl (.revise h there ((d.query q).rename_join vs).symm)

theorem paired_setDistinct (flag : Bool) :
    Paired ν d D (fun _ => ()) ((setDistinct q flag).run d)
      ((setDistinct (q.rename ν) flag).run D) := by
  rw [run_setDistinct, run_setDistinct]
  refine .selecting h there (.answered rfl (.revise h there ?_))
  exact ((d.query q).rename_reform (Form.rename_withDistinct _ flag)).symm

theorem paired_groupBy (e : Entity) :
    Paired ν d D (fun _ => ()) ((groupBy q e).run d)
      ((groupBy (q.rename ν) (e.rename ν)).run D) := by
  rw [run_groupBy, run_groupBy]
  refine .selecting h there (.answered rfl (.revise h there ?_))
  exact ((d.query q).rename_reform (Form.rename_groupedBy _ e)).symm

end Queries

end SparqlCompose
