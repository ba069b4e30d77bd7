import SparqlCompose.Proofs.Sharing.Paired

namespace SparqlCompose

open Draft Edit

theorem Draft.patternFor_serial (d : Draft) (n m : Nat) (s v o g : Operand) :
    d.patternFor n s v o g = (d.patternFor m s v o g).map fun p => { p with serial := n } := by
  unfold patternFor
  cases d.termFor .subject s with
  | error e => rfl
  | ok s' =>
    cases d.termFor .predicate v with
    | error e => rfl
    | ok v' =>
      cases d.termFor .object o with
      | error e => rfl
      | ok o' => cases d.scopeFor g <;> rfl

theorem Edit.left_answering {α β : Type} (e : Edit α) (answer : α → β) (d : Draft) :
    left ((do return answer (← e) : Edit β).run d) = left (e.run d) := by
  rw [EStateM.run_bind]
  cases e.run d <;> rfl

variable {ν : Naming} {d D : Draft}

section Making

variable (h : d.Mirrors ν D)
include h

theorem paired_newGroup (kind : GroupKind)
    (meets : ν.Meets d (left ((newGroup kind).run d)) D) :
    Paired ν d D (GroupId.rename ν) ((newGroup kind).run d) ((newGroup kind).run D) := by
  have grown := d.size_groups_addGroup kind
  have next := meets.nextGroup (Nat.lt_of_lt_of_eq (Nat.lt_succ_self _) grown.symm)
  exact .answered next.symm (.addGroup h kind next)

theorem paired_newGraph (uri : String) (meets : ν.Meets d (left ((newGraph uri).run d)) D) :
    Paired ν d D (GroupId.rename ν) ((newGraph uri).run d) ((newGraph uri).run D) := by
  rw [run_newGraph] at meets ⊢
  rw [run_newGraph]
  by_cases empty : uri.isEmpty
  · rw [if_pos empty, if_pos empty]
    exact .failed (.refl h)
  · rw [if_neg empty] at meets
    rw [if_neg empty, if_neg empty]
    exact paired_newGroup h _ meets

theorem Draft.Follows.addQuery_body (strict : Bool) (form : Form)
    (nextGroup : d.nextGroup.rename ν = D.nextGroup)
    (nextQuery : d.nextQuery.rename ν = D.nextQuery) :
    d.Follows ν D ((d.addGroup .plain).addQuery strict d.nextGroup form)
      ((D.addGroup .plain).addQuery strict D.nextGroup (form.rename ν)) := by
  have body := Follows.addGroup h .plain nextGroup
  rw [← nextGroup]
  exact body.trans (.addQuery body.mirrors strict _ form nextQuery)

theorem paired_newFormless (strict : Bool)
    (meets : ν.Meets d (left ((newFormless strict).run d)) D) :
    Paired ν d D (QueryId.rename ν) ((newFormless strict).run d) ((newFormless strict).run D) := by
  rw [run_newFormless] at meets ⊢
  rw [run_newFormless]
  obtain ⟨nextGroup, nextQuery⟩ :=
    meets.nextBody (d.size_groups_addGroup _) (d.size_queries_addQuery ..)
  exact .answered nextQuery.symm (.addQuery_body h strict .formless nextGroup nextQuery)

theorem paired_newSelect (strict : Bool) (meets : ν.Meets d (left ((newSelect strict).run d)) D) :
    Paired ν d D (QueryId.rename ν) ((newSelect strict).run d) ((newSelect strict).run D) := by
  rw [run_newSelect] at meets ⊢
  rw [run_newSelect]
  obtain ⟨nextGroup, nextQuery⟩ :=
    meets.nextBody (d.size_groups_addGroup _) (d.size_queries_addQuery ..)
  have made := Follows.addQuery_body h strict (.select false [] []) nextGroup nextQuery
  exact .answered nextQuery.symm (made.trans (.record made.mirrors _ _))

theorem paired_newConstruct (strict : Bool)
    (meets : ν.Meets d (left ((newConstruct strict).run d)) D) :
    Paired ν d D (QueryId.rename ν) ((newConstruct strict).run d)
      ((newConstruct strict).run D) := by
  rw [run_newConstruct] at meets ⊢
  rw [run_newConstruct]
  have two : d.groups.size + 1 < ((d.addGroup .plain).addGroup .plain).groups.size := by
    rw [size_groups_addGroup, size_groups_addGroup]
    exact Nat.lt_succ_self _
  have nextGroup := meets.nextGroup (Nat.lt_of_succ_lt two)
  have nextBody := meets.nextGroup_addGroup .plain two
  have nextQuery :=
    meets.nextQuery (Nat.lt_of_lt_of_eq (Nat.lt_succ_self _) (d.size_queries_addQuery ..).symm)
  have template := Follows.addGroup h .plain nextGroup
  have made := Follows.addQuery_body template.mirrors strict (.construct d.nextGroup) nextBody
    nextQuery
  rw [Form.rename, nextGroup] at made
  have both := template.trans made
  exact .answered nextQuery.symm (both.trans (.record both.mirrors _ _))

theorem paired_newQuery (strict : Bool) (form : String)
    (meets : ν.Meets d (left ((newQuery strict form).run d)) D) :
    Paired ν d D (QueryId.rename ν) ((newQuery strict form).run d)
      ((newQuery strict form).run D) := by
  rw [run_newQuery] at meets ⊢
  rw [run_newQuery]
  by_cases select : form = "SELECT"
  · rw [if_pos select] at meets
    rw [if_pos select, if_pos select]
    exact paired_newSelect h strict meets
  rw [if_neg select] at meets
  rw [if_neg select, if_neg select]
  by_cases construct : form = "CONSTRUCT"
  · rw [if_pos construct] at meets
    rw [if_pos construct, if_pos construct]
    exact paired_newConstruct h strict meets
  · rw [if_neg construct, if_neg construct]
    exact .failed (.refl h)

theorem paired_newBare (meets : ν.Meets d (left (newBare.run d)) D) :
    Paired ν d D (Entity.rename ν) (newBare.run d) (newBare.run D) := by
  rw [run_newBare] at meets ⊢
  rw [run_newBare]
  have next : ν.number .serials d.serial = D.serial := meets.next (k := .serials) (Nat.lt_succ_self _)
  rw [← next]
  exact .answered rfl (.advance h next)

theorem Draft.Mirrors.fit_or_refused (s v o g : Operand) :
    (∃ p, d.patternFor d.serial s v o g = .ok p ∧
      (ν.number .serials d.serial = D.serial →
        D.patternFor D.serial (s.rename ν) (v.rename ν) (o.rename ν) (g.rename ν) =
          .ok (p.rename ν))) ∨
    ∃ e, d.patternFor d.serial s v o g = .error e ∧
      D.patternFor D.serial (s.rename ν) (v.rename ν) (o.rename ν) (g.rename ν) = .error e := by
  have same := h.patternFor d.serial s v o g
  cases outcome : d.patternFor d.serial s v o g with
  | ok p =>
    refine .inl ⟨p, rfl, fun next => ?_⟩
    rw [← next, same, outcome]
    rfl
  | error e =>
    refine .inr ⟨e, rfl, ?_⟩
    rw [D.patternFor_serial D.serial (ν.number .serials d.serial), same, outcome]
    rfl

theorem paired_newPattern (s v o g : Operand)
    (meets : ν.Meets d (left ((newPattern s v o g).run d)) D) :
    Paired ν d D (Pattern.rename ν) ((newPattern s v o g).run d)
      ((newPattern (s.rename ν) (v.rename ν) (o.rename ν) (g.rename ν)).run D) := by
  rw [run_newPattern] at meets ⊢
  rw [run_newPattern]
  rcases h.fit_or_refused s v o g with ⟨p, fit, fit'⟩ | ⟨e, refused, refused'⟩
  · rw [fit] at meets ⊢
    have next : ν.number .serials d.serial = D.serial :=
      meets.next (k := .serials) (Nat.lt_succ_self _)
    rw [fit' next]
    exact .answered rfl (.advance h next)
  · rw [refused, refused']
    exact .failed (.refl h)

theorem paired_addPattern {group : GroupId} (there : d.HasGroup group) (s v o g : Operand)
    (meets : ν.Meets d (left ((addPattern group s v o g).run d)) D) :
    Paired ν d D (Pattern.rename ν) ((addPattern group s v o g).run d)
      ((addPattern (group.rename ν) (s.rename ν) (v.rename ν) (o.rename ν) (g.rename ν)).run D) := by
  rw [run_addPattern] at meets ⊢
  rw [run_addPattern]
  rcases h.fit_or_refused s v o g with ⟨p, fit, fit'⟩ | ⟨e, refused, refused'⟩
  · rw [fit] at meets ⊢
    have next : ν.number .serials d.serial = D.serial :=
      meets.next (k := .serials) (Nat.lt_succ_self _)
    rw [fit' next]
    have advanced := Follows.advance h next
    exact .answered rfl (advanced.trans (.append advanced.mirrors there (.pattern p)))
  · rw [refused, refused']
    exact .failed (.refl h)

theorem paired_internGraph {q : QueryId} (there : d.HasQuery q)
    (body : d.HasGroup (d.query q).body) (uri : String)
    (meets : ν.Meets d (left ((internGraph q uri).run d)) D) :
    Paired ν d D (GroupId.rename ν) ((internGraph q uri).run d)
      ((internGraph (q.rename ν) uri).run D) := by
  have same : (D.query (q.rename ν)).body = (d.query q).body.rename ν := by
    rw [h.query q there]
    rfl
  have body' : D.HasGroup (D.query (q.rename ν)).body := by
    rw [same]
    exact (h.hasGroup _).mpr body
  rw [run_internGraph _ _ _ body] at meets ⊢
  rw [run_internGraph _ _ _ body', h.graph? there, same]
  cases found : d.graph? q uri with
  | some g => exact .answered rfl (.refl h)
  | none =>
    rw [found] at meets
    simp only [Option.map_none] at meets ⊢
    by_cases empty : uri.isEmpty
    · rw [if_pos empty, if_pos empty]
      exact .failed (.refl h)
    · rw [if_neg empty] at meets
      rw [if_neg empty, if_neg empty]
      have grown : ((d.addGroup (.graph uri)).append (d.query q).body
          (.group d.nextGroup)).groups.size = d.groups.size + 1 := by
        rw [size_groups_append, size_groups_addGroup]
      have next := meets.nextGroup (Nat.lt_of_lt_of_eq (Nat.lt_succ_self _) grown.symm)
      have made := Follows.addGroup h (.graph uri) next
      have old : (d.addGroup (.graph uri)).HasGroup (d.query q).body :=
        (hasGroup_addGroup _ _ _).mpr (.inl body)
      have put := Follows.append made.mirrors old (.group d.nextGroup)
      rw [Element.rename, next] at put
      exact .answered next.symm (made.trans put)

end Making

section Groups

variable (h : d.Mirrors ν D) (nested : d.WellNested)
include h nested

theorem paired_addElement {group : GroupId} {thing : Option Entity} (there : d.HasGroup group)
    (held : ∀ inner, thing = some (.group inner) → d.HasGroup inner) :
    Paired ν d D (fun _ => ()) ((addElement group (thing.map Element.ofEntity)).run d)
      ((addElement (group.rename ν) ((thing.map (·.rename ν)).map Element.ofEntity)).run D) := by
  cases thing with
  | none => exact .failed (.refl h)
  | some e =>
    have same : (Element.ofEntity e).rename ν = .ofEntity (e.rename ν) := Element.rename_ofEntity e
    rw [Option.map_some, Option.map_some, Option.map_some, ← same]
    have put := fun element => Follows.append h there element
    by_cases isGroup : ∃ inner, e = .group inner
    · obtain ⟨inner, rfl⟩ := isGroup
      rw [Element.ofEntity, Element.rename, run_addElement_group, run_addElement_group,
        h.reaches_depth nested group (held inner rfl)]
      split
      · exact .failed (.refl h)
      · exact .answered rfl (put (.group inner))
    · have other : ∀ inner, Element.ofEntity e ≠ .group inner := by
        intro inner same
        cases e <;> cases same
        exact isGroup ⟨inner, rfl⟩
      have other' : ∀ inner, (Element.ofEntity e).rename ν ≠ .group inner := by
        intro inner same
        cases e <;> cases same
        exact isGroup ⟨_, rfl⟩
      rw [run_addElement_of_ne_group _ _ _ other, run_addElement_of_ne_group _ _ _ other']
      exact .answered rfl (put _)

theorem paired_sparql {q : QueryId} (rooted : d.Rooted) (there : d.HasQuery q) (indent : String) :
    Paired ν d D id ((sparql indent q).run d) ((sparql indent (q.rename ν)).run D) := by
  rw [run_sparql, run_sparql, h.sparql nested rooted there]
  cases d.sparql indent q with
  | error e => exact .failed (.refl h)
  | ok text => exact .answered rfl (.record h _ _)

end Groups

/-- An operation that fits gives the same on a draft that mirrors the one it fits. -/
theorem Operation.paired {c : Composition} {o : Operation} (h : c.draft.Mirrors ν D)
    (nested : c.draft.WellNested) (rooted : c.draft.Rooted) (fits : o.Fits c)
    (meets : ν.Meets c.draft (left (o.run.run c.draft)) D) :
    Paired ν c.draft D (Answer.rename ν) (o.run.run c.draft) ((o.rename ν).run.run D) := by
  cases o with
  | newQuery strict form =>
    rw [run, left_answering] at meets
    exact (paired_newQuery h strict form meets).answering fun _ => rfl
  | newFormless strict =>
    rw [run, left_answering] at meets
    exact (paired_newFormless h strict meets).answering fun _ => rfl
  | internVariable q text => exact (paired_internVariable h fits text).answering fun _ => rfl
  | internResource q text => exact (paired_internResource h fits text).answering fun _ => rfl
  | newBlank q => exact (paired_newBlank h fits).answering fun _ => rfl
  | expression q text => exact (paired_expression h fits text).answering fun _ => rfl
  | internGraph q uri =>
    rw [run, left_answering] at meets
    have body := rooted q fits _ (Query.body_mem_roots _)
    exact (paired_internGraph h fits body uri meets).answering fun _ => rfl
  | newGraph uri =>
    rw [run, left_answering] at meets
    exact (paired_newGraph h uri meets).answering fun _ => rfl
  | newOptional =>
    rw [run, left_answering] at meets
    exact (paired_newGroup h .optional meets).answering fun _ => rfl
  | newPlain =>
    rw [run, left_answering] at meets
    exact (paired_newGroup h .plain meets).answering fun _ => rfl
  | newBare =>
    rw [run, left_answering] at meets
    exact (paired_newBare h meets).answering fun _ => rfl
  | newPattern s v o g =>
    rw [run, left_answering] at meets
    exact (paired_newPattern h s v o g meets).answering fun _ => rfl
  | addPattern group s v o g =>
    rw [run, left_answering] at meets
    exact (paired_addPattern h fits.1 s v o g meets).answering fun _ => rfl
  | addElement group thing =>
    have held : ∀ inner, thing = some (.group inner) → c.draft.HasGroup inner :=
      fun inner same => fits.2 _ same
    exact (paired_addElement h nested fits.1 held).answering fun _ => rfl
  | bindNamespace q label uri =>
    exact (paired_bindNamespace h fits label uri).answering fun _ => rfl
  | project q xs => exact (paired_project h fits.1 xs).answering fun _ => rfl
  | addProjection q x => exact (paired_addProjection h fits.1 x).answering fun _ => rfl
  | setDistinct q flag => exact (paired_setDistinct h fits flag).answering fun _ => rfl
  | groupBy q e => exact (paired_groupBy h fits.1 e).answering fun _ => rfl
  | find group s v o =>
    have found := h.find nested s v o fits.1
    exact .answered (congrArg Answer.groups found) (.refl h)
  | sparql indent q => exact (paired_sparql h nested rooted fits indent).answering fun _ => rfl
  | report level message => exact .answered rfl (.record h _ _)

end SparqlCompose
