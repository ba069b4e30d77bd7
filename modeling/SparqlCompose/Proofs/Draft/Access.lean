import SparqlCompose.Draft.Query

namespace SparqlCompose

def Query.roots (query : Query) : List GroupId :=
  match query.form with
  | .construct template => [query.body, template]
  | _ => [query.body]

theorem Query.body_mem_roots (query : Query) : query.body ∈ query.roots := by
  unfold roots
  split <;> simp

namespace Form

def projection : Form → List Variable
  | .select _ projection _ => projection
  | _ => []

def grouping : Form → List Entity
  | .select _ _ grouping => grouping
  | _ => []

def withProjection (projection : List Variable) : Form → Form
  | .select distinct _ grouping => .select distinct projection grouping
  | form => form

def withDistinct (flag : Bool) : Form → Form
  | .select _ projection grouping => .select flag projection grouping
  | form => form

def groupedBy (e : Entity) : Form → Form
  | .select distinct projection grouping =>
    .select distinct projection
      (if grouping.any (·.equal e) then grouping else grouping ++ [e])
  | form => form

def IsSelect : Form → Prop
  | .select .. => True
  | _ => False

instance : DecidablePred IsSelect
  | .select .. => inferInstanceAs (Decidable True)
  | .construct _ => inferInstanceAs (Decidable False)
  | .formless => inferInstanceAs (Decidable False)

theorem IsSelect.eq {form : Form} (h : form.IsSelect) :
    ∃ distinct projection grouping, form = .select distinct projection grouping := by
  cases form with
  | select distinct projection grouping => exact ⟨distinct, projection, grouping, rfl⟩
  | construct template => exact h.elim
  | formless => exact h.elim

theorem IsSelect.projection_withProjection {form : Form} (h : form.IsSelect)
    (vs : List Variable) : (form.withProjection vs).projection = vs := by
  obtain ⟨distinct, projection, grouping, rfl⟩ := h.eq
  rfl

theorem withProjection_of_not_isSelect {form : Form} (h : ¬ form.IsSelect) (vs : List Variable) :
    form.withProjection vs = form := by
  cases form with
  | select distinct projection grouping => exact absurd trivial h
  | construct | formless => rfl

@[simp] theorem projection_withDistinct (flag : Bool) (form : Form) :
    (form.withDistinct flag).projection = form.projection := by
  cases form <;> rfl

@[simp] theorem projection_groupedBy (e : Entity) (form : Form) :
    (form.groupedBy e).projection = form.projection := by
  cases form <;> rfl

end Form

namespace Draft

def HasGroup (d : Draft) (g : GroupId) : Prop := g.index < d.groups.size

def HasQuery (d : Draft) (q : QueryId) : Prop := q.index < d.queries.size

instance (d : Draft) (g : GroupId) : Decidable (d.HasGroup g) :=
  inferInstanceAs (Decidable (_ < _))

instance (d : Draft) (q : QueryId) : Decidable (d.HasQuery q) :=
  inferInstanceAs (Decidable (_ < _))

def revise (d : Draft) (q : QueryId) (f : Query → Query) : Draft :=
  d.setQuery q (f (d.query q))

def record (d : Draft) (e : Entry) : Draft := { d with journal := d.journal.push e }

def advance (d : Draft) : Draft := { d with serial := d.serial + 1 }

def nextGroup (d : Draft) : GroupId := ⟨d.groups.size⟩

def addGroup (d : Draft) (kind : GroupKind) : Draft :=
  { d with groups := d.groups.push ⟨kind, []⟩ }

def nextQuery (d : Draft) : QueryId := ⟨d.queries.size⟩

def addQuery (d : Draft) (strict : Bool) (body : GroupId) (form : Form) : Draft :=
  { d with queries := d.queries.push ⟨strict, [], body, [], [], 0, form⟩ }

section Queries

variable (d : Draft) (q : QueryId) (f : Query → Query)

@[simp] theorem groups_revise : (d.revise q f).groups = d.groups := rfl

@[simp] theorem serial_revise : (d.revise q f).serial = d.serial := rfl

@[simp] theorem journal_revise : (d.revise q f).journal = d.journal := rfl

@[simp] theorem size_queries_revise : (d.revise q f).queries.size = d.queries.size := by
  simp [revise, setQuery]

theorem query_revise (h : d.HasQuery q) : (d.revise q f).query q = f (d.query q) := by
  have bound : q.index < d.queries.size := h
  simp [revise, setQuery, query, bound]

theorem query_revise_ne {other : QueryId} (h : other ≠ q) :
    (d.revise q f).query other = d.query other := by
  have indices : q.index ≠ other.index := by
    intro same
    apply h
    cases other
    cases q
    exact congrArg QueryId.mk same.symm
  simp [revise, setQuery, query, indices]

theorem query_of_not_hasQuery (h : ¬ d.HasQuery q) : d.query q = default := by
  have past : d.queries.size ≤ q.index := Nat.le_of_not_lt h
  simp [query, past]

theorem revise_of_not_hasQuery (h : ¬ d.HasQuery q) : d.revise q f = d := by
  have bound : d.queries.size ≤ q.index := Nat.le_of_not_lt h
  simp [revise, setQuery, Array.setIfInBounds_eq_of_size_le bound]

theorem revise_revise (g : Query → Query) :
    (d.revise q f).revise q g = d.revise q fun query => g (f query) := by
  by_cases h : d.HasQuery q
  · have first : (d.revise q f).query q = f (d.query q) := query_revise d q f h
    unfold revise at first ⊢
    rw [first]
    simp [setQuery, Array.setIfInBounds_setIfInBounds]
  · rw [revise_of_not_hasQuery d q f h, revise_of_not_hasQuery d q g h,
      revise_of_not_hasQuery d q _ h]

theorem revise_congr {f g : Query → Query} (h : f (d.query q) = g (d.query q)) :
    d.revise q f = d.revise q g := by
  rw [revise, revise, h]

theorem revise_eq_self (h : f (d.query q) = d.query q) : d.revise q f = d := by
  by_cases hq : d.HasQuery q
  · have bound : q.index < d.queries.size := hq
    have kept : d.queries.setIfInBounds q.index (d.query q) = d.queries := by
      apply Array.ext_getElem?
      intro i
      rw [Array.getElem?_setIfInBounds]
      split
      · rename_i same
        subst same
        simp [query, bound]
      · rfl
    rw [revise, h, setQuery, kept]
  · exact revise_of_not_hasQuery d q f hq

@[simp] theorem hasQuery_revise (other : QueryId) :
    (d.revise q f).HasQuery other ↔ d.HasQuery other := by
  simp [HasQuery]

@[simp] theorem hasGroup_revise (g : GroupId) : (d.revise q f).HasGroup g ↔ d.HasGroup g := Iff.rfl

@[simp] theorem group_revise (g : GroupId) : (d.revise q f).group g = d.group g := rfl

end Queries

section Journal

variable (d : Draft) (e : Entry)

@[simp] theorem groups_record : (d.record e).groups = d.groups := rfl

@[simp] theorem queries_record : (d.record e).queries = d.queries := rfl

@[simp] theorem serial_record : (d.record e).serial = d.serial := rfl

@[simp] theorem group_record (g : GroupId) : (d.record e).group g = d.group g := rfl

@[simp] theorem query_record (q : QueryId) : (d.record e).query q = d.query q := rfl

@[simp] theorem hasQuery_record (q : QueryId) : (d.record e).HasQuery q ↔ d.HasQuery q := Iff.rfl

end Journal

section Groups

variable (d : Draft)

theorem group_append (g : GroupId) (e : Element) (h : d.HasGroup g) (other : GroupId) :
    (d.append g e).group other =
      if other = g then { d.group g with elements := (d.group g).elements ++ [e] }
      else d.group other := by
  have bound : g.index < d.groups.size := h
  by_cases same : other = g
  · subst same
    simp [append, setGroup, group, bound]
  · have indices : g.index ≠ other.index := by
      intro equal
      apply same
      cases other
      cases g
      exact congrArg GroupId.mk equal.symm
    simp [append, setGroup, group, indices, same]

@[simp] theorem size_groups_append (g : GroupId) (e : Element) :
    (d.append g e).groups.size = d.groups.size := by
  simp [append, setGroup]

@[simp] theorem query_append (g : GroupId) (e : Element) (q : QueryId) :
    (d.append g e).query q = d.query q := rfl

theorem group_of_not_hasGroup {g : GroupId} (h : ¬ d.HasGroup g) : d.group g = default := by
  have past : d.groups.size ≤ g.index := Nat.le_of_not_lt h
  simp [group, past]

theorem elements_addGroup (kind : GroupKind) (g : GroupId) :
    ((d.addGroup kind).group g).elements = (d.group g).elements := by
  by_cases new : g.index = d.groups.size
  · have past : d.groups[g.index]? = none := by simp [new]
    simp only [addGroup, group, Array.getElem?_push, new, ite_true, Option.getD_some]
    rw [← new, past]
    rfl
  · simp [addGroup, group, Array.getElem?_push, new]

theorem kind_addGroup_of_hasGroup (kind : GroupKind) {g : GroupId} (h : d.HasGroup g) :
    (d.addGroup kind).group g = d.group g := by
  have old : g.index ≠ d.groups.size := Nat.ne_of_lt h
  simp [addGroup, group, Array.getElem?_push, old]

theorem group_addGroup_next (kind : GroupKind) :
    (d.addGroup kind).group d.nextGroup = ⟨kind, []⟩ := by
  simp [addGroup, group, nextGroup]

theorem size_groups_addGroup (kind : GroupKind) :
    (d.addGroup kind).groups.size = d.groups.size + 1 :=
  Array.size_push _

theorem size_queries_addQuery (strict : Bool) (body : GroupId) (form : Form) :
    (d.addQuery strict body form).queries.size = d.queries.size + 1 :=
  Array.size_push _

theorem hasGroup_addGroup (kind : GroupKind) (g : GroupId) :
    (d.addGroup kind).HasGroup g ↔ d.HasGroup g ∨ g = d.nextGroup := by
  obtain ⟨i⟩ := g
  simp only [HasGroup, addGroup, nextGroup, Array.size_push, GroupId.mk.injEq]
  omega

theorem query_addQuery_of_hasQuery (strict : Bool) (body : GroupId) (form : Form) {q : QueryId}
    (h : d.HasQuery q) : (d.addQuery strict body form).query q = d.query q := by
  have old : q.index ≠ d.queries.size := Nat.ne_of_lt h
  simp [addQuery, query, Array.getElem?_push, old]

theorem query_addQuery_next (strict : Bool) (body : GroupId) (form : Form) :
    (d.addQuery strict body form).query d.nextQuery = ⟨strict, [], body, [], [], 0, form⟩ := by
  simp [addQuery, query, nextQuery]

theorem hasQuery_addQuery (strict : Bool) (body : GroupId) (form : Form) (q : QueryId) :
    (d.addQuery strict body form).HasQuery q ↔ d.HasQuery q ∨ q = d.nextQuery := by
  obtain ⟨i⟩ := q
  simp only [HasQuery, addQuery, nextQuery, Array.size_push, QueryId.mk.injEq]
  omega

theorem hasGroup_append (g : GroupId) (e : Element) (other : GroupId) :
    (d.append g e).HasGroup other ↔ d.HasGroup other := by
  simp [HasGroup, append, setGroup]

end Groups

end Draft

end SparqlCompose
