import SparqlCompose.Proofs.Composition.History
import SparqlCompose.Proofs.Draft.Lines
import SparqlCompose.Proofs.Nesting.Acyclic
import SparqlCompose.Proofs.Writing.FirstFailure

namespace SparqlCompose

namespace Term

variable [IriCheck]

def Unwritable (t : Term) (way : List Nat) (e : Failure) : Prop :=
  way = [] ∧ ∃ r, t = .resource r ∧ iriAllowed r.iri = false ∧ e = .unwritableIri r.iri

theorem reports_written (t : Term) : Reports t.Unwritable t.written := by
  cases t with
  | resource r =>
    rw [written, writeIri]
    cases allowed : iriAllowed r.iri with
    | true =>
      rintro way e ⟨-, r', ⟨⟩, refused, -⟩
      rw [allowed] at refused
      cases refused
    | false => exact ⟨[], ⟨rfl, r, rfl, allowed, rfl⟩, fun place _ _ => nil_le place⟩
  | _ => rintro way e ⟨-, r, ⟨⟩, -⟩

theorem writtenScope_eq_error_iff {t : Term} {e : Failure} :
    t.writtenScope = .error e ↔ t.written = .error e := by
  unfold writtenScope
  split
  · exact ⟨nofun, nofun⟩
  · rfl

end Term

namespace Pattern

variable [IriCheck]

def terms (p : Pattern) : List Term := [p.subject, p.predicate, p.object] ++ p.graph.toList

theorem written_eq_error_iff {p : Pattern} {e : Failure} :
    p.written = .error e ↔ p.terms.mapM Term.written = .error e := by
  obtain ⟨serial, s, v, o, g⟩ := p
  cases g with
  | none => simp [written, terms, bind_eq_error_iff, pure, Except.pure]
  | some g =>
    simp [written, terms, bind_eq_error_iff, Term.writtenScope_eq_error_iff, pure, Except.pure]

theorem reports_written (p : Pattern) : Reports (WrongAmong Term.Unwritable p.terms) p.written :=
  (Reports.mapM fun t _ => t.reports_written).of_eq_error_iff fun _ => written_eq_error_iff

end Pattern

def Pattern.Writable [IriCheck] (p : Pattern) : Prop :=
  ∀ r, Term.resource r ∈ p.terms → iriAllowed r.iri = true

def Element.Writable [IriCheck] : Element → Prop
  | .pattern p => p.Writable
  | .group _ => True
  | .stray _ => False

def Group.Writable [IriCheck] (g : Group) : Prop := ∀ x ∈ g.elements, x.Writable

theorem Pattern.writable_iff [IriCheck] {p : Pattern} :
    p.Writable ↔ ∃ line, p.written = .ok line := by
  rw [p.reports_written.ok_iff]
  constructor
  · rintro allowed place e ⟨k, t, way, stands, -, -, r, rfl, refused, -⟩
    rw [allowed r (List.mem_of_getElem? stands)] at refused
    cases refused
  · intro fine r among
    obtain ⟨k, stands⟩ := List.mem_iff_getElem?.mp among
    apply Bool.of_not_eq_false
    exact fun refused => fine _ _ ⟨k, _, [], stands, rfl, rfl, r, rfl, refused, rfl⟩

def Query.parts (query : Query) : List GroupId :=
  match query.form with
  | .construct template => [template, query.body]
  | _ => [query.body]

theorem Query.mem_parts {query : Query} {g : GroupId} : g ∈ query.parts ↔ g ∈ query.roots := by
  cases form : query.form <;> simp [parts, roots, form, or_comm]

namespace Draft

variable [IriCheck]

/-- What stands at a place in an element and cannot be written, and what is said of it. -/
inductive Offends (d : Draft) : Element → List Nat → Failure → Prop
  | stray (thing : Entity) :
    d.Offends (.stray thing) [] (.invalid (.strayElement (d.entityKind thing)))
  | term {p : Pattern} {k : Nat} {r : Resource} (stands : p.terms[k]? = some (.resource r))
    (refused : iriAllowed r.iri = false) : d.Offends (.pattern p) [k] (.unwritableIri r.iri)
  | within {g : GroupId} {i : Nat} {x : Element} {way : List Nat} {e : Failure}
    (stands : (d.group g).elements[i]? = some x) (wrong : d.Offends x way e) :
    d.Offends (.group g) (i :: way) e

/-- What stands in a query and cannot be written. -/
def Offence (d : Draft) (q : QueryId) : List Nat → Failure → Prop :=
  WrongAmong (fun part => d.Offends (.group part)) (d.query q).parts

variable {d : Draft} {n level : Nat} {g : GroupId} {q : QueryId} {indent : String}
  {x : Element} {place : List Nat} {e e' : Failure}

theorem offends_pattern_iff {p : Pattern} :
    WrongAmong Term.Unwritable p.terms place e ↔ d.Offends (.pattern p) place e := by
  constructor
  · rintro ⟨k, t, way, stands, rfl, rfl, r, rfl, refused, rfl⟩
    exact .term stands refused
  · intro wrong
    cases wrong with
    | @term _ k r stands refused => exact ⟨k, _, [], stands, rfl, rfl, r, rfl, refused, rfl⟩

theorem offends_group_iff :
    WrongAmong d.Offends (d.group g).elements place e ↔ d.Offends (.group g) place e := by
  constructor
  · rintro ⟨i, x, way, stands, rfl, wrong⟩
    exact .within stands wrong
  · intro wrong
    cases wrong with
    | within stands wrong => exact ⟨_, _, _, stands, rfl, wrong⟩

theorem Offends.unique (h : d.Offends x place e) (h' : d.Offends x place e') : e = e' := by
  induction h with
  | stray thing =>
    cases h'
    rfl
  | term stands _ =>
    cases h' with
    | term stands' _ =>
      cases stands.symm.trans stands'
      rfl
  | within stands _ ih =>
    cases h' with
    | within stands' wrong =>
      cases stands.symm.trans stands'
      exact ih wrong

theorem Offence.unique (h : d.Offence q place e) (h' : d.Offence q place e') : e = e' := by
  obtain ⟨i, part, way, stands, rfl, wrong⟩ := h
  obtain ⟨i', part', way', stands', same, wrong'⟩ := h'
  cases same
  cases stands.symm.trans stands'
  exact wrong.unique wrong'

/-- A group is written unless something in it cannot be, and then the first such thing is told. -/
theorem Bounded.reports_lines (h : d.Bounded n g) :
    Reports (d.Offends (.group g)) (d.lines indent n level g) := by
  induction n generalizing g level with
  | zero => exact h.elim
  | succ n ih =>
    rw [lines_succ]
    refine Reports.bind (Reports.congr (Reports.mapM fun x member => ?_)
      fun _ _ => offends_group_iff) fun _ => ⟨_, rfl⟩
    cases x with
    | stray thing => exact ⟨[], .stray thing, fun place _ _ => nil_le place⟩
    | pattern p =>
      exact (p.reports_written.congr fun _ _ => offends_pattern_iff).bind fun _ => ⟨_, rfl⟩
    | group inner =>
      have below : d.Contains g inner := List.mem_filterMap.mpr ⟨_, member, rfl⟩
      exact (ih (h inner below)).bind fun _ => ⟨_, rfl⟩

def Blames (d : Draft) (g : GroupId) (e : Failure) : Prop :=
  (∃ thing, .stray thing ∈ (d.group g).elements ∧
    e = .invalid (.strayElement (d.entityKind thing))) ∨
  ∃ p, .pattern p ∈ (d.group g).elements ∧ ∃ r, .resource r ∈ p.terms ∧
    iriAllowed r.iri = false ∧ e = .unwritableIri r.iri

theorem forall_not_blames_iff : (∀ e, ¬ d.Blames g e) ↔ (d.group g).Writable := by
  constructor
  · intro fine x member
    cases x with
    | group => trivial
    | stray thing => exact fine _ (.inl ⟨thing, member, rfl⟩)
    | pattern p =>
      intro r among
      apply Bool.of_not_eq_false
      exact fun refused => fine _ (.inr ⟨p, member, r, among, refused, rfl⟩)
  · rintro writable e (⟨thing, member, -⟩ | ⟨p, member, r, among, refused, -⟩)
    · exact writable _ member
    · have allowed := writable _ member r among
      rw [refused] at allowed
      cases allowed

theorem exists_offends_iff :
    (∃ place, d.Offends (.group g) place e) ↔ ∃ inner, d.Encloses g inner ∧ d.Blames inner e := by
  constructor
  · rintro ⟨place, wrong⟩
    -- along the place, whose first number is that of an element of the group
    induction place generalizing g with
    | nil => cases wrong
    | cons i way ih =>
      cases wrong with
      | @within _ _ x _ _ stands wrong =>
        have member := List.mem_of_getElem? stands
        cases x with
        | stray thing =>
          cases wrong
          exact ⟨g, .refl, .inl ⟨thing, member, rfl⟩⟩
        | pattern p =>
          cases wrong with
          | @term _ k r stands refused =>
            exact ⟨g, .refl, .inr ⟨p, member, r, List.mem_of_getElem? stands, refused, rfl⟩⟩
        | group inner =>
          obtain ⟨deeper, below, blamed⟩ := ih wrong
          have edge : d.Contains g inner := List.mem_filterMap.mpr ⟨_, member, rfl⟩
          exact ⟨deeper, .head edge below, blamed⟩
  · rintro ⟨inner, below, blamed⟩
    -- along the way down to the group, each edge of which puts a number in front of the place
    induction below using Relation.ReflTransGen.head_induction_on with
    | refl =>
      rcases blamed with ⟨thing, member, rfl⟩ | ⟨p, member, r, among, refused, rfl⟩
      · obtain ⟨i, stands⟩ := List.mem_iff_getElem?.mp member
        exact ⟨_, .within stands (.stray thing)⟩
      · obtain ⟨i, stands⟩ := List.mem_iff_getElem?.mp member
        obtain ⟨k, term⟩ := List.mem_iff_getElem?.mp among
        exact ⟨_, .within stands (.term term refused)⟩
    | head edge _ ih =>
      obtain ⟨place, wrong⟩ := ih
      obtain ⟨x, member, is⟩ := List.mem_filterMap.mp edge
      obtain ⟨i, stands⟩ := List.mem_iff_getElem?.mp member
      cases x with
      | group inner =>
        cases is
        exact ⟨_, .within stands wrong⟩
      | pattern | stray => cases is

theorem exists_offence_iff :
    (∃ place, d.Offence q place e) ↔
      ∃ part ∈ (d.query q).parts, ∃ g, d.Encloses part g ∧ d.Blames g e := by
  constructor
  · rintro ⟨_, i, part, way, stands, -, wrong⟩
    exact ⟨part, List.mem_of_getElem? stands, exists_offends_iff.mp ⟨way, wrong⟩⟩
  · rintro ⟨part, member, blamed⟩
    obtain ⟨i, stands⟩ := List.mem_iff_getElem?.mp member
    obtain ⟨way, wrong⟩ := exists_offends_iff.mpr blamed
    exact ⟨_, i, part, way, stands, rfl, wrong⟩

/-- The query has a form, what it is grouped by can be written, and so can its groups at any
depth. -/
structure Writable (d : Draft) (q : QueryId) : Prop where
  formed : (d.query q).form ≠ .formless
  tail : ∃ tail, tailLines (d.query q) = .ok tail
  groups : ∀ part ∈ (d.query q).parts, ∀ g, d.Encloses part g → (d.group g).Writable

theorem forall_not_offence_iff :
    (∀ place e, ¬ d.Offence q place e) ↔
      ∀ part ∈ (d.query q).parts, ∀ g, d.Encloses part g → (d.group g).Writable := by
  constructor
  · intro fine part member g below
    apply forall_not_blames_iff.mp
    intro e blamed
    obtain ⟨place, wrong⟩ := exists_offence_iff.mpr ⟨part, member, g, below, blamed⟩
    exact fine place e wrong
  · intro writable place e wrong
    obtain ⟨part, member, g, below, blamed⟩ := exists_offence_iff.mp ⟨place, wrong⟩
    exact forall_not_blames_iff.mpr (writable part member g below) e blamed

theorem exists_tailLines {query : Query}
    (grouped : ∀ e ∈ query.form.grouping, ∃ v, e = .variable v) :
    ∃ tail, tailLines query = .ok tail := by
  unfold tailLines
  split
  case h_2 => exact ⟨_, rfl⟩
  case h_1 distinct projection e es form =>
  rw [form] at grouped
  cases run : (e :: es).mapM groupingText with
  | ok texts => exact ⟨_, rfl⟩
  | error failure =>
    obtain ⟨before, x, after, whole, failed, -⟩ := exists_of_mapM_eq_error run
    obtain ⟨v, rfl⟩ := grouped x (by simp [Form.grouping, whole])
    cases failed

omit [IriCheck] in
theorem WellNested.bounded_parts (nested : d.WellNested)
    (rooted : ∀ g ∈ (d.query q).roots, d.HasGroup g) :
    ∀ g ∈ (d.query q).parts, d.Bounded d.depth g :=
  fun g member => nested.bounded (rooted g (Query.mem_parts.mp member))

section Rooted

variable (nested : d.WellNested) (rooted : ∀ g ∈ (d.query q).roots, d.HasGroup g)
include nested rooted

/-- A query with a form is written unless something in it cannot be, and then the first such thing
is told. -/
theorem reports_sparql (formed : (d.query q).form ≠ .formless)
    (tail : ∃ tail, tailLines (d.query q) = .ok tail) (indent : String) :
    Reports (d.Offence q) (d.sparql indent q) := by
  have parts : Reports (d.Offence q) ((d.query q).parts.mapM (d.lines indent d.depth 1)) :=
    .mapM fun g member => (nested.bounded_parts rooted g member).reports_lines
  refine Reports.bind (parts.of_eq_error_iff fun e => ?_) fun _ => ⟨_, rfl⟩
  obtain ⟨tail, last⟩ := tail
  cases form : (d.query q).form with
  | formless => exact absurd form formed
  | select distinct projection grouping =>
    simp [queryLines, headLines, Query.parts, form, last, bind_eq_error_iff, pure, Except.pure]
  | construct template =>
    simp [queryLines, headLines, Query.parts, form, last, bind_eq_error_iff, pure, Except.pure]

theorem sparql_ok_iff (indent : String) :
    (∃ text, d.sparql indent q = .ok text) ↔ d.Writable q := by
  constructor
  · rintro ⟨text, written⟩
    obtain ⟨ls, made, -⟩ := exists_of_bind_eq_ok written
    obtain ⟨head, first, made⟩ := exists_of_bind_eq_ok made
    obtain ⟨body, -, made⟩ := exists_of_bind_eq_ok made
    obtain ⟨tail, last, -⟩ := exists_of_bind_eq_ok made
    have formed : (d.query q).form ≠ .formless := by
      intro formless
      rw [headLines, formless] at first
      cases first
    have reports := reports_sparql nested rooted formed ⟨tail, last⟩ indent
    exact ⟨formed, ⟨tail, last⟩, forall_not_offence_iff.mp (reports.ok_iff.mp ⟨text, written⟩)⟩
  · rintro ⟨formed, tail, groups⟩
    have reports := reports_sparql nested rooted formed tail indent
    exact reports.ok_iff.mpr (forall_not_offence_iff.mpr groups)

end Rooted

theorem sparql_formless (formless : (d.query q).form = .formless) :
    d.sparql indent q = .error (.invalid .formlessQuery) := by
  rw [sparql, queryLines, headLines, formless]
  rfl

end Draft

namespace Composition

open Draft

section Checked

variable [IriCheck] {c : Composition} {q : QueryId}

theorem outcome_sparql (indent : String) :
    c.outcome (.sparql indent q) = (c.draft.sparql indent q).map .text := by
  rw [outcome, Operation.run, EStateM.run_bind, Edit.run_sparql]
  cases c.draft.sparql indent q <;> rfl

theorem outcome_sparql_ok_iff (h : c.Reachable) (there : c.draft.HasQuery q) (indent : String) :
    (∃ text, c.outcome (.sparql indent q) = .ok (.text text)) ↔ c.draft.Writable q := by
  rw [← sparql_ok_iff h.wellNested (h.rooted_changes.1 q there) indent, outcome_sparql]
  cases c.draft.sparql indent q with
  | error e => exact ⟨nofun, nofun⟩
  | ok text => exact ⟨fun _ => ⟨text, rfl⟩, fun _ => ⟨text, rfl⟩⟩

/-- A query that is grouped by variables is written just when it has a form and holds, at any depth,
no stray thing and no resource whose IRI may not be written. One without a form is refused as such,
whatever it holds. Of any other the first offence is told, in the order of the text: the template
before the body, in a group each element with all that stands in it before the next, in a pattern
the subject, the predicate, the object and the graph. -/
theorem written_or_first_offence {c : Composition} (h : c.Reachable) {q : QueryId}
    (there : c.draft.HasQuery q)
    (grouped : ∀ e ∈ (c.draft.query q).form.grouping, ∃ v, e = .variable v) (indent : String) :
    ((∃ text, c.outcome (.sparql indent q) = .ok (.text text)) ↔
      (c.draft.query q).form ≠ .formless ∧ ∀ part ∈ (c.draft.query q).parts,
        ∀ g, c.draft.Encloses part g → (c.draft.group g).Writable) ∧
    ((c.draft.query q).form = .formless →
      c.outcome (.sparql indent q) = .error (.invalid .formlessQuery)) ∧
    ((c.draft.query q).form ≠ .formless → ∀ e,
      c.outcome (.sparql indent q) = .error e ↔ IsFirst (c.draft.Offence q) e) := by
  have tail := exists_tailLines grouped
  refine ⟨?_, ?_, ?_⟩
  · rw [outcome_sparql_ok_iff h there]
    exact ⟨fun writable => ⟨writable.formed, writable.groups⟩,
      fun ⟨formed, groups⟩ => ⟨formed, tail, groups⟩⟩
  · intro formless
    rw [outcome_sparql, sparql_formless formless]
    rfl
  · intro formed e
    have written := reports_sparql h.wellNested (h.rooted_changes.1 q there) formed tail indent
    have reports := written.bind (f := fun text => pure (Answer.text text)) fun text => ⟨_, rfl⟩
    rw [outcome_sparql]
    exact Reports.eq_error_iff reports Offence.unique

end Checked

def unwritable : List Operation :=
  let predicate : Resource := ⟨⟨0⟩, ⟨"", "urn:a b"⟩⟩
  [.newQuery false "CONSTRUCT", .newBare, .addElement ⟨1⟩ (some (.bare 0)), .newOptional,
   .internResource ⟨0⟩ "urn:a b",
   .addPattern ⟨2⟩ (.literal (.text "s")) (.entity (.resource predicate)) (.literal (.text "o"))
     .absent,
   .addElement ⟨0⟩ (some (.group ⟨2⟩))]

theorem written_or_first_offence_unwritable :
    start.Admits unwritable ∧
    (start.replay unwritable).outcome (.sparql standardIndent ⟨0⟩) =
      .error (.unwritableIri "urn:a b") ∧
    IsFirst ((start.replay unwritable).draft.Offence ⟨0⟩) (.unwritableIri "urn:a b") := by
  have facts : start.Admits unwritable ∧ (start.replay unwritable).draft.HasQuery ⟨0⟩ ∧
      ((start.replay unwritable).draft.query ⟨0⟩).form.grouping = [] ∧
      ((start.replay unwritable).draft.query ⟨0⟩).form ≠ .formless ∧
      (match (start.replay unwritable).outcome (.sparql standardIndent ⟨0⟩) with
        | .error (.unwritableIri iri) => iri == "urn:a b"
        | _ => false) = true := by
    decide +kernel
  obtain ⟨admits, there, ungrouped, formed, told⟩ := facts
  have refused : (start.replay unwritable).outcome (.sparql standardIndent ⟨0⟩) =
      .error (.unwritableIri "urn:a b") := by
    split at told
    case h_1 iri is => rw [is, beq_iff_eq.mp told]
    case h_2 => cases told
  have first := written_or_first_offence (reachable_replay admits) there
    (by simp [ungrouped]) standardIndent
  exact ⟨admits, refused, (first.2.2 formed _).mp refused⟩

end Composition

end SparqlCompose
