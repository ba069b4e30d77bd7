import SparqlCompose.Proofs.Draft.QueryRuns
import SparqlCompose.Proofs.Draft.Projection
import SparqlCompose.Proofs.Pipeline.Steps

namespace SparqlCompose

inductive Counted
  | groups
  | queries
  | serials

def Draft.count (d : Draft) : Counted → Nat
  | .groups => d.groups.size
  | .queries => d.queries.size
  | .serials => d.serial

structure Naming where
  number : Counted → Nat → Nat
  injective : ∀ k, Function.Injective (number k)

variable (ν : Naming)

def GroupId.rename (g : GroupId) : GroupId := ⟨ν.number .groups g.index⟩

def QueryId.rename (q : QueryId) : QueryId := ⟨ν.number .queries q.index⟩

def Variable.rename (v : Variable) : Variable := ⟨v.query.rename ν, v.identifier⟩

def Resource.rename (r : Resource) : Resource := ⟨r.query.rename ν, r.identifier⟩

def BlankNode.rename (b : BlankNode) : BlankNode := ⟨b.query.rename ν, b.index⟩

def Term.rename : Term → Term
  | .variable v => .variable (v.rename ν)
  | .resource r => .resource (r.rename ν)
  | .blank b => .blank (b.rename ν)
  | .literal l => .literal l

def Pattern.rename (p : Pattern) : Pattern :=
  ⟨ν.number .serials p.serial, p.subject.rename ν, p.predicate.rename ν, p.object.rename ν,
    p.graph.map (·.rename ν)⟩

def Entity.rename : Entity → Entity
  | .variable v => .variable (v.rename ν)
  | .resource r => .resource (r.rename ν)
  | .blank b => .blank (b.rename ν)
  | .pattern p => .pattern (p.rename ν)
  | .group g => .group (g.rename ν)
  | .bare serial => .bare (ν.number .serials serial)
  | .query q => .query (q.rename ν)

def Operand.rename : Operand → Operand
  | .entity e => .entity (e.rename ν)
  | .absent => .absent
  | .literal l => .literal l
  | .foreign kind => .foreign kind

def Element.rename : Element → Element
  | .pattern p => .pattern (p.rename ν)
  | .group g => .group (g.rename ν)
  | .stray thing => .stray (thing.rename ν)

def Group.rename (g : Group) : Group := ⟨g.kind, g.elements.map (·.rename ν)⟩

def Form.rename : Form → Form
  | .select distinct projection grouping =>
    .select distinct (projection.map (·.rename ν)) (grouping.map (·.rename ν))
  | .construct template => .construct (template.rename ν)
  | .formless => .formless

def Query.rename (query : Query) : Query :=
  { query with body := query.body.rename ν, form := query.form.rename ν }

def Answer.rename : Answer → Answer
  | .done => .done
  | .entity e => .entity (e.rename ν)
  | .groups gs => .groups (gs.map (·.rename ν))
  | .text s => .text s

def Operation.rename : Operation → Operation
  | .newQuery strict form => .newQuery strict form
  | .newFormless strict => .newFormless strict
  | .internVariable q text => .internVariable (q.rename ν) text
  | .internResource q text => .internResource (q.rename ν) text
  | .newBlank q => .newBlank (q.rename ν)
  | .expression q text => .expression (q.rename ν) text
  | .internGraph q uri => .internGraph (q.rename ν) uri
  | .newGraph uri => .newGraph uri
  | .newOptional => .newOptional
  | .newPlain => .newPlain
  | .newBare => .newBare
  | .newPattern s v o g => .newPattern (s.rename ν) (v.rename ν) (o.rename ν) (g.rename ν)
  | .addPattern group s v o g =>
    .addPattern (group.rename ν) (s.rename ν) (v.rename ν) (o.rename ν) (g.rename ν)
  | .addElement group thing => .addElement (group.rename ν) (thing.map (·.rename ν))
  | .bindNamespace q label uri => .bindNamespace (q.rename ν) label uri
  | .project q xs => .project (q.rename ν) (xs.map (·.rename ν))
  | .addProjection q x => .addProjection (q.rename ν) (x.rename ν)
  | .setDistinct q flag => .setDistinct (q.rename ν) flag
  | .groupBy q e => .groupBy (q.rename ν) (e.rename ν)
  | .find group s v o => .find (group.rename ν) (s.rename ν) (v.rename ν) (o.rename ν)
  | .sparql indent q => .sparql indent (q.rename ν)
  | .report level message => .report level message

def Step.rename : Step → Step
  | .operation o => .operation (o.rename ν)
  | .visit r q => .visit r (q.rename ν)

section Injective

theorem GroupId.rename_injective : Function.Injective (GroupId.rename ν) := by
  intro g g' same
  cases g
  cases g'
  exact congrArg GroupId.mk (ν.injective .groups (congrArg GroupId.index same))

theorem QueryId.rename_injective : Function.Injective (QueryId.rename ν) := by
  intro q q' same
  cases q
  cases q'
  exact congrArg QueryId.mk (ν.injective .queries (congrArg QueryId.index same))

theorem Variable.rename_injective : Function.Injective (Variable.rename ν) := by
  intro v w same
  obtain ⟨query, i⟩ := v
  obtain ⟨query', j⟩ := w
  simp only [rename, Variable.mk.injEq] at same
  rw [QueryId.rename_injective ν same.1, same.2]

theorem Resource.rename_injective : Function.Injective (Resource.rename ν) := by
  intro r r' same
  obtain ⟨query, i⟩ := r
  obtain ⟨query', j⟩ := r'
  simp only [rename, Resource.mk.injEq] at same
  rw [QueryId.rename_injective ν same.1, same.2]

theorem BlankNode.rename_injective : Function.Injective (BlankNode.rename ν) := by
  intro b b' same
  obtain ⟨query, i⟩ := b
  obtain ⟨query', j⟩ := b'
  simp only [rename, BlankNode.mk.injEq] at same
  rw [QueryId.rename_injective ν same.1, same.2]

theorem Term.rename_injective : Function.Injective (Term.rename ν) := by
  intro t t' same
  cases t <;> cases t' <;> simp only [rename, reduceCtorEq, Term.variable.injEq,
    Term.resource.injEq, Term.blank.injEq, Term.literal.injEq] at same ⊢
  · exact Variable.rename_injective ν same
  · exact Resource.rename_injective ν same
  · exact BlankNode.rename_injective ν same
  · exact same

theorem Pattern.rename_injective : Function.Injective (Pattern.rename ν) := by
  intro p p' same
  obtain ⟨n, s, v, o, g⟩ := p
  obtain ⟨n', s', v', o', g'⟩ := p'
  simp only [rename, Pattern.mk.injEq] at same
  obtain ⟨serial, subject, predicate, object, graph⟩ := same
  rw [ν.injective .serials serial, Term.rename_injective ν subject,
    Term.rename_injective ν predicate, Term.rename_injective ν object,
    Option.map_injective (Term.rename_injective ν) graph]

theorem Entity.rename_injective : Function.Injective (Entity.rename ν) := by
  intro e e' same
  cases e <;> cases e' <;> simp only [rename, reduceCtorEq, Entity.variable.injEq,
    Entity.resource.injEq, Entity.blank.injEq, Entity.pattern.injEq, Entity.group.injEq,
    Entity.bare.injEq, Entity.query.injEq] at same ⊢
  · exact Variable.rename_injective ν same
  · exact Resource.rename_injective ν same
  · exact BlankNode.rename_injective ν same
  · exact Pattern.rename_injective ν same
  · exact GroupId.rename_injective ν same
  · exact ν.injective .serials same
  · exact QueryId.rename_injective ν same

end Injective

section Reading

variable {ν}

theorem Term.answers_rename (stored wanted : Term) :
    (stored.rename ν).answers (wanted.rename ν) = stored.answers wanted := by
  cases stored <;> cases wanted <;> try rfl
  rename_i b b'
  rw [rename, rename, answers, answers, Bool.eq_iff_iff, beq_iff_eq, beq_iff_eq]
  exact (BlankNode.rename_injective ν).eq_iff

theorem Entity.term?_rename (e : Entity) : (e.rename ν).term? = e.term?.map (·.rename ν) := by
  cases e <;> rfl

theorem Operand.rename_ofTerm (t : Term) : (ofTerm t).rename ν = ofTerm (t.rename ν) := by
  cases t <;> rfl

theorem Operand.accepts_rename (wanted : Operand) (stored : Term) :
    (wanted.rename ν).accepts (stored.rename ν) = wanted.accepts stored := by
  cases wanted with
  | absent => rfl
  | literal l => exact Term.answers_rename stored (.literal l)
  | foreign kind => rfl
  | entity e =>
    have looks : ∀ (e : Entity) (stored : Term),
        (Operand.entity e).accepts stored = e.term?.any stored.answers :=
      fun e _ => by cases e <;> rfl
    rw [rename, looks, looks, Entity.term?_rename]
    cases e.term? with
    | none => rfl
    | some t => exact Term.answers_rename stored t

theorem Pattern.answers_rename (p : Pattern) (s v o : Operand) :
    (p.rename ν).answers (s.rename ν) (v.rename ν) (o.rename ν) = p.answers s v o := by
  rw [answers, answers, rename, Operand.accepts_rename, Operand.accepts_rename,
    Operand.accepts_rename]

theorem Entity.equal_rename (e e' : Entity) : (e.rename ν).equal (e'.rename ν) = e.equal e' := by
  have identity : ((e.rename ν) == (e'.rename ν)) = (e == e') := by
    rw [Bool.eq_iff_iff, beq_iff_eq, beq_iff_eq]
    exact (Entity.rename_injective ν).eq_iff
  cases e <;> cases e' <;> first | rfl | exact identity

theorem Element.rename_ofEntity (e : Entity) : (ofEntity e).rename ν = ofEntity (e.rename ν) := by
  cases e <;> rfl

theorem Group.patterns_rename (g : Group) :
    (g.rename ν).patterns = g.patterns.map (·.rename ν) := by
  rw [patterns, patterns, rename, List.filterMap_map, List.map_filterMap]
  apply List.filterMap_congr
  intro e _
  cases e <;> rfl

theorem Group.groups_rename (g : Group) : (g.rename ν).groups = g.groups.map (·.rename ν) := by
  rw [groups, groups, rename, List.filterMap_map, List.map_filterMap]
  apply List.filterMap_congr
  intro e _
  cases e <;> rfl

theorem identifiers_rename (vs : List Variable) :
    identifiers (vs.map (·.rename ν)) = identifiers vs := by
  rw [identifiers, identifiers, List.map_map]
  rfl

theorem keepFirst_rename (vs : List Variable) :
    Draft.keepFirst (vs.map (·.rename ν)) = (Draft.keepFirst vs).map (·.rename ν) := by
  have kept : ∀ vs ws : List Variable, (vs.map (·.rename ν)).foldl joined (ws.map (·.rename ν)) =
      (vs.foldl joined ws).map (·.rename ν) := by
    intro vs
    induction vs with
    | nil => exact fun _ => rfl
    | cons v vs ih =>
      intro ws
      have step : joined (ws.map (·.rename ν)) (v.rename ν) =
          (joined ws v).map (·.rename ν) := by
        rw [joined, joined, identifiers_rename]
        by_cases there : v.identifier ∈ identifiers ws
        · rw [if_pos there]
          exact if_pos there
        · rw [if_neg there, List.map_append]
          exact if_neg there
      rw [List.map_cons, List.foldl_cons, List.foldl_cons, step, ih]
  rw [keepFirst_eq_foldl, keepFirst_eq_foldl]
  exact kept vs []

theorem Term.written_rename (t : Term) : (t.rename ν).written = t.written := by
  cases t <;> rfl

theorem Term.writtenScope_rename (t : Term) : (t.rename ν).writtenScope = t.writtenScope := by
  cases t <;> rfl

theorem Pattern.written_rename (p : Pattern) : (p.rename ν).written = p.written := by
  rw [written, written, rename, Term.written_rename, Term.written_rename, Term.written_rename]
  cases p.graph with
  | none => rfl
  | some g => simp only [Option.map_some, Term.writtenScope_rename]

theorem groupingText_rename (e : Entity) :
    Draft.groupingText (e.rename ν) = Draft.groupingText e := by
  rw [Draft.groupingText, Draft.groupingText, Entity.term?_rename]
  cases e.term? with
  | none => rfl
  | some t => exact Term.written_rename t

end Reading

section Queries

variable {ν}

theorem Form.isSelect_rename (form : Form) : (form.rename ν).IsSelect ↔ form.IsSelect := by
  cases form <;> exact Iff.rfl

theorem Form.projection_rename (form : Form) :
    (form.rename ν).projection = form.projection.map (·.rename ν) := by
  cases form <;> rfl

theorem Form.rename_withProjection (form : Form) (vs : List Variable) :
    (form.withProjection vs).rename ν = (form.rename ν).withProjection (vs.map (·.rename ν)) := by
  cases form <;> rfl

theorem Form.rename_withDistinct (form : Form) (flag : Bool) :
    (form.withDistinct flag).rename ν = (form.rename ν).withDistinct flag := by
  cases form <;> rfl

theorem Form.rename_groupedBy (form : Form) (e : Entity) :
    (form.groupedBy e).rename ν = (form.rename ν).groupedBy (e.rename ν) := by
  cases form with
  | construct | formless => rfl
  | select distinct projection grouping =>
    have there : (grouping.map (·.rename ν)).any (·.equal (e.rename ν)) =
        grouping.any (·.equal e) := by
      rw [List.any_map]
      congr 1
      funext other
      exact Entity.equal_rename other e
    simp only [groupedBy, rename, there]
    split
    · rfl
    · rw [List.map_append]
      rfl

theorem Query.rename_join (query : Query) (vs : List Variable) :
    (query.join vs).rename ν = (query.rename ν).join (vs.map (·.rename ν)) := by
  have both : (query.form.projection ++ vs).map (·.rename ν) =
      (query.form.rename ν).projection ++ vs.map (·.rename ν) := by
    rw [List.map_append, Form.projection_rename]
  have form : (query.form.withProjection (Draft.keepFirst (query.form.projection ++ vs))).rename ν =
      (query.form.rename ν).withProjection
        (Draft.keepFirst ((query.form.rename ν).projection ++ vs.map (·.rename ν))) := by
    rw [Form.rename_withProjection, ← keepFirst_rename, both]
  rw [join, join, reform, reform, rename, rename, form]

theorem Query.rename_reform {f f' : Form → Form} (query : Query)
    (forms : (f query.form).rename ν = f' (query.form.rename ν)) :
    (query.reform f).rename ν = (query.rename ν).reform f' := by
  rw [reform, reform, rename, rename, forms]

theorem tailLines_rename (query : Query) :
    Draft.tailLines (query.rename ν) = Draft.tailLines query := by
  unfold Draft.tailLines
  rw [Query.rename]
  cases query.form with
  | construct | formless => rfl
  | select distinct projection grouping =>
    cases grouping with
    | nil => rfl
    | cons e es =>
      have texts : ((e :: es).map (·.rename ν)).mapM Draft.groupingText =
          (e :: es).mapM Draft.groupingText := by
        rw [List.mapM_map]
        exact mapM_congr fun x _ => groupingText_rename x
      simp only [Form.rename, List.map_cons] at texts ⊢
      rw [texts]

end Queries

end SparqlCompose
