import SparqlCompose.Proofs.Draft.Reading

namespace SparqlCompose.Draft

def recordAll (d : Draft) (es : Array Entry) : Draft := { d with journal := d.journal ++ es }

variable (d : Draft) (es : Array Entry)

theorem record_eq_recordAll (e : Entry) : d.record e = d.recordAll #[e] := by
  simp [record, recordAll]

@[simp] theorem recordAll_recordAll (fs : Array Entry) :
    (d.recordAll es).recordAll fs = d.recordAll (es ++ fs) := by
  simp [recordAll]

@[simp] theorem recordAll_empty : d.recordAll #[] = d := by
  simp [recordAll]

@[simp] theorem query_recordAll (q : QueryId) : (d.recordAll es).query q = d.query q := rfl

@[simp] theorem hasQuery_recordAll (q : QueryId) : (d.recordAll es).HasQuery q ↔ d.HasQuery q :=
  Iff.rfl

@[simp] theorem groups_recordAll : (d.recordAll es).groups = d.groups := rfl

@[simp] theorem queries_recordAll : (d.recordAll es).queries = d.queries := rfl

@[simp] theorem serial_recordAll : (d.recordAll es).serial = d.serial := rfl

theorem revise_recordAll (q : QueryId) (f : Query → Query) :
    (d.recordAll es).revise q f = (d.revise q f).recordAll es := rfl

theorem resembles_recordAll : d.Resembles (d.recordAll es) := ⟨rfl, fun _ => rfl⟩

theorem sparql_recordAll (indent : String) (q : QueryId) :
    (d.recordAll es).sparql indent q = d.sparql indent q :=
  (d.resembles_recordAll es).sparql indent q

end SparqlCompose.Draft
