import SparqlCompose.Proofs.Draft.Lines
import SparqlCompose.Proofs.Draft.Projection
import SparqlCompose.Proofs.Identifier
import SparqlCompose.Provider.Sources

namespace SparqlCompose.Provider

open Edit Draft

def sourceIdentifier : Identifier := sharedIdentifier Vocabulary.source

def labelIdentifier : Identifier := sharedIdentifier Vocabulary.label

def hasSourceIdentifier : Identifier := ⟨Vocabulary.dublinCore, Vocabulary.source⟩

def hasLabelIdentifier : Identifier := ⟨Vocabulary.rdfs, Vocabulary.label⟩

theorem ofText?_source :
    Identifier.ofText? (Vocabulary.queryVariable ++ Vocabulary.source) = some sourceIdentifier :=
  Vocabulary.isSpace_queryVariable.ofText?_eq rfl

theorem ofText?_label :
    Identifier.ofText? (Vocabulary.queryVariable ++ Vocabulary.label) = some labelIdentifier :=
  Vocabulary.isSpace_queryVariable.ofText?_eq rfl

theorem ofText?_hasSource :
    Identifier.ofText? (Vocabulary.dublinCore ++ Vocabulary.source) = some hasSourceIdentifier :=
  Vocabulary.isSpace_dublinCore.ofText?_eq rfl

theorem ofText?_hasLabel :
    Identifier.ofText? (Vocabulary.rdfs ++ Vocabulary.label) = some hasLabelIdentifier :=
  Vocabulary.isSpace_rdfs.ofText?_eq rfl

def sourceLines : List String :=
  ["SELECT DISTINCT ?source ?label",
   "WHERE \x7b",
   "  GRAPH <http://sparql.tw.rpi.edu/semanteco/data-source> \x7b",
   "    _:b0 <http://purl.org/dc/terms/source> ?source .",
   "    OPTIONAL \x7b",
   "      ?source <http://www.w3.org/2000/01/rdf-schema#label> ?label .",
   "    \x7d",
   "  \x7d",
   "\x7d"]

def sourceText : String := String.join (sourceLines.map (· ++ "\n"))

section Sheet

variable (d : Draft)

def sourceVariable : Variable := ⟨d.nextQuery, sourceIdentifier⟩

def labelVariable : Variable := ⟨d.nextQuery, labelIdentifier⟩

def hasSourcePattern : Pattern :=
  ⟨d.serial, .blank ⟨d.nextQuery, 0⟩, .resource ⟨d.nextQuery, hasSourceIdentifier⟩,
    .variable (sourceVariable d), none⟩

def hasLabelPattern : Pattern :=
  ⟨d.serial + 1, .variable (sourceVariable d), .resource ⟨d.nextQuery, hasLabelIdentifier⟩,
    .variable (labelVariable d), none⟩

def sourceTerms (query : Query) : Query :=
  ((((query.ask sourceIdentifier).ask labelIdentifier).meet hasSourceIdentifier).meet
    hasLabelIdentifier).countBlank

def sourceSheet (strict : Bool) : Sheet where
  groups :=
    [⟨.plain, [.group (d.place 1)]⟩,
     ⟨.graph Vocabulary.metadataGraph, [.pattern (hasSourcePattern d), .group (d.place 2)]⟩,
     ⟨.optional, [.pattern (hasLabelPattern d)]⟩]
  query :=
    ((sourceTerms ⟨strict, [], d.place 0, [], [], 0, .select false [] []⟩).reform
      (·.withProjection (Draft.keepFirst [sourceVariable d, labelVariable d]))).reform
      (·.withDistinct true)
  used := 2

end Sheet

theorem uncomputed_sourceSheet (d : Draft) (strict : Bool) :
    (sourceSheet d strict).query.Uncomputed := by
  have start : (⟨strict, [], d.place 0, [], [], 0, .select false [] []⟩ : Query).Uncomputed :=
    fun _ => rfl
  exact (start.ask sourceIdentifier).ask labelIdentifier

theorem run_sourceQuery (d : Draft) (strict : Bool) :
    (sourceQuery strict).run d = .ok (d.announcing "SELECT").nextQuery
      ((d.announcing "SELECT").attach (sourceSheet (d.announcing "SELECT") strict)) := by
  refine (run_bind_ok (run_newSelect_fresh d strict)).trans ?_
  generalize d.announcing "SELECT" = d
  have plain := uncomputed_sourceSheet d strict
  have own : ∀ v : Variable, v = ⟨d.nextQuery, sourceIdentifier⟩ ∨
      v = ⟨d.nextQuery, labelIdentifier⟩ → v.query = d.nextQuery := by
    rintro v (rfl | rfl) <;> rfl
  refine (run_bind_ok (run_internVariable_attach d _ ofText?_source)).trans ?_
  refine (run_bind_ok (run_internVariable_attach d _ ofText?_label)).trans ?_
  refine (run_bind_ok (run_internResource_attach d _ ofText?_hasSource)).trans ?_
  refine (run_bind_ok (run_internResource_attach d _ ofText?_hasLabel)).trans ?_
  refine (run_bind_ok (run_newBlank_attach d _)).trans ?_
  refine (run_bind_ok (run_project_attach d _ ?_ [sourceVariable d, labelVariable d])).trans ?_
  · trivial
  refine (run_bind_ok (run_setDistinct_attach d _ ?_ true)).trans ?_
  · trivial
  refine (run_bind_ok (run_internGraph_attach d _ (i := 0) rfl rfl rfl)).trans ?_
  refine (run_bind_ok (run_addPattern_attach d _ ?_ _)).trans ?_
  · intro v member
    exact ⟨own v (.inl (by simpa using member)), plain v.identifier⟩
  refine (run_bind_ok (run_newGroup_attach d _ .optional)).trans ?_
  refine (run_bind_ok (run_addElement_attach d _ (i := _) .optional ?_)).trans ?_
  · exact Nat.one_lt_two
  refine (run_bind_ok (run_addPattern_attach d _ ?_ _)).trans ?_
  · intro v member
    exact ⟨own v (by simpa using member), plain v.identifier⟩
  rfl

theorem written_hasSourcePattern (d : Draft) :
    (hasSourcePattern d).written =
      .ok "_:b0 <http://purl.org/dc/terms/source> ?source ." := by
  have iri : (Term.resource ⟨d.nextQuery, hasSourceIdentifier⟩).written =
      .ok "<http://purl.org/dc/terms/source>" :=
    Term.written_resource "http://purl.org/dc/terms/source" rfl (by decide +kernel)
  have zero : toString (0 : Nat) = "0" := by decide
  have blank : (Term.blank ⟨d.nextQuery, 0⟩).written = .ok "_:b0" := by
    rw [Term.written, BlankNode.text, BlankNode.label, zero]
    rfl
  exact (Pattern.written_eq blank iri rfl).trans rfl

theorem written_hasLabelPattern (d : Draft) :
    (hasLabelPattern d).written =
      .ok "?source <http://www.w3.org/2000/01/rdf-schema#label> ?label ." := by
  have iri : (Term.resource ⟨d.nextQuery, hasLabelIdentifier⟩).written =
      .ok "<http://www.w3.org/2000/01/rdf-schema#label>" :=
    Term.written_resource "http://www.w3.org/2000/01/rdf-schema#label" rfl (by decide +kernel)
  exact (Pattern.written_eq rfl iri rfl).trans rfl

theorem headLines_sourceSheet (d : Draft) (strict : Bool) :
    (d.attach (sourceSheet d strict)).headLines standardIndent (sourceSheet d strict).query =
      .ok ["SELECT DISTINCT ?source ?label"] := by
  have plain := uncomputed_sourceSheet d strict
  have distinct : (identifiers [sourceVariable d, labelVariable d]).Nodup := by
    show [sourceIdentifier, labelIdentifier].Nodup
    decide +kernel
  have form : (sourceSheet d strict).query.form =
      .select true (keepFirst [sourceVariable d, labelVariable d]) [] := rfl
  rw [headLines, form, keepFirst_of_nodup distinct]
  dsimp only
  rw [selectLine, List.map_cons, List.map_cons, List.map_nil, projected_attach ⟨rfl, plain _⟩,
    projected_attach ⟨rfl, plain _⟩]
  rfl

theorem sparql_sourceQuery (d : Draft) (strict : Bool) :
    (d.attach (sourceSheet d strict)).sparql standardIndent d.nextQuery = .ok sourceText := by
  have labelled : (d.attach (sourceSheet d strict)).group (d.place 2) =
      ⟨.optional, [.pattern (hasLabelPattern d)]⟩ := group_attach _ _ 2
  have metadata : (d.attach (sourceSheet d strict)).group (d.place 1) =
      ⟨.graph Vocabulary.metadataGraph, [.pattern (hasSourcePattern d), .group (d.place 2)]⟩ :=
    group_attach _ _ 1
  have outer : (d.attach (sourceSheet d strict)).group (d.place 0) =
      ⟨.plain, [.group (d.place 1)]⟩ := group_attach _ _ 0
  have depth : (d.attach (sourceSheet d strict)).depth = d.groups.size + 1 + 1 + 1 :=
    depth_attach _ _
  have optional : (d.attach (sourceSheet d strict)).lines standardIndent (d.groups.size + 1) 3
      (d.place 2) = .ok ["      ?source <http://www.w3.org/2000/01/rdf-schema#label> ?label ."] := by
    refine lines_eq_ok [[_]] ?_
    rw [labelled]
    exact .cons (elementLines_pattern (written_hasLabelPattern d)) .nil
  have graph : (d.attach (sourceSheet d strict)).lines standardIndent (d.groups.size + 1 + 1) 2
      (d.place 1) = .ok
      ["    _:b0 <http://purl.org/dc/terms/source> ?source .",
       "    OPTIONAL \x7b",
       "      ?source <http://www.w3.org/2000/01/rdf-schema#label> ?label .",
       "    \x7d"] := by
    refine lines_eq_ok [[_], [_, _, _]] ?_
    rw [metadata]
    exact .cons (elementLines_pattern (written_hasSourcePattern d))
      (.cons (elementLines_group (congrArg Group.kind labelled) optional) .nil)
  have body : (d.attach (sourceSheet d strict)).lines standardIndent
      (d.attach (sourceSheet d strict)).depth 1 (d.place 0) = .ok
      ["  GRAPH <http://sparql.tw.rpi.edu/semanteco/data-source> \x7b",
       "    _:b0 <http://purl.org/dc/terms/source> ?source .",
       "    OPTIONAL \x7b",
       "      ?source <http://www.w3.org/2000/01/rdf-schema#label> ?label .",
       "    \x7d",
       "  \x7d"] := by
    rw [depth]
    refine lines_eq_ok [[_, _, _, _, _, _]] ?_
    rw [outer]
    exact .cons (elementLines_group (congrArg Group.kind metadata) graph) .nil
  rw [sparql_eq_ok (query_attach _ _) (headLines_sourceSheet d strict) body rfl]
  rfl

end SparqlCompose.Provider
