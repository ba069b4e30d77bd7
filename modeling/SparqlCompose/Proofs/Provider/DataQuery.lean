import SparqlCompose.Proofs.Draft.Lines
import SparqlCompose.Proofs.Identifier
import SparqlCompose.Proofs.Literal.Quoting
import SparqlCompose.Proofs.Request
import SparqlCompose.Provider.Air
import SparqlCompose.Provider.Water

namespace SparqlCompose

namespace Sheet

theorem append_nil (w : Sheet) (i : Nat) : w.append i [] = w := by
  have same : (fun g : Group => { g with elements := g.elements ++ [] }) = id := by
    funext g
    simp
  rw [append, same, List.modify_id]

theorem advance_append (w : Sheet) (i m n : Nat) (es : List Element) :
    ((w.advance m).append i es).advance n = (w.advance (m + n)).append i es := by
  simp [append, advance, Nat.add_assoc]

end Sheet

namespace Provider

open Edit Draft

/-- The request has a state, this county and this state code. -/
structure Accepts (r : Request) (county stateCode : String) : Prop where
  state : ∃ v, r.require "state" stateRemark = .ok v
  county : ∃ v, r.require "county" countyRemark = .ok v ∧ v.display = county
  stateCode : ∃ v, r.require "stateCode" stateCodeRemark = .ok v ∧ v.display = stateCode

theorem region_eq_ok {r : Request} {v w : Value} {county stateCode : String}
    (givenCounty : r.require "county" countyRemark = .ok v) (isCounty : v.display = county)
    (givenCode : r.require "stateCode" stateCodeRemark = .ok w) (isCode : w.display = stateCode) :
    region r = .ok (county, stateCode) := by
  rw [region, bind_of_eq_ok givenCounty, bind_of_eq_ok givenCode,
    bind_of_eq_ok (Value.shown_eq_ok_iff.mpr isCounty),
    bind_of_eq_ok (Value.shown_eq_ok_iff.mpr isCode),
    bind_of_eq_ok (RawText.plain_eq_ok_iff.mpr rfl), bind_of_eq_ok (RawText.plain_eq_ok_iff.mpr rfl)]
  rfl

theorem Accepts.region_eq {r : Request} {county stateCode : String}
    (accepts : Accepts r county stateCode) : region r = .ok (county, stateCode) := by
  obtain ⟨v, givenCounty, isCounty⟩ := accepts.county
  obtain ⟨w, givenCode, isCode⟩ := accepts.stateCode
  exact region_eq_ok givenCounty isCounty givenCode isCode

theorem run_template_attach (d : Draft) (w : Sheet) {template : GroupId}
    (form : w.query.form = .construct template) :
    (Edit.template d.nextQuery).run (d.attach w) = .ok template (d.attach w) := by
  have is : ((d.attach w).query d.nextQuery).form = .construct template := by
    rw [query_attach, form]
  simp only [Edit.template, EStateM.run_bind, EStateM.run_get, is]
  rfl

section Statements

def patternsFrom (subject : Variable) : Nat → List (Resource × Term) → List Pattern
  | _, [] => []
  | serial, (predicate, object) :: rest =>
    ⟨serial, .variable subject, .resource predicate, object, none⟩ ::
      patternsFrom subject (serial + 1) rest

theorem addStatements_cons (g : GroupId) (subject : Variable) (predicate : Resource) (object : Term)
    (rest : List (Resource × Term)) :
    addStatements g subject ((predicate, object) :: rest) = (do
      let _ ← addPattern g (.ofTerm (.variable subject)) (.ofTerm (.resource predicate))
        (.ofTerm object) .absent
      addStatements g subject rest) := by
  unfold addStatements
  rw [List.forM_eq_forM, List.forM_cons, bind_assoc]
  rfl

theorem run_addStatements (d : Draft) {subject : Variable} {statements : List (Resource × Term)}
    (w : Sheet) (own : d.Leaves w subject)
    (objects : ∀ s ∈ statements, ∀ x, s.2 = .variable x → d.Leaves w x) (i : Nat) :
    (addStatements (d.place i) subject statements).run (d.attach w) =
      .ok () (d.attach ((w.advance statements.length).append i
        ((patternsFrom subject (d.serial + w.used) statements).map .pattern))) := by
  induction statements generalizing w with
  | nil =>
    rw [patternsFrom, List.map_nil, Sheet.append_nil]
    rfl
  | cons s rest ih =>
    obtain ⟨predicate, object⟩ := s
    obtain ⟨first, later⟩ := List.forall_mem_cons.mp objects
    have mine : ∀ x : Variable, .variable x ∈ [Term.variable subject, .resource predicate, object] →
        d.Leaves w x := by
      intro x member
      simp only [List.mem_cons, Term.variable.injEq, reduceCtorEq, List.not_mem_nil, or_false,
        false_or] at member
      rcases member with rfl | same
      · exact own
      · exact first x same.symm
    rw [addStatements_cons]
    refine (run_bind_ok (run_addPattern_attach d w mine i)).trans ?_
    -- a pattern does not alter what is known of the variables
    have later' : ∀ s ∈ rest, ∀ x, s.2 = .variable x →
        d.Leaves ((w.advance 1).append i [.pattern ⟨d.serial + w.used, .variable subject,
          .resource predicate, object, none⟩]) x :=
      fun s member x same => ⟨(later s member x same).query, (later s member x same).plain⟩
    refine (ih ((w.advance 1).append i _) ⟨own.query, own.plain⟩ later').trans ?_
    rw [Sheet.advance_append, Sheet.append_append]
    rw [patternsFrom, List.map_cons, List.length_cons, Nat.add_comm 1]
    rfl

end Statements

section Sheet

variable (d : Draft) (county stateCode : String)

def hasCountyIdentifier : Identifier := ⟨Vocabulary.pollution, "hasCounty"⟩

def hasStateIdentifier : Identifier := ⟨Vocabulary.pollution, "hasState"⟩

def hasCharacteristicIdentifier : Identifier := ⟨Vocabulary.pollution, "hasCharacteristic"⟩

def hasValueIdentifier : Identifier := ⟨Vocabulary.pollution, "hasValue"⟩

def hasUnitIdentifier : Identifier := ⟨Vocabulary.unit, "hasUnit"⟩

def sharedVariable (name : String) : Variable := ⟨d.nextQuery, sharedIdentifier name⟩

def statements : List (Resource × Term) :=
  [(⟨d.nextQuery, hasCountyIdentifier⟩, .literal (.text county)),
   (⟨d.nextQuery, hasStateIdentifier⟩, .literal (.text stateCode)),
   (⟨d.nextQuery, hasCharacteristicIdentifier⟩, .variable (sharedVariable d "element")),
   (⟨d.nextQuery, hasValueIdentifier⟩, .variable (sharedVariable d "value")),
   (⟨d.nextQuery, hasUnitIdentifier⟩, .variable (sharedVariable d "unit"))]

def measuredVariables (query : Query) : Query :=
  (((query.ask (sharedIdentifier "measurement")).ask (sharedIdentifier "element")).ask
    (sharedIdentifier "value")).ask (sharedIdentifier "unit")

def measured (query : Query) : Query :=
  (((((measuredVariables query).meet hasCountyIdentifier).meet hasStateIdentifier).meet
    hasCharacteristicIdentifier).meet hasValueIdentifier).meet hasUnitIdentifier

theorem run_measurementStatements (w : Sheet) :
    (measurementStatements d.nextQuery county stateCode).run (d.attach w) =
      .ok (sharedVariable d "measurement", statements d county stateCode)
        (d.attach (w.revise measured)) := by
  have shared (name : String) (clean : (name.toList.any Identifier.isSeparator) = false) :
      Identifier.ofText? (Vocabulary.queryVariable ++ name) = some (sharedIdentifier name) :=
    Vocabulary.isSpace_queryVariable.ofText?_eq clean
  have polluted (name : String) (clean : (name.toList.any Identifier.isSeparator) = false) :
      Identifier.ofText? (Vocabulary.pollution ++ name) = some ⟨Vocabulary.pollution, name⟩ :=
    Vocabulary.isSpace_pollution.ofText?_eq clean
  have hasUnit : Identifier.ofText? (Vocabulary.unit ++ "hasUnit") = some hasUnitIdentifier :=
    Vocabulary.isSpace_unit.ofText?_eq rfl
  unfold measurementStatements
  refine (run_bind_ok (run_internVariable_attach d _ (shared "measurement" rfl))).trans ?_
  refine (run_bind_ok (run_internVariable_attach d _ (shared "element" rfl))).trans ?_
  refine (run_bind_ok (run_internVariable_attach d _ (shared "value" rfl))).trans ?_
  refine (run_bind_ok (run_internVariable_attach d _ (shared "unit" rfl))).trans ?_
  refine (run_bind_ok (run_internResource_attach d _ (polluted "hasCounty" rfl))).trans ?_
  refine (run_bind_ok (run_internResource_attach d _ (polluted "hasState" rfl))).trans ?_
  refine (run_bind_ok (run_internResource_attach d _ (polluted "hasCharacteristic" rfl))).trans ?_
  refine (run_bind_ok (run_internResource_attach d _ (polluted "hasValue" rfl))).trans ?_
  refine (run_bind_ok (run_internResource_attach d _ hasUnit)).trans ?_
  rw [EStateM.run_pure]
  simp only [Sheet.revise, measured, measuredVariables]
  rfl

def statementElements (serial : Nat) : List Element :=
  (patternsFrom (sharedVariable d "measurement") serial (statements d county stateCode)).map .pattern

def emptySheet (p : Provider) (strict : Bool) : Sheet where
  groups := [⟨.plain, []⟩, ⟨.plain, [.group (d.place 2)]⟩, ⟨.graph p.graph, []⟩]
  query := measured ⟨strict, [], d.place 1, [], [], 0, .construct (d.place 0)⟩
  used := 0

/-- The query for the measurements and its groups. The graph was filled before the template. -/
def dataSheet (p : Provider) (strict : Bool) : Sheet where
  groups :=
    [⟨.plain, statementElements d county stateCode (d.serial + 5)⟩,
     ⟨.plain, [.group (d.place 2)]⟩,
     ⟨.graph p.graph, statementElements d county stateCode d.serial⟩]
  query := (emptySheet d p strict).query
  used := 10

theorem uncomputed_emptySheet (p : Provider) (strict : Bool) :
    (emptySheet d p strict).query.Uncomputed := by
  have start : (⟨strict, [], d.place 1, [], [], 0, .construct (d.place 0)⟩ : Query).Uncomputed :=
    fun _ => rfl
  exact (((start.ask (sharedIdentifier "measurement")).ask (sharedIdentifier "element")).ask
    (sharedIdentifier "value")).ask (sharedIdentifier "unit")

theorem variables_statements :
    ∀ s ∈ statements d county stateCode, ∀ x, s.2 = .variable x → x.query = d.nextQuery := by
  simp [statements, sharedVariable]

end Sheet

theorem run_dataQuery {p : Provider} (named : p.graph.isEmpty = false) (s : Services) {r : Request}
    {county stateCode : String} (accepts : Accepts r county stateCode) (d : Draft) :
    (p.dataQuery s r).run d = .ok (d.announcing "CONSTRUCT").nextQuery
      ((d.announcing "CONSTRUCT").attach
        (dataSheet (d.announcing "CONSTRUCT") county stateCode p s.strict)) := by
  obtain ⟨state, givenState⟩ := accepts.state
  rw [dataQuery, givenState, accepts.region_eq]
  refine (run_bind_ok (run_ofExcept_ok d state)).trans ?_
  refine (run_bind_ok (run_ofExcept_ok d (county, stateCode))).trans ?_
  dsimp only
  refine (run_bind_ok (run_newConstruct_fresh d s.strict)).trans ?_
  generalize d.announcing "CONSTRUCT" = d
  have plain := uncomputed_emptySheet d p s.strict
  have own := variables_statements d county stateCode
  refine (run_bind_ok (run_measurementStatements d _ _ _)).trans ?_
  have graph : (internGraph d.nextQuery p.graph).run (d.attach
      ((Sheet.blank s.strict (d.place 1) (.construct (d.place 0)) 2).revise measured)) =
        .ok (d.place 2) (d.attach (emptySheet d p s.strict)) :=
    run_internGraph_attach d _ (i := 1) rfl rfl named
  refine (run_bind_ok graph).trans ?_
  refine (run_bind_ok (run_template_attach d _ rfl)).trans ?_
  refine (run_bind_ok (run_addStatements d _ ?_ ?_ 2)).trans ?_
  · exact ⟨rfl, plain _⟩
  · exact fun statement member x same => ⟨own statement member x same, plain _⟩
  -- the sheet has grown by now, but its query is still the one that `plain` is about
  refine (run_bind_ok (run_addStatements d _ ?_ ?_ 0)).trans ?_
  · exact ⟨rfl, plain _⟩
  · exact fun statement member x same => ⟨own statement member x same, plain _⟩
  rw [EStateM.run_pure]
  rfl

end Provider

end SparqlCompose
