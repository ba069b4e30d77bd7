import SparqlCompose.Proofs.Draft.Projection
import SparqlCompose.Proofs.Provider.DataText
import SparqlCompose.Proofs.Provider.SiteFlag

namespace SparqlCompose

namespace Request

def HalvesRegion (r : Request) : Prop :=
  (r.Gives "county" ∨ r.Gives "stateCode") ∧ (r.Lacks "county" ∨ r.Lacks "stateCode")

theorem halvesRegion_congr {r r' : Request}
    (same : ∀ name, r.parameter? name = r'.parameter? name) :
    r.HalvesRegion ↔ r'.HalvesRegion := by
  simp only [HalvesRegion, Gives, Lacks, same]

/-- The county and the state code that sites are to be in, as text: either both are given or
neither. -/
inductive Locates (r : Request) : Option (String × String) → Prop
  | nowhere (county : ¬ r.Gives "county") (stateCode : ¬ r.Gives "stateCode") : Locates r none
  | region {v w : Value} {county stateCode : String} (isCounty : r.parameter? "county" = some v)
      (isStateCode : r.parameter? "stateCode" = some w) (someCounty : ¬ r.Lacks "county")
      (someStateCode : ¬ r.Lacks "stateCode") (showsCounty : v.display = county)
      (showsStateCode : w.display = stateCode) : Locates r (some (county, stateCode))

theorem exists_locates {r : Request} (printed : ∀ name ∈ ["county", "stateCode"], r.Prints name)
    (whole : ¬ r.HalvesRegion) : ∃ region, r.Locates region := by
  by_cases given : r.Gives "county" ∨ r.Gives "stateCode"
  · obtain ⟨someCounty, someStateCode⟩ := not_or.mp fun lacks => whole ⟨given, lacks⟩
    obtain ⟨county, isCounty, -⟩ := exists_require someCounty
    obtain ⟨stateCode, isStateCode, -⟩ := exists_require someStateCode
    obtain ⟨county, showsCounty⟩ := printed _ (.head _) _ isCounty
    obtain ⟨code, showsCode⟩ := printed _ (.tail _ (.head _)) _ isStateCode
    exact ⟨_, .region isCounty isStateCode someCounty someStateCode showsCounty showsCode⟩
  · exact ⟨none, .nowhere (mt .inl given) (mt .inr given)⟩

theorem Locates.isSome_iff {r : Request} {region : Option (String × String)}
    (locates : r.Locates region) :
    region.isSome = true ↔ r.Gives "county" ∧ r.Gives "stateCode" := by
  cases locates with
  | nowhere county stateCode => simp [county]
  | region _ _ someCounty someStateCode =>
    simp [gives_of_not_lacks someCounty, gives_of_not_lacks someStateCode]

end Request

namespace Provider

open Edit Draft Literal

theorem isGiven_iff (r : Request) (name : String) : isGiven r name = true ↔ r.Gives name := by
  unfold isGiven Request.Gives
  cases r.parameter? name with
  | none => simp
  | some v => cases v <;> simp

def classIdentifier : Identifier := sharedIdentifier "type"

def countIdentifier : Identifier := sharedIdentifier "count"

theorem ofText?_class :
    Identifier.ofText? (Vocabulary.queryVariable ++ "type") = some classIdentifier :=
  Vocabulary.isSpace_queryVariable.ofText?_eq rfl

theorem ofText?_hasCounty :
    Identifier.ofText? (Vocabulary.pollution ++ "hasCounty") = some hasCountyIdentifier :=
  Vocabulary.isSpace_pollution.ofText?_eq rfl

theorem ofText?_hasState :
    Identifier.ofText? (Vocabulary.pollution ++ "hasState") = some hasStateIdentifier :=
  Vocabulary.isSpace_pollution.ofText?_eq rfl

def counted : String := "COUNT(DISTINCT ?site)"

theorem ofText?_counted :
    Computed.ofText? ("COUNT(DISTINCT ?" ++ Vocabulary.site ++ ") as ?count") =
      some ⟨counted, "count"⟩ := by
  decide +kernel

def regionLines : Option (String × String) → List String
  | none => []
  | some (county, stateCode) =>
    ["  ?site <" ++ hasCountyIdentifier.text ++ "> " ++ writeText county ++ " .",
     "  ?site <" ++ hasStateIdentifier.text ++ "> " ++ writeText stateCode ++ " ."]

def countLines (region : Option (String × String)) : List String :=
  ["SELECT ?type (COUNT(DISTINCT ?site) AS ?count)",
   "WHERE \x7b",
   "  ?site <http://www.w3.org/1999/02/22-rdf-syntax-ns#type> ?type ."] ++ regionLines region ++
    ["\x7d", "GROUP BY ?type"]

section Sheet

variable (d : Draft)

def siteVariable : Variable := ⟨d.nextQuery, siteIdentifier⟩

def classVariable : Variable := ⟨d.nextQuery, classIdentifier⟩

def countVariable : Variable := ⟨d.nextQuery, countIdentifier⟩

def classStatements : List (Resource × Term) :=
  [(⟨d.nextQuery, typeIdentifier⟩, .variable (classVariable d))]

def countyStatements (county : String) : List (Resource × Term) :=
  [(⟨d.nextQuery, hasCountyIdentifier⟩, .literal (.text county))]

def stateStatements (stateCode : String) : List (Resource × Term) :=
  [(⟨d.nextQuery, hasStateIdentifier⟩, .literal (.text stateCode))]

def countTerms (query : Query) : Query :=
  (((query.ask siteIdentifier).ask classIdentifier).meet typeIdentifier).express countIdentifier
    counted

def plainCountQuery (strict : Bool) : Query :=
  ((countTerms ⟨strict, [], d.place 0, [], [], 0, .select false [] []⟩).reform
    (·.withProjection (keepFirst [classVariable d, countVariable d]))).reform
    (·.groupedBy (.variable (classVariable d)))

def siteStatements : Option (String × String) → List (Resource × Term)
  | none => classStatements d
  | some (county, stateCode) =>
    classStatements d ++ countyStatements d county ++ stateStatements d stateCode

def countSheet (region : Option (String × String)) (strict : Bool) : Sheet where
  groups :=
    [⟨.plain, (patternsFrom (siteVariable d) d.serial (siteStatements d region)).map .pattern⟩]
  query :=
    match region with
    | none => plainCountQuery d strict
    | some _ => ((plainCountQuery d strict).meet hasCountyIdentifier).meet hasStateIdentifier
  used := (siteStatements d region).length

theorem plain_plainCountQuery (strict : Bool) :
    ∀ i ∈ [siteIdentifier, classIdentifier],
      (Entries.get? i (plainCountQuery d strict).asked).join = none := by
  have known : ∀ i ∈ [siteIdentifier, classIdentifier], (Entries.get? i
      (countTerms ⟨false, [], ⟨0⟩, [], [], 0, .formless⟩).asked).join = none := by
    decide +kernel
  exact known

theorem leaves_site (groups : List Group) (used : Nat) (strict : Bool) :
    d.Leaves ⟨groups, plainCountQuery d strict, used⟩ (siteVariable d) :=
  ⟨rfl, plain_plainCountQuery d strict _ (.head _)⟩

theorem leaves_class (groups : List Group) (used : Nat) (strict : Bool) :
    d.Leaves ⟨groups, plainCountQuery d strict, used⟩ (classVariable d) :=
  ⟨rfl, plain_plainCountQuery d strict _ (.tail _ (.head _))⟩

end Sheet

theorem run_countQuery_start (s : Services) (r : Request) (d : Draft) :
    (countQuery s r).run d = (do
      if isGiven r "county" || isGiven r "stateCode" then
        addRegion (d.announcing "SELECT").nextQuery ((d.announcing "SELECT").place 0)
          (siteVariable (d.announcing "SELECT")) r
      else pure ()
      return (d.announcing "SELECT").nextQuery : Edit QueryId).run
        ((d.announcing "SELECT").attach (countSheet (d.announcing "SELECT") none s.strict)) := by
  refine (run_bind_ok (run_newSelect_fresh d s.strict)).trans ?_
  generalize d.announcing "SELECT" = d
  refine (run_bind_ok (run_internVariable_attach d _ ofText?_site)).trans ?_
  refine (run_bind_ok (run_internVariable_attach d _ ofText?_class)).trans ?_
  refine (run_bind_ok (run_internResource_attach d _ ofText?_type)).trans ?_
  refine (run_bind_ok (run_expression_attach d _ ?_ ofText?_counted ?_)).trans ?_
  · trivial
  · have unknown : Entries.get? countIdentifier
        ((((⟨false, [], ⟨0⟩, [], [], 0, .formless⟩ : Query).ask siteIdentifier).ask
          classIdentifier).meet typeIdentifier).asked = none := by
      decide +kernel
    exact unknown
  refine (run_bind_ok (run_project_attach d _ ?_ [classVariable d, countVariable d])).trans ?_
  · trivial
  refine (run_bind_ok (run_groupBy_attach d _ ?_ _)).trans ?_
  · trivial
  refine (run_bind_ok (EStateM.run_get _)).trans ?_
  rw [query_attach]
  refine (run_bind_ok (run_addStatements d _ ?_ ?_ 0)).trans ?_
  · exact leaves_site d _ _ _
  · rintro statement (_ | ⟨_, ⟨⟩⟩) x ⟨⟩
    exact leaves_class d _ _ _
  rfl

theorem run_addRegion (d : Draft) (strict : Bool) {r : Request} {county stateCode : String}
    (given : region r = .ok (county, stateCode)) :
    (addRegion d.nextQuery (d.place 0) (siteVariable d) r).run (d.attach (countSheet d none strict)) =
      .ok () (d.attach (countSheet d (some (county, stateCode)) strict)) := by
  rw [addRegion, given]
  refine (run_bind_ok (run_ofExcept_ok _ (county, stateCode))).trans ?_
  dsimp only
  refine (run_bind_ok (run_internResource_attach d _ ofText?_hasCounty)).trans ?_
  refine (run_bind_ok (run_addStatements d _ ?_ ?_ 0)).trans ?_
  · exact ⟨rfl, (leaves_site d [] 0 strict).plain⟩
  · rintro statement (_ | ⟨_, ⟨⟩⟩) x ⟨⟩
  refine (run_bind_ok (run_internResource_attach d _ ofText?_hasState)).trans ?_
  refine (run_addStatements d _ ?_ ?_ 0).trans ?_
  · exact ⟨rfl, (leaves_site d [] 0 strict).plain⟩
  · rintro statement (_ | ⟨_, ⟨⟩⟩) x ⟨⟩
  rfl

def regionParameters : List (String × String) :=
  [("county", countyRemark), ("stateCode", stateCodeRemark)]

theorem demands_region (r : Request) : r.Demands regionParameters (region r) :=
  Request.demands_cons fun _ => Request.demands_cons fun _ => Request.demands_nil _

theorem run_countQuery (s : Services) {r : Request} {region : Option (String × String)}
    (locates : r.Locates region) (d : Draft) :
    (countQuery s r).run d = .ok (d.announcing "SELECT").nextQuery
      ((d.announcing "SELECT").attach (countSheet (d.announcing "SELECT") region s.strict)) := by
  rw [run_countQuery_start]
  cases locates with
  | nowhere county stateCode =>
    have none : (isGiven r "county" || isGiven r "stateCode") = false := by
      simp [Bool.eq_false_iff, isGiven_iff, county, stateCode]
    rw [none]
    rfl
  | region isCounty isStateCode someCounty someStateCode showsCounty showsCode =>
    have given : isGiven r "county" = true :=
      (isGiven_iff r _).mpr (Request.gives_of_not_lacks someCounty)
    obtain ⟨county, same, givenCounty⟩ := Request.exists_require someCounty
    obtain rfl := Option.some.inj (isCounty.symm.trans same)
    obtain ⟨stateCode, same, givenStateCode⟩ := Request.exists_require someStateCode
    obtain rfl := Option.some.inj (isStateCode.symm.trans same)
    rw [given]
    exact run_bind_ok (run_addRegion _ s.strict
      (region_eq_ok (givenCounty _) showsCounty (givenStateCode _) showsCode))

theorem run_countQuery_refused (s : Services) {r : Request} (half : r.HalvesRegion) (d : Draft) :
    ∃ d', ∃ parameter ∈ regionParameters, r.Lacks parameter.1 ∧
      (countQuery s r).run d = .error (.parameter parameter.1 parameter.2) d' := by
  obtain ⟨gives, lacks⟩ := half
  have given : (isGiven r "county" || isGiven r "stateCode") = true := by
    rw [Bool.or_eq_true, isGiven_iff, isGiven_iff]
    exact gives
  have lacking : ∃ parameter ∈ regionParameters, r.Lacks parameter.1 := by
    rcases lacks with county | stateCode
    · exact ⟨_, .head _, county⟩
    · exact ⟨_, .tail _ (.head _), stateCode⟩
  obtain ⟨parameter, listed, lacks, refused⟩ := demands_region r lacking
  rw [run_countQuery_start, given, if_pos rfl, EStateM.run_bind, addRegion, refused]
  exact ⟨_, parameter, listed, lacks, rfl⟩

theorem region_eq_error {r : Request} (texts : r.Textual) (someCounty : ¬ r.Lacks "county")
    (someStateCode : ¬ r.Lacks "stateCode")
    (garbled : ¬ ∀ name ∈ ["county", "stateCode"], r.Prints name) :
    region r = .error .unencodable := by
  obtain ⟨v, isCounty, givenCounty⟩ := Request.exists_require someCounty
  obtain ⟨w, isStateCode, givenStateCode⟩ := Request.exists_require someStateCode
  obtain ⟨county, rfl⟩ := texts.exists_text isCounty
  obtain ⟨stateCode, rfl⟩ := texts.exists_text isStateCode
  rw [region, bind_of_eq_ok (givenCounty _), bind_of_eq_ok (givenStateCode _)]
  change (do return (← county.plain, ← stateCode.plain) : Except Failure (String × String)) = _
  rcases county.plain_cases with ⟨s, rfl, plain⟩ | ⟨-, failed⟩
  case inr =>
    rw [failed]
    rfl
  rw [bind_of_eq_ok plain]
  rcases stateCode.plain_cases with ⟨t, rfl, -⟩ | ⟨-, failed⟩
  case inr =>
    rw [failed]
    rfl
  refine absurd ?_ garbled
  rintro name (_ | ⟨_, _ | ⟨_, ⟨⟩⟩⟩) v found
  · cases isCounty.symm.trans found
    exact ⟨s, rfl⟩
  · cases isStateCode.symm.trans found
    exact ⟨t, rfl⟩

theorem run_countQuery_garbled (s : Services) {r : Request} (texts : r.Textual)
    (whole : ¬ r.HalvesRegion) (garbled : ¬ ∀ name ∈ ["county", "stateCode"], r.Prints name)
    (d : Draft) : ∃ d', (countQuery s r).run d = .error .unencodable d' := by
  have given : r.Gives "county" ∨ r.Gives "stateCode" := by
    by_contra nowhere
    obtain ⟨county, stateCode⟩ := not_or.mp nowhere
    have silent {name : String} (absent : ¬ r.Gives name) : r.Prints name := by
      intro v found
      obtain rfl : v = .null := not_not.mp fun other => absent ⟨v, found, other⟩
      exact ⟨"None", rfl⟩
    refine garbled ?_
    rintro name (_ | ⟨_, _ | ⟨_, ⟨⟩⟩⟩)
    · exact silent county
    · exact silent stateCode
  obtain ⟨someCounty, someStateCode⟩ := not_or.mp fun lacks => whole ⟨given, lacks⟩
  have asked : (isGiven r "county" || isGiven r "stateCode") = true := by
    rw [Bool.or_eq_true, isGiven_iff, isGiven_iff]
    exact given
  rw [run_countQuery_start, asked, if_pos rfl, EStateM.run_bind, addRegion,
    region_eq_error texts someCounty someStateCode garbled]
  exact ⟨_, rfl⟩

section Written

variable (d : Draft)

theorem written_site {serial : Nat} {i : Identifier} (allowed : iriAllowed i.text = true)
    {object : Term} {text : String} (written : object.written = .ok text) :
    (⟨serial, .variable (siteVariable d), .resource ⟨d.nextQuery, i⟩, object, none⟩ :
      Pattern).written = .ok ("?site" ++ " " ++ ("<" ++ i.text ++ ">") ++ " " ++ text ++ " .") := by
  have subject : (Term.variable (siteVariable d)).written = .ok "?site" := rfl
  have predicate : (Term.resource ⟨d.nextQuery, i⟩).written = .ok ("<" ++ i.text ++ ">") :=
    Term.written_resource _ rfl allowed
  exact Pattern.written_eq subject predicate written

theorem headLines_countSheet (region : Option (String × String)) (strict : Bool) :
    (d.attach (countSheet d region strict)).headLines standardIndent
      (countSheet d region strict).query =
        .ok ["SELECT ?type (COUNT(DISTINCT ?site) AS ?count)"] := by
  have asked : (countSheet d region strict).query.asked = (plainCountQuery d strict).asked := by
    cases region <;> rfl
  have form : (countSheet d region strict).query.form =
      .select false (keepFirst [classVariable d, countVariable d]) [.variable (classVariable d)] := by
    cases region <;> rfl
  have distinct : (identifiers [classVariable d, countVariable d]).Nodup := by
    show [classIdentifier, countIdentifier].Nodup
    decide +kernel
  have leaves : d.Leaves (countSheet d region strict) (classVariable d) := by
    refine ⟨rfl, ?_⟩
    rw [asked]
    exact (leaves_class d [] 0 strict).plain
  have computed : (d.attach (countSheet d region strict)).projected (countVariable d) =
      "(COUNT(DISTINCT ?site) AS ?count)" := by
    have known : Entries.get? countIdentifier
        (countTerms ⟨false, [], ⟨0⟩, [], [], 0, .formless⟩).asked = some (some counted) := by
      decide +kernel
    have is : (d.attach (countSheet d region strict)).expression? (countVariable d) =
        some counted := by
      have own : (countVariable d).query = d.nextQuery := rfl
      rw [expression?, own, query_attach, asked]
      exact congrArg Option.join known
    rw [projected, is]
    rfl
  rw [headLines, form, keepFirst_of_nodup distinct]
  dsimp only
  rw [selectLine, List.map_cons, List.map_cons, List.map_nil, projected_attach leaves, computed]
  rfl

theorem elementLines_countSheet (d' : Draft) (depth : Nat) (region : Option (String × String)) :
    ∃ parts, List.Forall₂ (fun e part => d'.elementLines standardIndent depth 1 e = .ok part)
        ((patternsFrom (siteVariable d) d.serial (siteStatements d region)).map .pattern) parts ∧
      parts.flatten =
        "  ?site <http://www.w3.org/1999/02/22-rdf-syntax-ns#type> ?type ." ::
          regionLines region := by
  obtain ⟨county, state, -⟩ := allowed_predicates
  have type : iriAllowed typeIdentifier.text = true := by decide +kernel
  have first : d'.elementLines standardIndent depth 1 (.pattern ⟨d.serial, .variable (siteVariable d),
      .resource ⟨d.nextQuery, typeIdentifier⟩, .variable (classVariable d), none⟩) =
        .ok ["  ?site <http://www.w3.org/1999/02/22-rdf-syntax-ns#type> ?type ."] :=
    (elementLines_pattern (written_site d type rfl)).trans rfl
  cases region with
  | none => exact ⟨_, .cons first .nil, rfl⟩
  | some region =>
    exact ⟨_, .cons first (.cons (elementLines_pattern (written_site d county rfl))
      (.cons (elementLines_pattern (written_site d state rfl)) .nil)), rfl⟩

theorem sparql_countSheet (region : Option (String × String)) (strict : Bool) :
    (d.attach (countSheet d region strict)).sparql standardIndent d.nextQuery =
      .ok (ended (countLines region)) := by
  have body : (countSheet d region strict).query.body = d.place 0 := by cases region <;> rfl
  have tail : tailLines (countSheet d region strict).query = .ok ["GROUP BY ?type"] := by
    cases region <;> rfl
  have unprefixed : namespaceLines (countSheet d region strict).query = [] := by
    cases region <;> rfl
  have elements : ((d.attach (countSheet d region strict)).group (d.place 0)).elements =
      (patternsFrom (siteVariable d) d.serial (siteStatements d region)).map .pattern :=
    congrArg Group.elements (group_attach _ _ 0)
  have depth : (d.attach (countSheet d region strict)).depth = d.groups.size + 1 := depth_attach _ _
  obtain ⟨parts, each, joined⟩ := elementLines_countSheet d
    (d.attach (countSheet d region strict)) d.groups.size region
  have inside : (d.attach (countSheet d region strict)).lines standardIndent
      (d.attach (countSheet d region strict)).depth 1 (countSheet d region strict).query.body =
        .ok parts.flatten := by
    rw [depth, body]
    apply lines_eq_ok
    rw [elements]
    exact each
  rw [sparql_eq_ok (query_attach _ _) (headLines_countSheet d region strict) inside tail,
    unprefixed, joined, ended, countLines]
  simp only [List.nil_append, List.cons_append]

end Written

end Provider

end SparqlCompose
