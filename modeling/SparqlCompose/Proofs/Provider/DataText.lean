import SparqlCompose.Proofs.Literal.Weaving
import SparqlCompose.Proofs.Provider.DataQuery
import SparqlCompose.Proofs.Provider.Exchange

namespace SparqlCompose.Provider

open Draft Literal Text

def ended (lines : List String) : String := String.join (lines.map (· ++ "\n"))

theorem ended_append (lines lines' : List String) :
    ended (lines ++ lines') = ended lines ++ ended lines' := by
  rw [ended, List.map_append, String.join_append]
  rfl

theorem ended_cons (line : String) (lines : List String) :
    ended (line :: lines) = line ++ "\n" ++ ended lines := by
  rw [ended, List.map_cons, String.join_cons]
  rfl

theorem ended_nil : ended [] = "" := rfl

section Written

variable (county stateCode : String)

def statementLead (iri : String) : String := "?measurement" ++ " " ++ ("<" ++ iri ++ ">") ++ " "

/-- The statements about a measurement, as they are written. -/
def statementTexts : List String :=
  [statementLead hasCountyIdentifier.text ++ writeText county ++ " .",
   statementLead hasStateIdentifier.text ++ writeText stateCode ++ " .",
   statementLead hasCharacteristicIdentifier.text ++ "?element" ++ " .",
   statementLead hasValueIdentifier.text ++ "?value" ++ " .",
   statementLead hasUnitIdentifier.text ++ "?unit" ++ " ."]

theorem iriAllowed_eq (iri : String) :
    iriAllowed iri = iri.toList.all fun c => !iriExcluded.contains c :=
  rfl

theorem iriAllowed_append {s t : String} (first : iriAllowed s = true)
    (second : iriAllowed t = true) : iriAllowed (s ++ t) = true := by
  rw [iriAllowed_eq, String.toList_append, List.all_append, Bool.and_eq_true]
  exact ⟨first, second⟩

theorem allowed_predicates :
    iriAllowed hasCountyIdentifier.text = true ∧ iriAllowed hasStateIdentifier.text = true ∧
      iriAllowed hasCharacteristicIdentifier.text = true ∧
      iriAllowed hasValueIdentifier.text = true ∧ iriAllowed hasUnitIdentifier.text = true := by
  have parts : ∀ part ∈ [Vocabulary.pollution, Vocabulary.unit, "hasCounty", "hasState",
      "hasCharacteristic", "hasValue", "hasUnit"], iriAllowed part = true := by decide +kernel
  simp only [List.forall_mem_cons] at parts
  obtain ⟨pollution, unit, hasCounty, hasState, hasCharacteristic, hasValue, hasUnit, -⟩ := parts
  exact ⟨iriAllowed_append pollution hasCounty, iriAllowed_append pollution hasState,
    iriAllowed_append pollution hasCharacteristic, iriAllowed_append pollution hasValue,
    iriAllowed_append unit hasUnit⟩

theorem written_statement (d : Draft) (serial : Nat) {i : Identifier}
    (allowed : iriAllowed i.text = true) {object : Term} {text : String}
    (written : object.written = .ok text) :
    (⟨serial, .variable (sharedVariable d "measurement"), .resource ⟨d.nextQuery, i⟩, object,
      none⟩ : Pattern).written = .ok (statementLead i.text ++ text ++ " .") := by
  have subject : (Term.variable (sharedVariable d "measurement")).written = .ok "?measurement" :=
    rfl
  have predicate : (Term.resource ⟨d.nextQuery, i⟩).written = .ok ("<" ++ i.text ++ ">") :=
    Term.written_resource _ rfl allowed
  exact Pattern.written_eq subject predicate written

theorem elementLines_statements (d d' : Draft) (indent : String) (depth level serial : Nat) :
    List.Forall₂ (fun e part => d'.elementLines indent depth level e = .ok part)
      (statementElements d county stateCode serial)
      ((statementTexts county stateCode).map fun text => [indentation indent level ++ text]) := by
  obtain ⟨hasCounty, hasState, hasCharacteristic, hasValue, hasUnit⟩ := allowed_predicates
  refine .cons (elementLines_pattern (written_statement d _ hasCounty rfl)) ?_
  refine .cons (elementLines_pattern (written_statement d _ hasState rfl)) ?_
  refine .cons (elementLines_pattern (written_statement d _ hasCharacteristic rfl)) ?_
  refine .cons (elementLines_pattern (written_statement d _ hasValue rfl)) ?_
  refine .cons (elementLines_pattern (written_statement d _ hasUnit rfl)) ?_
  exact .nil

def templateLines : List String :=
  "CONSTRUCT \x7b" :: (statementTexts county stateCode).map (indentation standardIndent 1 ++ ·) ++
    ["\x7d"]

def graphLines (graph : String) : List String :=
  (indentation standardIndent 1 ++ opening (.graph graph)) ::
    (statementTexts county stateCode).map (indentation standardIndent 2 ++ ·) ++
    [indentation standardIndent 1 ++ "\x7d"]

def dataLines (graph : String) : List String :=
  templateLines county stateCode ++ "WHERE \x7b" :: graphLines county stateCode graph ++ ["\x7d"]

theorem lines_statements (d : Draft) {d' : Draft} {indent : String} {depth level serial : Nat}
    {g : GroupId} {kind : GroupKind}
    (is : d'.group g = ⟨kind, statementElements d county stateCode serial⟩) :
    d'.lines indent (depth + 1) level g =
      .ok ((statementTexts county stateCode).map (indentation indent level ++ ·)) := by
  rw [List.map_eq_flatMap, List.flatMap_def]
  apply lines_eq_ok
  rw [is]
  exact elementLines_statements county stateCode d d' indent depth level serial

theorem sparql_dataSheet (d : Draft) (p : Provider) (strict : Bool) :
    (d.attach (dataSheet d county stateCode p strict)).sparql standardIndent d.nextQuery =
      .ok (ended (dataLines county stateCode p.graph)) := by
  have query := query_attach d (dataSheet d county stateCode p strict)
  have made : (d.attach (dataSheet d county stateCode p strict)).group (d.place 0) =
      ⟨.plain, statementElements d county stateCode (d.serial + 5)⟩ := group_attach _ _ 0
  have outer : (d.attach (dataSheet d county stateCode p strict)).group (d.place 1) =
      ⟨.plain, [.group (d.place 2)]⟩ := group_attach _ _ 1
  have measurements : (d.attach (dataSheet d county stateCode p strict)).group (d.place 2) =
      ⟨.graph p.graph, statementElements d county stateCode d.serial⟩ := group_attach _ _ 2
  have depth : (d.attach (dataSheet d county stateCode p strict)).depth = d.groups.size + 2 + 1 :=
    depth_attach _ _
  generalize d.attach (dataSheet d county stateCode p strict) = d' at *
  have head : d'.headLines standardIndent (dataSheet d county stateCode p strict).query =
      .ok (templateLines county stateCode) := by
    have form : (dataSheet d county stateCode p strict).query.form = .construct (d.place 0) := rfl
    rw [headLines, form, depth]
    dsimp only
    rw [lines_statements county stateCode d made]
    rfl
  have body : d'.lines standardIndent d'.depth 1 (d.place 1) =
      .ok (graphLines county stateCode p.graph) := by
    rw [depth]
    refine lines_eq_ok [graphLines county stateCode p.graph] ?_
    rw [outer]
    exact .cons (elementLines_group (congrArg Group.kind measurements)
      (lines_statements county stateCode d measurements)) .nil
  have unprefixed : namespaceLines (dataSheet d county stateCode p strict).query = [] := rfl
  rw [sparql_eq_ok query head body rfl, unprefixed, List.nil_append, ended, dataLines]

def beforeCounty (pad : String) : String := pad ++ statementLead hasCountyIdentifier.text

def betweenValues (pad : String) : String :=
  " ." ++ "\n" ++ pad ++ statementLead hasStateIdentifier.text

def behindValues (pad : String) : String :=
  " ." ++ "\n" ++
    (pad ++ statementLead hasCharacteristicIdentifier.text ++ "?element" ++ " ." ++ "\n") ++
    (pad ++ statementLead hasValueIdentifier.text ++ "?value" ++ " ." ++ "\n") ++
    (pad ++ statementLead hasUnitIdentifier.text ++ "?unit" ++ " ." ++ "\n")

theorem ended_statements (pad : String) :
    ended ((statementTexts county stateCode).map (pad ++ ·)) =
      beforeCounty pad ++ writeText county ++ betweenValues pad ++ writeText stateCode ++
        behindValues pad := by
  simp only [statementTexts, beforeCounty, betweenValues, behindValues, List.map_cons,
    List.map_nil, ended_cons, ended_nil, String.append_empty, String.append_assoc]

def opened : String :=
  "CONSTRUCT \x7b" ++ "\n" ++ beforeCounty (indentation standardIndent 1)

def inGraph (graph : String) : String :=
  behindValues (indentation standardIndent 1) ++ "\x7d" ++ "\n" ++ "WHERE \x7b" ++ "\n" ++
    indentation standardIndent 1 ++ opening (.graph graph) ++ "\n" ++
    beforeCounty (indentation standardIndent 2)

def closed : String :=
  behindValues (indentation standardIndent 2) ++ indentation standardIndent 1 ++ "\x7d" ++ "\n" ++
    "\x7d" ++ "\n"

def dataParts (graph : String) : List (List Char × List Char) :=
  [(opened.toList, county.toList),
   ((betweenValues (indentation standardIndent 1)).toList, stateCode.toList),
   ((inGraph graph).toList, county.toList),
   ((betweenValues (indentation standardIndent 2)).toList, stateCode.toList)]

theorem toList_dataLines (graph : String) :
    (ended (dataLines county stateCode graph)).toList =
      weave (dataParts county stateCode graph) closed.toList := by
  have joined : ended (dataLines county stateCode graph) =
      "CONSTRUCT \x7b" ++ "\n" ++ ended ((statementTexts county stateCode).map
        (indentation standardIndent 1 ++ ·)) ++ "\x7d" ++ "\n" ++ "WHERE \x7b" ++ "\n" ++
      indentation standardIndent 1 ++ opening (.graph graph) ++ "\n" ++
      ended ((statementTexts county stateCode).map (indentation standardIndent 2 ++ ·)) ++
      indentation standardIndent 1 ++ "\x7d" ++ "\n" ++ "\x7d" ++ "\n" := by
    simp only [dataLines, templateLines, graphLines, List.cons_append,
      ended_append, ended_cons, ended_nil, String.append_empty, String.append_assoc]
  rw [joined, ended_statements, ended_statements]
  simp only [dataParts, opened, inGraph, closed, weave, writeText, List.flatMap_cons,
    List.flatMap_nil, String.toList_append, String.toList_ofList, List.append_assoc, List.append_nil]

end Written

section Fixed

theorem clean_of_iriAllowed {iri : String} (allowed : iriAllowed iri = true) : Clean iri := by
  have each := List.all_eq_true.mp allowed
  have quote : iriExcluded.contains doubleQuote = true := rfl
  have slash : iriExcluded.contains backslash = true := rfl
  constructor
  · intro member
    have kept := each doubleQuote member
    rw [quote] at kept
    cases kept
  · intro member
    have kept := each backslash member
    rw [slash] at kept
    cases kept

theorem clean_words : Clean "CONSTRUCT \x7b" ∧ Clean "WHERE \x7b" ∧ Clean "GRAPH <" ∧
    Clean "> \x7b" ∧ Clean "\x7d" ∧ Clean "\n" ∧ Clean " " ∧ Clean " ." ∧ Clean "<" ∧ Clean ">" ∧
    Clean "?measurement" ∧ Clean "?element" ∧ Clean "?value" ∧ Clean "?unit" ∧
    Clean standardIndent := by
  decide +kernel

theorem clean_statementLead {iri : String} (allowed : iriAllowed iri = true) :
    Clean (statementLead iri) := by
  have clean := clean_of_iriAllowed allowed
  simp only [statementLead, clean_append, clean, clean_words, and_self]

theorem clean_beforeCounty {pad : String} (clean : Clean pad) : Clean (beforeCounty pad) := by
  simp only [beforeCounty, clean_append, clean, clean_statementLead allowed_predicates.1, and_self]

theorem clean_betweenValues {pad : String} (clean : Clean pad) : Clean (betweenValues pad) := by
  simp only [betweenValues, clean_append, clean, clean_words,
    clean_statementLead allowed_predicates.2.1, and_self]

theorem clean_behindValues {pad : String} (clean : Clean pad) : Clean (behindValues pad) := by
  obtain ⟨-, -, hasCharacteristic, hasValue, hasUnit⟩ := allowed_predicates
  simp only [behindValues, clean_append, clean, clean_words, clean_statementLead hasCharacteristic,
    clean_statementLead hasValue, clean_statementLead hasUnit, and_self]

theorem clean_indentation (n : Nat) : Clean (indentation standardIndent n) := by
  rw [indentation, clean_join]
  intro pad member
  rw [List.eq_of_mem_replicate member]
  simp only [clean_words]

theorem fixed_opened : Fixed opened.toList := by
  apply Clean.fixed
  · simp only [opened, clean_append, clean_words, clean_beforeCounty (clean_indentation 1), and_self]
  · simp [opened]

theorem fixed_betweenValues (n : Nat) :
    Fixed (betweenValues (indentation standardIndent n)).toList := by
  apply (clean_betweenValues (clean_indentation n)).fixed
  simp [betweenValues]

theorem fixed_inGraph {graph : String} (clean : Clean graph) : Fixed (inGraph graph).toList := by
  apply Clean.fixed
  · simp only [inGraph, opening, clean_append, clean, clean_words, clean_indentation 1,
      clean_behindValues (clean_indentation 1), clean_beforeCounty (clean_indentation 2), and_self]
  · simp [inGraph, behindValues]

theorem fixed_closed : Fixed closed.toList := by
  apply Clean.fixed
  · simp only [closed, clean_append, clean_words, clean_indentation 1,
      clean_behindValues (clean_indentation 2), and_self]
  · simp [closed]

theorem fixed_dataParts {graph : String} (clean : Clean graph) (county stateCode : String) :
    ∀ part ∈ dataParts county stateCode graph, Fixed part.1 := by
  simp only [dataParts, List.forall_mem_cons]
  exact ⟨fixed_opened, fixed_betweenValues 1, fixed_inGraph clean, fixed_betweenValues 2, nofun⟩

end Fixed

theorem clean_graph {p : Provider} (known : p = water ∨ p = air) :
    p.graph.isEmpty = false ∧ Clean p.graph := by
  have graphs : ∀ graph ∈ [Vocabulary.waterMeasurements, Vocabulary.airMeasurements],
      graph.isEmpty = false ∧ Clean graph := by decide +kernel
  rcases known with rfl | rfl
  · exact graphs _ (.head _)
  · exact graphs _ (.tail _ (.head _))

theorem exists_dataQuery {p : Provider} (known : p = water ∨ p = air) (s : Services) {r : Request}
    {county stateCode : String} (accepts : Accepts r county stateCode) (d : Draft) :
    ∃ q d' text, (p.dataQuery s r).run d = .ok q d' ∧ d'.sparql standardIndent q = .ok text ∧
      text.toList = weave (dataParts county stateCode p.graph) closed.toList :=
  ⟨_, _, _, run_dataQuery (clean_graph known).1 s accepts d,
    sparql_dataSheet county stateCode _ p s.strict, toList_dataLines county stateCode p.graph⟩

/-- Whatever the county and the state code are, the text of the query is fixed around them, and they
are read back from it, in the template and in the graph, unless one of them spills; then nothing can
be read. -/
theorem read_dataQuery {p : Provider} (known : p = water ∨ p = air) :
    ∃ w₀ w₁ w₂ w₃ last : List Char, ∀ (s : Services) (r : Request) (d : Draft)
        {county stateCode : String}, Accepts r county stateCode →
      ∃ q d' text, (p.dataQuery s r).run d = .ok q d' ∧
        d'.sparql standardIndent q = .ok text ∧
        (¬ Spills county.toList → ¬ Spills stateCode.toList →
          Lexeme.read text.toList = some (woven
            [(w₀, county.toList), (w₁, stateCode.toList), (w₂, county.toList),
             (w₃, stateCode.toList)] last)) ∧
        (Spills county.toList ∨ Spills stateCode.toList → Lexeme.read text.toList = none) := by
  refine ⟨opened.toList, (betweenValues (indentation standardIndent 1)).toList,
    (inGraph p.graph).toList, (betweenValues (indentation standardIndent 2)).toList,
    closed.toList, fun s r d county stateCode accepts => ?_⟩
  have fixed := fixed_dataParts (clean_graph known).2 county stateCode
  obtain ⟨q, d', text, composed, written, is⟩ := exists_dataQuery known s accepts d
  refine ⟨q, d', text, composed, written, ?_, ?_⟩
  · intro kept kept'
    rw [is]
    apply read_weave fixed fixed_closed
    simp [dataParts, kept, kept']
  · intro spills
    rw [is]
    apply read_weave_of_spills fixed fixed_closed
    rcases spills with spills | spills
    · exact ⟨_, .head _, spills⟩
    · exact ⟨_, .tail _ (.head _), spills⟩

def countyRequest (county : String) : Request :=
  ⟨"r", [("state", .text "CO"), ("county", .text county), ("stateCode", .text "08")]⟩

theorem accepts_countyRequest {county : String} (some : Text.isAllBlank county = false) :
    Accepts (countyRequest county) county "08" := by
  have given : (countyRequest county).require "county" countyRemark = .ok (.text county) := by
    show (if (RawText.ofString county).isAllBlank then _ else _) = _
    rw [RawText.isAllBlank_ofString, some]
    rfl
  exact ⟨⟨_, rfl⟩, ⟨_, given, rfl⟩, ⟨_, rfl, rfl⟩⟩

def quotedCounty : String := "\"\"\"\n\r\x7d\\"

theorem read_dataQuery_quoted :
    Accepts (countyRequest quotedCounty) quotedCounty "08" ∧
      ∃ w₀ w₁ w₂ w₃ last q d' text,
        (water.dataQuery standardServices (countyRequest quotedCounty)).run .empty = .ok q d' ∧
        d'.sparql standardIndent q = .ok text ∧
        Lexeme.read text.toList = some (woven
          [(w₀, quotedCounty.toList), (w₁, "08".toList), (w₂, quotedCounty.toList),
           (w₃, "08".toList)] last) := by
  have accepts : Accepts (countyRequest quotedCounty) quotedCounty "08" :=
    accepts_countyRequest rfl
  obtain ⟨w₀, w₁, w₂, w₃, last, reads⟩ := read_dataQuery (p := water) (.inl rfl)
  obtain ⟨q, d', text, composed, written, read, -⟩ := reads standardServices _ .empty accepts
  exact ⟨accepts, w₀, w₁, w₂, w₃, last, q, d', text, composed, written,
    read (by decide) (by decide)⟩

def spillingCounty : String := "\n\\\""

theorem dataQuery_spilled :
    Accepts (countyRequest spillingCounty) spillingCounty "08" ∧
      ∃ q d' text,
        (water.dataQuery standardServices (countyRequest spillingCounty)).run .empty = .ok q d' ∧
        d'.sparql standardIndent q = .ok text ∧ Lexeme.read text.toList = none := by
  have accepts : Accepts (countyRequest spillingCounty) spillingCounty "08" :=
    accepts_countyRequest rfl
  obtain ⟨q, d', text, composed, written, is⟩ :=
    exists_dataQuery (p := water) (.inl rfl) standardServices accepts .empty
  refine ⟨accepts, q, d', text, composed, written, ?_⟩
  rw [is]
  apply read_weave_of_spills (fixed_dataParts (clean_graph (.inl rfl)).2 _ _) fixed_closed
  exact ⟨_, .head _, by decide⟩

end SparqlCompose.Provider
