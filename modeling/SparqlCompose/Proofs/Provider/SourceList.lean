import SparqlCompose.Proofs.Provider.SourceQuery
import SparqlCompose.Proofs.Provider.Tables

namespace SparqlCompose

open Value Vocabulary

/-- The segment is what follows the last slash of the text, or the whole text if it has none. -/
def IsLastSegment (segment ps : List Point) : Prop :=
  .char '/' ∉ segment ∧ (ps = segment ∨ ∃ before, ps = before ++ .char '/' :: segment)

def labelled (segment : List Point) : RawText :=
  ⟨segment.map fun p => if p = .char '-' then .char '.' else p⟩

theorem exists_lastSegment (uri : RawText) :
    ∃ segment, IsLastSegment segment uri.points ∧ deriveLabel uri = labelled segment := by
  refine ⟨_, ⟨?_, ?_⟩, rfl⟩
  · intro slash
    have clean := Identifier.splitAfterLast_clean _ slash
    cases clean
  · have whole := Identifier.splitAfterLast_append (· == Point.char '/') uri.points
    rcases Identifier.splitAfterLast_front (· == Point.char '/') uri.points with
      none | ⟨before, sep, is, some⟩
    · rw [none] at whole
      exact .inl whole.symm
    · rw [some, eq_of_beq is] at whole
      refine .inr ⟨before, whole.symm.trans ?_⟩
      simp

/-- The source of a row: its address is what the row says, and so is its label; where the row has
no label, the address gives one. -/
structure Source.Describes (source : Source) (members : List (RawText × Value)) : Prop where
  uri : ∃ raw b, Entries.get? (.ofString Vocabulary.source) members = some raw ∧ Binding.Means raw b ∧
    source.uri = b.value
  label : ∀ raw b, Entries.get? (.ofString Vocabulary.label) members = some raw →
    Binding.Means raw b → source.label = b.value
  derived : .ofString Vocabulary.label ∉ Entries.keys members → ∃ segment,
    IsLastSegment segment source.uri.points ∧ source.label = labelled segment

/-- The reply answers with a table whose rows all have a source. -/
def Reply.Lists (reply : Reply) (rows : List (List (RawText × Value))) : Prop :=
  ∃ text root, reply.Answers text ∧ ResultTable.Tabular text root rows ∧
    ∀ members ∈ rows, .ofString Vocabulary.source ∈ Entries.keys members

namespace Provider

theorem sourceOf_cases {names : List RawText} {members : List (RawText × Value)} {row : Row}
    (decodes : Row.Decodes names members row) :
    (.ofString Vocabulary.source ∈ Entries.keys members ∧
      ∃ source, sourceOf row = .ok source ∧ source.Describes members) ∨
    (.ofString Vocabulary.source ∉ Entries.keys members ∧ sourceOf row = .error .noSource) := by
  cases is : row.value? Vocabulary.source with
  | none => exact .inr ⟨(value?_eq_none_iff decodes).mp is, by rw [sourceOf, is]⟩
  | some uri =>
    refine .inl ⟨(value?_isSome_iff decodes).mp ⟨uri, is⟩, _, by rw [sourceOf, is], ?_⟩
    obtain ⟨raw, b, found, means, same⟩ := (value?_eq_some_iff decodes).mp is
    refine ⟨⟨raw, b, found, means, same.symm⟩, fun raw b found means => ?_, fun absent => ?_⟩
    · have labelled : row.value? Vocabulary.label = some b.value :=
        (value?_eq_some_iff decodes).mpr ⟨raw, b, found, means, rfl⟩
      show (row.value? Vocabulary.label).getD _ = _
      rw [labelled]
      rfl
    · obtain ⟨segment, last, derived⟩ := exists_lastSegment uri
      refine ⟨segment, last, ?_⟩
      show (row.value? Vocabulary.label).getD _ = _
      rw [(value?_eq_none_iff decodes).mpr absent]
      exact derived

theorem sourcesOf_cases {names : List RawText} {objects : List (List (RawText × Value))}
    {rows : List Row} (decodes : List.Forall₂ (Row.Decodes names) objects rows) :
    ((∀ members ∈ objects, .ofString Vocabulary.source ∈ Entries.keys members) ∧
      ∃ data, sourcesOf rows = .ok data ∧
        List.Forall₂ (fun members source => source.Describes members) objects data) ∨
    ((¬ ∀ members ∈ objects, .ofString Vocabulary.source ∈ Entries.keys members) ∧
      sourcesOf rows = .error .noSource) := by
  induction decodes with
  | nil => exact .inl ⟨nofun, [], rfl, .nil⟩
  | cons first _ ih =>
    rw [List.forall_mem_cons, sourcesOf]
    rcases sourceOf_cases first with ⟨there, source, made, describes⟩ | ⟨absent, failed⟩
    · rw [made]
      rcases ih with ⟨others, data, rest, each⟩ | ⟨missing, failed⟩
      · exact .inl ⟨⟨there, others⟩, source :: data, by rw [rest]; rfl, .cons describes each⟩
      · exact .inr ⟨fun all => missing all.2, by rw [failed]; rfl⟩
    · rw [failed]
      exact .inr ⟨fun all => absent all.1, rfl⟩

def answerFrom (table : ResultTable) : Except Failure Response := do
  return .sources true (some (← (sourcesOf table.rows).mapError .results))

def listing (reply : Reply) : Except Failure Response :=
  tableOf [Vocabulary.source, Vocabulary.label] reply >>= answerFrom

theorem lists_iff (reply : Reply) (rows : List (List (RawText × Value))) :
    reply.Lists rows ↔
      reply.Holds rows ∧ ∀ members ∈ rows, .ofString Vocabulary.source ∈ Entries.keys members := by
  constructor
  · rintro ⟨text, root, answered, tabular, all⟩
    exact ⟨⟨text, root, answered, tabular⟩, all⟩
  · rintro ⟨⟨text, root, answered, tabular⟩, all⟩
    exact ⟨text, root, answered, tabular, all⟩

theorem listing_cases {reply : Reply} (heard : ¬ reply.Mute)
    (shallow : ∀ text, reply.Answers text → Json.read text ≠ .error .tooDeep) :
    (∃ data, listing reply = .ok (.sources true (some data)) ∧ (∃ rows, reply.Lists rows) ∧
      ∀ rows, reply.Lists rows →
        List.Forall₂ (fun members source => source.Describes members) rows data) ∨
    ((∀ rows, ¬ reply.Lists rows) ∧
      ∃ failure, listing reply = .error failure ∧ failure.Recovered) := by
  rw [listing]
  rcases tableOf_cases heard shallow [Vocabulary.source, Vocabulary.label] with
    ⟨rows, table, holds, made, decodes⟩ | ⟨none, failure, failed, known⟩
  · rw [made]
    show (∃ data, answerFrom table = _ ∧ _) ∨ _ ∧ ∃ failure, answerFrom table = _ ∧ _
    unfold answerFrom
    rcases sourcesOf_cases decodes with ⟨all, data, listed, each⟩ | ⟨missing, failed⟩
    · rw [listed]
      refine .inl ⟨data, rfl, ⟨rows, (lists_iff _ _).mpr ⟨holds, all⟩⟩, fun rows' lists => ?_⟩
      obtain rfl := holds.unique shallow ((lists_iff _ _).mp lists).1
      exact each
    · rw [failed]
      refine .inr ⟨fun rows' lists => missing ?_, .results .noSource, rfl, .inr ⟨_, rfl⟩⟩
      obtain ⟨holds', all⟩ := (lists_iff _ _).mp lists
      obtain rfl := holds.unique shallow holds'
      exact all
  · rw [failed]
    exact .inr ⟨fun rows lists => none rows ((lists_iff _ _).mp lists).1, failure, rfl, known⟩

theorem run_listSources {s : Services} {e : Endpoint}
    (configured : s.config.Describes e)
    (r : Request) {st : Session} {reply : Reply} {later : List Reply}
    (given : st.replies = reply :: later) (heard : ¬ reply.Mute)
    (shallow : ∀ text, reply.Answers text → Json.read text ≠ .error .tooDeep) :
    ∃ d, (listSources s r).run st =
      .ok (recovered (listing reply)) ((st.sent (tableCall e sourceText) later).withDraft d) := by
  have started : ∃ q d, d.sparql standardIndent q = .ok sourceText ∧
      (listSources s r).run st = (recovering r "query data sources" do
        let table ← table s r q [Vocabulary.source, Vocabulary.label] fun body =>
          Edit.report r .debug s!"Results: {body}"
        let sources ← Act.ofExcept ((sourcesOf table.rows).mapError .results)
        return .sources true (some sources)).run (st.withDraft d) := by
    have composed : (Act.edit (sourceQuery s.strict)).run
        (st.recordAll #[⟨.debug, r.mark "query_for_data_sources"⟩]) = _ :=
      (Act.run_edit _ _).trans (congrArg (Act.within _) (run_sourceQuery _ _))
    exact ⟨_, _, sparql_sourceQuery _ _,
      (Act.run_bind_ok (Act.run_report _ _ _ _)).trans (Act.run_bind_ok composed)⟩
  obtain ⟨q, d, written, started⟩ := started
  have answers (table : ResultTable) (st' : Session) : (do
      let sources ← Act.ofExcept ((sourcesOf table.rows).mapError .results)
      return .sources true (some sources) : Act Response).run st' =
        Act.ended st' (answerFrom table) := by
    unfold answerFrom
    cases sourcesOf table.rows <;> rfl
  obtain ⟨es, fetched⟩ := run_answer r (st.withDraft d) configured written given
    [Vocabulary.source, Vocabulary.label]
    (fun body st' => ⟨_, Act.run_report st' r .debug s!"Results: {body}"⟩) answers
  have known : Recovers (listing reply) := by
    rcases listing_cases heard shallow with ⟨_, listed, -⟩ | ⟨-, _, failed, known⟩
    · exact .of_ok listed
    · exact .of_error failed known
  obtain ⟨fs, recovered⟩ := run_recovering fetched known r "query data sources"
  exact ⟨_, started.trans recovered⟩

/-- Whatever the reply, one request is sent, the same for every request that is served, and an answer
is given. It holds the sources of the rows when the reply lists them, and is the bare failure
otherwise. -/
theorem listSources_answers (s : Services) (valid : s.config.validate = .ok ()) :
    ∃ call : Call,
      (call.payload = .body sourceText ∨ call.payload = .parameters [("query", sourceText)]) ∧
      ∀ (r : Request) (st : Session) (reply : Reply) (later : List Reply),
        st.replies = reply :: later → ¬ reply.Mute →
        (∀ text, reply.Answers text → Json.read text ≠ .error .tooDeep) →
        ∃ response st', (listSources s r).run st = .ok response st' ∧
          st'.calls = st.calls.push call ∧ st'.replies = later ∧
          (response.success = true ↔ ∃ rows, reply.Lists rows) ∧
          (∀ rows, reply.Lists rows → ∃ data, response = .sources true (some data) ∧
            List.Forall₂ (fun members source => source.Describes members) rows data) ∧
          (response.success = false →
            response.document = .mapping [(.text "success", .boolean false)]) := by
  obtain ⟨e, configured⟩ := s.config.exists_describes valid
  refine ⟨tableCall e sourceText, payload_tableCall e sourceText, ?_⟩
  intro r st reply later given heard shallow
  obtain ⟨d, ran⟩ := run_listSources configured r given heard shallow
  refine ⟨_, _, ran, rfl, rfl, ?_⟩
  rcases listing_cases heard shallow with ⟨data, listed, lists, each⟩ | ⟨none, failure, failed, known⟩
  · rw [listed]
    exact ⟨⟨fun _ => lists, fun _ => rfl⟩, fun rows lists => ⟨data, rfl, each rows lists⟩, nofun⟩
  · rw [failed]
    refine ⟨⟨nofun, ?_⟩, ?_, fun _ => rfl⟩
    · exact fun ⟨rows, lists⟩ => absurd lists (none rows)
    · exact fun rows lists => absurd lists (none rows)

def oneSource : String :=
  "\x7b\"results\": \x7b\"bindings\": [\x7b\"source\": " ++
    "\x7b\"value\": \"http://x/epa-gov\"\x7d\x7d]\x7d\x7d"

theorem shallow_oneSource : Json.read oneSource ≠ .error .tooDeep := by
  have read : (match Json.read oneSource with
      | .error .tooDeep => true
      | _ => false) = false := by decide +kernel
  intro deep
  rw [deep] at read
  cases read

theorem lists_oneSource : ∃ members, (Reply.answer 200 (some oneSource)).Lists [members] := by
  have answered : (Reply.answer 200 (some oneSource)).Answers oneSource :=
    ⟨200, rfl, by decide, by decide, '\x7b', by decide +kernel, rfl⟩
  have shown : (ResultTable.ofBody none (.text oneSource)).toOption.map
      (·.rows.map (·.value? Vocabulary.source)) = some [some (.ofString "http://x/epa-gov")] := by
    decide +kernel
  cases made : ResultTable.ofBody none (.text oneSource) with
  | error failure =>
    rw [made] at shown
    cases shown
  | ok table =>
    rw [made] at shown
    obtain ⟨row, rest, rows, is, none⟩ := List.map_eq_cons_iff.mp (Option.some.inj shown)
    obtain rfl := List.map_eq_nil_iff.mp none
    obtain ⟨text, root, objects, same, tabular, -, decodes⟩ := ResultTable.ofBody_eq_ok made
    cases same
    rw [rows] at decodes
    cases decodes with
    | cons first others =>
      cases others
      refine ⟨_, oneSource, root, answered, tabular, ?_⟩
      rintro members (_ | ⟨_, ⟨⟩⟩)
      exact (value?_isSome_iff first).mp ⟨_, is⟩

theorem listSources_answers_oneSource :
    standardServices.config.validate = .ok () ∧ ¬ (Reply.answer 200 (some oneSource)).Mute ∧
      (∀ text, (Reply.answer 200 (some oneSource)).Answers text →
        Json.read text ≠ .error .tooDeep) ∧
      ∃ source st', (listSources standardServices ⟨"r", []⟩).run
          (.start [.answer 200 (some oneSource)]) = .ok (.sources true (some [source])) st' := by
  have valid := valid_standardServices
  have heard : ¬ (Reply.answer 200 (some oneSource)).Mute := by
    rintro ⟨status, ⟨⟩, -⟩
  have shallow : ∀ text, (Reply.answer 200 (some oneSource)).Answers text →
      Json.read text ≠ .error .tooDeep := by
    rintro body ⟨status, ⟨⟩, -⟩
    exact shallow_oneSource
  obtain ⟨members, lists⟩ := lists_oneSource
  obtain ⟨call, -, answers⟩ := listSources_answers standardServices valid
  obtain ⟨response, st', ran, -, -, -, each, -⟩ := answers ⟨"r", []⟩
    (.start [.answer 200 (some oneSource)]) _ [] rfl heard shallow
  obtain ⟨data, rfl, describes⟩ := each _ lists
  cases describes with
  | cons first others =>
    cases others
    exact ⟨valid, heard, shallow, _, st', ran⟩

end Provider

end SparqlCompose
