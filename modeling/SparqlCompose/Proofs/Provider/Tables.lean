import SparqlCompose.Proofs.Provider.Exchange
import SparqlCompose.Proofs.ResultTable.Decoding

namespace SparqlCompose

/-- The reply answers with a table of these rows. -/
def Reply.Holds (reply : Reply) (rows : List (List (RawText × Value))) : Prop :=
  ∃ text root, reply.Answers text ∧ ResultTable.Tabular text root rows

theorem Reply.Answers.unique {reply : Reply} {text text' : String} (answered : reply.Answers text)
    (answered' : reply.Answers text') : text' = text := by
  rw [← verdict_eq_ok_iff] at answered answered'
  rw [answered] at answered'
  exact (Except.ok.inj answered').symm

theorem Reply.Holds.unique {reply : Reply}
    (shallow : ∀ text, reply.Answers text → Json.read text ≠ .error .tooDeep)
    {rows rows' : List (List (RawText × Value))} (holds : reply.Holds rows)
    (holds' : reply.Holds rows') : rows = rows' := by
  obtain ⟨text, root, answered, tabular⟩ := holds
  obtain ⟨text', root', answered', tabular'⟩ := holds'
  obtain rfl := answered.unique answered'
  exact tabular.unique (shallow _ answered) tabular'

/-- A row, as it stands in the document, binds the name to this value. -/
def Row.Shows (members : List (RawText × Value)) (name value : RawText) : Prop :=
  ∃ raw b, Entries.get? name members = some raw ∧ Binding.Means raw b ∧ b.value = value

theorem Row.Shows.unique {members : List (RawText × Value)} {name value value' : RawText}
    (shows : Row.Shows members name value) (shows' : Row.Shows members name value') :
    value = value' := by
  obtain ⟨raw, b, found, means, rfl⟩ := shows
  obtain ⟨raw', b', found', means', rfl⟩ := shows'
  rw [found] at found'
  cases found'
  rw [means.unique means']

/-- The failures that query methods answer for. -/
def Failure.Recovered (failure : Failure) : Prop :=
  (∃ fault, failure = .execution fault) ∨ ∃ fault, failure = .results fault

namespace Provider

theorem value?_isSome_iff {names : List RawText} {members : List (RawText × Value)} {row : Row}
    (decodes : Row.Decodes names members row) {name : RawText} :
    (∃ value, row.value? name = some value) ↔ name ∈ Entries.keys members := by
  rw [← decodes.bound_iff]
  constructor
  · rintro ⟨value, is⟩
    obtain ⟨b, bound, -⟩ := Option.map_eq_some_iff.mp is
    exact ⟨b, bound⟩
  · rintro ⟨b, bound⟩
    exact ⟨b.value, Option.map_eq_some_iff.mpr ⟨b, bound, rfl⟩⟩

theorem value?_eq_none_iff {names : List RawText} {members : List (RawText × Value)} {row : Row}
    (decodes : Row.Decodes names members row) {name : RawText} :
    row.value? name = none ↔ name ∉ Entries.keys members := by
  rw [← Option.not_isSome_iff_eq_none, Option.isSome_iff_exists, value?_isSome_iff decodes]

theorem value?_eq_some_iff {names : List RawText} {members : List (RawText × Value)} {row : Row}
    (decodes : Row.Decodes names members row) {name value : RawText} :
    row.value? name = some value ↔ Row.Shows members name value := by
  have shown {value : RawText} (is : row.value? name = some value) :
      Row.Shows members name value := by
    obtain ⟨b, bound, rfl⟩ := Option.map_eq_some_iff.mp is
    obtain ⟨raw, found, means⟩ := decodes.meaning name b bound
    exact ⟨raw, b, found, means, rfl⟩
  refine ⟨shown, fun shows => ?_⟩
  obtain ⟨raw, b, found, -, -⟩ := id shows
  obtain ⟨value', is⟩ := (value?_isSome_iff decodes).mpr (Entries.mem_keys_iff.mpr ⟨raw, found⟩)
  rw [is, (shown is).unique shows]

def tableOf (names : List RawText) (reply : Reply) : Except Failure ResultTable := do
  ResultTable.ofBody (some names) (.text (← reply.verdict))

def tableCall (e : Endpoint) (query : String) : Call :=
  { e with accept := .text Vocabulary.sparqlJson }.callFor query

theorem payload_tableCall (e : Endpoint) (query : String) :
    (tableCall e query).payload = .body query ∨
      (tableCall e query).payload = .parameters [("query", query)] :=
  Endpoint.payload_callFor _ query

/-- A reply holds a table, which is decoded row by row, or comes to a failure that is recovered
from. -/
theorem tableOf_cases {reply : Reply} (heard : ¬ reply.Mute)
    (shallow : ∀ text, reply.Answers text → Json.read text ≠ .error .tooDeep)
    (names : List RawText) :
    (∃ rows table, reply.Holds rows ∧ tableOf names reply = .ok table ∧
      List.Forall₂ (Row.Decodes names) rows table.rows) ∨
    ((∀ rows, ¬ reply.Holds rows) ∧
      ∃ failure, tableOf names reply = .error failure ∧ failure.Recovered) := by
  have answers (text : String) : reply.Answers text ↔ reply.verdict = .ok text :=
    (Reply.verdict_eq_ok_iff reply text).symm
  cases verdict : reply.verdict with
  | error failure =>
    have unanswered : ∀ text, ¬ reply.Answers text := by
      intro text answered
      rw [answers, verdict] at answered
      cases answered
    obtain ⟨fault, failed, -⟩ := (Reply.verdict_eq_failed_iff reply).mpr ⟨unanswered, heard⟩
    refine .inr ⟨fun rows ⟨body, _, answered, _⟩ => unanswered body answered, .execution fault, ?_,
      .inl ⟨fault, rfl⟩⟩
    rw [tableOf, failed]
    rfl
  | ok body =>
    have answered := (answers body).mpr verdict
    have deep : ∀ text, Value.text body = .text text → Json.read text ≠ .error .tooDeep := by
      intro text same
      cases same
      exact shallow body answered
    have split : tableOf names reply = ResultTable.ofBody (some names) (.text body) := by
      rw [tableOf, verdict]
      rfl
    rw [split]
    rcases ResultTable.ofBody_cases deep (some names) with ⟨-, table, made⟩ | ⟨other, fault, refused⟩
    · obtain ⟨text, root, rows, is, tabular, shows, decodes⟩ := ResultTable.ofBody_eq_ok made
      cases is
      rw [shows.given names rfl] at decodes
      exact .inl ⟨rows, table, ⟨body, root, answered, tabular⟩, made, decodes⟩
    · refine .inr ⟨?_, .results fault, refused, .inr ⟨fault, rfl⟩⟩
      rintro rows ⟨text, root, answered', tabular⟩
      obtain rfl := answered.unique answered'
      exact other ⟨_, root, rows, rfl, tabular⟩

section Runs

variable {s : Services} {e : Endpoint} (r : Request) (st : Session) {reply : Reply}
  {later : List Reply}

theorem run_decodeTable (names : List RawText) (body : String) :
    ∃ es, (Act.edit (Edit.decodeTable (some names) (.text body))).run st =
      Act.ended (st.recordAll es) (ResultTable.ofBody (some names) (.text body)) := by
  obtain ⟨es, decoded⟩ := Edit.run_decodeTable (some names) (.text body) st.draft
  rw [Act.run_edit, decoded]
  cases ResultTable.ofBody (some names) (.text body) with
  | ok table => exact ⟨es, rfl⟩
  | error failure => exact ⟨#[], by rw [Session.recordAll_empty]; rfl⟩

theorem run_table {q : QueryId} {query : String}
    (configured : s.config.Describes e)
    (written : st.draft.sparql standardIndent q = .ok query)
    (given : st.replies = reply :: later) (names : List RawText) {onBody : String → Act Unit}
    (reports : ∀ body st', ∃ es, (onBody body).run st' = .ok () (st'.recordAll es)) :
    ∃ es, (table s r q names onBody).run st =
      Act.ended ((st.sent (tableCall e query) later).recordAll es) (tableOf names reply) := by
  have filled : Vocabulary.sparqlJson ≠ "" := by decide
  obtain ⟨es, answered, failed⟩ := run_exchange filled configured r st written given
    fun body => do
      onBody body
      Act.edit (Edit.decodeTable (some names) (.text body))
  rw [tableOf]
  cases verdict : reply.verdict with
  | error failure => exact ⟨es, failed failure verdict⟩
  | ok body =>
    obtain ⟨fs, reported⟩ := reports body ((st.sent (tableCall e query) later).recordAll es)
    rw [Session.recordAll_recordAll] at reported
    obtain ⟨gs, decoded⟩ := run_decodeTable
      ((st.sent (tableCall e query) later).recordAll (es ++ fs)) names body
    rw [Session.recordAll_recordAll] at decoded
    exact ⟨_, (answered body verdict).trans ((Act.run_bind_ok reported).trans decoded)⟩

theorem run_answer {q : QueryId} {query : String}
    (configured : s.config.Describes e)
    (written : st.draft.sparql standardIndent q = .ok query)
    (given : st.replies = reply :: later) (names : List RawText) {onBody : String → Act Unit}
    (reports : ∀ body st', ∃ es, (onBody body).run st' = .ok () (st'.recordAll es))
    {k : ResultTable → Act Response} {answer : ResultTable → Except Failure Response}
    (answers : ∀ table st', (k table).run st' = Act.ended st' (answer table)) :
    ∃ es, (table s r q names onBody >>= k).run st =
      Act.ended ((st.sent (tableCall e query) later).recordAll es)
        (tableOf names reply >>= answer) := by
  obtain ⟨es, fetched⟩ := run_table r st configured written given names reports
  refine ⟨es, ?_⟩
  cases found : tableOf names reply with
  | error failure =>
    rw [found] at fetched
    exact Act.run_bind_error fetched
  | ok table =>
    rw [found] at fetched
    exact (Act.run_bind_ok fetched).trans (answers table _)

end Runs

def Recovers (result : Except Failure Response) : Prop :=
  ∀ failure, result = .error failure → failure.Recovered

theorem Recovers.of_ok {result : Except Failure Response} {response : Response}
    (made : result = .ok response) : Recovers result := by
  rw [made]
  exact nofun

theorem Recovers.of_error {result : Except Failure Response} {failure : Failure}
    (failed : result = .error failure) (known : failure.Recovered) : Recovers result := by
  rw [failed]
  rintro _ ⟨⟩
  exact known

def recovered : Except Failure Response → Response
  | .ok response => response
  | .error _ => .failed

theorem run_recovering {a : Act Response} {st st' : Session} {result : Except Failure Response}
    (ran : a.run st = Act.ended st' result)
    (known : Recovers result) (r : Request) (task : String) :
    ∃ es, (recovering r task a).run st = .ok (recovered result) (st'.recordAll es) := by
  show ∃ es, EStateM.tryCatch a _ st = _
  unfold EStateM.tryCatch
  change a st = _ at ran
  rw [ran]
  cases result with
  | ok response => exact ⟨#[], by rw [Session.recordAll_empty]; rfl⟩
  | error failure =>
    rcases known failure rfl with ⟨fault, rfl⟩ | ⟨fault, rfl⟩
    · exact ⟨_, Act.run_bind_ok (Act.run_report _ _ _ _)⟩
    · exact ⟨_, Act.run_bind_ok (Act.run_report _ _ _ _)⟩

end Provider

end SparqlCompose
