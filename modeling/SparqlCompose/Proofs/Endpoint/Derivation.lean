import SparqlCompose.Proofs.Config.Usable
import SparqlCompose.Proofs.Endpoint.Outcome

namespace SparqlCompose

def Act.left {α : Type} : EStateM.Result Failure Session α → Session
  | .ok _ s | .error _ s => s

@[simp] theorem Act.left_ended {α : Type} (s : Session) (result : Except Failure α) :
    Act.left (Act.ended s result) = s := by
  cases result <;> rfl

namespace Endpoint

inductive Question
  | text (query : String)
  | written (q : QueryId)

def Question.text? (d : Draft) : Question → Option String
  | .text query => some query
  | .written q => (d.sparql standardIndent q).toOption

def ask (e : Endpoint) : Question → Act String
  | .text query => e.execute query
  | .written q => e.executeQuery q

/-- What is done with endpoints that come from one another, each known by its place. -/
inductive Move
  | derive (source : Nat) (mediaType : String)
  | ask (through : Nat) (question : Question)

def Move.Named : Move → Prop
  | .derive _ mediaType => mediaType ≠ ""
  | .ask .. => True

/-- Endpoints in the order in which they came to be, and the session that they share. -/
structure Family where
  endpoints : List Endpoint
  session : Session

namespace Family

def perform (f : Family) : Move → Except Failure Family
  | .derive source mediaType =>
    match f.endpoints[source]? with
    | some e => do return { f with endpoints := f.endpoints ++ [← e.accepting (.text mediaType)] }
    | none => .ok f
  | .ask through question =>
    match f.endpoints[through]? with
    | some e => .ok { f with session := Act.left ((e.ask question).run f.session) }
    | none => .ok f

def performAll (f : Family) (moves : List Move) : Except Failure Family := moves.foldlM perform f

end Family

abbrev Chain := List String

def Move.chains (chains : List Chain) : Move → List Chain
  | .derive source mediaType =>
    match chains[source]? with
    | some chain => chains ++ [chain ++ [mediaType]]
    | none => chains
  | .ask .. => chains

def Move.asked (reports : Chain → Bool) (d : Draft) (chains : List Chain) :
    Move → List (Chain × String)
  | .derive .. => []
  | .ask through question =>
    match chains[through]?, question.text? d with
    | some chain, some query => if reports chain then [(chain, query)] else []
    | _, _ => []

def askedBy (reports : Chain → Bool) (d : Draft) (chains : List Chain) :
    List Move → List (Chain × String)
  | [] => []
  | move :: moves =>
    move.asked reports d chains ++ askedBy reports d (move.chains chains) moves

def after (e : Endpoint) (chain : Chain) : Endpoint :=
  match chain.getLast? with
  | some mediaType => { e with accept := .text mediaType }
  | none => e

variable (e : Endpoint) (s : Session)

theorem exists_run_execute (announces : e.Announces) (query : String) :
    ∃ es later result, (e.execute query).run s =
      Act.ended ((s.sent (e.callFor query) later).recordAll es) result := by
  cases given : s.replies with
  | cons reply later =>
    obtain ⟨es, outcome⟩ := e.run_execute s announces query given
    exact ⟨es, later, reply.verdict, outcome⟩
  | nil =>
    obtain ⟨es, reported⟩ := announces.run_announce s query
      (Act.send (e.callFor query) >>= e.answerOf)
    -- The request is noted before a reply is looked for.
    have unanswered : ∃ failure, (Act.send (e.callFor query)).run (s.recordAll es) =
        .error failure ((s.sent (e.callFor query) []).recordAll es) := by
      have none : (s.recordAll es).replies = [] := given
      unfold Act.send
      simp only [EStateM.run_bind, EStateM.run_get, none]
      rw [Session.sent, ← given]
      exact ⟨_, rfl⟩
    obtain ⟨failure, unanswered⟩ := unanswered
    exact ⟨es, [], .error failure, reported.trans (Act.run_bind_error unanswered)⟩

theorem left_execute (query : String) :
    (Act.left ((e.execute query).run s)).calls.toList =
        s.calls.toList ++ (if e.Announces then [e.callFor query] else []) ∧
      ∃ es, (Act.left ((e.execute query).run s)).draft = s.draft.recordAll es := by
  by_cases announces : e.Announces
  · obtain ⟨es, later, result, outcome⟩ := e.exists_run_execute s announces query
    rw [outcome, Act.left_ended, if_pos announces]
    exact ⟨by simp [Session.sent, Session.recordAll, Session.withDraft], es, rfl⟩
  · rw [e.run_execute_of_not_announces s announces, if_neg announces]
    exact ⟨(List.append_nil _).symm, #[], (Draft.recordAll_empty _).symm⟩

theorem left_ask (question : Question) :
    (Act.left ((e.ask question).run s)).calls.toList =
        s.calls.toList ++
          (if e.Announces then ((question.text? s.draft).map e.callFor).toList else []) ∧
      ∃ es, (Act.left ((e.ask question).run s)).draft = s.draft.recordAll es := by
  cases question with
  | text query => exact e.left_execute s query
  | written q =>
    have bind : e.ask (.written q) = Act.edit (Edit.sparql standardIndent q) >>= e.execute := rfl
    rw [bind]
    cases written : s.draft.sparql standardIndent q with
    | error fault =>
      have stops : (Act.edit (Edit.sparql standardIndent q)).run s = .error fault s := by
        rw [Act.run_edit, Edit.run_sparql, written, Act.within, Session.withDraft]
      rw [Act.run_bind_error stops]
      refine ⟨?_, #[], (Draft.recordAll_empty _).symm⟩
      rw [Question.text?, written]
      simp [Act.left, Except.toOption]
    | ok query =>
      obtain ⟨es, writes⟩ := Act.run_written s written
      obtain ⟨calls, fs, draft⟩ := e.left_execute (s.recordAll es) query
      rw [Act.run_bind_ok writes]
      refine ⟨?_, es ++ fs, ?_⟩
      · rw [calls, Question.text?, written]
        rfl
      · rw [draft, Session.recordAll, Session.draft_withDraft, Draft.recordAll_recordAll]

theorem after_eq (chain : Chain) :
    e.after chain = { e with accept := (chain.getLast?.map Value.text).getD e.accept } := by
  unfold after
  cases chain.getLast? <;> rfl

theorem after_append (chain : Chain) (mediaType : String) :
    e.after (chain ++ [mediaType]) = { e with accept := .text mediaType } := by
  rw [after, List.getLast?_concat]

theorem accepting_after (chain : Chain) {mediaType : String} (some : mediaType ≠ "") :
    (e.after chain).accepting (.text mediaType) = .ok (e.after (chain ++ [mediaType])) := by
  rw [accepting_of_some _ (by simpa using some), after_append, after]
  cases chain.getLast? <;> rfl

/-- The endpoints are those at the ends of the chains, and the draft writes the queries that it
wrote at first. -/
structure Kin (e : Endpoint) (reports : Chain → Bool) (d : Draft) (chains : List Chain)
    (f : Family) : Prop where
  reports_iff : ∀ chain, reports chain = true ↔ (e.after chain).Announces
  endpoints : f.endpoints = chains.map e.after
  writes : ∀ q, f.session.draft.sparql standardIndent q = d.sparql standardIndent q

variable {e : Endpoint} {reports : Chain → Bool} {d : Draft} {chains : List Chain} {f : Family}

theorem Kin.text? (kin : Kin e reports d chains f) (question : Question) :
    question.text? f.session.draft = question.text? d := by
  cases question with
  | text => rfl
  | written q => rw [Question.text?, Question.text?, kin.writes]

def callAt (e : Endpoint) (asked : Chain × String) : Call := (e.after asked.1).callFor asked.2

theorem Kin.perform (kin : Kin e reports d chains f) {move : Move} (named : move.Named) :
    ∃ f', f.perform move = .ok f' ∧ Kin e reports d (move.chains chains) f' ∧
      f'.session.calls.toList =
        f.session.calls.toList ++ (move.asked reports d chains).map e.callAt := by
  cases move with
  | derive source mediaType =>
    rw [Family.perform, kin.endpoints, List.getElem?_map]
    simp only [Move.chains, Move.asked]
    cases chains[source]? with
    | none => exact ⟨f, rfl, kin, by simp⟩
    | some chain =>
      refine ⟨⟨f.endpoints ++ [e.after (chain ++ [mediaType])], f.session⟩, ?_, ?_, by simp⟩
      · dsimp only [Option.map_some]
        rw [accepting_after e chain named, kin.endpoints]
        rfl
      · exact ⟨kin.reports_iff, by simp [kin.endpoints], kin.writes⟩
  | ask through question =>
    rw [Family.perform, kin.endpoints, List.getElem?_map]
    simp only [Move.chains, Move.asked]
    cases chains[through]? with
    | none => exact ⟨f, rfl, kin, by simp⟩
    | some chain =>
      obtain ⟨calls, es, draft⟩ := (e.after chain).left_ask f.session question
      refine ⟨_, rfl, ⟨kin.reports_iff, rfl, fun q => ?_⟩, ?_⟩
      · dsimp only
        rw [draft, Draft.sparql_recordAll, kin.writes]
      · dsimp only
        rw [calls, kin.text?]
        simp only [← kin.reports_iff]
        cases question.text? d with
        | none => simp
        | some query =>
          dsimp only
          cases reports chain <;> rfl

theorem Kin.performAll (kin : Kin e reports d chains f) {moves : List Move}
    (named : ∀ move ∈ moves, move.Named) :
    ∃ f', f.performAll moves = .ok f' ∧ Kin e reports d (moves.foldl Move.chains chains) f' ∧
      f'.session.calls.toList =
        f.session.calls.toList ++ (askedBy reports d chains moves).map e.callAt := by
  induction moves generalizing chains f with
  | nil => exact ⟨f, rfl, kin, by simp [askedBy]⟩
  | cons move moves ih =>
    obtain ⟨first, others⟩ := List.forall_mem_cons.mp named
    obtain ⟨f', done, kin', sent⟩ := kin.perform first
    obtain ⟨f'', done', kin'', sent'⟩ := ih kin' others
    -- The later moves start from the chains and the session that the first one leaves.
    refine ⟨f'', ?_, kin'', ?_⟩
    · rw [Family.performAll, List.foldlM_cons, done]
      exact done'
    · rw [sent', sent, askedBy, List.map_append, List.append_assoc]

end Endpoint

namespace Config

open Endpoint

def acceptAt (c : Config) (chain : Chain) : Value :=
  (chain.getLast?.map Value.text).getD c.acceptInEffect

def reports (c : Config) (chain : Chain) : Bool := (c.acceptAt chain).display.isSome

def acceptHeader : Value → List (String × Value)
  | .null => []
  | v => [("Accept", v)]

structure Carries (c : Config) (asked : Chain × String) (call : Call) : Prop where
  url : ∃ url, c.urlInEffect = .text url ∧ call.url = .text url
  timeout : ∃ n, c.timeoutInEffect? = some (.integer n) ∧ 0 < n ∧ call.timeout = .integer n
  method : c.methodInEffect? = some (.ofString call.method.name)
  query : match call.method with
    | .post => call.payload = .body asked.2 ∧ call.headers = acceptHeader (c.acceptAt asked.1) ++
        [("Content-Type", .text "application/sparql-query")]
    | .get => call.payload = .parameters [("query", asked.2)] ∧
        call.headers = acceptHeader (c.acceptAt asked.1)

theorem headers_accept (v : Value) : Endpoint.headers [("Accept", v)] = acceptHeader v := by
  have name : headerName "Accept" = "Accept" := by decide
  cases v with
  | null => rfl
  | _ =>
    simp only [Endpoint.headers, List.filterMap_cons, List.filterMap_nil, name]
    rfl

theorem put_contentType (v type : Value) :
    Entries.put "Content-Type" type (acceptHeader v) =
      acceptHeader v ++ [("Content-Type", type)] := by
  cases v <;> rfl

variable {c : Config}

theorem carries_callAt {url : RawText} {method : Method} {n : Int}
    (isUrl : c.urlInEffect = .text url)
    (isMethod : c.methodInEffect? = some (.ofString method.name))
    (isTimeout : c.timeoutInEffect? = some (.integer n)) (positive : 0 < n)
    (request : Option Request) (asked : Chain × String) :
    c.Carries asked
      (callAt ⟨.text url, method, .integer n, c.acceptInEffect, request⟩ asked) := by
  rw [callAt, after_eq]
  change c.Carries asked
    (Endpoint.callFor ⟨.text url, method, .integer n, c.acceptAt asked.1, request⟩ asked.2)
  cases method with
  | post =>
    refine ⟨⟨url, isUrl, rfl⟩, ⟨n, isTimeout, positive, rfl⟩, isMethod, rfl, ?_⟩
    exact (congrArg _ (headers_accept _)).trans (put_contentType _ _)
  | get =>
    exact ⟨⟨url, isUrl, rfl⟩, ⟨n, isTimeout, positive, rfl⟩, isMethod, rfl, headers_accept _⟩

/-- However endpoints are derived from that of a valid configuration and asked in between, none of
them is refused, and each sends what its own chain says in the way that is configured. -/
theorem derived_endpoints_keep_settings (valid : c.validate = .ok ()) (request : Option Request)
    (s : Session) {moves : List Move} (named : ∀ move ∈ moves, move.Named) :
    ∃ (first : Endpoint) (last : Family) (sent : List Call),
      c.endpointFor request = .ok first ∧
      Family.performAll ⟨[first], s⟩ moves = .ok last ∧
      last.endpoints.map (·.accept) = (moves.foldl Move.chains [[]]).map c.acceptAt ∧
      last.session.calls.toList = s.calls.toList ++ sent ∧
      List.Forall₂ c.Carries (askedBy c.reports s.draft [[]] moves) sent := by
  obtain ⟨url, method, n, isUrl, isMethod, isTimeout, positive, describes⟩ :=
    endpointFor_of_valid valid
  let first : Endpoint := ⟨.text url, method, .integer n, c.acceptInEffect, request⟩
  have kin : Kin first c.reports s.draft [[]] ⟨[first], s⟩ :=
    ⟨fun chain => by rw [after_eq]; exact (and_iff_right rfl).symm, rfl, fun _ => rfl⟩
  obtain ⟨last, done, ends, sent⟩ := kin.performAll named
  refine ⟨first, last, _, describes request, done, ?_, sent, ?_⟩
  · rw [ends.endpoints, List.map_map]
    exact List.map_congr_left fun chain _ => congrArg Endpoint.accept (first.after_eq chain)
  · rw [List.forall₂_map_right_iff, List.forall₂_same]
    exact fun asked _ => carries_callAt isUrl isMethod isTimeout positive request asked

def undemanding : Config :=
  ⟨.mapping [(.text "endpoint", .mapping [(.text "method", .text "get"), (.text "accept", .null)])],
    "c", []⟩

def branching : List Move :=
  [.derive 0 "text/turtle", .ask 0 (.text "ASK"), .derive 1 "text/csv", .derive 0 "text/html",
    .ask 1 (.text "ASK"), .ask 2 (.text "ASK")]

theorem derived_endpoints_keep_settings_branching :
    undemanding.validate = .ok () ∧ ∃ (first : Endpoint) (last : Family) (sent : List Call),
      undemanding.endpointFor none = .ok first ∧
      Family.performAll ⟨[first], .start []⟩ branching = .ok last ∧
      last.endpoints.map (·.accept) =
        [.null, .text "text/turtle", .text "text/csv", .text "text/html"] ∧
      last.session.calls.toList = [] ++ sent ∧
      List.Forall₂ undemanding.Carries
        [([], "ASK"), (["text/turtle"], "ASK"), (["text/turtle", "text/csv"], "ASK")] sent := by
  have valid : undemanding.validate = .ok () := by rfl
  have named : ∀ move ∈ branching, move.Named := by
    simp [branching, Move.Named]
  exact ⟨valid, derived_endpoints_keep_settings valid none (.start []) named⟩

end Config

end SparqlCompose
