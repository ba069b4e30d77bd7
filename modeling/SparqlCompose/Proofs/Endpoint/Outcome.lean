import SparqlCompose.Proofs.Session.Runs

namespace SparqlCompose

namespace Reply

def status? : Reply → Option Int
  | .answer status _ => some status
  | .failed _ => none

/-- The reply is a success with a text that is more than blanks. -/
def Answers (reply : Reply) (text : String) : Prop :=
  ∃ status, reply = .answer status (some text) ∧ 200 ≤ status ∧ status < 300 ∧
    ∃ c ∈ text.toList, Text.isBlank c = false

/-- The reply is no success and has no body. -/
def Mute (reply : Reply) : Prop :=
  ∃ status, reply = .answer status none ∧ ¬ (200 ≤ status ∧ status < 300)

def verdict : Reply → Except Failure String
  | .failed reason => .error (.execution (.transport reason))
  | .answer status (some text) =>
    if Endpoint.isSuccess status then
      if Text.isAllBlank text then .error (.execution (.emptyBody status)) else .ok text
    else .error (.execution (.status status))
  | .answer status none =>
    if Endpoint.isSuccess status then .error (.execution (.emptyBody status)) else .error .kind

theorem isSuccess_iff (status : Int) :
    Endpoint.isSuccess status = true ↔ 200 ≤ status ∧ status < 300 := by
  simp [Endpoint.isSuccess]

theorem isAllBlank_eq_false_iff (text : String) :
    Text.isAllBlank text = false ↔ ∃ c ∈ text.toList, Text.isBlank c = false := by
  simp [Text.isAllBlank]

theorem verdict_eq_ok_iff (reply : Reply) (text : String) :
    reply.verdict = .ok text ↔ reply.Answers text := by
  constructor
  · intro answered
    cases reply with
    | failed reason => cases answered
    | answer status body =>
      unfold verdict at answered
      split at answered
      · cases answered
      · rename_i status text' same
        cases same
        split at answered
        case isFalse => cases answered
        rename_i success
        split at answered
        · cases answered
        · rename_i blank
          cases answered
          obtain ⟨low, high⟩ := (isSuccess_iff status).mp success
          have more := (isAllBlank_eq_false_iff text).mp (Bool.eq_false_iff.mpr blank)
          exact ⟨status, rfl, low, high, more⟩
      · split at answered <;> cases answered
  · rintro ⟨status, rfl, low, high, more⟩
    have success := (isSuccess_iff status).mpr ⟨low, high⟩
    have blank := (isAllBlank_eq_false_iff text).mpr more
    simp only [verdict, success, blank, if_true, Bool.false_eq_true, if_false]

theorem verdict_eq_failed_iff (reply : Reply) :
    (∃ fault, reply.verdict = .error (.execution fault) ∧ fault.code? = reply.status?) ↔
      (∀ text, ¬ reply.Answers text) ∧ ¬ reply.Mute := by
  constructor
  · rintro ⟨fault, failed, -⟩
    refine ⟨fun text answered => ?_, ?_⟩
    · rw [(verdict_eq_ok_iff reply text).mpr answered] at failed
      cases failed
    · rintro ⟨status, rfl, outside⟩
      rw [verdict, if_neg (mt (isSuccess_iff status).mp outside)] at failed
      cases failed
  · rintro ⟨unanswered, heard⟩
    cases reply with
    | failed reason => exact ⟨_, rfl, rfl⟩
    | answer status body =>
      by_cases success : Endpoint.isSuccess status = true
      · cases body with
        | none => exact ⟨.emptyBody status, by simp only [verdict, success, if_true], rfl⟩
        | some text =>
          by_cases blank : Text.isAllBlank text = true
          · exact ⟨.emptyBody status, by simp only [verdict, success, blank, if_true], rfl⟩
          · have answered : (Reply.answer status (some text)).verdict = .ok text := by
              simp only [verdict, success, blank, if_true, if_false, Bool.false_eq_true]
            exact absurd ((verdict_eq_ok_iff _ text).mp answered) (unanswered text)
      · cases body with
        | none => exact absurd ⟨status, rfl, mt (isSuccess_iff status).mpr success⟩ heard
        | some text =>
          exact ⟨.status status, by simp only [verdict, success, if_false, Bool.false_eq_true], rfl⟩

end Reply

namespace Act

def ended {α : Type} (s : Session) : Except Failure α → EStateM.Result Failure Session α
  | .ok a => .ok a s
  | .error f => .error f s

theorem run_written (s : Session) {q : QueryId} {query : String}
    (written : s.draft.sparql standardIndent q = .ok query) :
    ∃ es, (edit (Edit.sparql standardIndent q)).run s = .ok query (s.recordAll es) := by
  rw [run_edit, Edit.run_sparql, written]
  dsimp only
  rw [Draft.record_eq_recordAll]
  exact ⟨_, rfl⟩

end Act

namespace Endpoint

variable (e : Endpoint) (s : Session)

theorem accepting_of_some {mediaType : String} (some : mediaType.isEmpty = false) :
    e.accepting (.text mediaType) = .ok { e with accept := .text mediaType } := by
  have complete : requireSettings [("media_type", .text mediaType)] = .ok () := by
    simp only [requireSettings, RawText.isEmpty_ofString, some, Bool.false_eq_true, if_false]
  rw [accepting, complete]
  rfl

theorem run_report (level : Level) (message : String) :
    ∃ es, (e.report level message).run s = .ok () (s.recordAll es) := by
  unfold report
  cases e.request with
  | some r => exact ⟨_, Act.run_report s r level message⟩
  | none => exact ⟨_, by rw [Act.log, Act.run_edit, Edit.run_log, Draft.record_eq_recordAll]; rfl⟩

theorem run_refuse (fault : ExecutionFault) (message : String) :
    ∃ es, (e.refuse fault message).run s = .error (.execution fault) (s.recordAll es) := by
  obtain ⟨es, reported⟩ := e.run_report s .error message
  exact ⟨es, by rw [refuse, EStateM.run_bind, reported]; rfl⟩

theorem run_answerOf (reply : Reply) :
    ∃ es, (e.answerOf reply).run s = Act.ended (s.recordAll es) reply.verdict := by
  have silent : s = s.recordAll #[] := by simp
  cases reply with
  | failed reason => exact e.run_refuse s _ _
  | answer status body =>
    unfold answerOf Reply.verdict
    by_cases success : isSuccess status = true
    · cases body with
      | none =>
        simp only [success, if_true]
        exact e.run_refuse s _ _
      | some text =>
        simp only [success, if_true]
        split
        · exact e.run_refuse s _ _
        · exact ⟨#[], congrArg _ silent⟩
    · cases body with
      | none =>
        simp only [success, if_false, Bool.false_eq_true]
        exact ⟨#[], congrArg _ silent⟩
      | some text =>
        simp only [success, if_false, Bool.false_eq_true]
        exact e.run_refuse s _ _

/-- What the report of a query shows of the endpoint has a display. -/
def Announces : Prop := e.url.display.isSome = true ∧ e.accept.display.isSome = true

instance : Decidable e.Announces := inferInstanceAs (Decidable (_ ∧ _))

theorem announcement_cases (query : String) :
    (e.Announces ∧ ∃ message, e.announcement query = .ok message) ∨
      (¬ e.Announces ∧ e.announcement query = .error .digits) := by
  unfold Announces announcement Value.shown
  cases e.url.display with
  | none => exact .inr ⟨fun both => (nomatch both.1), rfl⟩
  | some url =>
    cases e.accept.display with
    | none => exact .inr ⟨fun both => (nomatch both.2), rfl⟩
    | some accept => exact .inl ⟨⟨rfl, rfl⟩, _, rfl⟩

theorem Announces.run_announce {e : Endpoint} (announces : e.Announces) (s : Session)
    (query : String) {α : Type} (rest : Act α) :
    ∃ es, (do e.report .debug (← Act.ofExcept (e.announcement query)); rest : Act α).run s =
      rest.run (s.recordAll es) := by
  obtain ⟨-, message, made⟩ := (e.announcement_cases query).resolve_right (·.1 announces)
  obtain ⟨es, reported⟩ := e.run_report s .debug message
  refine ⟨es, ?_⟩
  rw [made]
  exact Act.run_bind_ok reported

theorem run_execute (announces : e.Announces) (query : String) {reply : Reply}
    {later : List Reply} (given : s.replies = reply :: later) :
    ∃ es, (e.execute query).run s =
      Act.ended ((s.sent (e.callFor query) later).recordAll es) reply.verdict := by
  obtain ⟨es, reported⟩ := announces.run_announce s query
    (Act.send (e.callFor query) >>= e.answerOf)
  have sends := Act.run_send (s := s.recordAll es) (e.callFor query) given
  obtain ⟨fs, outcome⟩ := e.run_answerOf ((s.recordAll es).sent (e.callFor query) later) reply
  refine ⟨es ++ fs, ?_⟩
  rw [Session.sent_recordAll, Session.recordAll_recordAll] at outcome
  rw [Session.sent_recordAll] at sends
  exact (reported.trans (Act.run_bind_ok sends)).trans outcome

theorem run_execute_of_not_announces (silent : ¬ e.Announces) (query : String) :
    (e.execute query).run s = .error .digits s := by
  obtain ⟨-, failed⟩ := (e.announcement_cases query).resolve_left (silent ·.1)
  rw [execute, failed]
  rfl

theorem run_executeQuery (announces : e.Announces) {q : QueryId} {query : String}
    (written : s.draft.sparql standardIndent q = .ok query) {reply : Reply} {later : List Reply}
    (given : s.replies = reply :: later) :
    ∃ es, (e.executeQuery q).run s =
      Act.ended ((s.sent (e.callFor query) later).recordAll es) reply.verdict := by
  obtain ⟨es, writes⟩ := Act.run_written s written
  obtain ⟨fs, outcome⟩ := e.run_execute (s.recordAll es) announces query given
  rw [Session.sent_recordAll, Session.recordAll_recordAll] at outcome
  exact ⟨es ++ fs, (Act.run_bind_ok writes).trans outcome⟩

/-- Where the endpoint can be reported, one request is sent and none repeated, whatever the reply;
else nothing is sent. The exchange gives the text that the reply answers with, and nothing else;
where there is none it has failed with the status of the reply, exactly unless the reply is mute. -/
theorem execute_answers_or_fails_iff (query : String) {reply : Reply} {later : List Reply}
    (given : s.replies = reply :: later) :
    (e.Announces →
      ∃ s' : Session, s'.calls = s.calls.push (e.callFor query) ∧ s'.replies = later ∧
        (∃ result, (e.execute query).run s = Act.ended s' result) ∧
        (∀ text, (e.execute query).run s = .ok text s' ↔ reply.Answers text) ∧
        ((∃ fault, (e.execute query).run s = .error (.execution fault) s' ∧
          fault.code? = reply.status?) ↔ (∀ text, ¬ reply.Answers text) ∧ ¬ reply.Mute)) ∧
      (¬ e.Announces → (e.execute query).run s = .error .digits s) := by
  refine ⟨fun announces => ?_, fun silent => e.run_execute_of_not_announces s silent query⟩
  obtain ⟨es, outcome⟩ := e.run_execute s announces query given
  refine ⟨(s.sent (e.callFor query) later).recordAll es, rfl, rfl, ⟨_, outcome⟩, ?_, ?_⟩
  · intro text
    rw [outcome, ← Reply.verdict_eq_ok_iff]
    cases reply.verdict <;> simp [Act.ended]
  · rw [outcome, ← Reply.verdict_eq_failed_iff]
    cases reply.verdict <;> simp [Act.ended]

def localEndpoint : Endpoint :=
  ⟨.text "http://localhost/sparql", .post, .integer 30, .text Vocabulary.sparqlJson, none⟩

/-- A server error with a text is a failed exchange, and a later reply is left. -/
theorem execute_answers_or_fails_iff_down :
    ∃ s' : Session, s'.replies = [.answer 200 (some "up")] ∧
      s'.calls = #[localEndpoint.callFor "ASK \x7b\x7d"] ∧
      ∃ fault, (localEndpoint.execute "ASK \x7b\x7d").run
        (.start [.answer 503 (some "down"), .answer 200 (some "up")]) =
          .error (.execution fault) s' ∧ fault.code? = some 503 := by
  obtain ⟨s', calls, replies, -, -, failed⟩ := (localEndpoint.execute_answers_or_fails_iff
    (.start [.answer 503 (some "down"), .answer 200 (some "up")]) "ASK \x7b\x7d" rfl).1 ⟨rfl, rfl⟩
  refine ⟨s', replies, calls, failed.mpr ⟨?_, ?_⟩⟩
  · rintro text ⟨status, ⟨⟩, -, high, -⟩
    exact absurd high (by decide)
  · rintro ⟨status, ⟨⟩, -⟩

/-- A server error without a body is neither an answer nor a failed exchange. -/
theorem mute_reply_not_failed :
    (∀ text, ¬ (Reply.answer 500 none).Answers text) ∧
      ¬ ∃ fault s', (localEndpoint.execute "ASK \x7b\x7d").run (.start [.answer 500 none]) =
        .error (.execution fault) s' := by
  constructor
  · rintro text ⟨status, ⟨⟩, -⟩
  · rintro ⟨fault, s', failed⟩
    cases failed

end Endpoint

end SparqlCompose
