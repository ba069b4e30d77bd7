import SparqlCompose.Endpoint
import SparqlCompose.Proofs.Draft.GroupRuns
import SparqlCompose.Proofs.Draft.Journal

namespace SparqlCompose

namespace Session

def withDraft (s : Session) (d : Draft) : Session := { s with draft := d }

def recordAll (s : Session) (es : Array Entry) : Session := s.withDraft (s.draft.recordAll es)

def sent (s : Session) (call : Call) (later : List Reply) : Session :=
  { s with calls := s.calls.push call, replies := later }

variable (s : Session) (es fs : Array Entry)

@[simp] theorem draft_withDraft (d : Draft) : (s.withDraft d).draft = d := rfl

@[simp] theorem withDraft_withDraft (d d' : Draft) : (s.withDraft d).withDraft d' = s.withDraft d' :=
  rfl

@[simp] theorem recordAll_recordAll : (s.recordAll es).recordAll fs = s.recordAll (es ++ fs) := by
  simp [recordAll]

@[simp] theorem recordAll_empty : s.recordAll #[] = s := by
  rw [recordAll, Draft.recordAll_empty]
  rfl

theorem sent_recordAll (call : Call) (later : List Reply) :
    (s.recordAll es).sent call later = (s.sent call later).recordAll es := rfl

end Session

namespace Act

variable {α : Type} (s : Session)

def within (s : Session) : EStateM.Result Failure Draft α → EStateM.Result Failure Session α
  | .ok a d => .ok a (s.withDraft d)
  | .error f d => .error f (s.withDraft d)

theorem run_bind_ok {β : Type} {a : Act α} {k : α → Act β} {s s' : Session} {x : α}
    (done : a.run s = .ok x s') : (a >>= k).run s = (k x).run s' := by
  rw [EStateM.run_bind, done]

theorem run_bind_error {β : Type} {a : Act α} {k : α → Act β} {s s' : Session} {f : Failure}
    (failed : a.run s = .error f s') : (a >>= k).run s = .error f s' := by
  rw [EStateM.run_bind, failed]

theorem run_edit (e : Edit α) : (edit e).run s = within s (e.run s.draft) := by
  show edit e s = within s (e s.draft)
  unfold edit
  cases e s.draft <;> rfl

@[simp] theorem run_ofExcept_ok (a : α) : (ofExcept (.ok a)).run s = .ok a s := rfl

@[simp] theorem run_ofExcept_error (f : Failure) :
    (ofExcept (.error f : Except Failure α)).run s = .error f s := rfl

theorem run_report (r : Request) (level : Level) (message : String) :
    (edit (Edit.report r level message)).run s =
      .ok () (s.recordAll #[⟨level, r.mark message⟩]) := by
  rw [run_edit, Edit.report, Edit.run_log, Draft.record_eq_recordAll]
  rfl

theorem run_send {reply : Reply} {later : List Reply} (call : Call)
    (given : s.replies = reply :: later) : (send call).run s = .ok reply (s.sent call later) := by
  unfold send
  simp only [EStateM.run_bind, EStateM.run_get, given]
  rfl

end Act

end SparqlCompose
