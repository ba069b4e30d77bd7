import SparqlCompose.Proofs.Config.Usable
import SparqlCompose.Proofs.Endpoint.Outcome
import SparqlCompose.Provider.Outcome
import SparqlCompose.Rdf.Turtle.Document

namespace SparqlCompose

namespace Endpoint

theorem payload_callFor (e : Endpoint) (query : String) :
    (e.callFor query).payload = .body query ∨
      (e.callFor query).payload = .parameters [("query", query)] := by
  unfold callFor
  cases e.method with
  | post => exact .inl rfl
  | get => exact .inr rfl

theorem get?_accept (e : Endpoint) (query : String) (mediaType : String) :
    Entries.get? "Accept" ({ e with accept := .text mediaType }.callFor query).headers =
      some (.text mediaType) := by
  unfold callFor
  cases e.method <;> rfl

end Endpoint

namespace Provider

variable {α : Type} {s : Services} {e : Endpoint} {q : QueryId} {query : String}

def exchange (s : Services) (r : Request) (mediaType : String) (q : QueryId) (k : String → Act α) :
    Act α := do
  let endpoint ← Act.ofExcept (s.endpoint r)
  let endpoint ← Act.ofExcept (endpoint.accepting (.text mediaType))
  let body ← endpoint.executeQuery q
  k body

theorem run_exchange {mediaType : String} (filled : mediaType ≠ "")
    (configured : s.config.Describes e)
    (r : Request) (st : Session) (written : st.draft.sparql standardIndent q = .ok query)
    {reply : Reply} {later : List Reply} (given : st.replies = reply :: later)
    (k : String → Act α) :
    ∃ es,
      (∀ body, reply.verdict = .ok body → (exchange s r mediaType q k).run st = (k body).run
        ((st.sent ({ e with accept := .text mediaType }.callFor query) later).recordAll es)) ∧
      ∀ failure, reply.verdict = .error failure → (exchange s r mediaType q k).run st =
        .error failure
          ((st.sent ({ e with accept := .text mediaType }.callFor query) later).recordAll es) := by
  obtain ⟨url, is⟩ := configured.addressed
  have accepted : ({ e with request := some r } : Endpoint).accepting (.text mediaType) =
      .ok { e with accept := .text mediaType, request := some r } :=
    Endpoint.accepting_of_some _ (by simpa using filled)
  have started : (exchange s r mediaType q k).run st = (Endpoint.executeQuery
      { e with accept := .text mediaType, request := some r } q >>= k).run st := by
    unfold exchange
    rw [Services.endpoint, configured.endpointFor]
    refine (Act.run_bind_ok (Act.run_ofExcept_ok _ _)).trans ?_
    rw [accepted]
    exact Act.run_bind_ok (Act.run_ofExcept_ok _ _)
  have sends : ∃ es, (Endpoint.executeQuery
      { e with accept := .text mediaType, request := some r } q).run st = Act.ended
        ((st.sent ({ e with accept := .text mediaType }.callFor query) later).recordAll es)
        reply.verdict :=
    Endpoint.run_executeQuery _ st ⟨by rw [is]; rfl, rfl⟩ written given
  obtain ⟨es, sends⟩ := sends
  rw [started]
  refine ⟨es, fun body answered => ?_, fun failure failed => ?_⟩
  · rw [answered] at sends
    exact Act.run_bind_ok sends
  · rw [failed] at sends
    exact Act.run_bind_error sends

def standardServices : Services := ⟨⟨.mapping [], "", []⟩, false, Rdf.Turtle.read⟩

theorem valid_standardServices : standardServices.config.validate = .ok () := by rfl

end Provider

end SparqlCompose
