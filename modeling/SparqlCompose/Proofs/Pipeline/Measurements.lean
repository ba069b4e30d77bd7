import SparqlCompose.Proofs.Pipeline.Visit
import SparqlCompose.Proofs.Provider.CountQuery
import SparqlCompose.Proofs.Provider.DataText
import SparqlCompose.Proofs.Provider.Exchange

namespace SparqlCompose

namespace Rdf.Triple

def Within (t : Triple) (model : List Triple) : Prop := ∃ kept ∈ model, kept.folded = t.folded

theorem insert_cases (t : Triple) (ts : List Triple) :
    (t.Within ts ∧ t.insert ts = ts) ∨ (¬ t.Within ts ∧ t.insert ts = ts ++ [t]) := by
  have known : ts.any (·.folded == t.folded) = true ↔ t.Within ts := by simp [Within]
  rw [← known, insert]
  split
  case isTrue there => exact .inl ⟨there, rfl⟩
  case isFalse absent => exact .inr ⟨absent, rfl⟩

/-- The model after triples were added to it: it goes on as it was, holds the new triples, and
nothing else, and none twice unless it did before. -/
structure Joins (old new model : List Triple) : Prop where
  kept : old <+: model
  added : ∀ t ∈ new, t.Within model
  only : ∀ t ∈ model, t ∈ old ∨ t ∈ new
  once : (old.map folded).Nodup → (model.map folded).Nodup

theorem Joins.refl (old : List Triple) : Joins old [] old :=
  ⟨List.prefix_refl old, nofun, fun _ member => .inl member, id⟩

theorem Joins.trans {old new new' model model' : List Triple} (first : Joins old new model)
    (second : Joins model new' model') : Joins old (new ++ new') model' where
  kept := first.kept.trans second.kept
  added := by
    intro t member
    rcases List.mem_append.mp member with early | late
    · obtain ⟨kept, there, same⟩ := first.added t early
      exact ⟨kept, second.kept.subset there, same⟩
    · exact second.added t late
  only := by
    intro t member
    rcases second.only t member with there | late
    · exact (first.only t there).imp_right (List.mem_append_left _)
    · exact .inr (List.mem_append_right _ late)
  once := fun distinct => second.once (first.once distinct)

theorem joins_insert (t : Triple) (old : List Triple) : Joins old [t] (t.insert old) := by
  rcases insert_cases t old with ⟨there, same⟩ | ⟨absent, grown⟩
  · rw [same]
    exact ⟨List.prefix_refl old, by simpa using there, fun _ member => .inl member, id⟩
  · rw [grown]
    refine ⟨List.prefix_append old [t], ?_, fun _ member => List.mem_append.mp member, ?_⟩
    · simpa using ⟨t, List.mem_append_right old (.head _), rfl⟩
    · intro distinct
      rw [List.map_append, List.nodup_append]
      refine ⟨distinct, List.nodup_singleton _, ?_⟩
      rintro f member g (_ | ⟨_, ⟨⟩⟩) rfl
      exact absent (by simpa [Within] using member)

theorem joins_insertAll (new old : List Triple) : Joins old new (insertAll new old) := by
  induction new generalizing old with
  | nil => exact .refl old
  | cons t new ih => exact (joins_insert t old).trans (ih (t.insert old))

end Rdf.Triple

/-- The texts are read one after the other, each to its end, and these are the triples they hold. -/
inductive Rdf.ReadsAll (read : Rdf.Reader) : List String → List String → List Rdf.Triple → Prop
  | nil (earlier : List String) : ReadsAll read earlier [] []
  | cons {earlier texts : List String} {text : String} {triples others : List Rdf.Triple}
      (complete : read earlier text = (triples, true))
      (rest : ReadsAll read (earlier ++ [text]) texts others) :
      ReadsAll read earlier (text :: texts) (triples ++ others)

def Session.joined (st : Session) (document : String) (triples : List Rdf.Triple) : Session :=
  { st with
    triples := Rdf.Triple.insertAll triples st.triples, documents := st.documents ++ [document] }

namespace Act

theorem run_load (read : Rdf.Reader) (document : String) (st : Session) :
    (load read document).run st =
      ended (st.joined document (read st.documents document).1)
        (if (read st.documents document).2 then .ok () else .error .turtle) := by
  have made : (load read document).run st = (do
      modify fun s : Session => { s with
        triples := Rdf.Triple.insertAll (read st.documents document).1 s.triples,
        documents := s.documents ++ [document] }
      if (read st.documents document).2 then pure () else throw .turtle : Act Unit).run st := rfl
  rw [made]
  cases (read st.documents document).2 <;> rfl

end Act

/-- The reply answers with a text that is read to its end after those before it. -/
def Reply.Brings (read : Rdf.Reader) (earlier : List String) (reply : Reply)
    (triples : List Rdf.Triple) : Prop :=
  ∃ text, reply.Answers text ∧ read earlier text = (triples, true)

/-- One call is sent, and what the reply brings is added to the data model. Where it brings nothing,
the failure is reported, and only triples of its text have been added. -/
structure Act.Loads (read : Rdf.Reader) (a : Act Unit) (st : Session) (call : Call) (reply : Reply)
    (later : List Reply) : Prop where
  brought : ∀ text triples, reply.Answers text → read st.documents text = (triples, true) →
    ∃ d, a.run st = .ok () ⟨d, later, st.calls.push call,
      Rdf.Triple.insertAll triples st.triples, st.documents ++ [text]⟩
  failed : (∀ triples, ¬ reply.Brings read st.documents triples) →
    ∃ failure d part documents, a.run st = .error failure ⟨d, later, st.calls.push call,
      Rdf.Triple.insertAll part st.triples, documents⟩ ∧
    ∀ t ∈ part, ∃ text, reply.Answers text ∧ t ∈ (read st.documents text).1

namespace Provider

def Fetches (s : Services) (r : Request) (x : Provider) (call : Call) : Prop :=
  Entries.get? "Accept" call.headers = some (.text Vocabulary.turtle) ∧
    ∃ text, (call.payload = .body text ∨ call.payload = .parameters [("query", text)]) ∧
      ∀ d, ∃ q d', (x.dataQuery s r).run d = .ok q d' ∧ d'.sparql standardIndent q = .ok text

def fetchCall (e : Endpoint) (county stateCode : String) (x : Provider) : Call :=
  { e with accept := .text Vocabulary.turtle }.callFor (ended (dataLines county stateCode x.graph))

section Runs

variable {s : Services} {e : Endpoint} {r : Request} {x : Provider} {county stateCode : String}

theorem exists_dataText (s : Services) (known : x = .water ∨ x = .air)
    (accepts : Accepts r county stateCode) (d : Draft) :
    ∃ q d', (x.dataQuery s r).run d = .ok q d' ∧
      d'.sparql standardIndent q = .ok (ended (dataLines county stateCode x.graph)) :=
  ⟨_, _, run_dataQuery (clean_graph known).1 s accepts d,
    sparql_dataSheet county stateCode _ x s.strict⟩

theorem fetches_fetchCall (e : Endpoint) (known : x = .water ∨ x = .air)
    (accepts : Accepts r county stateCode) : x.Fetches s r (fetchCall e county stateCode x) :=
  ⟨Endpoint.get?_accept e _ _, _, Endpoint.payload_callFor _ _, exists_dataText s known accepts⟩

def load (x : Provider) (s : Services) (r : Request) (document : String) : Act Unit := do
  let before := (← get).triples.length
  Act.load s.turtle document
  Edit.report r .info s!"{x.name} loaded {(← get).triples.length - before} triples"

theorem run_load (x : Provider) (s : Services) (r : Request) (document : String) (st : Session) :
    ∃ es, (x.load s r document).run st =
      Act.ended ((st.joined document (s.turtle st.documents document).1).recordAll es)
        (if (s.turtle st.documents document).2 then .ok () else .error .turtle) := by
  have loaded := Act.run_load s.turtle document st
  cases complete : (s.turtle st.documents document).2 with
  | true =>
    rw [complete] at loaded
    exact ⟨_, (Act.run_bind_ok (EStateM.run_get _)).trans ((Act.run_bind_ok loaded).trans
      ((Act.run_bind_ok (EStateM.run_get _)).trans (Act.run_report _ _ _ _)))⟩
  | false =>
    rw [complete] at loaded
    refine ⟨#[], (Act.run_bind_ok (EStateM.run_get _)).trans ?_⟩
    rw [Session.recordAll_empty]
    exact Act.run_bind_error loaded

theorem run_fetching
    (configured : s.config.Describes e)
    (known : x = .water ∨ x = .air) (accepts : Accepts r county stateCode) (st : Session)
    {reply : Reply} {later : List Reply} (given : st.replies = reply :: later) :
    ∃ d,
      (∀ document, reply.verdict = .ok document → (x.visitDataModel s r).run st =
        (x.load s r document).run ((st.sent (fetchCall e county stateCode x) later).withDraft d)) ∧
      ∀ failure, reply.verdict = .error failure → (x.visitDataModel s r).run st =
        .error failure ((st.sent (fetchCall e county stateCode x) later).withDraft d) := by
  obtain ⟨d₀, announced⟩ : ∃ d₀, (Act.edit (Edit.report r .debug
      s!"Visiting {x.name} building data model")).run st = .ok () (st.withDraft d₀) :=
    ⟨_, Act.run_report _ _ _ _⟩
  obtain ⟨q, d, composed, written⟩ := exists_dataText s known accepts d₀
  have within : (Act.edit (x.dataQuery s r)).run (st.withDraft d₀) = .ok q (st.withDraft d) :=
    (Act.run_edit _ _).trans (congrArg (Act.within _) composed)
  have started : (x.visitDataModel s r).run st =
      (exchange s r Vocabulary.turtle q (x.load s r)).run (st.withDraft d) :=
    (Act.run_bind_ok announced).trans (Act.run_bind_ok within)
  have filled : Vocabulary.turtle ≠ "" := by decide
  obtain ⟨es, answered, failed⟩ :=
    run_exchange filled configured r (st.withDraft d) written given (x.load s r)
  rw [started]
  exact ⟨_, answered, failed⟩

theorem loads_visitDataModel
    (configured : s.config.Describes e)
    (known : x = .water ∨ x = .air) (accepts : Accepts r county stateCode) (st : Session)
    {reply : Reply} {later : List Reply} (given : st.replies = reply :: later) :
    (x.visitDataModel s r).Loads s.turtle st (fetchCall e county stateCode x) reply later := by
  obtain ⟨d, fetched, failed⟩ := run_fetching configured known accepts st given
  cases verdict : reply.verdict with
  | error failure =>
    constructor
    · intro text triples answered
      rw [← Reply.verdict_eq_ok_iff, verdict] at answered
      cases answered
    · exact fun _ => ⟨failure, d, [], st.documents, failed failure verdict, nofun⟩
  | ok document =>
    have answered := (Reply.verdict_eq_ok_iff reply document).mp verdict
    obtain ⟨es, loaded⟩ := run_load x s r document
      ((st.sent (fetchCall e county stateCode x) later).withDraft d)
    have ran := (fetched document verdict).trans loaded
    change _ = Act.ended _ (if (s.turtle st.documents document).2 then _ else _) at ran
    constructor
    · intro text triples answered' read
      rw [← Reply.verdict_eq_ok_iff, verdict] at answered'
      cases answered'
      obtain rfl : (s.turtle st.documents document).1 = triples := congrArg Prod.fst read
      rw [read, if_pos rfl] at ran
      exact ⟨_, ran⟩
    · intro brings
      have incomplete : (s.turtle st.documents document).2 = false := by
        by_contra complete
        exact brings _ ⟨document, answered, Prod.ext rfl (by simpa using complete)⟩
      rw [incomplete] at ran
      exact ⟨_, _, _, _, ran, fun t member => ⟨document, answered, member⟩⟩

def measurementParameters : List (String × String) :=
  [("state", stateRemark), ("county", countyRemark), ("stateCode", stateCodeRemark)]

theorem demands_place (r : Request) : r.Demands measurementParameters
    (r.require "state" stateRemark >>= fun _ => region r) :=
  Request.demands_cons fun _ => demands_region r

theorem run_dataQuery_error (x : Provider) (s : Services) {failure : Failure}
    (refused : (r.require "state" stateRemark >>= fun _ => region r) = .error failure)
    (d : Draft) : (x.dataQuery s r).run d = .error failure d := by
  rw [dataQuery]
  cases state : r.require "state" stateRemark with
  | error failure' =>
    rw [state] at refused
    cases refused
    rfl
  | ok v =>
    rw [state] at refused
    change region r = _ at refused
    rw [refused]
    rfl

theorem exists_accepts (complete : ∀ parameter ∈ measurementParameters, ¬ r.Lacks parameter.1)
    (printed : ∀ name ∈ ["county", "stateCode"], r.Prints name) :
    ∃ county stateCode, Accepts r county stateCode := by
  obtain ⟨state, -, givenState⟩ := Request.exists_require (complete _ (.head _))
  obtain ⟨v, isCounty, givenCounty⟩ := Request.exists_require (complete _ (.tail _ (.head _)))
  obtain ⟨w, isCode, givenCode⟩ :=
    Request.exists_require (complete _ (.tail _ (.tail _ (.head _))))
  obtain ⟨county, shownCounty⟩ := printed _ (.head _) v isCounty
  obtain ⟨code, shownCode⟩ := printed _ (.tail _ (.head _)) w isCode
  exact ⟨county, code, ⟨state, givenState _⟩, ⟨v, givenCounty _, shownCounty⟩,
    ⟨w, givenCode _, shownCode⟩⟩

end Runs

end Provider

namespace Pipeline

open Provider

variable {p : Pipeline} {ps : List Provider} {s : Services} {e : Endpoint} {r : Request}
  {county stateCode : String}

def fetchOf (s : Services) (r : Request) (x : Provider) : Act Unit := do
  Edit.report r .debug s!"{x.name} visiting data model"
  x.visitDataModel s r

theorem OfDomains.visitDataModel_eq (h : p.OfDomains ps) (r : Request) :
    p.visitDataModel r = ps.forM (fetchOf p.services r) := by
  rw [visitDataModel, h.modules]
  exact List.forM_map

theorem loads_fetchOf {x : Provider}
    (configured : s.config.Describes e)
    (known : x = .water ∨ x = .air) (accepts : Accepts r county stateCode) (st : Session)
    {reply : Reply} {later : List Reply} (given : st.replies = reply :: later) :
    (fetchOf s r x).Loads s.turtle st (fetchCall e county stateCode x) reply later := by
  have started : (fetchOf s r x).run st = (x.visitDataModel s r).run
      (st.recordAll #[⟨.debug, r.mark s!"{x.name} visiting data model"⟩]) :=
    Act.run_bind_ok (Act.run_report _ _ _ _)
  obtain ⟨brought, failed⟩ := loads_visitDataModel configured known accepts
    (st.recordAll #[⟨.debug, r.mark s!"{x.name} visiting data model"⟩]) given
  rw [← started] at brought failed
  exact ⟨brought, failed⟩

theorem run_fetchOf_refused (x : Provider) (s : Services)
    (lacks : ∃ parameter ∈ measurementParameters, r.Lacks parameter.1) (st : Session) :
    ∃ d, ∃ parameter ∈ measurementParameters, r.Lacks parameter.1 ∧ (fetchOf s r x).run st =
      .error (.parameter parameter.1 parameter.2) (st.withDraft d) := by
  let visited := st.recordAll #[⟨.debug, r.mark s!"{x.name} visiting data model"⟩]
  let announced := visited.recordAll #[⟨.debug, r.mark s!"Visiting {x.name} building data model"⟩]
  obtain ⟨parameter, listed, lacking, refused⟩ := demands_place r lacks
  have within : (Act.edit (x.dataQuery s r)).run announced = .error _ announced :=
    (Act.run_edit _ _).trans (congrArg (Act.within _) (run_dataQuery_error x s refused _))
  exact ⟨announced.draft, parameter, listed, lacking,
    (Act.run_bind_ok (Act.run_report st _ _ _)).trans
      ((Act.run_bind_ok (Act.run_report visited _ _ _)).trans (Act.run_bind_error within))⟩

/-- As long as the replies bring documents, each provider in turn sends its request and adds its
document. -/
theorem run_fetchAll
    (configured : s.config.Describes e)
    (known : ∀ x ∈ ps, x = .water ∨ x = .air) (accepts : Accepts r county stateCode)
    {bs later : List Reply} {texts : List String} {triples : List Rdf.Triple}
    (answered : List.Forall₂ Reply.Answers bs texts) (each : bs.length = ps.length) (st : Session)
    (reads : Rdf.ReadsAll s.turtle st.documents texts triples) (given : st.replies = bs ++ later) :
    ∃ d, (ps.forM (fetchOf s r)).run st =
      .ok () ⟨d, later, st.calls ++ (ps.map (fetchCall e county stateCode)).toArray,
        Rdf.Triple.insertAll triples st.triples, st.documents ++ texts⟩ := by
  induction ps generalizing bs texts triples st with
  | nil =>
    obtain rfl := List.length_eq_zero_iff.mp each
    cases answered
    cases reads
    obtain ⟨d, replies, calls, triples, documents⟩ := st
    cases given
    exact ⟨d, by simp [Rdf.Triple.insertAll]⟩
  | cons x ps ih =>
    obtain ⟨first, others⟩ := List.forall_mem_cons.mp known
    cases answered with
    | nil => cases each
    | @cons reply text bs texts now next =>
      cases reads with
      | @cons _ _ _ triples later' complete rest =>
        obtain ⟨d, ran⟩ :=
          (loads_fetchOf configured first accepts st given).brought text triples now complete
        obtain ⟨d', ran'⟩ := ih others next (Nat.succ.inj each)
          ⟨d, bs ++ later, st.calls.push (fetchCall e county stateCode x),
            Rdf.Triple.insertAll triples st.triples, st.documents ++ [text]⟩ rest rfl
        refine ⟨d', (Act.run_bind_ok ran).trans (ran'.trans ?_)⟩
        simp [Rdf.Triple.insertAll]

/-- A request that lacks a parameter is refused before anything is sent. Otherwise the providers
send their requests in turn. The first that gets no document, or a faulty one, ends the visit, and
the documents before it have been added; if there is none, all documents have been added. -/
theorem measurements_up_to_failure (h : p.OfDomains ps) (some : ps ≠ [])
    (valid : p.services.config.validate = .ok ()) (r : Request) (st : Session) :
    ((∃ parameter ∈ measurementParameters, r.Lacks parameter.1) →
      ∃ st', ∃ parameter ∈ measurementParameters, r.Lacks parameter.1 ∧
        (p.visitDataModel r).run st = .error (.parameter parameter.1 parameter.2) st' ∧
        st'.calls = st.calls ∧ st'.replies = st.replies ∧ st'.triples = st.triples) ∧
    ((∀ parameter ∈ measurementParameters, ¬ r.Lacks parameter.1) →
      (∀ name ∈ ["county", "stateCode"], r.Prints name) →
      ∀ (bs later : List Reply) (texts : List String) (triples : List Rdf.Triple),
        List.Forall₂ Reply.Answers bs texts →
        Rdf.ReadsAll p.services.turtle st.documents texts triples →
        (∀ before x after reply, ps = before ++ x :: after → bs.length = before.length →
          st.replies = bs ++ reply :: later →
          (∀ brought, ¬ reply.Brings p.services.turtle (st.documents ++ texts) brought) →
          ∃ failure st' calls part, (p.visitDataModel r).run st = .error failure st' ∧
            st'.replies = later ∧ st'.calls = st.calls ++ calls.toArray ∧
            List.Forall₂ (Fetches p.services r) (before ++ [x]) calls ∧
            Rdf.Triple.Joins st.triples (triples ++ part) st'.triples ∧
            ∀ t ∈ part, ∃ text, reply.Answers text ∧
              t ∈ (p.services.turtle (st.documents ++ texts) text).1) ∧
        (bs.length = ps.length → st.replies = bs ++ later →
          ∃ st' calls, (p.visitDataModel r).run st = .ok () st' ∧
            st'.replies = later ∧ st'.calls = st.calls ++ calls.toArray ∧
            List.Forall₂ (Fetches p.services r) ps calls ∧
            Rdf.Triple.Joins st.triples triples st'.triples)) := by
  obtain ⟨e, configured⟩ := p.services.config.exists_describes valid
  rw [h.visitDataModel_eq]
  constructor
  · intro lacks
    obtain ⟨x, rest, rfl⟩ := List.exists_cons_of_ne_nil some
    obtain ⟨d, parameter, listed, lacking, refused⟩ := run_fetchOf_refused x p.services lacks st
    exact ⟨_, parameter, listed, lacking, Act.run_bind_error refused, rfl, rfl, rfl⟩
  · intro complete printed bs later texts triples answered reads
    obtain ⟨county, stateCode, accepts⟩ := exists_accepts complete printed
    have fetches : ∀ {xs : List Provider}, (∀ x ∈ xs, x = .water ∨ x = .air) →
        List.Forall₂ (Fetches p.services r) xs (xs.map (fetchCall e county stateCode)) := by
      intro xs known
      rw [List.forall₂_map_right_iff, List.forall₂_same]
      exact fun x member => fetches_fetchCall e (known x member) accepts
    constructor
    · rintro before x after reply rfl each given faulty
      obtain ⟨known, knownX, -⟩ : (∀ y ∈ before, y = .water ∨ y = .air) ∧
          (x = .water ∨ x = .air) ∧ ∀ y ∈ after, y = .water ∨ y = .air := by
        simpa only [List.forall_mem_append, List.forall_mem_cons] using h.known
      obtain ⟨d, ran⟩ := run_fetchAll configured known accepts answered each st reads given
      obtain ⟨failure, d', part, documents, failed, inDocument⟩ :=
        (loads_fetchOf configured knownX accepts ⟨d, reply :: later, _, _, st.documents ++ texts⟩
          rfl).failed faulty
      rw [List.forM_eq_forM, List.forM_append]
      refine ⟨failure, _, (before ++ [x]).map (fetchCall e county stateCode), part,
        (Act.run_bind_ok ran).trans (Act.run_bind_error failed), rfl, ?_, fetches ?_, ?_, inDocument⟩
      · simp
      · exact List.forall_mem_append.mpr ⟨known, List.forall_mem_singleton.mpr knownX⟩
      · exact (Rdf.Triple.joins_insertAll _ _).trans (Rdf.Triple.joins_insertAll _ _)
    · intro each given
      obtain ⟨d, ran⟩ := run_fetchAll configured h.known accepts answered each st reads given
      exact ⟨_, _, ran, rfl, rfl, fetches h.known, Rdf.Triple.joins_insertAll _ _⟩

def oneTriple : Rdf.Triple := ⟨.iri "http://x/a", .iri "http://x/b", .iri "http://x/c"⟩

def oneStatement : String := "<http://x/a> <http://x/b> <http://x/c> ."

def bothReplies : List Reply := [.answer 200 (some oneStatement), .failed "timeout"]

theorem answers_oneStatement : (Reply.answer 200 (some oneStatement)).Answers oneStatement :=
  ⟨200, rfl, by decide, by decide, '<', by decide +kernel, rfl⟩

theorem readsAll_oneStatement : Rdf.ReadsAll Rdf.Turtle.read [] [oneStatement] [oneTriple] := by
  have complete : Rdf.Turtle.read [] oneStatement = ([oneTriple], true) := by decide +kernel
  exact .cons complete (.nil _)

theorem prints_countyRequest (county : String) (name : String) :
    (countyRequest county).Prints name :=
  Request.prints_of_texts (by simp [countyRequest]) name

/-- The provider of air gets no reply, and the document of water has been added. -/
theorem measurements_up_to_failure_timeout :
    standardDomains.OfDomains [.water, .air] ∧ [Provider.water, .air] ≠ [] ∧
      standardDomains.services.config.validate = .ok () ∧
      ∃ failure st', (standardDomains.visitDataModel (countyRequest "Boulder")).run
          (.start bothReplies) = .error failure st' ∧
        st'.calls.size = 2 ∧ oneTriple.Within st'.triples := by
  have valid : standardDomains.services.config.validate = .ok () := by rfl
  have complete : ∀ parameter ∈ measurementParameters,
      ¬ (countyRequest "Boulder").Lacks parameter.1 := by
    simp only [← Request.isMissing_iff]
    decide
  have faulty : ∀ triples, ¬ (Reply.failed "timeout").Brings Rdf.Turtle.read [oneStatement]
      triples := by
    rintro triples ⟨text, ⟨status, ⟨⟩, -⟩, -⟩
  refine ⟨ofDomains_standardDomains, nofun, valid, ?_⟩
  obtain ⟨failure, st', calls, read, ran, -, sent, fetches, joins, -⟩ :=
    ((measurements_up_to_failure ofDomains_standardDomains nofun valid (countyRequest "Boulder")
      (.start bothReplies)).2 complete (fun name _ => prints_countyRequest _ name) _ [] _ _
        (.cons answers_oneStatement .nil) readsAll_oneStatement).1
        [Provider.water] .air [] (.failed "timeout") rfl rfl rfl faulty
  refine ⟨failure, st', ran, ?_, joins.added oneTriple (.head _)⟩
  rw [sent]
  have two := fetches.length_eq
  simpa [Session.start] using two.symm

end Pipeline

end SparqlCompose
