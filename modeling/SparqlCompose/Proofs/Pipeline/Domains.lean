import SparqlCompose.Proofs.Pipeline.Visit
import SparqlCompose.Proofs.Provider.SourceList

namespace SparqlCompose

namespace Domain

open Entries (putAll)

theorem addSources_eq (d : Domain) (pairs : List (RawText × RawText)) :
    d.addSources pairs = { d with sources := putAll pairs d.sources } := by
  induction pairs generalizing d with
  | nil => rfl
  | cons pair pairs ih => exact ih (d.addSource pair.1 pair.2)

theorem addRegulations_eq (d : Domain) (pairs : List (String × String)) :
    d.addRegulations pairs = { d with regulations := putAll pairs d.regulations } := by
  induction pairs generalizing d with
  | nil => rfl
  | cons pair pairs ih => exact ih (d.addRegulation pair.1 pair.2)

theorem addDataTypes_eq (d : Domain) (types : List DataType) :
    d.addDataTypes types =
      { d with dataTypes := putAll (types.map fun t => (t.identifier, t)) d.dataTypes } := by
  induction types generalizing d with
  | nil => rfl
  | cons t types ih => exact ih (d.addDataType t)

end Domain

/-- The sources of a list, one entry for each address: in the order of the first rows that have the
addresses, and each with the label of the last. -/
structure Source.ListedOnce (data : List Source) (entries : List (RawText × RawText)) : Prop where
  order : Entries.keys entries = (data.map (·.uri)).eraseDups
  last : ∀ uri label, (uri, label) ∈ entries → ∃ before after,
    data = before ++ ⟨uri, label⟩ :: after ∧ ∀ other ∈ after, other.uri ≠ uri

theorem Source.listedOnce_putAll (data : List Source) :
    ListedOnce data (Entries.putAll (data.map fun source => (source.uri, source.label)) []) := by
  have none : (Entries.keys ([] : List (RawText × RawText))).Nodup := List.nodup_nil
  constructor
  · rw [Entries.keys_putAll_eq_eraseDups none, Entries.keys, Entries.keys, List.map_map]
    rfl
  · intro uri label member
    have found := Entries.get?_of_mem (Entries.nodup_keys_putAll _ none) member
    obtain ⟨before, after, split, absent⟩ := Entries.exists_of_get?_putAll found
    obtain ⟨first, rest, rfl, -, others⟩ := List.map_eq_append_iff.mp split
    obtain ⟨source, last, rfl, same, later⟩ := List.map_eq_cons_iff.mp others
    cases same
    refine ⟨first, last, rfl, fun other inside same => absent ?_⟩
    rw [← later, ← same]
    exact List.mem_map_of_mem (List.mem_map_of_mem inside)

namespace Act

variable {α β : Type}

theorem run_mapM_cons {f : α → Act β} {x : α} {xs : List α} {y : β} {ys : List β}
    {s s' s'' : Session} (first : (f x).run s = .ok y s')
    (others : (xs.mapM f).run s' = .ok ys s'') :
    ((x :: xs).mapM f).run s = .ok (y :: ys) s'' := by
  rw [List.mapM_cons]
  exact (run_bind_ok first).trans ((run_bind_ok others).trans rfl)

theorem mapM_flatten_singleton (f : α → Act β) (xs : List α) :
    (do return (← xs.mapM fun x => do return [← f x]).flatten) = xs.mapM f := by
  induction xs with
  | nil => simp
  | cons x xs ih =>
    rw [List.mapM_cons, List.mapM_cons, ← ih]
    simp

end Act

namespace Provider

def domainWith (x : Provider) (sources : List (RawText × RawText)) : Domain :=
  ⟨x.space, some x.label, sources, x.regulations, x.dataTypes.map fun t => (t.identifier, t)⟩

/-- The domain that a provider of water or air measurements has, given the reply. -/
inductive Offers (s : Services) (reply : Reply) : Provider → Domain → Prop
  | water {response : Response} {sources : List (RawText × RawText)}
      (answers : ∀ r st later, st.replies = reply :: later →
        ∃ st', (listSources s r).run st = .ok response st')
      (lists : (∃ data, response = .sources true (some data) ∧ Source.ListedOnce data sources) ∨
        response.success = false ∧ sources = []) :
      Offers s reply .water (Provider.water.domainWith sources)
  | air : Offers s reply .air (Provider.air.domainWith
      [("http://sparql.tw.rpi.edu/source/epa-gov", "epa.gov")])

theorem water_ne_air : Provider.water ≠ .air := by
  intro same
  exact absurd (congrArg Provider.name same) (by decide)

theorem Offers.exists_response {s : Services} {reply : Reply} {domain : Domain}
    (offers : Offers s reply .water domain) :
    ∃ response sources, domain = Provider.water.domainWith sources ∧
      (∀ r st later, st.replies = reply :: later →
        ∃ st', (listSources s r).run st = .ok response st') ∧
      ((∃ data, response = .sources true (some data) ∧ Source.ListedOnce data sources) ∨
        response.success = false ∧ sources = []) := by
  generalize is : Provider.water = x at offers
  cases offers with
  | water answers lists => exact ⟨_, _, rfl, answers, lists⟩
  | air => exact absurd is water_ne_air

theorem Offers.eq_of_air {s : Services} {reply : Reply} {domain : Domain}
    (offers : Offers s reply .air domain) :
    domain = Provider.air.domainWith [("http://sparql.tw.rpi.edu/source/epa-gov", "epa.gov")] := by
  generalize is : Provider.air = x at offers
  cases offers with
  | water => exact absurd is.symm water_ne_air
  | air => rfl

def sourcesIn : Response → List (RawText × RawText)
  | .sources _ (some data) => data.map fun source => (source.uri, source.label)
  | _ => []

theorem run_domain {x : Provider} (known : x = .water ∨ x = .air) {s : Services} {r : Request}
    {sources : List (RawText × RawText)} {st st' : Session}
    (given : (x.sources s r).run st = .ok sources st') :
    (x.domain s r).run st = .ok (x.domainWith (Entries.putAll sources [])) st' := by
  refine (Act.run_bind_ok given).trans ?_
  rw [EStateM.run_pure, Domain.addSources_eq, Domain.addRegulations_eq, Domain.addDataTypes_eq]
  rcases known with rfl | rfl <;> rfl

section Runs

variable {s : Services} {e : Endpoint} {reply : Reply}

theorem run_knownSources
    (configured : s.config.Describes e)
    (heard : ¬ reply.Mute)
    (shallow : ∀ text, reply.Answers text → Json.read text ≠ .error .tooDeep) (r : Request)
    {st : Session} {later : List Reply} (given : st.replies = reply :: later) :
    ∃ d, (knownSources s r).run st = .ok (sourcesIn (recovered (listing reply)))
      ((st.sent (tableCall e sourceText) later).withDraft d) := by
  obtain ⟨d, ran⟩ := run_listSources configured r given heard shallow
  rcases listing_cases heard shallow with ⟨data, listed, -⟩ | ⟨-, failure, failed, -⟩
  · rw [listed] at ran ⊢
    exact ⟨d, Act.run_bind_ok ran⟩
  · rw [failed] at ran ⊢
    exact ⟨_, (Act.run_bind_ok ran).trans (Act.run_bind_ok (Act.run_report _ _ _ _))⟩

theorem offers_water
    (configured : s.config.Describes e)
    (heard : ¬ reply.Mute)
    (shallow : ∀ text, reply.Answers text → Json.read text ≠ .error .tooDeep) :
    Offers s reply .water (Provider.water.domainWith
      (Entries.putAll (sourcesIn (recovered (listing reply))) [])) := by
  have answers : ∀ r st later, st.replies = reply :: later →
      ∃ st', (listSources s r).run st = .ok (recovered (listing reply)) st' := by
    intro r st later given
    obtain ⟨d, ran⟩ := run_listSources configured r given heard shallow
    exact ⟨_, ran⟩
  refine .water answers ?_
  rcases listing_cases heard shallow with ⟨data, listed, -⟩ | ⟨-, failure, failed, -⟩
  · rw [listed]
    exact .inl ⟨data, rfl, Source.listedOnce_putAll data⟩
  · rw [failed]
    exact .inr ⟨rfl, rfl⟩

theorem run_domains {ps : List Provider} (known : ∀ x ∈ ps, x = .water ∨ x = .air)
    (distinct : (ps.map (·.name)).Nodup)
    (configured : s.config.Describes e)
    (heard : ¬ reply.Mute)
    (shallow : ∀ text, reply.Answers text → Json.read text ≠ .error .tooDeep) (r : Request)
    (st : Session) (later : List Reply)
    (given : Provider.water ∈ ps → st.replies = reply :: later) :
    ∃ domains st', (ps.mapM fun x : Provider => x.domain s r).run st = .ok domains st' ∧
      List.Forall₂ (Offers s reply) ps domains ∧
      (Provider.water ∈ ps →
        ∃ d, st' = (st.sent (tableCall e sourceText) later).withDraft d) ∧
      (Provider.water ∉ ps → st' = st) := by
  induction ps generalizing st with
  | nil => exact ⟨[], st, rfl, .nil, nofun, fun _ => rfl⟩
  | cons x ps ih =>
    obtain ⟨first, others⟩ := List.forall_mem_cons.mp known
    obtain ⟨absent, distinct'⟩ := List.nodup_cons.mp distinct
    rcases id first with rfl | rfl
    · have once : Provider.water ∉ ps := fun member => absent (List.mem_map_of_mem member)
      obtain ⟨d, ran⟩ := run_knownSources configured heard shallow r (given (.head _))
      obtain ⟨domains, st', ran', offers, -, rest⟩ := ih others distinct' _ fun member =>
        absurd member once
      obtain rfl := rest once
      exact ⟨_, _, Act.run_mapM_cons (run_domain first ran) ran',
        .cons (offers_water configured heard shallow) offers, fun _ => ⟨d, rfl⟩,
        fun absent => absurd (.head _) absent⟩
    · have inRest : Provider.water ∈ Provider.air :: ps ↔ Provider.water ∈ ps := by
        simp [water_ne_air]
      obtain ⟨domains, st', ran', offers, sent, unsent⟩ := ih others distinct' st fun member =>
        given (.tail _ member)
      rw [inRest]
      exact ⟨_, _, Act.run_mapM_cons (run_domain first rfl) ran', .cons .air offers, sent, unsent⟩

end Runs

end Provider

namespace Pipeline

variable {p : Pipeline} {ps : List Provider}

theorem OfDomains.domains_eq (h : p.OfDomains ps) (r : Request) :
    p.domains r = ps.mapM fun x : Provider => x.domain p.services r := by
  have each : p.modules.filterMap (·.domains?) =
      ps.map fun x : Provider => fun s r => do return [← x.domain s r] := by
    rw [h.modules, List.filterMap_map]
    exact congrFun List.filterMap_eq_map ps
  rw [domains, each, List.mapM_map]
  exact Act.mapM_flatten_singleton _ ps

/-- There is one domain for each provider, in their order, whatever comes back for the one request
that the provider of water sends. Without that provider nothing is sent. -/
theorem domains_survive_reply (h : p.OfDomains ps) (valid : p.services.config.validate = .ok ())
    (r : Request) (st : Session) {reply : Reply} {later : List Reply}
    (given : Provider.water ∈ ps → st.replies = reply :: later) (heard : ¬ reply.Mute)
    (shallow : ∀ text, reply.Answers text → Json.read text ≠ .error .tooDeep) :
    ∃ domains st', (p.domains r).run st = .ok domains st' ∧
      List.Forall₂ (Provider.Offers p.services reply) ps domains ∧
      (Provider.water ∈ ps → st'.replies = later ∧ ∃ call : Call,
        st'.calls = st.calls.push call ∧ (call.payload = .body Provider.sourceText ∨
          call.payload = .parameters [("query", Provider.sourceText)])) ∧
      (Provider.water ∉ ps → st'.replies = st.replies ∧ st'.calls = st.calls) := by
  obtain ⟨e, configured⟩ := p.services.config.exists_describes valid
  obtain ⟨domains, st', ran, offers, sent, unsent⟩ :=
    Provider.run_domains h.known h.distinct configured heard shallow r st later given
  rw [h.domains_eq]
  refine ⟨domains, st', ran, offers, fun member => ?_, fun absent => ?_⟩
  · obtain ⟨d, rfl⟩ := sent member
    exact ⟨rfl, _, rfl, Provider.payload_tableCall _ _⟩
  · rw [unsent absent]
    exact ⟨rfl, rfl⟩

/-- A server error costs the domain of water its sources, and nothing else. -/
theorem domains_survive_reply_down :
    standardDomains.OfDomains [.water, .air] ∧
      standardDomains.services.config.validate = .ok () ∧
      ¬ (Reply.answer 503 (some "down")).Mute ∧
      (∀ text, (Reply.answer 503 (some "down")).Answers text →
        Json.read text ≠ .error .tooDeep) ∧
      ∃ st', (standardDomains.domains ⟨"r", []⟩).run (.start [.answer 503 (some "down")]) =
        .ok [Provider.water.domainWith [], Provider.air.domainWith
          [("http://sparql.tw.rpi.edu/source/epa-gov", "epa.gov")]] st' ∧ st'.replies = [] := by
  have valid : standardDomains.services.config.validate = .ok () := by rfl
  have heard : ¬ (Reply.answer 503 (some "down")).Mute := by
    rintro ⟨status, ⟨⟩, -⟩
  have unanswered : ∀ text, ¬ (Reply.answer 503 (some "down")).Answers text := by
    rintro text ⟨status, ⟨⟩, -, high, -⟩
    exact absurd high (by decide)
  have shallow : ∀ text, (Reply.answer 503 (some "down")).Answers text →
      Json.read text ≠ .error .tooDeep := fun text answered => absurd answered (unanswered text)
  refine ⟨ofDomains_standardDomains, valid, heard, shallow, ?_⟩
  obtain ⟨domains, st', ran, offers, sent, -⟩ := domains_survive_reply ofDomains_standardDomains
    valid ⟨"r", []⟩ (.start [.answer 503 (some "down")]) (fun _ => rfl) heard shallow
  cases offers with
  | cons first others =>
    cases others with
    | cons second none =>
      cases none
      obtain ⟨response, sources, rfl, answers, lists⟩ := first.exists_response
      obtain rfl := second.eq_of_air
      obtain ⟨st₁, answered⟩ := answers ⟨"r", []⟩ (.start [.answer 503 (some "down")]) [] rfl
      have failed : response.success = false := by
        obtain ⟨e, configured⟩ := standardDomains.services.config.exists_describes valid
        have given : (Session.start [.answer 503 (some "down")]).replies =
            [.answer 503 (some "down")] := rfl
        obtain ⟨d, ran'⟩ := Provider.run_listSources configured ⟨"r", []⟩ given heard shallow
        rw [answered] at ran'
        cases ran'
        rfl
      rcases lists with ⟨data, rfl, -⟩ | ⟨-, rfl⟩
      · cases failed
      · exact ⟨st', ran, (sent (.head _)).1⟩

end Pipeline

end SparqlCompose
