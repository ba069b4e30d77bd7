import SparqlCompose.Proofs.Provider.Answers
import SparqlCompose.Provider.Water

namespace SparqlCompose

def Reply.Serves (reply : Reply) (method : RawText) : Prop :=
  (method = "query_for_data_sources" ∧ ∃ rows, reply.Lists rows) ∨
    (method = "get_site_counts" ∧ ∃ rows, reply.Counts rows)

theorem Reply.serves_sources_iff (reply : Reply) :
    reply.Serves "query_for_data_sources" ↔ ∃ rows, reply.Lists rows := by
  simp [Serves]

theorem Reply.serves_counts_iff (reply : Reply) :
    reply.Serves "get_site_counts" ↔ ∃ rows, reply.Counts rows := by
  simp [Serves]

namespace Provider

/-- The method of this name does not accept the parameters of the request. -/
def Declines (method : RawText) (r : Request) : Prop := method = "get_site_counts" ∧ r.HalvesRegion

theorem declines_congr {method : RawText} {r r' : Request}
    (same : ∀ name, r.parameter? name = r'.parameter? name) :
    Declines method r ↔ Declines method r' :=
  and_congr_right fun _ => Request.halvesRegion_congr same

/-- The method of this name reads the region, which is whole and has surrogates. -/
def Garbles (method : RawText) (r : Request) : Prop :=
  method = "get_site_counts" ∧ ¬ r.HalvesRegion ∧
    ¬ ∀ name ∈ ["county", "stateCode"], r.Prints name

theorem garbles_congr {method : RawText} {r r' : Request}
    (same : ∀ name, r.parameter? name = r'.parameter? name) :
    Garbles method r ↔ Garbles method r' := by
  simp only [Garbles, Request.halvesRegion_congr same, Request.Prints, same]

def RefusesRegion (a : Act Response) (r : Request) : Prop :=
  ∀ st, ∃ d, ∃ parameter ∈ regionParameters, r.Lacks parameter.1 ∧
    a.run st = .error (.parameter parameter.1 parameter.2) (Session.withDraft st d)

def Breaks (a : Act Response) : Prop :=
  ∀ st, ∃ d, a.run st = .error .unencodable (Session.withDraft st d)

/-- One request is sent, and when this is the reply then this is the answer. -/
def AnswersOnce (a : Act Response) (call : Call) (reply : Reply) (response : Response) : Prop :=
  ∀ st later, st.replies = reply :: later →
    ∃ d, a.run st = .ok response (Session.withDraft (st.sent call later) d)

/-- The answer is a success just when the reply serves the method, and else it is the bare failure; it
can be written as a document and read back. -/
structure Fits (method : RawText) (reply : Reply) (response : Response) : Prop where
  success_iff : response.success = true ↔ reply.Serves method
  bare : response.success = false → response = .failed
  plain : response.document.IsPlain

section Runs

variable {s : Services} {e : Endpoint} {reply : Reply}

theorem fits_listing (heard : ¬ reply.Mute)
    (shallow : ∀ text, reply.Answers text → Json.read text ≠ .error .tooDeep) :
    Fits "query_for_data_sources" reply (recovered (listing reply)) := by
  rcases listing_cases heard shallow with
    ⟨data, listed, ⟨rows, lists⟩, each⟩ | ⟨none, failure, failed, -⟩
  · rw [listed]
    exact ⟨⟨fun _ => reply.serves_sources_iff.mpr ⟨rows, lists⟩, fun _ => rfl⟩, nofun,
      isPlain_listing lists (each rows lists)⟩
  · rw [failed]
    refine ⟨⟨nofun, fun serves => ?_⟩, fun _ => rfl, isPlain_failed⟩
    obtain ⟨rows, lists⟩ := reply.serves_sources_iff.mp serves
    exact absurd lists (none rows)

theorem fits_counting (heard : ¬ reply.Mute)
    (shallow : ∀ text, reply.Answers text → Json.read text ≠ .error .tooDeep)
    {classes : List String} (named : ∀ uri ∈ classes, uri ≠ "") :
    Fits "get_site_counts" reply (recovered (counting classes reply)) := by
  rcases counting_cases heard shallow named with
    ⟨rows, data, counts, counted, each⟩ | ⟨none, failure, failed, -⟩
  · rw [counted]
    exact ⟨⟨fun _ => reply.serves_counts_iff.mpr ⟨rows, counts⟩, fun _ => rfl⟩, nofun,
      isPlain_counting each⟩
  · rw [failed]
    refine ⟨⟨nofun, fun serves => ?_⟩, fun _ => rfl, isPlain_failed⟩
    obtain ⟨rows, counts⟩ := reply.serves_counts_iff.mp serves
    exact absurd counts (none rows)

def countedClasses : List String := [siteIri, Vocabulary.pollution ++ "Facility"]

theorem named_countedClasses : ∀ uri ∈ countedClasses, uri ≠ "" := by decide

theorem run_siteCounts (s : Services) (r : Request) (st : Session) :
    (siteCounts s r).run st = (countInstances s r countedClasses).run
      (st.recordAll #[⟨.debug, r.mark "get_site_counts"⟩]) :=
  Act.run_bind_ok (Act.run_report _ _ _ _)

theorem refusesRegion_siteCounts (s : Services) {r : Request} (half : r.HalvesRegion) :
    RefusesRegion (siteCounts s r) r := by
  intro st
  rw [run_siteCounts]
  exact run_countInstances_refused s half countedClasses _

theorem breaks_siteCounts (s : Services) {r : Request} (texts : r.Textual)
    (whole : ¬ r.HalvesRegion) (garbled : ¬ ∀ name ∈ ["county", "stateCode"], r.Prints name) :
    Breaks (siteCounts s r) := by
  intro st
  rw [run_siteCounts]
  exact run_countInstances_garbled s texts whole garbled countedClasses _

theorem answersOnce_siteCounts (configured : s.config.Describes e) {r : Request}
    {region : Option (String × String)} (locates : r.Locates region) (heard : ¬ reply.Mute)
    (shallow : ∀ text, reply.Answers text → Json.read text ≠ .error .tooDeep) :
    AnswersOnce (siteCounts s r) (tableCall e (ended (countLines region))) reply
      (recovered (counting countedClasses reply)) := by
  intro st later given
  rw [run_siteCounts]
  exact run_countInstances configured locates named_countedClasses given heard shallow

theorem answersOnce_listSources (configured : s.config.Describes e) (r : Request)
    (heard : ¬ reply.Mute)
    (shallow : ∀ text, reply.Answers text → Json.read text ≠ .error .tooDeep) :
    AnswersOnce (listSources s r) (tableCall e sourceText) reply (recovered (listing reply)) :=
  fun _ _ given => run_listSources configured r given heard shallow

end Runs

/-- A method that declines its parameters refuses them, and breaks over surrogates in them; else it
answers once. -/
theorem method_cases {s : Services} (valid : s.config.validate = .ok ()) {method : String}
    {act : Services → Request → Act Response} (listed : (method, act) ∈ water.methods)
    {r : Request} (texts : r.Textual) :
    (Declines method r ∧ RefusesRegion (act s r) r) ∨
    (Garbles method r ∧ Breaks (act s r)) ∨
    (¬ Declines method r ∧ ¬ Garbles method r ∧ ∃ call, ∀ reply : Reply, ¬ reply.Mute →
      (∀ text, reply.Answers text → Json.read text ≠ .error .tooDeep) →
      ∃ response, AnswersOnce (act s r) call reply response ∧ Fits method reply response) := by
  obtain ⟨e, configured⟩ := s.config.exists_describes valid
  simp only [water, List.mem_cons, List.not_mem_nil, or_false] at listed
  rcases listed with same | same <;> cases same
  · by_cases half : r.HalvesRegion
    case pos => exact .inl ⟨⟨rfl, half⟩, refusesRegion_siteCounts s half⟩
    by_cases printed : ∀ name ∈ ["county", "stateCode"], r.Prints name
    · obtain ⟨region, locates⟩ := Request.exists_locates printed half
      exact .inr (.inr ⟨fun declines => half declines.2, fun garbles => garbles.2.2 printed, _,
        fun reply heard shallow => ⟨_, answersOnce_siteCounts configured locates heard shallow,
          fits_counting heard shallow named_countedClasses⟩⟩)
    · exact .inr (.inl ⟨⟨rfl, half, printed⟩, breaks_siteCounts s texts half printed⟩)
  · have other : RawText.ofString "query_for_data_sources" ≠ "get_site_counts" := by decide
    exact .inr (.inr ⟨fun declines => other declines.1, fun garbles => other garbles.1, _,
      fun reply heard shallow => ⟨_, answersOnce_listSources configured r heard shallow,
        fits_listing heard shallow⟩⟩)

end Provider

end SparqlCompose
