import SparqlCompose.Proofs.Number.Numeral
import SparqlCompose.Proofs.Provider.CountQuery
import SparqlCompose.Proofs.Provider.SourceList

namespace SparqlCompose

/-- The row counts the class: it binds the class, and the count to a numeral for this number. -/
def Row.Tallies (members : List (RawText × Value)) (uri : RawText) (n : Int) : Prop :=
  ∃ text, Row.Shows members "type" uri ∧ Row.Shows members "count" text ∧
    ∃ w : Number.Numeral, w.Fits ∧ text.points = w.chars.map .char ∧ w.value = n

/-- If the row binds a class and a count, it binds the count to a numeral. -/
def Row.Countable (members : List (RawText × Value)) : Prop :=
  ∀ uri text, Row.Shows members "type" uri → Row.Shows members "count" text →
    ∃ w : Number.Numeral, w.Fits ∧ text.points = w.chars.map .char

def Reply.Counts (reply : Reply) (rows : List (List (RawText × Value))) : Prop :=
  reply.Holds rows ∧ ∀ members ∈ rows, Row.Countable members

/-- The last row that counts the class gives this number. -/
def LastTally (rows : List (List (RawText × Value))) (uri : RawText) (n : Int) : Prop :=
  ∃ before members after, rows = before ++ members :: after ∧ Row.Tallies members uri n ∧
    ∀ other ∈ after, ∀ m, ¬ Row.Tallies other uri m

def Untallied (rows : List (List (RawText × Value))) (uri : RawText) : Prop :=
  ∀ members ∈ rows, ∀ n, ¬ Row.Tallies members uri n

/-- The count of a class: it is labelled by its local name, and has the number of the last row that
counts it, or zero if there is none. -/
structure InstanceCount.Describes (rows : List (List (RawText × Value))) (uri : String)
    (x : InstanceCount) : Prop where
  type : x.type = uri
  label : ∃ i : Identifier, i.IsSplit ∧ i.text = uri ∧ x.label = i.name
  count : LastTally rows uri x.count ∨ Untallied rows uri ∧ x.count = 0

theorem LastTally.cons {rows : List (List (RawText × Value))} {uri : RawText} {n : Int}
    (last : LastTally rows uri n) (members : List (RawText × Value)) :
    LastTally (members :: rows) uri n := by
  obtain ⟨before, members', after, rfl, tallies, later⟩ := last
  exact ⟨members :: before, members', after, rfl, tallies, later⟩

namespace Provider

section Rows

variable {names : List RawText} {members : List (RawText × Value)} {row : Row}

theorem tallies_iff (decodes : Row.Decodes names members row) (uri : RawText) (n : Int) :
    Row.Tallies members uri n ↔ ∃ text, row.value? "type" = some uri ∧
      row.value? "count" = some text ∧ Number.integerIn? text = some n := by
  simp only [Row.Tallies, value?_eq_some_iff decodes, Number.integerIn?_eq_some_iff]

theorem countable_iff (decodes : Row.Decodes names members row) :
    Row.Countable members ↔ ∀ uri text, row.value? "type" = some uri →
      row.value? "count" = some text → ∃ n, Number.integerIn? text = some n := by
  have numeral (text : RawText) : (∃ n, Number.integerIn? text = some n) ↔
      ∃ w : Number.Numeral, w.Fits ∧ text.points = w.chars.map .char := by
    simp only [Number.integerIn?_eq_some_iff]
    constructor
    · rintro ⟨n, w, fits, same, -⟩
      exact ⟨w, fits, same⟩
    · rintro ⟨w, fits, same⟩
      exact ⟨w.value, w, fits, same, rfl⟩
  simp only [Row.Countable, value?_eq_some_iff decodes, numeral]

theorem countsOf_cons (decodes : Row.Decodes names members row) :
    (Row.Countable members ∧ ∃ uri n,
      (∀ known rest, countsOf known (row :: rest) = countsOf (Entries.put uri n known) rest) ∧
      ∀ uri' m, Row.Tallies members uri' m ↔ uri' = uri ∧ m = n) ∨
    (Row.Countable members ∧ (∀ known rest, countsOf known (row :: rest) = countsOf known rest) ∧
      ∀ uri m, ¬ Row.Tallies members uri m) ∨
    (¬ Row.Countable members ∧
      ∃ fault, ∀ known rest, countsOf known (row :: rest) = .error fault) := by
  simp only [countable_iff decodes, tallies_iff decodes]
  cases type : row.value? "type" with
  | none => exact .inr (.inl ⟨nofun, fun _ _ => by rw [countsOf, type], by simp⟩)
  | some uri =>
    cases count : row.value? "count" with
    | none => exact .inr (.inl ⟨nofun, fun _ _ => by rw [countsOf, type, count], by simp⟩)
    | some text =>
      cases read : Number.integerIn? text with
      | some n =>
        refine .inl ⟨?_, uri, n, fun _ _ => by simp only [countsOf, type, count, read], ?_⟩
        · rintro _ _ ⟨⟩ ⟨⟩
          exact ⟨n, read⟩
        · intro uri' m
          simp [read, eq_comm]
      | none =>
        refine .inr (.inr ⟨fun all => ?_, .countNotInteger uri text, fun _ _ => ?_⟩)
        · obtain ⟨n, is⟩ := all uri text rfl rfl
          rw [read] at is
          cases is
        · simp only [countsOf, type, count, read]

theorem countsOf_cases {objects : List (List (RawText × Value))} {rows : List Row}
    (decodes : List.Forall₂ (Row.Decodes names) objects rows) (known : List (RawText × Int)) :
    ((∀ members ∈ objects, Row.Countable members) ∧
      ∃ counts, countsOf known rows = .ok counts ∧ ∀ uri,
        (∃ n, Entries.get? uri counts = some n ∧ LastTally objects uri n) ∨
        (Entries.get? uri counts = Entries.get? uri known ∧ Untallied objects uri)) ∨
    ((¬ ∀ members ∈ objects, Row.Countable members) ∧
      ∃ fault, countsOf known rows = .error fault) := by
  induction decodes generalizing known with
  | nil => exact .inl ⟨nofun, known, rfl, fun uri => .inr ⟨rfl, nofun⟩⟩
  | @cons members row objects rows first _ ih =>
    rw [List.forall_mem_cons]
    rcases countsOf_cons first with
      ⟨countable, uri, n, step, tallies⟩ | ⟨countable, step, passed⟩ | ⟨not, fault, failed⟩
    · rw [step]
      rcases ih (Entries.put uri n known) with ⟨all, counts, made, each⟩ | ⟨missing, failed⟩
      · refine .inl ⟨⟨countable, all⟩, counts, made, fun uri' => ?_⟩
        rcases each uri' with ⟨m, found, last⟩ | ⟨kept, none⟩
        · exact .inl ⟨m, found, last.cons members⟩
        · by_cases same : uri' = uri
          · subst same
            rw [Entries.get?_put_self] at kept
            exact .inl ⟨n, kept, [], members, objects, rfl, (tallies _ n).mpr ⟨rfl, rfl⟩, none⟩
          · rw [Entries.get?_put_ne same] at kept
            refine .inr ⟨kept, List.forall_mem_cons.mpr ⟨fun m tally => ?_, none⟩⟩
            exact same ((tallies _ m).mp tally).1
      · exact .inr ⟨fun all => missing all.2, failed⟩
    · rw [step]
      rcases ih known with ⟨all, counts, made, each⟩ | ⟨missing, failed⟩
      · refine .inl ⟨⟨countable, all⟩, counts, made, fun uri => ?_⟩
        rcases each uri with ⟨m, found, last⟩ | ⟨kept, none⟩
        · exact .inl ⟨m, found, last.cons members⟩
        · exact .inr ⟨kept, List.forall_mem_cons.mpr ⟨passed uri, none⟩⟩
      · exact .inr ⟨fun all => missing all.2, failed⟩
    · exact .inr ⟨fun all => not all.1, fault, failed known rows⟩

end Rows

theorem exists_instanceCounts {objects : List (List (RawText × Value))}
    {counts : List (RawText × Int)}
    (each : ∀ uri : RawText, (∃ n, Entries.get? uri counts = some n ∧ LastTally objects uri n) ∨
      (Entries.get? uri counts = none ∧ Untallied objects uri))
    {classes : List String} (named : ∀ uri ∈ classes, uri ≠ "") :
    ∃ data, instanceCounts counts classes = .ok data ∧
      List.Forall₂ (InstanceCount.Describes objects) classes data := by
  induction classes with
  | nil => exact ⟨[], rfl, .nil⟩
  | cons uri classes ih =>
    obtain ⟨some, others⟩ := List.forall_mem_cons.mp named
    obtain ⟨data, made, describes⟩ := ih others
    obtain ⟨i, split⟩ := Identifier.exists_ofText? some
    refine ⟨⟨uri, i.name, (Entries.get? (.ofString uri) counts).getD 0⟩ :: data, ?_,
      .cons ⟨rfl, ?_, ?_⟩ describes⟩
    · rw [instanceCounts, instanceCount, split, made]
      rfl
    · exact ⟨i, Identifier.isSplit_of_ofText? split, Identifier.text_of_ofText? split, rfl⟩
    · rcases each uri with ⟨n, found, last⟩ | ⟨none, untallied⟩
      · rw [found]
        exact .inl last
      · rw [none]
        exact .inr ⟨untallied, rfl⟩

def countsFrom (classes : List String) (table : ResultTable) : Except Failure Response := do
  let counts ← (countsOf [] table.rows).mapError .results
  return .counts true (some (← instanceCounts counts classes))

def counting (classes : List String) (reply : Reply) : Except Failure Response :=
  tableOf ["type", "count"] reply >>= countsFrom classes

theorem counting_cases {reply : Reply} (heard : ¬ reply.Mute)
    (shallow : ∀ text, reply.Answers text → Json.read text ≠ .error .tooDeep)
    {classes : List String} (named : ∀ uri ∈ classes, uri ≠ "") :
    (∃ rows data, reply.Counts rows ∧ counting classes reply = .ok (.counts true (some data)) ∧
      List.Forall₂ (InstanceCount.Describes rows) classes data) ∨
    ((∀ rows, ¬ reply.Counts rows) ∧
      ∃ failure, counting classes reply = .error failure ∧ failure.Recovered) := by
  rw [counting]
  rcases tableOf_cases heard shallow ["type", "count"] with
    ⟨rows, table, holds, made, decodes⟩ | ⟨none, failure, failed, known⟩
  · rw [made]
    show (∃ rows data, _ ∧ countsFrom classes table = _ ∧ _) ∨
      _ ∧ ∃ failure, countsFrom classes table = _ ∧ _
    unfold countsFrom
    rcases countsOf_cases decodes [] with ⟨all, counts, counted, each⟩ | ⟨missing, fault, failed⟩
    · obtain ⟨data, listed, describes⟩ := exists_instanceCounts each named
      rw [counted]
      refine .inl ⟨rows, data, ⟨holds, all⟩, ?_, describes⟩
      show (do return Response.counts true (some (← instanceCounts counts classes))) = _
      rw [listed]
      rfl
    · rw [failed]
      refine .inr ⟨fun rows' counts => missing ?_, .results fault, rfl, .inr ⟨fault, rfl⟩⟩
      obtain rfl := holds.unique shallow counts.1
      exact counts.2
  · rw [failed]
    exact .inr ⟨fun rows counts => none rows counts.1, failure, rfl, known⟩

theorem run_countInstances {s : Services} {e : Endpoint}
    (configured : s.config.Describes e)
    {r : Request} {region : Option (String × String)} (locates : r.Locates region)
    {classes : List String} (named : ∀ uri ∈ classes, uri ≠ "") {st : Session} {reply : Reply}
    {later : List Reply} (given : st.replies = reply :: later) (heard : ¬ reply.Mute)
    (shallow : ∀ text, reply.Answers text → Json.read text ≠ .error .tooDeep) :
    ∃ d, (countInstances s r classes).run st = .ok (recovered (counting classes reply))
      ((st.sent (tableCall e (ended (countLines region))) later).withDraft d) := by
  have composed : (Act.edit (countQuery s r)).run st = _ :=
    (Act.run_edit _ _).trans (congrArg (Act.within _) (run_countQuery s locates _))
  have answers (table : ResultTable) (st' : Session) : (do
      let counts ← Act.ofExcept ((countsOf [] table.rows).mapError .results)
      return .counts true (some (← Act.ofExcept (instanceCounts counts classes))) :
        Act Response).run st' = Act.ended st' (countsFrom classes table) := by
    unfold countsFrom
    cases countsOf [] table.rows with
    | error fault => rfl
    | ok counts =>
      show (Act.ofExcept (instanceCounts counts classes) >>= _).run st' =
        Act.ended st' (do return Response.counts true (some (← instanceCounts counts classes)))
      cases instanceCounts counts classes <;> rfl
  have known : Recovers (counting classes reply) := by
    rcases counting_cases heard shallow named with ⟨_, _, -, counted, -⟩ | ⟨-, _, failed, known⟩
    · exact .of_ok counted
    · exact .of_error failed known
  obtain ⟨es, fetched⟩ := run_answer r (st.withDraft _) configured
    (sparql_countSheet (st.draft.announcing "SELECT") region s.strict) given ["type", "count"]
    (fun _ st' => ⟨#[], by rw [Session.recordAll_empty]; rfl⟩) answers
  obtain ⟨fs, recovered⟩ := run_recovering fetched known r "count instances"
  exact ⟨_, (Act.run_bind_ok composed).trans recovered⟩

theorem run_countInstances_refused (s : Services) {r : Request} (half : r.HalvesRegion)
    (classes : List String) (st : Session) :
    ∃ d, ∃ parameter ∈ regionParameters, r.Lacks parameter.1 ∧
      (countInstances s r classes).run st =
        .error (.parameter parameter.1 parameter.2) (st.withDraft d) := by
  obtain ⟨d, parameter, listed, lacks, refused⟩ := run_countQuery_refused s half st.draft
  have composed : (Act.edit (countQuery s r)).run st = _ :=
    (Act.run_edit _ _).trans (congrArg (Act.within _) refused)
  exact ⟨d, parameter, listed, lacks, Act.run_bind_error composed⟩

theorem run_countInstances_garbled (s : Services) {r : Request} (texts : r.Textual)
    (whole : ¬ r.HalvesRegion) (garbled : ¬ ∀ name ∈ ["county", "stateCode"], r.Prints name)
    (classes : List String) (st : Session) :
    ∃ d, (countInstances s r classes).run st = .error .unencodable (st.withDraft d) := by
  obtain ⟨d, failed⟩ := run_countQuery_garbled s texts whole garbled st.draft
  have composed : (Act.edit (countQuery s r)).run st = _ :=
    (Act.run_edit _ _).trans (congrArg (Act.within _) failed)
  exact ⟨d, Act.run_bind_error composed⟩

/-- Half of a region is refused and nothing is sent. Any other request is answered, whatever comes
back for the one request that is sent: its query asks for the region just when both parts are given.
The answer has a count for each class, or it is the bare failure. -/
theorem countInstances_answers (s : Services) (valid : s.config.validate = .ok ()) (r : Request)
    (classes : List String) (named : ∀ uri ∈ classes, uri ≠ "") (st : Session) :
    (r.HalvesRegion → ∃ st', ∃ parameter ∈
        [("county", countyRemark), ("stateCode", stateCodeRemark)], r.Lacks parameter.1 ∧
      (countInstances s r classes).run st = .error (.parameter parameter.1 parameter.2) st' ∧
      st'.calls = st.calls ∧ st'.replies = st.replies ∧ st'.triples = st.triples) ∧
    (¬ r.HalvesRegion → (∀ name ∈ ["county", "stateCode"], r.Prints name) →
      ∃ region, r.Locates region ∧
      (region.isSome = true ↔ r.Gives "county" ∧ r.Gives "stateCode") ∧
      ∃ call : Call, (call.payload = .body (ended (countLines region)) ∨
          call.payload = .parameters [("query", ended (countLines region))]) ∧
        ∀ (reply : Reply) (later : List Reply), st.replies = reply :: later → ¬ reply.Mute →
          (∀ text, reply.Answers text → Json.read text ≠ .error .tooDeep) →
          ∃ response st', (countInstances s r classes).run st = .ok response st' ∧
            st'.calls = st.calls.push call ∧ st'.replies = later ∧
            (response.success = true ↔ ∃ rows, reply.Counts rows) ∧
            (∀ rows, reply.Counts rows → ∃ data, response = .counts true (some data) ∧
              List.Forall₂ (InstanceCount.Describes rows) classes data) ∧
            (response.success = false →
              response.document = .mapping [(.text "success", .boolean false)])) := by
  obtain ⟨e, configured⟩ := s.config.exists_describes valid
  constructor
  · intro half
    obtain ⟨d, parameter, listed, lacks, refused⟩ := run_countInstances_refused s half classes st
    exact ⟨_, parameter, listed, lacks, refused, rfl, rfl, rfl⟩
  · intro whole printed
    obtain ⟨region, locates⟩ := Request.exists_locates printed whole
    refine ⟨region, locates, locates.isSome_iff, tableCall e (ended (countLines region)),
      payload_tableCall _ _, ?_⟩
    intro reply later given heard shallow
    obtain ⟨d, ran⟩ := run_countInstances configured locates named given heard shallow
    refine ⟨_, _, ran, rfl, rfl, ?_⟩
    rcases counting_cases heard shallow named with
      ⟨rows, data, counts, counted, describes⟩ | ⟨none, failure, failed, -⟩
    · rw [counted]
      refine ⟨⟨fun _ => ⟨rows, counts⟩, fun _ => rfl⟩, fun rows' counts' => ⟨data, rfl, ?_⟩, nofun⟩
      obtain rfl := counts.1.unique shallow counts'.1
      exact describes
    · rw [failed]
      refine ⟨⟨nofun, ?_⟩, ?_, fun _ => rfl⟩
      · exact fun ⟨rows, counts⟩ => absurd counts (none rows)
      · exact fun rows counts => absurd counts (none rows)

def twoCounts : String :=
  "\x7b\"results\": \x7b\"bindings\": [" ++
    "\x7b\"type\": \x7b\"value\": \"http://x/a\"\x7d, \"count\": \x7b\"value\": \"3\"\x7d\x7d, " ++
    "\x7b\"type\": \x7b\"value\": \"http://x/a\"\x7d, \"count\": \x7b\"value\": \" +1_2 \"\x7d\x7d, " ++
    "\x7b\"type\": \x7b\"value\": \"http://x/a\"\x7d\x7d]\x7d\x7d"

theorem counting_twoCounts :
    (counting ["http://x/a"] (.answer 200 (some twoCounts))).toOption =
      some (.counts true (some [⟨"http://x/a", "a", 12⟩])) := by
  decide +kernel

theorem shallow_twoCounts : Json.read twoCounts ≠ .error .tooDeep := by
  have read : (match Json.read twoCounts with
      | .error .tooDeep => true
      | _ => false) = false := by decide +kernel
  intro deep
  rw [deep] at read
  cases read

/-- The county alone is refused, the county with its state is answered. -/
theorem countInstances_answers_twoCounts :
    standardServices.config.validate = .ok () ∧ (∀ uri ∈ ["http://x/a"], uri ≠ "") ∧
      (∃ st', (countInstances standardServices ⟨"r", [("county", .text "Boulder")]⟩
          ["http://x/a"]).run (.start []) =
            .error (.parameter "stateCode" stateCodeRemark) st' ∧ st'.calls = #[]) ∧
      ∃ x st', (countInstances standardServices
          ⟨"r", [("county", .text "Boulder"), ("stateCode", .text "08")]⟩ ["http://x/a"]).run
            (.start [.answer 200 (some twoCounts)]) = .ok (.counts true (some [x])) st' ∧
        st'.calls.size = 1 ∧ x.type = "http://x/a" := by
  have valid := valid_standardServices
  have named : ∀ uri ∈ ["http://x/a"], uri ≠ "" := by decide
  have gives (name text : String) (rest : List (RawText × Value)) :
      Request.Gives ⟨"r", (name, .text text) :: rest⟩ name :=
    ⟨.text text, if_pos rfl, nofun⟩
  refine ⟨valid, named, ?_, ?_⟩
  · have half : Request.HalvesRegion ⟨"r", [("county", .text "Boulder")]⟩ :=
      ⟨.inl (gives _ _ _), .inr (.inl rfl)⟩
    have there : ¬ Request.Lacks ⟨"r", [("county", .text "Boulder")]⟩ "county" := by
      rw [← Request.isMissing_iff]
      decide
    obtain ⟨st', parameter, listed, lacks, refused, calls, -⟩ :=
      (countInstances_answers standardServices valid _ _ named (.start [])).1 half
    rcases listed with _ | ⟨_, _ | ⟨_, ⟨⟩⟩⟩
    · exact absurd lacks there
    · exact ⟨st', refused, calls⟩
  · have whole : ¬ Request.HalvesRegion
        ⟨"r", [("county", .text "Boulder"), ("stateCode", .text "08")]⟩ := by
      rw [Request.HalvesRegion, ← Request.isMissing_iff, ← Request.isMissing_iff]
      exact fun half => absurd half.2 (by decide)
    have printed : ∀ name ∈ ["county", "stateCode"], Request.Prints
        ⟨"r", [("county", .text "Boulder"), ("stateCode", .text "08")]⟩ name :=
      fun name _ => Request.prints_of_texts (by simp) name
    have heard : ¬ (Reply.answer 200 (some twoCounts)).Mute := by
      rintro ⟨status, ⟨⟩, -⟩
    have shallow : ∀ text, (Reply.answer 200 (some twoCounts)).Answers text →
        Json.read text ≠ .error .tooDeep := by
      rintro body ⟨status, ⟨⟩, -⟩
      exact shallow_twoCounts
    obtain ⟨region, -, -, call, -, answers⟩ := (countInstances_answers standardServices valid _ _
      named (.start [.answer 200 (some twoCounts)])).2 whole printed
    obtain ⟨response, st', ran, calls, -, -, each, -⟩ := answers _ [] rfl heard shallow
    rcases counting_cases heard shallow named with ⟨rows, -, counts, -⟩ | ⟨-, failure, failed, -⟩
    · obtain ⟨data, rfl, describes⟩ := each rows counts
      cases describes with
      | cons first others =>
        cases others
        exact ⟨_, st', ran, by rw [calls]; rfl, first.type⟩
    · have made := counting_twoCounts
      rw [failed] at made
      cases made

end Provider

end SparqlCompose
