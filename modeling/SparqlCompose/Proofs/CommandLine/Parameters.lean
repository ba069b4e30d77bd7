import SparqlCompose.CommandLine.Run
import SparqlCompose.Proofs.Entries
import SparqlCompose.Proofs.Request
import SparqlCompose.Proofs.Text.Runs

namespace SparqlCompose

namespace CommandLine

structure Assigns (item key value : RawText) : Prop where
  points : item.points = key.points ++ .char '=' :: value.points
  plain : .char '=' ∉ key.points
  filled : key.points ≠ []

def Malformed (item : RawText) : Prop :=
  .char '=' ∉ item.points ∨ item.points.head? = some (.char '=')

def Unassigned (key : RawText) (items : List RawText) : Prop :=
  ∀ item ∈ items, ∀ value, ¬ Assigns item key value

/-- The last of the items that give the key a value gives it this one. -/
inductive Settles (key value : RawText) : List RawText → Prop
  | here {item : RawText} {rest : List RawText} (assigns : Assigns item key value)
      (later : Unassigned key rest) : Settles key value (item :: rest)
  | there {rest : List RawText} (item : RawText) (later : Settles key value rest) :
      Settles key value (item :: rest)

section Item

variable {item key key' value value' : RawText}

theorem splitValue_of_plain (plain : .char '=' ∉ item.points) : splitValue item = (item, none) := by
  have whole : item.points.dropWhile (· != Point.char '=') = [] := by
    rw [List.dropWhile_eq_nil_iff]
    intro p member
    simpa using ne_of_mem_of_not_mem member plain
  rw [splitValue, whole]

theorem splitValue_append {front behind : List Point} (plain : .char '=' ∉ front)
    (whole : item.points = front ++ .char '=' :: behind) :
    splitValue item = (⟨front⟩, some ⟨behind⟩) := by
  have inside : ∀ p ∈ front, (p != Point.char '=') = true := by
    intro p member
    simpa using ne_of_mem_of_not_mem member plain
  have stops : ∀ p ∈ (Point.char '=' :: behind).head?, (p != Point.char '=') = false := by simp
  rw [splitValue, whole, Text.dropWhile_append inside stops, Text.takeWhile_append inside stops]

theorem Assigns.splitValue_eq (assigns : Assigns item key value) :
    splitValue item = (key, some value) :=
  splitValue_append assigns.plain assigns.points

theorem Assigns.unique (assigns : Assigns item key value) (assigns' : Assigns item key' value') :
    key = key' ∧ value = value' := by
  have same := assigns.splitValue_eq.symm.trans assigns'.splitValue_eq
  exact ⟨congrArg Prod.fst same, Option.some.inj (congrArg Prod.snd same)⟩

theorem Assigns.exists_cons (assigns : Assigns item key value) :
    ∃ p ps, key.points = p :: ps :=
  List.exists_cons_of_ne_nil assigns.filled

theorem Assigns.not_malformed (assigns : Assigns item key value) : ¬ Malformed item := by
  obtain ⟨p, ps, is⟩ := assigns.exists_cons
  have plain := assigns.plain
  rw [Malformed, assigns.points]
  rw [is] at plain
  rintro (none | first)
  · simp at none
  · simp only [is, List.cons_append, List.head?_cons, Option.some.injEq] at first
    exact plain (first ▸ List.mem_cons_self)

theorem malformed_or_assigns (item : RawText) :
    Malformed item ∨ ∃ key value, Assigns item key value := by
  by_cases sign : .char '=' ∈ item.points
  case neg => exact .inl (.inl sign)
  obtain ⟨key, value, whole, plain⟩ := List.eq_append_cons_of_mem sign
  cases key with
  | nil => exact .inl (.inr (by rw [whole]; rfl))
  | cons p ps => exact .inr ⟨⟨p :: ps⟩, ⟨value⟩, whole, plain, List.cons_ne_nil p ps⟩

theorem readParameters_of_malformed (malformed : Malformed item)
    (known : List (RawText × RawText)) (rest : List RawText) :
    readParameters known (item :: rest) = .error (.option item) := by
  rcases malformed with plain | first
  · rw [readParameters, splitValue_of_plain plain]
    obtain ⟨ps⟩ := item
    cases ps <;> rfl
  · obtain ⟨value, whole⟩ := List.head?_eq_some_iff.mp first
    rw [readParameters, splitValue_append List.not_mem_nil whole]

theorem readParameters_of_assigns (assigns : Assigns item key value)
    (known : List (RawText × RawText)) (rest : List RawText) :
    readParameters known (item :: rest) = readParameters (Entries.put key value known) rest := by
  obtain ⟨p, ps, is⟩ := assigns.exists_cons
  rw [readParameters, assigns.splitValue_eq]
  obtain ⟨points⟩ := key
  cases is
  rfl

end Item

section Items

variable {key value value' : RawText} {items : List RawText}

theorem Settles.not_unassigned (settles : Settles key value items) : ¬ Unassigned key items := by
  intro none
  induction settles with
  | here assigns _ => exact none _ List.mem_cons_self value assigns
  | there item _ ih => exact ih fun other member => none other (List.mem_cons_of_mem _ member)

theorem Settles.unique (settles : Settles key value items) (settles' : Settles key value' items) :
    value = value' := by
  induction settles with
  | here assigns later =>
    cases settles' with
    | here assigns' _ => exact (assigns.unique assigns').2
    | there _ later' => exact absurd later later'.not_unassigned
  | there item later ih =>
    cases settles' with
    | here _ none => exact absurd none later.not_unassigned
    | there _ later' => exact ih later'

theorem readParameters_cases (items : List RawText) (known : List (RawText × RawText)) :
    ((∀ item ∈ items, ¬ Malformed item) ∧
      ∃ parameters, readParameters known items = .ok parameters ∧ ∀ key,
        (∃ value, Settles key value items ∧ Entries.get? key parameters = some value) ∨
        (Unassigned key items ∧ Entries.get? key parameters = Entries.get? key known)) ∨
    ∃ before item after, items = before ++ item :: after ∧ (∀ x ∈ before, ¬ Malformed x) ∧
      Malformed item ∧ readParameters known items = .error (.option item) := by
  -- Each item puts its value among the known ones, so this is shown for all that may be known.
  induction items generalizing known with
  | nil => exact .inl ⟨List.forall_mem_nil _, known, rfl, fun _ => .inr ⟨nofun, rfl⟩⟩
  | cons item rest ih =>
    rcases malformed_or_assigns item with malformed | ⟨key, value, assigns⟩
    · exact .inr ⟨[], item, rest, rfl, List.forall_mem_nil _, malformed,
        readParameters_of_malformed malformed known rest⟩
    rw [readParameters_of_assigns assigns]
    rcases ih (Entries.put key value known) with
      ⟨formed, parameters, read, each⟩ | ⟨before, item', after, rfl, formed, malformed, refused⟩
    · refine .inl ⟨List.forall_mem_cons.mpr ⟨assigns.not_malformed, formed⟩, parameters, read, ?_⟩
      intro key'
      rcases each key' with ⟨value', settles, found⟩ | ⟨none, kept⟩
      · exact .inl ⟨value', .there item settles, found⟩
      by_cases same : key' = key
      · subst same
        exact .inl ⟨value, .here assigns none, by rw [kept, Entries.get?_put_self]⟩
      · refine .inr ⟨List.forall_mem_cons.mpr ⟨fun value' assigns' => ?_, none⟩, ?_⟩
        · exact same (assigns'.unique assigns).1
        · rw [kept, Entries.get?_put_ne same]
    · exact .inr ⟨item :: before, item', after, rfl,
        List.forall_mem_cons.mpr ⟨assigns.not_malformed, formed⟩, malformed, refused⟩

end Items

def requestWith (parameters : List (RawText × RawText)) : Request :=
  ⟨program, parameters.map fun (k, v) => (k, .text v)⟩

theorem parameter?_requestWith (parameters : List (RawText × RawText)) (key : RawText) :
    (requestWith parameters).parameter? key = (Entries.get? key parameters).map .text :=
  Entries.get?_map_values Value.text key parameters

theorem textual_requestWith (parameters : List (RawText × RawText)) :
    (requestWith parameters).Textual := by
  rintro p member
  obtain ⟨⟨key, value⟩, -, rfl⟩ := List.mem_map.mp member
  exact ⟨value, rfl⟩

end CommandLine

namespace Request

open CommandLine

variable {r r' : Request} {items : List RawText}

/-- The request has the parameters that the items give: each key with the value that is given last. -/
def Carries (r : Request) (items : List RawText) : Prop :=
  ∀ key, (∃ value, Settles key value items ∧ r.parameter? key = some (.text value)) ∨
    (Unassigned key items ∧ r.parameter? key = none)

theorem Carries.parameter?_eq (carries : r.Carries items) (carries' : r'.Carries items)
    (key : RawText) : r.parameter? key = r'.parameter? key := by
  rcases carries key with ⟨value, settles, is⟩ | ⟨none, absent⟩
  · rcases carries' key with ⟨value', settles', is'⟩ | ⟨none, -⟩
    · rw [is, is', settles.unique settles']
    · exact absurd none settles.not_unassigned
  · rcases carries' key with ⟨value', settles', -⟩ | ⟨-, absent'⟩
    · exact absurd none settles'.not_unassigned
    · rw [absent, absent']

theorem carried_cases (items : List RawText) :
    ((∀ item ∈ items, ¬ Malformed item) ∧
      ∃ parameters, readParameters [] items = .ok parameters ∧
        (requestWith parameters).Carries items) ∨
    ∃ before item after, items = before ++ item :: after ∧ (∀ x ∈ before, ¬ Malformed x) ∧
      Malformed item ∧ readParameters [] items = .error (.option item) := by
  rcases readParameters_cases items [] with ⟨formed, parameters, read, each⟩ | refused
  · refine .inl ⟨formed, parameters, read, fun key => ?_⟩
    rw [parameter?_requestWith]
    rcases each key with ⟨value, settles, found⟩ | ⟨none, absent⟩
    · exact .inl ⟨value, settles, by rw [found]; rfl⟩
    · exact .inr ⟨none, by rw [absent]; rfl⟩
  · exact .inr refused

end Request

end SparqlCompose
