import Mathlib.Data.List.Nodup
import SparqlCompose.Config.Validation
import SparqlCompose.Proofs.Results

namespace SparqlCompose

inductive Value.Empty : Value → Prop
  | null : Empty .null
  | text : Empty (.text "")
  | list : Empty (.list [])
  | mapping : Empty (.mapping [])
  | other {shown written : Option String} : Empty (.other false shown written (some []))

theorem Value.Empty.eq_of_text {r : RawText} (empty : (Value.text r).Empty) : r = "" := by
  cases empty
  rfl

namespace Config

structure AreClassPaths (paths : List RawText) : Prop where
  dotted : ∀ path ∈ paths, .char '.' ∈ path.points
  distinct : paths.Nodup

/-- The value is empty, or a list of class paths. -/
def NamesModules (v : Value) : Prop :=
  v.Empty ∨ ∃ paths : List RawText, v = .list (paths.map .text) ∧ AreClassPaths paths

/-- What lists nothing, and does not count as no either. -/
inductive Unlisted : Value → Prop
  | boolean : Unlisted (.boolean true)
  | integer {n : Int} (some : n ≠ 0) : Unlisted (.integer n)
  | float {x : Number.Double} (some : x.isZero = false) : Unlisted (.float x)
  | other {shown written : Option String} : Unlisted (.other true shown written none)

/-- What passes for a list of class paths though it is no list, and is not empty. -/
inductive Mistaken : Value → Prop
  | no {v : Value} (hollow : v.truthy = false) (other : ¬ v.Empty) : Mistaken v
  | keys {entries : List (Value × Value)} {paths : List RawText} (some : paths ≠ [])
      (texts : entries.map Prod.fst = paths.map .text) (are : AreClassPaths paths) :
      Mistaken (.mapping entries)
  | dot : Mistaken (.text ".")
  | items {shown written : Option String} {paths : List RawText} (are : AreClassPaths paths) :
      Mistaken (.other true shown written (some (paths.map .text)))

/-- The value lists an entry that cannot be written, behind none but class paths. -/
def Unwritable (v : Value) : Prop :=
  ∃ (paths : List RawText) (entry : Value) (rest : List Value),
    listed v = .ok (paths.map .text ++ entry :: rest) ∧
      (∀ path ∈ paths, .char '.' ∈ path.points) ∧ entry.literal = none

theorem checkUrl_eq_ok {url : Value} (passes : checkUrl url = .ok ()) :
    ∃ r, url = .text r ∧ r.isEmpty = false := by
  cases url with
  | text r =>
    rw [checkUrl] at passes
    split at passes
    case isTrue => cases passes
    case isFalse some => exact ⟨r, rfl, Bool.eq_false_iff.mpr some⟩
  | _ => cases passes

def IsWebAddress (r : RawText) : Prop := ∃ scheme ∈ schemes, scheme.points <+: r.points

theorem checkUrl_eq_ok_iff (v : Value) :
    checkUrl v = .ok () ↔ ∃ url, v = .text url ∧ IsWebAddress url := by
  have starts (r : RawText) :
      schemes.any (·.points.isPrefixOf r.points) = true ↔ IsWebAddress r := by
    simp only [IsWebAddress, List.any_eq_true, List.isPrefixOf_iff_prefix]
  constructor
  · intro passes
    obtain ⟨url, rfl, some⟩ := checkUrl_eq_ok passes
    rw [checkUrl, some] at passes
    simp only [Bool.false_eq_true, if_false] at passes
    split at passes
    case isTrue known => exact ⟨url, rfl, (starts url).mp known⟩
    case isFalse => cases passes
  · rintro ⟨url, rfl, known⟩
    have some : url.isEmpty = false := by
      obtain ⟨scheme, listed, front⟩ := known
      have long : scheme.points ≠ [] := by
        simp only [schemes, List.mem_cons, List.not_mem_nil, or_false] at listed
        rcases listed with rfl | rfl <;> decide
      cases points : url.points with
      | nil =>
        rw [points] at front
        exact absurd (List.prefix_nil.mp front) long
      | cons => rw [RawText.isEmpty, points]; rfl
    rw [checkUrl, some, if_neg Bool.false_ne_true, if_pos ((starts url).mpr known)]

theorem checkMethod_eq_ok_iff (name : RawText) :
    checkMethod name = .ok () ↔ name = "GET" ∨ name = "POST" := by
  rw [checkMethod]
  split
  case isTrue listed => exact ⟨fun _ => listed, fun _ => rfl⟩
  case isFalse unlisted => exact ⟨nofun, fun listed => absurd listed unlisted⟩

theorem checkTimeout_eq_ok_iff (v : Value) :
    checkTimeout v = .ok () ↔ ∃ n : Int, v = .integer n ∧ 0 < n := by
  cases v with
  | integer n =>
    rw [checkTimeout]
    split
    case isTrue positive => exact ⟨fun _ => ⟨n, rfl, positive⟩, fun _ => rfl⟩
    case isFalse bounded =>
      refine ⟨nofun, ?_⟩
      rintro ⟨_, ⟨⟩, positive⟩
      exact absurd positive bounded
  | _ => exact ⟨nofun, fun ⟨_, same, _⟩ => nomatch same⟩

theorem classPaths_map {paths : List RawText} (dotted : ∀ path ∈ paths, .char '.' ∈ path.points) :
    classPaths (paths.map .text) = .ok paths := by
  induction paths with
  | nil => rfl
  | cons path paths ih =>
    obtain ⟨first, others⟩ := List.forall_mem_cons.mp dotted
    rw [List.map_cons, classPaths, if_pos (List.contains_iff_mem.mpr first), ih others]
    rfl

def Stray (entry : Value) : Prop := ∀ r, entry = .text r → .char '.' ∉ r.points

theorem classPaths_stray {paths : List RawText} (dotted : ∀ path ∈ paths, .char '.' ∈ path.points)
    {entry : Value} (stray : Stray entry) (rest : List Value) :
    classPaths (paths.map .text ++ entry :: rest) = .error (refuseEntry entry) := by
  induction paths with
  | nil =>
    cases entry with
    | text r =>
      have plain : ¬ r.points.contains (.char '.') = true :=
        fun member => stray r rfl (List.contains_iff_mem.mp member)
      exact if_neg plain
    | _ => rfl
  | cons path paths ih =>
    obtain ⟨first, others⟩ := List.forall_mem_cons.mp dotted
    rw [List.map_cons, List.cons_append, classPaths, if_pos (List.contains_iff_mem.mpr first),
      ih others]
    rfl

theorem entries_cases (entries : List Value) :
    (∃ paths : List RawText, entries = paths.map .text ∧
      ∀ path ∈ paths, .char '.' ∈ path.points) ∨
    ∃ (paths : List RawText) (entry : Value) (rest : List Value),
      entries = paths.map .text ++ entry :: rest ∧ (∀ path ∈ paths, .char '.' ∈ path.points) ∧
      Stray entry := by
  induction entries with
  | nil => exact .inl ⟨[], rfl, nofun⟩
  | cons v entries ih =>
    by_cases dotted : ∃ r, v = .text r ∧ .char '.' ∈ r.points
    · obtain ⟨r, rfl, first⟩ := dotted
      rcases ih with ⟨paths, rfl, others⟩ | ⟨paths, entry, rest, rfl, others, stray⟩
      · exact .inl ⟨r :: paths, rfl, List.forall_mem_cons.mpr ⟨first, others⟩⟩
      · exact .inr ⟨r :: paths, entry, rest, rfl, List.forall_mem_cons.mpr ⟨first, others⟩, stray⟩
    · exact .inr ⟨[], v, entries, rfl, nofun, fun r same member => dotted ⟨r, same, member⟩⟩

theorem stray_of_literal {entry : Value} (silent : entry.literal = none) : Stray entry := by
  rintro r rfl
  rw [Value.literal] at silent
  cases silent

theorem checkModules_of_unwritable {v : Value} (unwritable : Unwritable v) {entries : List Value}
    (lists : listed v = .ok entries) : checkModules entries = .error .digits := by
  obtain ⟨paths, entry, rest, lists', dotted, silent⟩ := unwritable
  rw [lists] at lists'
  cases lists'
  rw [checkModules, classPaths_stray dotted (stray_of_literal silent), refuseEntry, silent]
  rfl

theorem checkModules_eq_ok_iff (entries : List Value) :
    checkModules entries = .ok () ↔ ∃ paths, entries = paths.map .text ∧ AreClassPaths paths := by
  constructor
  · intro passes
    obtain ⟨paths, are, checked⟩ := exists_of_bind_eq_ok passes
    rcases entries_cases entries with ⟨paths', rfl, dotted⟩ | ⟨_, _, rest, rfl, dotted, stray⟩
    · rw [classPaths_map dotted] at are
      cases are
      by_cases distinct : paths.Nodup
      · exact ⟨paths, rfl, dotted, distinct⟩
      · rw [if_neg distinct] at checked
        cases checked
    · rw [classPaths_stray dotted stray] at are
      cases are
  · rintro ⟨paths, rfl, dotted, distinct⟩
    rw [checkModules, classPaths_map dotted]
    exact if_pos distinct

theorem checkModules_cases {v : Value} {entries : List Value} (lists : listed v = .ok entries) :
    checkModules entries = .ok () ∨ Unwritable v ∧ checkModules entries = .error .digits ∨
      ¬ Unwritable v ∧ checkModules entries ≠ .ok () ∧
        ∃ fault, checkModules entries = .error (.configuration fault) := by
  by_cases unwritable : Unwritable v
  · exact .inr (.inl ⟨unwritable, checkModules_of_unwritable unwritable lists⟩)
  have refused (fault : ConfigFault) (failed : checkModules entries = .error (.configuration fault)) :
      ¬ Unwritable v ∧ checkModules entries ≠ .ok () ∧
        ∃ fault, checkModules entries = .error (.configuration fault) :=
    ⟨unwritable, by rw [failed]; exact nofun, fault, failed⟩
  rcases entries_cases entries with ⟨paths, rfl, dotted⟩ | ⟨paths, entry, rest, rfl, dotted, stray⟩
  · by_cases distinct : paths.Nodup
    · exact .inl ((checkModules_eq_ok_iff _).mpr ⟨paths, rfl, dotted, distinct⟩)
    · refine .inr (.inr (refused .repeatedModules ?_))
      rw [checkModules, classPaths_map dotted]
      exact if_neg distinct
  · cases written : entry.literal with
    | none => exact absurd ⟨paths, entry, rest, lists, dotted, written⟩ unwritable
    | some s =>
      refine .inr (.inr (refused (.moduleEntry s) ?_))
      rw [checkModules, classPaths_stray dotted stray, refuseEntry, written]
      rfl

theorem checkStrict_eq_ok_iff (v : Value) : checkStrict v = .ok () ↔ ∃ b, v = .boolean b := by
  cases v with
  | boolean b => exact ⟨fun _ => ⟨b, rfl⟩, fun _ => rfl⟩
  | _ => exact ⟨nofun, fun ⟨_, same⟩ => nomatch same⟩

theorem listed_cases (v : Value) :
    Unlisted v ∧ listed v = .error .kind ∨ ∃ entries, listed v = .ok entries := by
  cases v with
  | null => exact .inr ⟨[], rfl⟩
  | boolean b =>
    cases b with
    | false => exact .inr ⟨[], rfl⟩
    | true => exact .inl ⟨.boolean, rfl⟩
  | integer n =>
    by_cases zero : n = 0
    · exact .inr ⟨[], by rw [zero]; rfl⟩
    · exact .inl ⟨.integer zero, if_pos (by simpa [Value.truthy] using zero)⟩
  | float x =>
    cases zero : x.isZero with
    | true => exact .inr ⟨[], if_neg (by simp [Value.truthy, zero])⟩
    | false => exact .inl ⟨.float zero, if_pos (by simp [Value.truthy, zero])⟩
  | text | list | mapping => exact .inr ⟨_, rfl⟩
  | other yes shown written items =>
    cases yes with
    | false => exact .inr ⟨[], rfl⟩
    | true =>
      cases items with
      | none => exact .inl ⟨.other, rfl⟩
      | some items => exact .inr ⟨items, rfl⟩

theorem listed_of_unlisted {v : Value} (unlisted : Unlisted v) : listed v = .error .kind := by
  cases unlisted with
  | boolean | other => rfl
  | integer some => exact if_pos (by simpa [Value.truthy] using some)
  | float some => exact if_pos (by simp [Value.truthy, some])

theorem text_injective : Function.Injective Value.text := fun _ _ => Value.text.inj

theorem eq_dot_of_areClassPaths {r : RawText} {paths : List RawText}
    (points : r.points.map (fun p => Value.text ⟨[p]⟩) = paths.map .text)
    (are : AreClassPaths paths) : r = "" ∨ r = "." := by
  obtain rfl : r.points.map (fun p => RawText.mk [p]) = paths := by
    refine text_injective.list_map ?_
    rw [List.map_map]
    exact points
  have dots : ∀ p ∈ r.points, p = .char '.' := by
    intro p member
    have dotted : .char '.' ∈ [p] := are.dotted ⟨[p]⟩ (List.mem_map_of_mem member)
    exact (List.mem_singleton.mp dotted).symm
  have distinct := List.Nodup.of_map _ are.distinct
  obtain ⟨ps⟩ := r
  cases ps with
  | nil => exact .inl rfl
  | cons p rest =>
    obtain ⟨rfl, others⟩ := List.forall_mem_cons.mp dots
    cases rest with
    | nil => exact .inr rfl
    | cons other rest =>
      obtain rfl := others other (.head _)
      exact absurd (.head _) (List.nodup_cons.mp distinct).1

theorem listed_eq_ok_iff (v : Value) :
    (∃ paths : List RawText, listed v = .ok (paths.map .text) ∧ AreClassPaths paths) ↔
      NamesModules v ∨ Mistaken v := by
  have none : AreClassPaths [] := ⟨nofun, List.nodup_nil⟩
  constructor
  · rintro ⟨paths, lists, are⟩
    cases v with
    | null => exact .inl (.inl .null)
    | boolean b =>
      cases b with
      | false => exact .inr (.no rfl nofun)
      | true => cases lists
    | integer n =>
      by_cases zero : n = 0
      · exact .inr (.no (by simp [Value.truthy, zero]) nofun)
      · rw [listed_of_unlisted (.integer zero)] at lists
        cases lists
    | float x =>
      cases zero : x.isZero with
      | true => exact .inr (.no (by simp [Value.truthy, zero]) nofun)
      | false =>
        rw [listed_of_unlisted (.float zero)] at lists
        cases lists
    | text r =>
      rcases eq_dot_of_areClassPaths (Except.ok.inj lists) are with rfl | rfl
      · exact .inl (.inl .text)
      · exact .inr .dot
    | list items => exact .inl (.inr ⟨paths, congrArg Value.list (Except.ok.inj lists), are⟩)
    | mapping entries =>
      have texts := Except.ok.inj lists
      cases entries with
      | nil => exact .inl (.inl .mapping)
      | cons entry entries =>
        refine .inr (.keys ?_ texts are)
        rintro rfl
        cases texts
    | other yes shown written items =>
      cases yes with
      | false =>
        by_cases empty : (Value.other false shown written items).Empty
        · exact .inl (.inl empty)
        · exact .inr (.no rfl empty)
      | true =>
        cases items with
        | none => cases lists
        | some items =>
          obtain rfl := Except.ok.inj lists
          exact .inr (.items are)
  · rintro ((empty | ⟨paths, rfl, are⟩) | mistaken)
    · cases empty <;> exact ⟨[], rfl, none⟩
    · exact ⟨paths, rfl, are⟩
    · cases mistaken with
      | no hollow other =>
        refine ⟨[], ?_, none⟩
        cases v with
        | null => rfl
        | boolean | integer | float => exact if_neg (Bool.eq_false_iff.mp hollow)
        | text r =>
          have nothing : r = "" := by
            obtain ⟨ps⟩ := r
            have nothing : ps = [] := by simpa [Value.truthy, RawText.isEmpty] using hollow
            rw [nothing]
            rfl
          exact absurd (nothing ▸ .text) other
        | list items =>
          have nothing : items = [] := by simpa [Value.truthy] using hollow
          exact absurd (nothing ▸ .list) other
        | mapping entries =>
          have nothing : entries = [] := by simpa [Value.truthy] using hollow
          exact absurd (nothing ▸ .mapping) other
        | other yes =>
          obtain rfl : yes = false := hollow
          rfl
      | keys some texts are => exact ⟨_, congrArg Except.ok texts, are⟩
      | dot => exact ⟨["."], rfl, by simp, List.nodup_singleton _⟩
      | items are => exact ⟨_, rfl, are⟩

theorem Mistaken.not_namesModules {v : Value} (mistaken : Mistaken v) : ¬ NamesModules v := by
  rintro (empty | ⟨paths, rfl, are⟩)
  · cases mistaken with
    | no _ other => exact other empty
    | keys some texts _ =>
      cases empty
      exact some (List.map_eq_nil_iff.mp texts.symm)
    | dot => exact absurd empty.eq_of_text (by decide)
    | items => cases empty
  · cases mistaken with
    | no hollow other =>
      cases paths with
      | nil => exact other .list
      | cons path paths => cases hollow

theorem sound_of_passes {v : Value} (passes : NamesModules v ∨ Mistaken v) :
    ¬ Unlisted v ∧ ¬ Unwritable v := by
  obtain ⟨paths, lists, are⟩ := (listed_eq_ok_iff v).mpr passes
  refine ⟨fun unlisted => ?_, fun unwritable => ?_⟩
  · rw [listed_of_unlisted unlisted] at lists
    cases lists
  · have failed := checkModules_of_unwritable unwritable lists
    rw [(checkModules_eq_ok_iff _).mpr ⟨paths, rfl, are⟩] at failed
    cases failed

end Config

end SparqlCompose
