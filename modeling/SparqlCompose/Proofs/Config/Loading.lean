import SparqlCompose.Config.Holder
import SparqlCompose.Proofs.Results

namespace SparqlCompose

def unified (s : String) : String := String.ofList (Config.unifyLineEnds s.toList)

inductive Content
  | undecodable
  | malformed
  | root (v : Value)

namespace Content

variable {yaml : Yaml.Reader} {bytes : ByteArray} {content : Content}

/-- The bytes are no UTF-8, or a text that is no YAML, or one with this root. Bytes that are no UTF-8
count as no YAML where the reader stops before it has decoded them all. -/
inductive Of (yaml : Yaml.Reader) (bytes : ByteArray) : Content → Prop
  | undecodable (none : ∀ s : String, s.toUTF8 ≠ bytes) (goes : yaml.stops bytes = false) :
      Of yaml bytes .undecodable
  | stopped (none : ∀ s : String, s.toUTF8 ≠ bytes) (stops : yaml.stops bytes = true) :
      Of yaml bytes .malformed
  | malformed {s : String} (decodes : s.toUTF8 = bytes)
      (fails : yaml.load (unified s) = .error .malformed) : Of yaml bytes .malformed
  | root {s : String} {v : Value} (decodes : s.toUTF8 = bytes)
      (reads : yaml.load (unified s) = .ok v) : Of yaml bytes (.root v)

theorem fromUTF8?_eq_some_iff (bytes : ByteArray) (s : String) :
    String.fromUTF8? bytes = some s ↔ s.toUTF8 = bytes := by
  unfold String.fromUTF8?
  constructor
  · intro decoded
    split at decoded
    · cases decoded
      rfl
    · cases decoded
  · rintro rfl
    exact dif_pos s.isValidUTF8

theorem decode?_of_utf8 {s : String} (decodes : s.toUTF8 = bytes) :
    Config.decode? bytes = some (unified s) := by
  rw [Config.decode?, (fromUTF8?_eq_some_iff bytes s).mpr decodes]
  rfl

theorem decode?_of_none (none : ∀ s : String, s.toUTF8 ≠ bytes) :
    Config.decode? bytes = .none := by
  rw [Config.decode?, Option.map_eq_none_iff, Option.eq_none_iff_forall_ne_some]
  exact fun s decoded => none s ((fromUTF8?_eq_some_iff bytes s).mp decoded)

theorem exists_of (yaml : Yaml.Reader) (bytes : ByteArray) :
    (∃ content, Of yaml bytes content) ∨
      ∃ s : String, s.toUTF8 = bytes ∧ yaml.load (unified s) = .error .tooDeep := by
  by_cases text : ∃ s : String, s.toUTF8 = bytes
  · obtain ⟨s, decodes⟩ := text
    cases reads : yaml.load (unified s) with
    | ok v => exact .inl ⟨_, .root decodes reads⟩
    | error fault =>
      cases fault with
      | malformed => exact .inl ⟨_, .malformed decodes reads⟩
      | tooDeep => exact .inr ⟨s, decodes, reads⟩
  · cases stops : yaml.stops bytes with
    | true => exact .inl ⟨_, .stopped (not_exists.mp text) stops⟩
    | false => exact .inl ⟨_, .undecodable (not_exists.mp text) stops⟩

theorem Of.run_document (holds : Of yaml bytes content) (h : Config.Holder) :
    (Config.Filling.document yaml bytes).run h =
      match content with
      | .undecodable => .error .encoding h
      | .malformed => .error (.configuration .malformed) h
      | .root v => .ok v h := by
  cases holds with
  | undecodable none stops | stopped none stops =>
    rw [Config.Filling.document, decode?_of_none none, stops]
    rfl
  | malformed decodes reads | root decodes reads =>
    rw [Config.Filling.document, decode?_of_utf8 decodes]
    dsimp only
    rw [reads]
    rfl

theorem Of.unique {content' : Content} (holds : Of yaml bytes content)
    (holds' : Of yaml bytes content') : content = content' := by
  have same := (holds.run_document .fresh).symm.trans (holds'.run_document .fresh)
  cases content <;> cases content' <;> cases same <;> rfl

def loaded : Content → Except Failure Value
  | .undecodable => .error .encoding
  | .malformed => .error (.configuration .malformed)
  | .root v =>
    match Config.Filling.rootTaken v with
    | .mapping entries => .ok (.mapping entries)
    | _ => .error (.configuration .rootNotMapping)

end Content

namespace Files

def Holds (files : Files) (yaml : Yaml.Reader) (path : RawText) (content : Content) : Prop :=
  ∃ bytes, files.look path = .file bytes ∧ Content.Of yaml bytes content

/-- Nothing is at the path, or it cannot be followed. -/
def Hides (files : Files) (path : RawText) : Prop :=
  files.look path = .absent ∨ ∃ reason, files.look path = .barred reason

theorem Holds.not_hides {files : Files} {yaml : Yaml.Reader} {path : RawText} {content : Content}
    (holds : files.Holds yaml path content) : ¬ files.Hides path := by
  obtain ⟨bytes, there, -⟩ := holds
  simp [Hides, there]

end Files

namespace Config.Filling

variable {yaml : Yaml.Reader} {files : Files} {path : RawText} {content : Content}

theorem run_requireMapping (v : Value) (source : Option RawText) :
    requireMapping.run ⟨v, source⟩ =
      match v with
      | .mapping entries => .ok () ⟨.mapping entries, source⟩
      | v => .error (.configuration .rootNotMapping) ⟨v, source⟩ := by
  cases v <;> rfl

theorem run_load_root {v : Value} (holds : files.Holds yaml path (.root v)) (h : Holder) :
    (load yaml files path).run h =
      requireMapping.run ⟨rootTaken v, some (files.absolute path)⟩ := by
  obtain ⟨bytes, there, of⟩ := holds
  rw [load, there]
  simp only [EStateM.run_bind, of.run_document, EStateM.run_modify]

/-- Whether a file is loaded does not depend on the holder, nor does what it is left with then. -/
theorem run_load (holds : files.Holds yaml path content) (h : Holder) :
    (∀ root, content.loaded = .ok root →
      (load yaml files path).run h = .ok () ⟨root, some (files.absolute path)⟩) ∧
    ∀ failure, content.loaded = .error failure →
      ∃ left, (load yaml files path).run h = .error failure left := by
  cases content with
  | undecodable | malformed =>
    refine ⟨nofun, ?_⟩
    rintro failure ⟨⟩
    obtain ⟨bytes, there, of⟩ := holds
    rw [load, there]
    simp only [EStateM.run_bind, of.run_document]
    exact ⟨h, rfl⟩
  | root v =>
    rw [run_load_root holds, run_requireMapping, Content.loaded]
    cases rootTaken v with
    | mapping entries =>
      refine ⟨?_, nofun⟩
      rintro root ⟨⟩
      rfl
    | _ =>
      refine ⟨nofun, ?_⟩
      rintro failure ⟨⟩
      exact ⟨_, rfl⟩

def Refuses (yaml : Yaml.Reader) (files : Files) (path : RawText) : Prop :=
  ∀ h, ∃ fault left, (load yaml files path).run h = .error (.configuration fault) left

theorem refuses_of_unreadable {reason : String} (there : files.look path = .unreadable reason) :
    Refuses yaml files path :=
  fun h => ⟨_, h, by rw [load, there]; rfl⟩

theorem search_of_hides (nothing : files.Hides path) (paths : List RawText) :
    search yaml files (path :: paths) = search yaml files paths := by
  rcases nothing with absent | ⟨reason, barred⟩
  · rw [search, absent]
  · rw [search, barred]

theorem search_of_found (found : ¬ files.Hides path) (paths : List RawText) :
    search yaml files (path :: paths) =
      tryCatch (load yaml files path) fun
        | .configuration _ => search yaml files paths
        | e => throw e := by
  rw [search]
  cases there : files.look path with
  | absent => exact absurd (.inl there) found
  | barred reason => exact absurd (.inr ⟨reason, there⟩) found
  | _ => rfl

section Trying

variable {h held left : Holder} (found : ¬ files.Hides path) (paths : List RawText)

include found

theorem run_search_of_ok (loaded : (load yaml files path).run h = .ok () held) :
    (search yaml files (path :: paths)).run h = .ok () held := by
  rw [search_of_found found]
  show EStateM.tryCatch (load yaml files path) _ h = _
  change load yaml files path h = _ at loaded
  rw [EStateM.tryCatch, loaded]

theorem run_search_of_configuration {fault : ConfigFault}
    (failed : (load yaml files path).run h = .error (.configuration fault) left) :
    (search yaml files (path :: paths)).run h = (search yaml files paths).run left := by
  rw [search_of_found found]
  show EStateM.tryCatch (load yaml files path) _ h = _
  change load yaml files path h = _ at failed
  rw [EStateM.tryCatch, failed]
  rfl

theorem run_search_of_other {e : Failure} (failed : (load yaml files path).run h = .error e left)
    (other : ∀ fault, e ≠ .configuration fault) :
    (search yaml files (path :: paths)).run h = .error e left := by
  rw [search_of_found found]
  show EStateM.tryCatch (load yaml files path) _ h = _
  change load yaml files path h = _ at failed
  rw [EStateM.tryCatch, failed]
  cases e with
  | configuration fault => exact absurd rfl (other fault)
  | _ => rfl

end Trying

theorem search_of_refuses (refuses : files.Hides path ∨ Refuses yaml files path)
    (paths : List RawText) (h : Holder) : ∃ left,
      (search yaml files (path :: paths)).run h = (search yaml files paths).run left := by
  by_cases nothing : files.Hides path
  · exact ⟨h, by rw [search_of_hides nothing]⟩
  · obtain ⟨fault, left, failed⟩ := refuses.resolve_left nothing h
    exact ⟨left, run_search_of_configuration nothing paths failed⟩

end Config.Filling

end SparqlCompose
