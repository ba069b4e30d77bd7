import SparqlCompose.Proofs.Config.Loading
import SparqlCompose.Proofs.Config.Usable
import SparqlCompose.Yaml.Document

namespace SparqlCompose

namespace Content

variable {content : Content}

/-- The content is a configuration with this root; an empty document stands for the empty mapping. -/
inductive Acceptable : Content → Value → Prop
  | empty : Acceptable (.root .null) (.mapping [])
  | mapping (entries : List (Value × Value)) :
      Acceptable (.root (.mapping entries)) (.mapping entries)

def Hollow : Content → Prop
  | .root .null => False
  | .root (.mapping _) => False
  | .root v => v.truthy = false
  | _ => False

/-- The contents that are not treated as what they are. -/
def Defective (content : Content) : Prop := content = .undecodable ∨ content.Hollow

theorem Acceptable.loaded_eq {root : Value} (h : content.Acceptable root) :
    content.loaded = .ok root := by
  cases h with
  | empty => rfl
  | mapping entries => cases entries <;> rfl

theorem Hollow.loaded_eq (h : content.Hollow) : content.loaded = .ok (.mapping []) := by
  have hollow {v : Value} (no : v.truthy = false) : (root v).loaded = .ok (.mapping []) := by
    rw [loaded, Config.Filling.rootTaken, no]
    rfl
  cases content with
  | undecodable | malformed => cases h
  | root v =>
    cases v with
    | null | mapping => cases h
    | _ => exact hollow h

theorem Defective.not_acceptable (h : content.Defective) (root : Value) :
    ¬ content.Acceptable root := by
  rcases h with rfl | hollow
  · rintro ⟨⟩
  · rintro (_ | _) <;> exact hollow

theorem exists_fault_of_loaded (sound : ¬ content.Defective)
    (other : ∀ root, ¬ content.Acceptable root) :
    ∃ fault, content.loaded = .error (.configuration fault) := by
  cases content with
  | undecodable => exact absurd (.inl rfl) sound
  | malformed => exact ⟨_, rfl⟩
  | root v =>
    have full : v.truthy = true := by
      by_contra hollow
      rw [Bool.not_eq_true] at hollow
      cases v with
      | null => exact other _ .empty
      | mapping entries => exact other _ (.mapping entries)
      | _ => exact sound (.inr hollow)
    rw [loaded, Config.Filling.rootTaken, if_pos full]
    cases v with
    | mapping entries => exact absurd (.mapping entries) (other _)
    | _ => exact ⟨_, rfl⟩

end Content

namespace Files

variable {files : Files} {yaml : Yaml.Reader} {path : RawText}

def Readable (files : Files) (yaml : Yaml.Reader) : Prop :=
  ∀ path bytes, files.look path = .file bytes →
    ∀ s : String, s.toUTF8 = bytes → yaml.load (unified s) ≠ .error .tooDeep

theorem exists_holds (readable : files.Readable yaml) {bytes : ByteArray}
    (found : files.look path = .file bytes) :
    ∃ content, Content.Of yaml bytes content ∧ files.Holds yaml path content := by
  rcases Content.exists_of yaml bytes with ⟨content, of⟩ | ⟨s, decodes, deep⟩
  · exact ⟨content, of, bytes, found, of⟩
  · exact absurd deep (readable path bytes found s decodes)

/-- There is no file, or one that is neither acceptable nor defective. -/
def Passes (files : Files) (yaml : Yaml.Reader) (path : RawText) : Prop :=
  ∀ content, files.Holds yaml path content →
    ¬ content.Defective ∧ ∀ root, ¬ content.Acceptable root

/-- The search of the standard places gets to the path. -/
def Reaches (files : Files) (yaml : Yaml.Reader) (path : RawText) : Prop :=
  ∃ before after, Config.standardPaths files = before ++ path :: after ∧
    ∀ other ∈ before, files.Passes yaml other

theorem refuses_of_passes (readable : files.Readable yaml) (passes : files.Passes yaml path) :
    files.Hides path ∨ Config.Filling.Refuses yaml files path := by
  cases there : files.look path with
  | absent => exact .inl (.inl there)
  | barred reason => exact .inl (.inr ⟨reason, there⟩)
  | unreadable reason => exact .inr (Config.Filling.refuses_of_unreadable there)
  | file bytes =>
    obtain ⟨content, -, holds⟩ := exists_holds readable there
    obtain ⟨sound, other⟩ := passes content holds
    obtain ⟨fault, refused⟩ := Content.exists_fault_of_loaded sound other
    refine .inr fun h => ?_
    obtain ⟨left, failed⟩ := (Config.Filling.run_load holds h).2 _ refused
    exact ⟨fault, left, failed⟩

end Files

namespace Config

variable {yaml : Yaml.Reader} {files : Files} {path : RawText} {content : Content}
  (environment : List (String × RawText))

theorem obtain_of_holds (holds : files.Holds yaml path content) :
    obtain yaml files environment (some path) =
      content.loaded.map fun root => ⟨root, files.absolute path, environment⟩ := by
  obtain ⟨succeeds, fails⟩ := Filling.run_load holds .fresh
  rw [obtain, Filling.fill]
  cases loaded : content.loaded with
  | ok root =>
    rw [succeeds root loaded]
    rfl
  | error failure =>
    obtain ⟨left, failed⟩ := fails failure loaded
    rw [failed]
    rfl

theorem run_search_append (readable : files.Readable yaml) {before : List RawText}
    (passed : ∀ other ∈ before, files.Passes yaml other) (paths : List RawText) (h : Holder) :
    ∃ left, (Filling.search yaml files (before ++ paths)).run h =
      (Filling.search yaml files paths).run left := by
  induction before generalizing h with
  | nil => exact ⟨h, rfl⟩
  | cons other before ih =>
    obtain ⟨first, others⟩ := List.forall_mem_cons.mp passed
    obtain ⟨left, goesOn⟩ :=
      Filling.search_of_refuses (Files.refuses_of_passes readable first) (before ++ paths) h
    obtain ⟨left', ends⟩ := ih others left
    exact ⟨left', goesOn.trans ends⟩

theorem obtain_of_reaches (readable : files.Readable yaml) (reaches : files.Reaches yaml path)
    (holds : files.Holds yaml path content) :
    (∀ root, content.loaded = .ok root → obtain yaml files environment none =
      .ok ⟨root, files.absolute path, environment⟩) ∧
    (content.loaded = .error .encoding →
      obtain yaml files environment none = .error .encoding) := by
  obtain ⟨before, after, split, passed⟩ := reaches
  obtain ⟨left, goesOn⟩ := run_search_append readable passed (path :: after) .fresh
  obtain ⟨succeeds, fails⟩ := Filling.run_load holds left
  rw [obtain, Filling.fill, split, goesOn]
  constructor
  · intro root loaded
    rw [Filling.run_search_of_ok holds.not_hides after (succeeds root loaded)]
    rfl
  · intro failed
    obtain ⟨left', stopped⟩ := fails _ failed
    rw [Filling.run_search_of_other holds.not_hides after stopped nofun]
    rfl

theorem obtain_path_iff (holds : files.Holds yaml path content) :
    ((∀ root, content.Acceptable root → obtain yaml files environment (some path) =
          .ok ⟨root, files.absolute path, environment⟩) ∧
        ((∀ root, ¬ content.Acceptable root) →
          ∃ fault, obtain yaml files environment (some path) = .error (.configuration fault))) ↔
      ¬ content.Defective := by
  rw [obtain_of_holds environment holds]
  constructor
  · rintro ⟨-, refused⟩ defective
    obtain ⟨fault, failed⟩ := refused defective.not_acceptable
    rcases defective with rfl | hollow
    · cases failed
    · rw [hollow.loaded_eq] at failed
      cases failed
  · intro sound
    refine ⟨fun root acceptable => by rw [acceptable.loaded_eq]; rfl, fun other => ?_⟩
    obtain ⟨fault, refused⟩ := Content.exists_fault_of_loaded sound other
    exact ⟨fault, by rw [refused]; rfl⟩

theorem obtain_cases (readable : files.Readable yaml)
    (sound : ∀ path content, files.Reaches yaml path → files.Holds yaml path content →
      ¬ content.Defective) :
    (∃ path content root, files.Reaches yaml path ∧ files.Holds yaml path content ∧
      content.Acceptable root ∧
      obtain yaml files environment none = .ok ⟨root, files.absolute path, environment⟩) ∨
    ((∀ path ∈ standardPaths files, files.Passes yaml path) ∧
      obtain yaml files environment none = .ok (builtin environment)) := by
  classical
  cases first : (standardPaths files).find? (¬ files.Passes yaml ·) with
  | none =>
    have all : ∀ path ∈ standardPaths files, files.Passes yaml path := by
      simpa using List.find?_eq_none.mp first
    obtain ⟨left, passed⟩ := run_search_append readable all [] .fresh
    rw [List.append_nil] at passed
    refine .inr ⟨all, ?_⟩
    rw [obtain, Filling.fill, passed]
    rfl
  | some path =>
    obtain ⟨stops, before, after, split, passed⟩ := List.find?_eq_some_iff_append.mp first
    have reaches : files.Reaches yaml path := ⟨before, after, split, by simpa using passed⟩
    obtain ⟨content, holds, root, acceptable⟩ : ∃ content, files.Holds yaml path content ∧
        ∃ root, content.Acceptable root := by
      by_contra none
      refine of_decide_eq_true stops fun content holds =>
        ⟨sound path content reaches holds, fun root acceptable => ?_⟩
      exact none ⟨content, holds, root, acceptable⟩
    exact .inl ⟨path, content, root, reaches, holds, acceptable,
      (obtain_of_reaches environment readable reaches holds).1 root acceptable.loaded_eq⟩

/-- A file is accepted when it is acceptable and refused with a fault of the configuration
otherwise, exactly unless it is defective. A path that leads to no file is refused so too, unless it
cannot be followed: that fails as the file system has it. The search takes the first acceptable file
of the standard places, or what is built in, unless it gets to a defective one: there it fails, or
takes the empty mapping. -/
theorem acceptable_or_refused_iff (readable : files.Readable yaml) :
    (∀ path bytes, files.look path = .file bytes →
      ∃ content, Content.Of yaml bytes content ∧
        (((∀ root, content.Acceptable root → obtain yaml files environment (some path) =
              .ok ⟨root, files.absolute path, environment⟩) ∧
            ((∀ root, ¬ content.Acceptable root) → ∃ fault,
              obtain yaml files environment (some path) = .error (.configuration fault))) ↔
          ¬ content.Defective)) ∧
    (∀ path, (files.look path = .absent ∨ ∃ reason, files.look path = .unreadable reason) →
      ∃ fault, obtain yaml files environment (some path) = .error (.configuration fault)) ∧
    (∀ path reason, files.look path = .barred reason →
      obtain yaml files environment (some path) = .error (.system reason)) ∧
    ((∀ path content, files.Reaches yaml path → files.Holds yaml path content →
        ¬ content.Defective) →
      (∃ path content root, files.Reaches yaml path ∧ files.Holds yaml path content ∧
        content.Acceptable root ∧
        obtain yaml files environment none = .ok ⟨root, files.absolute path, environment⟩) ∨
      ((∀ path ∈ standardPaths files, files.Passes yaml path) ∧
        obtain yaml files environment none = .ok (builtin environment))) ∧
    ∀ path content, files.Reaches yaml path → files.Holds yaml path content →
      (content = .undecodable → obtain yaml files environment none = .error .encoding) ∧
      (content.Hollow → obtain yaml files environment none =
        .ok ⟨.mapping [], files.absolute path, environment⟩) := by
  refine ⟨?_, ?_, ?_, obtain_cases environment readable, ?_⟩
  · intro path bytes found
    obtain ⟨content, of, holds⟩ := Files.exists_holds readable found
    exact ⟨content, of, obtain_path_iff environment holds⟩
  · rintro path (absent | ⟨reason, unreadable⟩)
    · exact ⟨.notFound path, by rw [obtain, Filling.fill, Filling.load, absent]; rfl⟩
    · exact ⟨.unreadable reason, by rw [obtain, Filling.fill, Filling.load, unreadable]; rfl⟩
  · intro path reason barred
    rw [obtain, Filling.fill, Filling.load, barred]
    rfl
  · intro path content reaches holds
    have outcome := obtain_of_reaches environment readable reaches holds
    refine ⟨?_, fun hollow => outcome.1 _ hollow.loaded_eq⟩
    rintro rfl
    exact outcome.2 rfl

def emptyFile : Files :=
  ⟨"/w", "/h", fun path => if path = "c" then .file "".toUTF8 else .absent⟩

theorem look_emptyFile (path : RawText) :
    emptyFile.look path = if path = "c" then .file "".toUTF8 else .absent := rfl

theorem read_empty : Yaml.reader.load (unified "") = .ok .null := by
  have scanned : Yaml.Token.ofText? (unified "") = some [] := by decide +kernel
  rw [Yaml.load_reader, Yaml.read, scanned]
  rfl

/-- An empty file stands for the empty mapping. -/
theorem acceptable_or_refused_iff_emptyFile :
    emptyFile.Readable Yaml.reader ∧
      obtain Yaml.reader emptyFile [] (some "c") = .ok ⟨.mapping [], "/w/c", []⟩ := by
  have found : emptyFile.look "c" = .file "".toUTF8 := by rw [look_emptyFile, if_pos rfl]
  have readable : emptyFile.Readable Yaml.reader := by
    intro path bytes there s decodes
    rw [look_emptyFile] at there
    split at there <;> cases there
    obtain rfl : s = "" := String.toByteArray_inj.mp decodes
    rw [read_empty]
    exact nofun
  obtain ⟨content, of, law⟩ := (acceptable_or_refused_iff [] readable).1 "c" _ found
  obtain rfl := of.unique (.root rfl read_empty)
  have sound : ¬ (Content.root .null).Defective := by
    rintro (same | hollow)
    · cases same
    · exact hollow
  have placed : emptyFile.absolute "c" = "/w/c" := by decide +kernel
  exact ⟨readable, placed ▸ (law.mpr sound).1 _ .empty⟩

def brokenFiles : Files :=
  ⟨"/w", "/h", fun path =>
    if path = "c" ∨ path = "semanteco-config.yaml" then .file ⟨#[0xFF, 0x00, 0xFE]⟩ else .absent⟩

theorem look_brokenFiles (path : RawText) : brokenFiles.look path =
    if path = "c" ∨ path = "semanteco-config.yaml" then .file ⟨#[0xFF, 0x00, 0xFE]⟩
    else .absent := rfl

/-- A file that is no text is not refused as a configuration, and the search of the standard places
fails at it. -/
theorem undecodable_file_escapes :
    (∃ bytes, brokenFiles.look "c" = .file bytes ∧ ∀ s : String, s.toUTF8 ≠ bytes) ∧
    (¬ ∃ fault, obtain Yaml.reader brokenFiles [] (some "c") = .error (.configuration fault)) ∧
    (¬ ∃ c, obtain Yaml.reader brokenFiles [] (some "c") = .ok c) ∧
    ¬ ∃ c, obtain Yaml.reader brokenFiles [] none = .ok c := by
  have none : String.fromUTF8? ⟨#[0xFF, 0x00, 0xFE]⟩ = .none := by
    have undecoded : (String.fromUTF8? ⟨#[0xFF, 0x00, 0xFE]⟩).isSome = false := by decide +kernel
    exact Option.isNone_iff_eq_none.mp (Option.isSome_eq_false_iff.mp undecoded)
  have broken : ∀ s : String, s.toUTF8 ≠ ⟨#[0xFF, 0x00, 0xFE]⟩ := by
    intro s decodes
    rw [(Content.fromUTF8?_eq_some_iff _ s).mpr decodes] at none
    cases none
  have there : brokenFiles.look "c" = .file ⟨#[0xFF, 0x00, 0xFE]⟩ := by
    rw [look_brokenFiles, if_pos (.inl rfl)]
  have named : brokenFiles.Holds Yaml.reader "c" .undecodable :=
    ⟨_, there, .undecodable broken rfl⟩
  have first : brokenFiles.Holds Yaml.reader "semanteco-config.yaml" .undecodable :=
    ⟨_, by rw [look_brokenFiles, if_pos (.inr rfl)], .undecodable broken rfl⟩
  have failed : obtain Yaml.reader brokenFiles [] (some "c") = .error .encoding :=
    obtain_of_holds [] named
  have readable : brokenFiles.Readable Yaml.reader := by
    intro path bytes found s decodes
    rw [look_brokenFiles] at found
    split at found <;> cases found
    exact absurd decodes (broken s)
  have reaches : brokenFiles.Reaches Yaml.reader "semanteco-config.yaml" := ⟨[], _, rfl, nofun⟩
  have stopped := (obtain_of_reaches [] readable reaches first).2 rfl
  rw [failed, stopped]
  exact ⟨⟨_, there, broken⟩, nofun, nofun, nofun⟩

end Config

end SparqlCompose
