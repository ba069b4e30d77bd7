import SparqlCompose.Proofs.Config.Loading
import SparqlCompose.Yaml.Document

namespace SparqlCompose

namespace Content

inductive Gives : Content → Value → Prop
  | mapping (entries : List (Value × Value)) :
      Gives (.root (.mapping entries)) (.mapping entries)
  | hollow {v : Value} (no : v.truthy = false) : Gives (.root v) (.mapping [])

inductive Refused : Content → Prop
  | malformed : Refused .malformed
  | root {v : Value} (full : v.truthy = true) (other : ∀ entries, v ≠ .mapping entries) :
      Refused (.root v)

variable {content : Content}

theorem Gives.exists_entries {root : Value} (gives : content.Gives root) :
    ∃ entries, root = .mapping entries := by
  cases gives with
  | mapping entries => exact ⟨entries, rfl⟩
  | hollow => exact ⟨[], rfl⟩

theorem Gives.loaded_eq {root : Value} (gives : content.Gives root) :
    content.loaded = .ok root := by
  cases gives with
  | mapping entries => cases entries <;> rfl
  | hollow no =>
    rw [loaded, Config.Filling.rootTaken, no]
    rfl

theorem Refused.exists_fault (refused : content.Refused) :
    ∃ fault, content.loaded = .error (.configuration fault) := by
  cases refused with
  | malformed => exact ⟨_, rfl⟩
  | @root v full other =>
    rw [loaded, Config.Filling.rootTaken, if_pos full]
    cases v with
    | mapping entries => exact absurd rfl (other entries)
    | _ => exact ⟨_, rfl⟩

theorem gives_or_refused (content : Content) :
    content = .undecodable ∨ (∃ root, content.Gives root) ∨ content.Refused := by
  cases content with
  | undecodable => exact .inl rfl
  | malformed => exact .inr (.inr .malformed)
  | root v =>
    by_cases full : v.truthy = true
    · by_cases mapping : ∃ entries, v = .mapping entries
      · obtain ⟨entries, rfl⟩ := mapping
        exact .inr (.inl ⟨_, .mapping entries⟩)
      · exact .inr (.inr (.root full (not_exists.mp mapping)))
    · exact .inr (.inl ⟨_, .hollow (Bool.eq_false_iff.mpr full)⟩)

end Content

namespace Files

def Fails (files : Files) (yaml : Yaml.Reader) (path : RawText) : Prop :=
  (∃ reason, files.look path = .unreadable reason) ∨
    ∃ content, files.Holds yaml path content ∧ content.Refused

/-- Nothing is at the path, or it cannot be followed, or what is there cannot be loaded. -/
def Skips (files : Files) (yaml : Yaml.Reader) (path : RawText) : Prop :=
  files.Hides path ∨ files.Fails yaml path

/-- The holder holds the root of the file at the path, and its path from the root down. -/
def Supplies (files : Files) (yaml : Yaml.Reader) (path : RawText) (held : Config.Holder) : Prop :=
  ∃ content root, files.Holds yaml path content ∧ content.Gives root ∧
    held = ⟨root, some (files.absolute path)⟩

end Files

namespace Config

namespace Filling

variable {yaml : Yaml.Reader} {files : Files} {path : RawText}

theorem refuses_of_fails (fails : files.Fails yaml path) : Refuses yaml files path := by
  rcases fails with ⟨reason, there⟩ | ⟨content, holds, refused⟩
  · exact refuses_of_unreadable there
  · obtain ⟨fault, failed⟩ := refused.exists_fault
    exact fun h => ⟨fault, (run_load holds h).2 _ failed⟩

theorem load_cases (found : ¬ files.Hides path) (sound : ¬ files.Fails yaml path) :
    (∃ held, files.Supplies yaml path held ∧ ∀ h, (load yaml files path).run h = .ok () held) ∨
    ∀ h, ∃ e left, (load yaml files path).run h = .error e left ∧
      ∀ fault, e ≠ .configuration fault := by
  cases there : files.look path with
  | absent => exact absurd (.inl there) found
  | barred reason => exact absurd (.inr ⟨reason, there⟩) found
  | unreadable reason => exact absurd (.inl ⟨reason, there⟩) sound
  | file bytes =>
    rcases Content.exists_of yaml bytes with ⟨content, of⟩ | ⟨s, decodes, deep⟩
    · have holds : files.Holds yaml path content := ⟨bytes, there, of⟩
      rcases content.gives_or_refused with rfl | ⟨root, gives⟩ | refused
      · refine .inr fun h => ?_
        obtain ⟨left, failed⟩ := (run_load holds h).2 _ rfl
        exact ⟨_, left, failed, nofun⟩
      · exact .inl ⟨_, ⟨content, root, holds, gives, rfl⟩,
          fun h => (run_load holds h).1 root gives.loaded_eq⟩
      · exact absurd (.inr ⟨content, holds, refused⟩) sound
    · refine .inr fun h => ⟨.tooDeep, h, ?_, nofun⟩
      have stopped : (document yaml bytes).run h = .error .tooDeep h := by
        rw [document, Content.decode?_of_utf8 decodes]
        dsimp only
        rw [deep]
        rfl
      rw [load, there]
      simp only [EStateM.run_bind, stopped]

theorem search_step (yaml : Yaml.Reader) (files : Files) (path : RawText) (paths : List RawText) :
    (files.Skips yaml path ∧ ∀ h, ∃ left,
      (search yaml files (path :: paths)).run h = (search yaml files paths).run left) ∨
    (∃ held, files.Supplies yaml path held ∧
      ∀ h, (search yaml files (path :: paths)).run h = .ok () held) ∨
    ∀ h, ∃ e left, (search yaml files (path :: paths)).run h = .error e left := by
  by_cases skips : files.Skips yaml path
  · exact .inl ⟨skips, search_of_refuses (skips.imp_right refuses_of_fails) paths⟩
  obtain ⟨found, sound⟩ := not_or.mp skips
  rcases load_cases found sound with ⟨held, supplies, loads⟩ | escapes
  · exact .inr (.inl ⟨held, supplies, fun h => run_search_of_ok found paths (loads h)⟩)
  · refine .inr (.inr fun h => ?_)
    obtain ⟨e, left, failed, other⟩ := escapes h
    exact ⟨e, left, run_search_of_other found paths failed other⟩

/-- What ends the search takes over the holder, and the rest of the search does not depend on it. -/
theorem search_cases {paths : List RawText} {h held : Holder}
    (found : (search yaml files paths).run h = .ok () held) :
    (∀ other, (search yaml files paths).run other = .ok () held) ∧
    ((∃ earlier path later, paths = earlier ++ path :: later ∧
        (∀ other ∈ earlier, files.Skips yaml other) ∧ files.Supplies yaml path held) ∨
      (∀ other ∈ paths, files.Skips yaml other) ∧ held = ⟨builtinRoot, some builtinPath⟩) := by
  induction paths generalizing h with
  | nil =>
    cases found
    exact ⟨fun _ => rfl, .inr ⟨nofun, rfl⟩⟩
  | cons path paths ih =>
    rcases search_step yaml files path paths with
      ⟨skips, goesOn⟩ | ⟨held', supplies, ends⟩ | fails
    · obtain ⟨left, same⟩ := goesOn h
      obtain ⟨forgets, source⟩ := ih (same.symm.trans found)
      refine ⟨fun other => ?_, source.imp ?_ ?_⟩
      · obtain ⟨left, same⟩ := goesOn other
        exact same.trans (forgets left)
      · rintro ⟨earlier, first, later, rfl, others, supplies⟩
        exact ⟨path :: earlier, first, later, rfl, List.forall_mem_cons.mpr ⟨skips, others⟩,
          supplies⟩
      · rintro ⟨others, builtin⟩
        exact ⟨List.forall_mem_cons.mpr ⟨skips, others⟩, builtin⟩
    · obtain rfl : held' = held := by
        rw [ends] at found
        cases found
        rfl
      exact ⟨ends, .inl ⟨[], path, paths, rfl, nofun, supplies⟩⟩
    · obtain ⟨e, left, failed⟩ := fails h
      rw [failed] at found
      cases found

end Filling

/-- What the search of the standard places leaves in a holder has one source: the first file that is
there and can be loaded, or what is built in. What failed before it left nothing, nor did what the
holder held when the search began. -/
theorem search_leaves_no_trace {yaml : Yaml.Reader} {files : Files} {h held : Holder}
    (found : (Filling.fill yaml files none).run h = .ok () held) :
    (∃ entries, held.root = .mapping entries) ∧
    ((∃ earlier path later, standardPaths files = earlier ++ path :: later ∧
        (∀ other ∈ earlier, files.Skips yaml other) ∧ files.Supplies yaml path held) ∨
      (∀ other ∈ standardPaths files, files.Skips yaml other) ∧
        held = ⟨builtinRoot, some "<built-in defaults>"⟩) ∧
    (∀ other, (Filling.fill yaml files none).run other = .ok () held) ∧
    ∀ environment, obtain yaml files environment none = .ok (held.config environment) := by
  obtain ⟨forgets, source⟩ := Filling.search_cases found
  refine ⟨?_, source, forgets, fun environment => ?_⟩
  · rcases source with ⟨-, path, -, -, -, content, root, -, gives, rfl⟩ | ⟨-, rfl⟩
    · exact gives.exists_entries
    · exact ⟨_, rfl⟩
  · rw [obtain]
    exact congrArg (Holder.outcome environment) (forgets .fresh)

def listFirst : Files :=
  ⟨"/w", "/h", fun path =>
    if path = "semanteco-config.yaml" then .file "[\"a\"]".toUTF8
    else if path = "/h/.semanteco/semanteco-config.yaml" then .file "\x7b\"a\": \"b\"\x7d".toUTF8
    else .absent⟩

theorem look_listFirst (path : RawText) : listFirst.look path =
    if path = "semanteco-config.yaml" then .file "[\"a\"]".toUTF8
    else if path = "/h/.semanteco/semanteco-config.yaml" then .file "\x7b\"a\": \"b\"\x7d".toUTF8
    else .absent := rfl

theorem standardPaths_listFirst : standardPaths listFirst =
    (["semanteco-config.yaml", "semanteco_config/semanteco-config.yaml",
      "/h/.semanteco/semanteco-config.yaml", "/etc/semanteco/semanteco-config.yaml"] :
        List RawText) := by
  decide +kernel

theorem holds_list : listFirst.Holds Yaml.reader "semanteco-config.yaml"
    (.root (.list [.text "a"])) := by
  have scanned : Yaml.Token.ofText? (unified "[\"a\"]") =
      some [.flowSequenceStart, .scalar false "a", .flowSequenceEnd] := by decide +kernel
  have reads : Yaml.reader.load (unified "[\"a\"]") = .ok (.list [.text "a"]) := by
    rw [Yaml.load_reader, Yaml.read, scanned]
    rfl
  have there : listFirst.look "semanteco-config.yaml" = .file "[\"a\"]".toUTF8 := by
    rw [look_listFirst, if_pos rfl]
  exact ⟨_, there, .root rfl reads⟩

theorem holds_mapping : listFirst.Holds Yaml.reader "/h/.semanteco/semanteco-config.yaml"
    (.root (.mapping [(.text "a", .text "b")])) := by
  have scanned : Yaml.Token.ofText? (unified "\x7b\"a\": \"b\"\x7d") =
      some [.flowMappingStart, .key, .scalar false "a", .value, .scalar false "b",
        .flowMappingEnd] := by decide +kernel
  have reads : Yaml.reader.load (unified "\x7b\"a\": \"b\"\x7d") =
      .ok (.mapping [(.text "a", .text "b")]) := by
    rw [Yaml.load_reader, Yaml.read, scanned]
    rfl
  have there : listFirst.look "/h/.semanteco/semanteco-config.yaml" =
      .file "\x7b\"a\": \"b\"\x7d".toUTF8 := by
    rw [look_listFirst, if_neg (by decide), if_pos rfl]
  exact ⟨_, there, .root rfl reads⟩

/-- The list is refused when it and its path have been taken over; the search ends with the mapping,
also where it begins with the list in the holder. -/
theorem search_leaves_no_trace_listFirst :
    (Filling.load Yaml.reader listFirst "semanteco-config.yaml").run .fresh =
        .error (.configuration .rootNotMapping)
          ⟨.list [.text "a"], some "/w/semanteco-config.yaml"⟩ ∧
      (Filling.fill Yaml.reader listFirst none).run .fresh = .ok ()
        ⟨.mapping [(.text "a", .text "b")], some "/h/.semanteco/semanteco-config.yaml"⟩ ∧
      (Filling.fill Yaml.reader listFirst none).run
          ⟨.list [.text "a"], some "/w/semanteco-config.yaml"⟩ = .ok ()
        ⟨.mapping [(.text "a", .text "b")], some "/h/.semanteco/semanteco-config.yaml"⟩ ∧
      obtain Yaml.reader listFirst [] none =
        .ok ⟨.mapping [(.text "a", .text "b")], "/h/.semanteco/semanteco-config.yaml", []⟩ := by
  have first : listFirst.absolute "semanteco-config.yaml" = "/w/semanteco-config.yaml" := by
    decide +kernel
  have third : listFirst.absolute "/h/.semanteco/semanteco-config.yaml" =
      "/h/.semanteco/semanteco-config.yaml" := by decide +kernel
  have refused := Filling.run_load_root holds_list
  have taken := Filling.run_load_root holds_mapping
  rw [first] at refused
  rw [third] at taken
  have second : listFirst.Hides "semanteco_config/semanteco-config.yaml" := by
    refine .inl ?_
    rw [look_listFirst, if_neg (by decide), if_neg (by decide)]
  have found : (Filling.fill Yaml.reader listFirst none).run .fresh = .ok ()
      ⟨.mapping [(.text "a", .text "b")], some "/h/.semanteco/semanteco-config.yaml"⟩ := by
    rw [Filling.fill, standardPaths_listFirst,
      Filling.run_search_of_configuration holds_list.not_hides _ (refused _),
      Filling.search_of_hides second]
    exact Filling.run_search_of_ok holds_mapping.not_hides _ (taken _)
  obtain ⟨-, -, forgets, obtained⟩ := search_leaves_no_trace found
  exact ⟨refused _, found, forgets _, obtained []⟩

end Config

end SparqlCompose
