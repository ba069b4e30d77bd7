import SparqlCompose.Config.Source
import SparqlCompose.Pipeline.Loading
import SparqlCompose.Proofs.Config.Usable
import SparqlCompose.Proofs.Identifier
import SparqlCompose.Proofs.Pipeline.Visit

namespace SparqlCompose

namespace Library

def Splits (path package name : RawText) : Prop :=
  path.points = package.points ++ .char '.' :: name.points ∧ .char '.' ∉ name.points

def Relative (path : RawText) : Prop :=
  ∃ package name, Splits path package name ∧ package.points.head? = some (.char '.')

variable (lib : Library)

inductive Has (path : RawText) (a : Attribute) : Prop
  | intro {package name : RawText} {names : List (RawText × Attribute)}
    (splits : Splits path package name) (filled : package ≠ "")
    (absolute : package.points.head? ≠ some (.char '.'))
    (known : Entries.get? package lib.packages = some names)
    (named : Entries.get? name names = some a)

/-- No module can be made of what the path stands for, though it is not at fault. -/
def Unmakeable (path : RawText) : Prop := Relative path ∨ lib.Has path .unfinished

inductive Loads (path : RawText) : Except Failure Module → Prop
  | made {m : Module} (has : lib.Has path (.module m)) : Loads path (.ok m)
  | unmakeable (unmakeable : lib.Unmakeable path) : Loads path (.error .kind)
  | other (has : lib.Has path .other) : Loads path (.error (.configuration (.notModule path)))
  | nothing (absolute : ¬ Relative path) (none : ∀ a, ¬ lib.Has path a) :
      Loads path (.error (.configuration (.unloadable path)))

variable {lib} {path package name : RawText}

theorem Splits.parts_eq (splits : Splits path package name) : parts path = (package, name) := by
  obtain ⟨whole, plain⟩ := splits
  have clean : ∀ p ∈ name.points, (p == Point.char '.') = false := by
    intro p member
    rw [beq_eq_false_iff_ne]
    rintro rfl
    exact plain member
  have split := @Identifier.splitAfterLast_append_cons _ (· == Point.char '.') (.char '.') _
    package.points rfl clean
  rw [parts, whole, split]
  simp

theorem splits_parts (dotted : .char '.' ∈ path.points) :
    Splits path (parts path).1 (parts path).2 := by
  have whole := Identifier.splitAfterLast_append (· == Point.char '.') path.points
  have plain : .char '.' ∉ (Identifier.splitAfterLast (· == Point.char '.') path.points).2 :=
    fun member => absurd (Identifier.splitAfterLast_clean _ member) (by decide)
  rcases Identifier.splitAfterLast_front (· == Point.char '.') path.points with
    none | ⟨front, sep, dot, is⟩
  · rw [none, List.nil_append] at whole
    -- With nothing in front, the path would be its own name, which has no dot.
    rw [whole] at plain
    exact absurd dotted plain
  · obtain rfl : sep = .char '.' := beq_iff_eq.mp dot
    rw [is] at whole
    refine ⟨?_, plain⟩
    rw [parts, is]
    simpa using whole.symm

theorem Splits.relative_iff (splits : Splits path package name) :
    Relative path ↔ package.points.head? = some (.char '.') := by
  constructor
  · rintro ⟨_, _, splits', starts⟩
    cases splits.parts_eq.symm.trans splits'.parts_eq
    exact starts
  · exact fun starts => ⟨package, name, splits, starts⟩

theorem Splits.has_iff (splits : Splits path package name) (a : Attribute) :
    lib.Has path a ↔ package ≠ "" ∧ package.points.head? ≠ some (.char '.') ∧
      (Entries.get? package lib.packages).bind (Entries.get? name) = some a := by
  rw [Option.bind_eq_some_iff]
  constructor
  · rintro ⟨splits', filled, absolute, known, named⟩
    cases splits.parts_eq.symm.trans splits'.parts_eq
    exact ⟨filled, absolute, _, known, named⟩
  · rintro ⟨filled, absolute, names, known, named⟩
    exact ⟨splits, filled, absolute, known, named⟩

theorem lookUp_of_relative (relative : Relative path) : lib.lookUp path = .error .kind := by
  obtain ⟨package, name, splits, starts⟩ := relative
  simp only [lookUp, splits.parts_eq, starts, if_true]
  rfl

theorem lookUp_of_has {a : Attribute} (has : lib.Has path a) : lib.lookUp path = .ok a := by
  obtain ⟨splits, filled, absolute, known, named⟩ := has
  rename_i package name names
  have nonempty : package.isEmpty = false := RawText.isEmpty_eq_false filled
  simp only [lookUp, splits.parts_eq, absolute, nonempty, known, Option.bind_some, named, if_false,
    Bool.false_eq_true]
  rfl

theorem lookUp_of_nothing (dotted : .char '.' ∈ path.points) (absolute : ¬ Relative path)
    (none : ∀ a, ¬ lib.Has path a) :
    lib.lookUp path = .error (.configuration (.unloadable path)) := by
  have splits := splits_parts dotted
  have starts := mt splits.relative_iff.mpr absolute
  by_cases filled : (parts path).1 = ""
  · simp only [lookUp, filled]
    rfl
  have nonempty : (parts path).1.isEmpty = false := RawText.isEmpty_eq_false filled
  have unknown : (Entries.get? (parts path).1 lib.packages).bind (Entries.get? (parts path).2) =
      Option.none := by
    rw [Option.eq_none_iff_forall_ne_some]
    exact fun a found => none a ((splits.has_iff a).mpr ⟨filled, starts, found⟩)
  simp only [lookUp, starts, nonempty, if_false, Bool.false_eq_true, unknown]
  rfl

theorem moduleFor_of_has {m : Module} (has : lib.Has path (.module m)) :
    lib.moduleFor (.text path) = .ok m := by
  rw [moduleFor, lookUp_of_has has]
  rfl

theorem moduleFor_of_unmakeable (unmakeable : lib.Unmakeable path) :
    lib.moduleFor (.text path) = .error .kind := by
  rw [moduleFor]
  rcases unmakeable with relative | has
  · rw [lookUp_of_relative relative]
    rfl
  · rw [lookUp_of_has has]
    rfl

theorem loads_moduleFor (lib : Library) (dotted : .char '.' ∈ path.points) :
    lib.Loads path (lib.moduleFor (.text path)) := by
  by_cases relative : Relative path
  · rw [moduleFor_of_unmakeable (.inl relative)]
    exact .unmakeable (.inl relative)
  by_cases some : ∃ a, lib.Has path a
  · obtain ⟨a, has⟩ := some
    rw [moduleFor, lookUp_of_has has]
    cases a with
    | module m => exact .made has
    | unfinished => exact .unmakeable (.inr has)
    | other => exact .other has
  · have none := not_exists.mp some
    rw [moduleFor, lookUp_of_nothing dotted relative none]
    exact .nothing relative none

/-- No module can be made of one of the paths, and all before it give modules. -/
def Blocked (lib : Library) (paths : List RawText) : Prop :=
  ∃ before path after, paths = before ++ path :: after ∧
    (∀ p ∈ before, ∃ m, lib.Has p (.module m)) ∧ lib.Unmakeable path

def modulesFor (lib : Library) (paths : List RawText) : Except Failure (List Module) :=
  paths.mapM fun path => lib.moduleFor (.text path)

theorem modulesFor_of_blocked {paths : List RawText} (blocked : lib.Blocked paths) :
    lib.modulesFor paths = .error .kind := by
  obtain ⟨before, path, after, rfl, fine, unmakeable⟩ := blocked
  refine mapM_eq_error (fun p member => ?_) (moduleFor_of_unmakeable unmakeable)
  obtain ⟨m, has⟩ := fine p member
  exact ⟨m, moduleFor_of_has has⟩

theorem has_of_moduleFor {m : Module} (dotted : .char '.' ∈ path.points)
    (made : lib.moduleFor (.text path) = .ok m) : lib.Has path (.module m) := by
  have loads := lib.loads_moduleFor dotted
  rw [made] at loads
  cases loads with
  | made has => exact has

theorem modulesFor_of_has {paths : List RawText} {ms : List Module}
    (has : List.Forall₂ (fun path m => lib.Has path (.module m)) paths ms) :
    lib.modulesFor paths = .ok ms :=
  mapM_eq_ok (has.imp fun _ _ => moduleFor_of_has)

theorem modulesFor_cases (lib : Library) {paths : List RawText}
    (dotted : ∀ path ∈ paths, .char '.' ∈ path.points) :
    lib.Blocked paths ∧ lib.modulesFor paths = .error .kind ∨
      (∃ fault, lib.modulesFor paths = .error (.configuration fault)) ∨
      ∃ ms, lib.modulesFor paths = .ok ms ∧
        List.Forall₂ (fun path m => lib.Has path (.module m)) paths ms := by
  cases made : lib.modulesFor paths with
  | ok ms =>
    have each := (List.forall₂_and_left _ _).mpr ⟨dotted, forall₂_of_mapM_eq_ok made⟩
    exact .inr (.inr ⟨ms, rfl, each.imp fun _ _ both => has_of_moduleFor both.1 both.2⟩)
  | error e =>
    obtain ⟨before, path, after, rfl, failed, fine⟩ := exists_of_mapM_eq_error made
    have loads := lib.loads_moduleFor (dotted path (by simp))
    rw [failed] at loads
    cases loads with
    | unmakeable unmakeable =>
      refine .inl ⟨⟨before, path, after, rfl, fun p member => ?_, unmakeable⟩, rfl⟩
      obtain ⟨m, made⟩ := fine p member
      exact ⟨m, has_of_moduleFor (dotted p (by simp [member])) made⟩
    | other | nothing => exact .inr (.inl ⟨_, rfl⟩)

theorem has_standardModules :
    List.Forall₂ (fun path m => standard.Has path (.module m)) Config.standardModules
      [Provider.water.toModule, Provider.air.toModule] := by
  have water : Splits "semanteco.providers.water_data_provider.WaterDataProviderModule"
    "semanteco.providers.water_data_provider" "WaterDataProviderModule" :=
    ⟨by decide +kernel, by decide +kernel⟩
  have air : Splits "semanteco.providers.air_data_provider.AirDataProviderModule"
    "semanteco.providers.air_data_provider" "AirDataProviderModule" :=
    ⟨by decide +kernel, by decide +kernel⟩
  refine .cons ?_ (.cons ?_ .nil)
  · exact ⟨water, by decide, by decide, rfl, rfl⟩
  · exact ⟨air, by decide, by decide, rfl, rfl⟩

end Library

namespace Pipeline

open Config

variable {c : Config} (d : Draft)

theorem exists_services (valid : c.validate = .ok ()) (turtle : Rdf.Reader) :
    ∃ services, servicesOf turtle c = .ok services ∧ services.config = c := by
  obtain ⟨b, strict⟩ := exists_strict valid
  exact ⟨⟨c, b, turtle⟩, by rw [servicesOf, strict]; rfl, rfl⟩

/-- The pipeline holds a module of each path, in their order and under different names, and what
the configuration provides for all of them. -/
structure Assembled (lib : Library) (c : Config) (paths : List RawText) (p : Pipeline) : Prop where
  modules : List.Forall₂ (fun path m => lib.Has path (.module m)) paths p.modules
  distinct : (p.modules.map (·.name)).Nodup
  services : servicesOf lib.turtle c = .ok p.services
  configured : p.services.config = c

theorem run_ofLibrary {services : Services} {paths : List RawText} (lib : Library)
    (provided : servicesOf lib.turtle c = .ok services) (listed : c.modules = .ok (paths.map .text)) :
    (ofLibrary lib c).run d =
      match lib.modulesFor paths with
      | .ok ms => (make ms services).run d
      | .error e => .error e d := by
  have entries : (paths.map Value.text).mapM lib.moduleFor = lib.modulesFor paths :=
    List.mapM_map
  unfold ofLibrary
  rw [provided, listed]
  refine (Edit.run_bind_ok (Edit.run_ofExcept_ok _ _)).trans ?_
  refine (Edit.run_bind_ok (Edit.run_ofExcept_ok _ _)).trans ?_
  rw [entries]
  cases lib.modulesFor paths <;> rfl

/-- Whatever the library, a valid configuration gives a pipeline of the modules that it lists or is
refused with a fault of the configuration, exactly unless no module can be made of a path where all
before it give modules. Then assembling fails in another way. A pipeline is given wherever each path
has a module and the names differ. -/
theorem assembled_or_refused_iff (valid : c.validate = .ok ()) (lib : Library) :
    ∃ paths : List RawText, c.modules = .ok (paths.map .text) ∧ AreClassPaths paths ∧
      (((∃ p, Assembled lib c paths p ∧
            (ofLibrary lib c).run d = .ok p (d.recordAll (registrations p.modules).toArray)) ∨
          ∃ fault, (ofLibrary lib c).run d = .error (.configuration fault) d) ↔
        ¬ lib.Blocked paths) ∧
      (lib.Blocked paths → (ofLibrary lib c).run d = .error .kind d) ∧
      ∀ ms, List.Forall₂ (fun path m => lib.Has path (.module m)) paths ms →
        (ms.map (·.name)).Nodup → ∃ p d', p.modules = ms ∧ (ofLibrary lib c).run d = .ok p d' := by
  obtain ⟨paths, listed, are⟩ := exists_paths valid
  obtain ⟨services, provided, configured⟩ := exists_services valid lib.turtle
  have run := run_ofLibrary d lib provided listed
  refine ⟨paths, listed, are, ⟨?_, fun sound => ?_⟩, fun blocked => ?_, fun ms has distinct => ?_⟩
  · intro ends blocked
    rw [run, Library.modulesFor_of_blocked blocked] at ends
    rcases ends with ⟨p, -, ⟨⟩⟩ | ⟨fault, ⟨⟩⟩
  · rcases lib.modulesFor_cases are.dotted with
      ⟨blocked, -⟩ | ⟨fault, refused⟩ | ⟨ms, made, modules⟩
    · exact absurd blocked sound
    · exact .inr ⟨fault, by rw [run, refused]⟩
    · rw [run, made]
      rcases run_make ms services d with ⟨distinct, registered⟩ | ⟨-, fault, refused⟩
      · exact .inl ⟨_, ⟨modules, distinct, provided, configured⟩, registered⟩
      · exact .inr ⟨fault, refused⟩
  · rw [run, Library.modulesFor_of_blocked blocked]
  · rw [run, Library.modulesFor_of_has has]
    rcases run_make ms services d with ⟨-, registered⟩ | ⟨repeated, -⟩
    · exact ⟨_, _, rfl, registered⟩
    · exact absurd distinct repeated

theorem assembled_or_refused_iff_builtin :
    (builtin []).validate = .ok () ∧ ∃ p d',
      p.modules = [Provider.water.toModule, Provider.air.toModule] ∧
        (ofLibrary .standard (builtin [])).run .empty = .ok p d' := by
  obtain ⟨paths, listed, -, -, -, given⟩ := assembled_or_refused_iff .empty valid_builtin .standard
  obtain rfl : standardModules = paths := text_injective.list_map (Except.ok.inj listed)
  exact ⟨valid_builtin, given _ Library.has_standardModules (by decide)⟩

def listing (path : RawText) : Config :=
  ofRoot (.mapping [(.text "modules", .list [.text path])]) []

def Settled : EStateM.Result Failure Draft Pipeline → Prop
  | .ok .. | .error (.configuration _) _ => True
  | .error .. => False

/-- A relative path and the path of an unfinished module pass the check of the configuration, and
are no faults of it when the pipeline is assembled. -/
theorem relative_path_escapes :
    ((listing ".semanteco.X").validate = .ok () ∧
      ¬ Settled ((ofConfig (listing ".semanteco.X")).run .empty)) ∧
    (listing "semanteco.module.Module").validate = .ok () ∧
      ¬ Settled ((ofConfig (listing "semanteco.module.Module")).run .empty) := by
  have relative : (ofConfig (listing ".semanteco.X")).run .empty = .error .kind .empty := by rfl
  have unfinished : (ofConfig (listing "semanteco.module.Module")).run .empty =
      .error .kind .empty := by rfl
  rw [relative, unfinished]
  exact ⟨⟨by rfl, id⟩, by rfl, id⟩

end Pipeline

end SparqlCompose
