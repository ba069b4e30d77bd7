import SparqlCompose.Proofs.Draft.Journal
import SparqlCompose.Proofs.Json.Grammar
import SparqlCompose.ResultTable

namespace SparqlCompose

open Value

namespace Binding

/-- What a member of a row says. -/
def Means (raw : Value) (b : Binding) : Prop :=
  ∃ parts, raw = .mapping (named parts) ∧
    Entries.get? (.ofString "value") parts = some (.text b.value) ∧
    b.type = (Entries.get? (.ofString "type") parts).getD .null ∧
    b.datatype = (Entries.get? (.ofString "datatype") parts).getD .null ∧
    b.language = (Entries.get? (.ofString "xml:lang") parts).getD .null

theorem Means.unique {raw : Value} {b b' : Binding} (means : Means raw b) (means' : Means raw b') :
    b = b' := by
  obtain ⟨parts, rfl, value, type, datatype, language⟩ := means
  obtain ⟨parts', same, value', type', datatype', language'⟩ := means'
  obtain rfl := named_injective (Value.mapping.inj same)
  obtain ⟨v, t, d, l⟩ := b
  obtain ⟨v', t', d', l'⟩ := b'
  dsimp only at *
  rw [value] at value'
  cases value'
  rw [type, type', datatype, datatype', language, language']

theorem ofValue_eq_ok_iff {raw : Value} (document : raw.IsDocument) (name : RawText) (b : Binding) :
    ofValue name raw = .ok b ↔ Means raw b := by
  constructor
  · intro made
    cases raw with
    | mapping entries =>
      obtain ⟨parts, rfl, -⟩ := document.exists_members
      simp only [ofValue, member?_named] at made
      split at made
      · cases made
      · rename_i value
        cases made
        exact ⟨parts, rfl, value, rfl, rfl, rfl⟩
      · cases made
    | _ => cases made
  · rintro ⟨parts, rfl, value, type, datatype, language⟩
    obtain ⟨v, t, d, l⟩ := b
    dsimp only at *
    simp only [ofValue, member?_named, value, type, datatype, language]

end Binding

namespace Row

/-- The row has the names that are asked for and those that the object has, and binds the latter to
what they say. -/
structure Decodes (names : List RawText) (members : List (RawText × Value)) (row : Row) : Prop where
  bound_iff : ∀ name, (∃ b, row.binding? name = some b) ↔ name ∈ Entries.keys members
  meaning : ∀ name b, row.binding? name = some b →
    ∃ raw, Entries.get? name members = some raw ∧ Binding.Means raw b
  present_iff : ∀ name, name ∈ Entries.keys row ↔ name ∈ names ∨ name ∈ Entries.keys members

def Bindings (members : List (RawText × Value)) (pairs : List (RawText × Option Binding)) : Prop :=
  List.Forall₂ (fun m pair => ∃ b, pair = (m.1, some b) ∧ Binding.Means m.2 b) members pairs

theorem Bindings.keys_eq {members : List (RawText × Value)} {pairs : List (RawText × Option Binding)}
    (bindings : Bindings members pairs) : Entries.keys pairs = Entries.keys members := by
  induction bindings with
  | nil => rfl
  | cons first _ ih =>
    obtain ⟨b, rfl, -⟩ := first
    exact congrArg _ ih

theorem Bindings.exists_of_get? {members : List (RawText × Value)}
    {pairs : List (RawText × Option Binding)} (bindings : Bindings members pairs) {name : RawText}
    {raw : Value} (found : Entries.get? name members = some raw) :
    ∃ b, (name, some b) ∈ pairs ∧ Binding.Means raw b := by
  induction bindings with
  | nil => cases found
  | cons first _ ih =>
    obtain ⟨b, rfl, means⟩ := first
    rw [Entries.get?] at found
    split at found
    case isTrue same =>
      cases found
      exact ⟨b, by rw [same]; exact List.mem_cons_self, means⟩
    case isFalse =>
      obtain ⟨b, member, means⟩ := ih found
      exact ⟨b, List.mem_cons_of_mem _ member, means⟩

theorem ofMembers_eq_ok_iff {members : List (RawText × Value)}
    (each : ∀ m ∈ members, m.2.IsDocument) (row row' : Row) :
    ofMembers row (named members) = .ok row' ↔
      ∃ pairs, Bindings members pairs ∧ row' = Entries.putAll pairs row := by
  induction members generalizing row with
  | nil =>
    constructor
    · intro made
      cases made
      exact ⟨[], .nil, rfl⟩
    · rintro ⟨pairs, ⟨⟩, rfl⟩
      rfl
  | cons m rest ih =>
    obtain ⟨document, others⟩ := List.forall_mem_cons.mp each
    have split : named (m :: rest) = (.text m.1, m.2) :: named rest := rfl
    rw [split, ofMembers]
    constructor
    · intro made
      obtain ⟨b, first, made⟩ := exists_of_bind_eq_ok made
      obtain ⟨pairs, bindings, rfl⟩ := (ih others _).mp made
      have means := (Binding.ofValue_eq_ok_iff document _ b).mp first
      exact ⟨_ :: pairs, .cons ⟨b, rfl, means⟩ bindings, rfl⟩
    · rintro ⟨_, bindings, rfl⟩
      obtain ⟨_, _, ⟨b, rfl, means⟩, later, rfl⟩ := List.forall₂_cons_left_iff.mp bindings
      rw [(Binding.ofValue_eq_ok_iff document _ b).mpr means]
      exact (ih others _).mpr ⟨_, later, rfl⟩

theorem unbound_eq (names : List RawText) :
    unbound names = Entries.putAll (names.map fun name => (name, none)) [] := rfl

theorem binding?_unbound (names : List RawText) (name : RawText) :
    (unbound names).binding? name = none := by
  rw [binding?]
  cases found : Entries.get? name (unbound names) with
  | none => rfl
  | some entry =>
    have member := Entries.mem_of_get? found
    rw [unbound_eq] at member
    have listed := (Entries.mem_putAll member).resolve_right nofun
    obtain ⟨_, -, same⟩ := List.mem_map.mp listed
    cases same
    rfl

theorem mem_keys_unbound {names : List RawText} {name : RawText} :
    name ∈ Entries.keys (unbound names) ↔ name ∈ names := by
  rw [unbound_eq, Entries.mem_keys_putAll]
  simp [Entries.keys]

theorem Bindings.decodes {members : List (RawText × Value)}
    {pairs : List (RawText × Option Binding)} (bindings : Bindings members pairs)
    (distinct : (Entries.keys members).Nodup) (names : List RawText) :
    Decodes names members (Entries.putAll pairs (unbound names)) := by
  have distinct' := distinct
  rw [← bindings.keys_eq] at distinct'
  have absent {name : RawText} (other : name ∉ Entries.keys members) :
      binding? (Entries.putAll pairs (unbound names)) name = none := by
    rw [← bindings.keys_eq] at other
    rw [binding?, Entries.get?_putAll_of_not_mem other]
    exact binding?_unbound names name
  have present {name : RawText} {raw : Value} (found : Entries.get? name members = some raw) :
      ∃ b, binding? (Entries.putAll pairs (unbound names)) name = some b ∧ Binding.Means raw b := by
    obtain ⟨b, member, means⟩ := bindings.exists_of_get? found
    refine ⟨b, ?_, means⟩
    rw [binding?, Entries.get?_putAll_of_mem distinct' member]
    rfl
  refine ⟨fun name => ⟨?_, ?_⟩, fun name b bound => ?_, fun name => ?_⟩
  · rintro ⟨b, bound⟩
    by_contra other
    rw [absent other] at bound
    cases bound
  · intro member
    obtain ⟨raw, found⟩ := Entries.mem_keys_iff.mp member
    obtain ⟨b, bound, -⟩ := present found
    exact ⟨b, bound⟩
  · have member : name ∈ Entries.keys members := by
      by_contra other
      rw [absent other] at bound
      cases bound
    obtain ⟨raw, found⟩ := Entries.mem_keys_iff.mp member
    obtain ⟨b', bound', means⟩ := present found
    rw [bound'] at bound
    cases bound
    exact ⟨raw, found, means⟩
  · rw [Entries.mem_keys_putAll, mem_keys_unbound, bindings.keys_eq, or_comm]

def Binds (members : List (RawText × Value)) : Prop := ∀ m ∈ members, ∃ b, Binding.Means m.2 b

theorem Binds.exists_bindings {members : List (RawText × Value)} (binds : Binds members) :
    ∃ pairs, Bindings members pairs := by
  induction members with
  | nil => exact ⟨[], .nil⟩
  | cons m rest ih =>
    obtain ⟨⟨b, means⟩, others⟩ := List.forall_mem_cons.mp binds
    obtain ⟨pairs, bindings⟩ := ih others
    exact ⟨_ :: pairs, .cons ⟨b, rfl, means⟩ bindings⟩

theorem Bindings.binds {members : List (RawText × Value)} {pairs : List (RawText × Option Binding)}
    (bindings : Bindings members pairs) : Binds members := by
  induction bindings with
  | nil => exact nofun
  | cons first _ ih =>
    obtain ⟨b, -, means⟩ := first
    exact List.forall_mem_cons.mpr ⟨⟨b, means⟩, ih⟩

theorem ofValue_eq_ok {names : List RawText} {index : Nat} {raw : Value} {row : Row}
    (document : raw.IsDocument) (made : ofValue names index raw = .ok row) :
    ∃ members, raw = .mapping (named members) ∧ Binds members ∧ Decodes names members row := by
  cases raw with
  | mapping entries =>
    obtain ⟨members, rfl, distinct, each⟩ := document.exists_members
    obtain ⟨pairs, bindings, rfl⟩ := (ofMembers_eq_ok_iff each _ _).mp made
    exact ⟨members, rfl, bindings.binds, bindings.decodes distinct names⟩
  | _ => cases made

theorem Binds.exists_ofValue {members : List (RawText × Value)} (binds : Binds members)
    (document : (Value.mapping (named members)).IsDocument) (names : List RawText) (index : Nat) :
    ∃ row, ofValue names index (.mapping (named members)) = .ok row := by
  obtain ⟨members', same, -, each⟩ := document.exists_members
  obtain rfl := named_injective same
  obtain ⟨pairs, bindings⟩ := binds.exists_bindings
  exact ⟨_, (ofMembers_eq_ok_iff each _ _).mpr ⟨pairs, bindings, rfl⟩⟩

end Row

namespace ResultTable

/-- The text is a JSON document in the tabular format, with this root and these rows. -/
structure Tabular (text : RawText) (root : List (RawText × Value))
    (rows : List (List (RawText × Value))) : Prop where
  denotes : Json.Denotes text (.mapping (named root))
  bindings : ∃ results, Entries.get? (.ofString "results") root = some (.mapping (named results)) ∧
    Entries.get? (.ofString "bindings") results =
      some (.list (rows.map fun row => .mapping (named row)))
  binds : ∀ row ∈ rows, Row.Binds row

/-- The names that a table is to show: those that are asked for, else those that the head lists,
else the names in the rows, each where it is first seen. -/
structure Shows (asked : Option (List RawText)) (root : List (RawText × Value))
    (rows : List (List (RawText × Value))) (names : List RawText) : Prop where
  given : ∀ wanted, asked = some wanted → names = wanted
  head : asked = none → ∀ head vars,
    Entries.get? (.ofString "head") root = some (.mapping (named head)) →
    Entries.get? (.ofString "vars") head = some (.list vars) →
    List.Forall₂ (fun v name => v.display = some name) vars names
  seen : asked = none →
    (¬ ∃ head vars, Entries.get? (.ofString "head") root = some (.mapping (named head)) ∧
      Entries.get? (.ofString "vars") head = some (.list vars)) →
    names = (rows.flatMap Entries.keys).eraseDups

section Rows

variable {names : List RawText}

theorem rowsFrom_eq_ok {index : Nat} {raws : List Value} {rows : List Row}
    (each : ∀ raw ∈ raws, raw.IsDocument) (made : rowsFrom names index raws = .ok rows) :
    ∃ objects : List (List (RawText × Value)),
      raws = objects.map (fun members => .mapping (named members)) ∧
      (∀ members ∈ objects, Row.Binds members) ∧ List.Forall₂ (Row.Decodes names) objects rows := by
  induction raws generalizing index rows with
  | nil =>
    cases made
    exact ⟨[], rfl, nofun, .nil⟩
  | cons raw rest ih =>
    obtain ⟨document, others⟩ := List.forall_mem_cons.mp each
    obtain ⟨row, first, made⟩ := exists_of_bind_eq_ok made
    obtain ⟨later, last, same⟩ := exists_of_bind_eq_ok made
    cases same
    obtain ⟨members, rfl, binds, decodes⟩ := Row.ofValue_eq_ok document first
    obtain ⟨objects, rfl, binds', decodes'⟩ := ih others last
    exact ⟨members :: objects, rfl, List.forall_mem_cons.mpr ⟨binds, binds'⟩,
      .cons decodes decodes'⟩

theorem exists_rowsFrom {objects : List (List (RawText × Value))}
    (binds : ∀ members ∈ objects, Row.Binds members)
    (each : ∀ members ∈ objects, (Value.mapping (named members)).IsDocument) (index : Nat) :
    ∃ rows, rowsFrom names index (objects.map fun members => .mapping (named members)) =
      .ok rows := by
  induction objects generalizing index with
  | nil => exact ⟨[], rfl⟩
  | cons members rest ih =>
    obtain ⟨first, later⟩ := List.forall_mem_cons.mp binds
    obtain ⟨document, others⟩ := List.forall_mem_cons.mp each
    obtain ⟨row, made⟩ := first.exists_ofValue document names index
    obtain ⟨rows, last⟩ := ih later others (index + 1)
    refine ⟨row :: rows, ?_⟩
    rw [List.map_cons, rowsFrom, made, last]
    rfl

end Rows

section Names

theorem foldl_noted (seen names : List RawText) :
    (names.map Value.text).foldl noted seen.eraseDups = (seen ++ names).eraseDups := by
  induction names generalizing seen with
  | nil => rw [List.append_nil]; rfl
  | cons name names ih =>
    have step : noted seen.eraseDups (.text name) = (seen ++ [name]).eraseDups := by
      rw [noted, List.eraseDups_append]
      by_cases there : name ∈ seen
      · rw [if_pos (List.mem_eraseDups.mpr there)]
        simp [List.removeAll, there]
      · rw [if_neg (mt List.mem_eraseDups.mp there)]
        simp [List.removeAll, there, List.eraseDups_cons]
    rw [List.map_cons, List.foldl_cons, step, ih, List.append_assoc]
    rfl

theorem map_fst_named (members : List (RawText × Value)) :
    (named members).map Prod.fst = (Entries.keys members).map .text := by
  rw [named, Entries.keys, List.map_map, List.map_map]
  rfl

theorem memberNames_eq (objects : List (List (RawText × Value))) :
    memberNames (objects.map fun members => .mapping (named members)) =
      (objects.flatMap Entries.keys).eraseDups := by
  have names : ((objects.flatMap Entries.keys).map Value.text).foldl noted [] =
      (objects.flatMap Entries.keys).eraseDups := foldl_noted [] _
  rw [← names, List.map_flatMap, List.foldl_flatMap, memberNames, List.foldl_map]
  congr 1
  funext seen members
  exact congrArg (List.foldl noted seen) (map_fst_named members)

theorem exists_announced {root : List (RawText × Value)} (each : ∀ m ∈ root, m.2.IsDocument)
    (rows : List Value) (asked : Option (List RawText)) :
    ∃ names, asked.elim (announced (named root) rows) .ok = .ok names := by
  cases asked with
  | some wanted => exact ⟨wanted, rfl⟩
  | none =>
    rw [Option.elim_none, announced, member?_named]
    split
    case h_2 => exact ⟨_, rfl⟩
    case h_1 found =>
      obtain ⟨head, rfl, -, parts⟩ := (isDocument_of_get? each found).exists_members
      rw [member?_named]
      split
      case h_2 => exact ⟨_, rfl⟩
      case h_1 listed =>
        apply exists_mapM_eq_ok
        intro v member
        obtain ⟨r, shown⟩ :=
          ((isDocument_of_get? parts listed).isDocument_item member).exists_display
        exact ⟨r, Value.shown_eq_ok_iff.mpr shown⟩

theorem shows_of_announced {root : List (RawText × Value)} (each : ∀ m ∈ root, m.2.IsDocument)
    {objects : List (List (RawText × Value))} {asked : Option (List RawText)}
    {names : List RawText} (made : asked.elim (announced (named root)
      (objects.map fun members => .mapping (named members))) .ok = .ok names) :
    Shows asked root objects names := by
  cases asked with
  | some wanted =>
    cases made
    exact ⟨fun _ same => Option.some.inj same, nofun, nofun⟩
  | none =>
    rw [Option.elim_none, announced, member?_named, memberNames_eq] at made
    refine ⟨nofun, fun _ head vars found listed => ?_, fun _ unlisted => ?_⟩
    · rw [found] at made
      dsimp only at made
      rw [member?_named, listed] at made
      exact (forall₂_of_mapM_eq_ok made).imp fun _ _ => Value.shown_eq_ok_iff.mp
    · split at made
      case h_2 => exact (Except.ok.inj made).symm
      case h_1 found =>
        obtain ⟨head, rfl, -⟩ := (isDocument_of_get? each found).exists_members
        rw [member?_named] at made
        split at made
        case h_2 => exact (Except.ok.inj made).symm
        case h_1 listed => exact absurd ⟨head, _, found, listed⟩ unlisted

end Names

theorem ofDocument_eq_ok {asked : Option (List RawText)} {text : RawText} {v : Value}
    {table : ResultTable} (means : Json.Denotes text v) (made : ofDocument asked v = .ok table) :
    ∃ root rows, Tabular text root rows ∧ Shows asked root rows table.names ∧
      List.Forall₂ (Row.Decodes table.names) rows table.rows := by
  cases v with
  | mapping entries =>
    obtain ⟨root, rfl, -, each⟩ := means.isDocument.exists_members
    rw [ofDocument, member?_named] at made
    split at made
    case h_2 => cases made
    case h_1 results found =>
    have inner := isDocument_of_get? each found
    obtain ⟨results, rfl, -, parts⟩ := inner.exists_members
    rw [member?_named] at made
    split at made
    case h_2 => cases made
    case h_1 bindings listed =>
    have raws := isDocument_of_get? parts listed
    obtain ⟨names, announced, made⟩ := exists_of_bind_eq_ok made
    obtain ⟨rows, decoded, same⟩ := exists_of_bind_eq_ok made
    cases same
    obtain ⟨objects, rfl, binds, decodes⟩ :=
      rowsFrom_eq_ok (fun raw member => raws.isDocument_item member) (mapError_eq_ok_iff.mp decoded)
    exact ⟨root, objects, ⟨means, ⟨results, found, listed⟩, binds⟩,
      shows_of_announced each announced, decodes⟩
  | _ => cases made

theorem Tabular.exists_ofDocument {text : RawText} {root : List (RawText × Value)}
    {rows : List (List (RawText × Value))} (tabular : Tabular text root rows)
    (asked : Option (List RawText)) :
    ∃ table, ofDocument asked (.mapping (named root)) = .ok table := by
  obtain ⟨results, found, listed⟩ := tabular.bindings
  obtain ⟨root', same, -, each⟩ := tabular.denotes.isDocument.exists_members
  obtain rfl := named_injective same
  obtain ⟨results', same, -, parts⟩ := (isDocument_of_get? each found).exists_members
  obtain rfl := named_injective same
  have raws := isDocument_of_get? parts listed
  have objects : ∀ members ∈ rows, (Value.mapping (named members)).IsDocument :=
    fun members member => raws.isDocument_item (List.mem_map_of_mem member)
  rw [ofDocument, member?_named, found]
  dsimp only
  rw [member?_named, listed]
  dsimp only
  obtain ⟨names, announced⟩ := exists_announced each _ asked
  obtain ⟨decoded, made⟩ := @exists_rowsFrom names rows tabular.binds objects 0
  rw [bind_of_eq_ok announced, made]
  exact ⟨_, rfl⟩

theorem ofDocument_eq_error {asked : Option (List RawText)} {v : Value} {failure : Failure}
    (document : v.IsDocument) (failed : ofDocument asked v = .error failure) :
    ∃ fault, failure = .results fault := by
  cases v with
  | mapping entries =>
    obtain ⟨root, rfl, -, each⟩ := document.exists_members
    rw [ofDocument] at failed
    split at failed
    case h_2 => exact ⟨_, (Except.error.inj failed).symm⟩
    case h_1 =>
    split at failed
    case h_2 => exact ⟨_, (Except.error.inj failed).symm⟩
    case h_1 bindings _ =>
    obtain ⟨names, announced⟩ := exists_announced each bindings asked
    rw [bind_of_eq_ok announced] at failed
    cases decoded : rowsFrom names 0 bindings with
    | error fault =>
      rw [decoded] at failed
      exact ⟨fault, (Except.error.inj failed).symm⟩
    | ok rows =>
      rw [decoded] at failed
      cases failed
  | _ => exact ⟨_, (Except.error.inj failed).symm⟩

theorem Tabular.unique {text : RawText} (shallow : Json.read text ≠ .error .tooDeep)
    {root root' : List (RawText × Value)} {rows rows' : List (List (RawText × Value))}
    (tabular : Tabular text root rows) (tabular' : Tabular text root' rows') : rows = rows' := by
  have read := (Json.read_eq_ok_iff shallow _).mpr tabular.denotes
  rw [(Json.read_eq_ok_iff shallow _).mpr tabular'.denotes] at read
  obtain rfl := named_injective (Value.mapping.inj (Except.ok.inj read))
  obtain ⟨results, found, listed⟩ := tabular.bindings
  obtain ⟨results', found', listed'⟩ := tabular'.bindings
  rw [found'] at found
  obtain rfl := named_injective (Value.mapping.inj (Option.some.inj found))
  rw [listed'] at listed
  have same := Value.list.inj (Option.some.inj listed)
  exact List.map_injective_iff.mpr
    (fun _ _ equal => named_injective (Value.mapping.inj equal)) same.symm

def IsTabular (body : Value) : Prop := ∃ text root rows, body = .text text ∧ Tabular text root rows

theorem ofBody_eq_ok {asked : Option (List RawText)} {body : Value} {table : ResultTable}
    (made : ofBody asked body = .ok table) :
    ∃ text root rows, body = .text text ∧ Tabular text root rows ∧
      Shows asked root rows table.names ∧
      List.Forall₂ (Row.Decodes table.names) rows table.rows := by
  cases body with
  | text text =>
    rw [ofBody] at made
    split at made
    case h_1 document found =>
      have shallow : Json.read text ≠ .error .tooDeep := by
        rw [found]
        exact nofun
      have means := (Json.read_eq_ok_iff shallow document).mp found
      obtain ⟨root, rows, rest⟩ := ofDocument_eq_ok means made
      exact ⟨text, root, rows, rfl, rest⟩
    case h_2 => cases made
    case h_3 => cases made
  | _ => cases made

theorem ofBody_cases {body : Value}
    (shallow : ∀ text, body = .text text → Json.read text ≠ .error .tooDeep)
    (asked : Option (List RawText)) :
    (IsTabular body ∧ ∃ table, ofBody asked body = .ok table) ∨
      (¬ IsTabular body ∧ ∃ fault, ofBody asked body = .error (.results fault)) := by
  by_cases tabular : IsTabular body
  · have parts := tabular
    obtain ⟨text, root, rows, rfl, tabular'⟩ := parts
    have found := (Json.read_eq_ok_iff (shallow text rfl) _).mpr tabular'.denotes
    obtain ⟨table, made⟩ := tabular'.exists_ofDocument asked
    refine .inl ⟨tabular, table, ?_⟩
    rw [ofBody, found]
    exact made
  · refine .inr ⟨tabular, ?_⟩
    cases made : ofBody asked body with
    | ok table =>
      obtain ⟨text, root, rows, same, tabular', -⟩ := ofBody_eq_ok made
      exact absurd ⟨text, root, rows, same, tabular'⟩ tabular
    | error failure =>
      unfold ofBody at made
      split at made
      · cases made
        exact ⟨_, rfl⟩
      · rename_i text
        split at made
        · rename_i document found
          have means := (Json.read_eq_ok_iff (shallow text rfl) document).mp found
          obtain ⟨fault, rfl⟩ := ofDocument_eq_error means.isDocument made
          exact ⟨fault, rfl⟩
        · cases made
          exact ⟨_, rfl⟩
        · rename_i deep
          exact absurd deep (shallow text rfl)
      · cases made
        exact ⟨_, rfl⟩

end ResultTable

namespace Edit

theorem run_decodeTable (asked : Option (List RawText)) (body : Value) (d : Draft) :
    ∃ es, (decodeTable asked body).run d =
      match ResultTable.ofBody asked body with
      | .ok table => .ok table (d.recordAll es)
      | .error failure => .error failure d := by
  rw [decodeTable]
  cases ResultTable.ofBody asked body with
  | error failure => exact ⟨#[], rfl⟩
  | ok table => exact ⟨_, congrArg (EStateM.Result.ok table) (d.record_eq_recordAll _)⟩

open ResultTable

/-- The decoder accepts the tabular format and nothing else, and what it does not accept is a fault
of the results. It makes one row of each row of the document, in their order; every row shows the
names that are asked for, and binds the names that are members of its row to what these say. -/
theorem decodeTable_tabular (asked : Option (List RawText)) {body : Value}
    (shallow : ∀ text, body = .text text → Json.read text ≠ .error .tooDeep) (d : Draft) :
    ((∃ table d', (decodeTable asked body).run d = .ok table d') ↔ IsTabular body) ∧
      (¬ IsTabular body →
        ∃ fault, (decodeTable asked body).run d = .error (.results fault) d) ∧
      ∀ table d', (decodeTable asked body).run d = .ok table d' →
        ∃ text root rows, body = .text text ∧ Tabular text root rows ∧
          Shows asked root rows table.names ∧
          List.Forall₂ (Row.Decodes table.names) rows table.rows := by
  obtain ⟨es, ran⟩ := run_decodeTable asked body d
  rcases ofBody_cases shallow asked with ⟨tabular, table, made⟩ | ⟨other, fault, refused⟩
  · rw [made] at ran
    refine ⟨⟨fun _ => tabular, fun _ => ⟨_, _, ran⟩⟩, fun other => absurd tabular other, ?_⟩
    intro table' d' ran'
    rw [ran] at ran'
    cases ran'
    exact ofBody_eq_ok made
  · rw [refused] at ran
    refine ⟨⟨?_, fun tabular => absurd tabular other⟩, fun _ => ⟨fault, ran⟩, ?_⟩
    · rintro ⟨table, d', ran'⟩
      rw [ran] at ran'
      cases ran'
    · intro table d' ran'
      rw [ran] at ran'
      cases ran'

def twiceBound : String :=
  "\x7b\"results\": \x7b\"bindings\": [\x7b\"s\": \x7b\"value\": \"a\"\x7d, " ++
    "\"s\": \x7b\"value\": \"b\"\x7d\x7d]\x7d\x7d"

/-- The later member counts. -/
theorem decodeTable_tabular_twiceBound :
    (∀ text, Value.text twiceBound = .text text → Json.read text ≠ .error .tooDeep) ∧
      IsTabular (.text twiceBound) ∧
      ∃ table d', (decodeTable none (.text twiceBound)).run .empty = .ok table d' ∧
        table.rows.map (·.value? "s") = [some (.ofString "b")] := by
  have read : (match Json.read twiceBound with
      | .error .tooDeep => true
      | _ => false) = false := by decide +kernel
  have shown : (match (decodeTable none (.text twiceBound)).run .empty with
      | .ok table _ => some (table.rows.map (·.value? "s"))
      | .error _ _ => none) = some [some (.ofString "b")] := by decide +kernel
  have shallow : ∀ text, Value.text twiceBound = .text text → Json.read text ≠ .error .tooDeep := by
    rintro text same deep
    cases same
    rw [deep] at read
    cases read
  have spec := decodeTable_tabular none shallow .empty
  cases ran : (decodeTable none (.text twiceBound)).run .empty with
  | error failure d' =>
    rw [ran] at shown
    cases shown
  | ok table d' =>
    rw [ran] at shown
    exact ⟨shallow, spec.1.mp ⟨table, d', ran⟩, table, d', rfl, Option.some.inj shown⟩

end Edit

end SparqlCompose
