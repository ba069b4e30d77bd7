import Mathlib.Data.List.Basic
import SparqlCompose.Json.Reader
import SparqlCompose.Proofs.Entries
import SparqlCompose.Proofs.Number.Value

namespace SparqlCompose

namespace Value

def named (members : List (RawText × Value)) : List (Value × Value) :=
  members.map fun m => (.text m.1, m.2)

theorem bind_named (name : RawText) (v : Value) (members : List (RawText × Value)) :
    bind (.text name) v (named members) = named (Entries.put name v members) := by
  induction members with
  | nil => rfl
  | cons m rest ih =>
    have split : named (m :: rest) = (.text m.1, m.2) :: named rest := rfl
    rw [split, bind, Entries.put, ih]
    by_cases same : m.1 = name
    · simp [sameKey, named, same]
    · simp [sameKey, named, same]

@[simp] theorem member?_named (name : RawText) (members : List (RawText × Value)) :
    member? name (named members) = Entries.get? name members := by
  induction members with
  | nil => rfl
  | cons m rest ih =>
    have split : named (m :: rest) = (.text m.1, m.2) :: named rest := rfl
    rw [split, member?, ih]
    rfl

theorem named_injective : Function.Injective named := by
  apply List.map_injective_iff.mpr
  rintro ⟨name, v⟩ ⟨name', v'⟩ pairs
  cases pairs
  rfl

/-- A value of which every mapping is an object, with names for keys, each of them once, every integer
one that can be written, and every float in its one form. -/
inductive IsDocument : Value → Prop
  | null : IsDocument .null
  | boolean (b : Bool) : IsDocument (.boolean b)
  | integer {n : Int} (short : n.natAbs < Nat.pow 10 Number.digitLimit) : IsDocument (.integer n)
  | float {x : Number.Double} (canonical : x.IsCanonical) : IsDocument (.float x)
  | text (r : RawText) : IsDocument (.text r)
  | list {items : List Value} (each : ∀ v ∈ items, IsDocument v) : IsDocument (.list items)
  | mapping {members : List (RawText × Value)} (distinct : (Entries.keys members).Nodup)
      (each : ∀ m ∈ members, IsDocument m.2) : IsDocument (.mapping (named members))

theorem IsDocument.exists_members {entries : List (Value × Value)}
    (document : (Value.mapping entries).IsDocument) :
    ∃ members, entries = named members ∧ (Entries.keys members).Nodup ∧
      ∀ m ∈ members, m.2.IsDocument := by
  cases document with
  | mapping distinct each => exact ⟨_, rfl, distinct, each⟩

theorem IsDocument.isDocument_item {items : List Value} (document : (Value.list items).IsDocument)
    {v : Value} (member : v ∈ items) : v.IsDocument := by
  cases document with
  | list each => exact each v member

theorem exists_literals {items : List Value} (each : ∀ v ∈ items, ∃ s, v.literal = some s) :
    ∃ parts, literals items = some parts := by
  induction items with
  | nil => exact ⟨[], literals.eq_1⟩
  | cons v vs ih =>
    obtain ⟨⟨s, shown⟩, others⟩ := List.forall_mem_cons.mp each
    obtain ⟨parts, rest⟩ := ih others
    exact ⟨s :: parts, by rw [literals, shown, rest]; rfl⟩

theorem exists_literalPairs {members : List (RawText × Value)}
    (each : ∀ m ∈ members, ∃ s, m.2.literal = some s) :
    ∃ parts, literalPairs (named members) = some parts := by
  induction members with
  | nil => exact ⟨[], literalPairs.eq_1⟩
  | cons m rest ih =>
    obtain ⟨⟨s, shown⟩, others⟩ := List.forall_mem_cons.mp each
    obtain ⟨parts, later⟩ := ih others
    have split : named (m :: rest) = (.text m.1, m.2) :: named rest := rfl
    exact ⟨(Text.quoted m.1 ++ ": " ++ s) :: parts, by
      rw [split, literalPairs, shown, later, literal]; rfl⟩

theorem IsDocument.exists_literal {v : Value} (document : v.IsDocument) :
    ∃ s, v.literal = some s := by
  induction document with
  | null | boolean | float | text => exact ⟨_, by rw [literal]⟩
  | integer short => exact ⟨_, by rw [literal, Number.integerText?, if_pos short]⟩
  | list _ ih =>
    obtain ⟨parts, shown⟩ := exists_literals ih
    exact ⟨_, by rw [literal, shown]; rfl⟩
  | mapping _ _ ih =>
    obtain ⟨parts, shown⟩ := exists_literalPairs ih
    exact ⟨_, by rw [literal, shown]; rfl⟩

theorem IsDocument.exists_display {v : Value} (document : v.IsDocument) :
    ∃ r, v.display = some r := by
  obtain ⟨s, written⟩ := document.exists_literal
  cases document with
  | text r => exact ⟨r, rfl⟩
  | _ => exact ⟨.ofString s, by rw [display, written] <;> first | rfl | nofun⟩

theorem isDocument_of_get? {members : List (RawText × Value)}
    (each : ∀ m ∈ members, m.2.IsDocument) {name : RawText} {v : Value}
    (found : Entries.get? name members = some v) : v.IsDocument :=
  each (name, v) (Entries.mem_of_get? found)

end Value

end SparqlCompose
