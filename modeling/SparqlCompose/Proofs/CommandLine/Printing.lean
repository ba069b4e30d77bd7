import SparqlCompose.CommandLine.Run
import SparqlCompose.Proofs.Json.Printing

namespace SparqlCompose

def Response.HasData (response : Response) (entries : List Value) : Prop :=
  response.document =
    .mapping [(.text "success", .boolean response.success), (.text "data", .list entries)]

theorem Response.hasData_iff (response : Response) (entries : List Value) :
    response.HasData entries ↔ response.entries? = some entries := by
  rw [HasData, document]
  cases response.entries? <;> simp

namespace CommandLine

variable {w : World} {response : Response} {table : Bool}

def Tabled (response : Response) (table : Bool) (entries : List Value) : Prop :=
  table = true ∧ response.HasData entries ∧ entries ≠ []

/-- How an answer is shown: as what the renderer of tables makes of the data, or as a document that
can be read back. -/
inductive Shows (w : World) (response : Response) (table : Bool) : RawText → Prop
  | table {entries : List Value} (tabled : Tabled response table entries) :
      Shows w response table (w.tabulate (.entries entries))
  | document {s : String} (plain : ∀ entries, ¬ Tabled response table entries)
      (written : Json.indented response.document = some s)
      (returns : Json.Denotes s response.document) : Shows w response table s

/-- Standard output can encode the table, if one is shown. -/
def Encodes (w : World) (response : Response) (table : Bool) : Prop :=
  ∀ entries, Tabled response table entries → w.prints (w.tabulate (.entries entries)) = true

theorem showResponse_tabled {entries : List Value} (tabled : Tabled response table entries) :
    showResponse w response table = .ok (w.tabulate (.entries entries)) := by
  obtain ⟨rfl, data, some⟩ := tabled
  obtain ⟨e, es, rfl⟩ := List.exists_cons_of_ne_nil some
  simp only [showResponse, (response.hasData_iff _).mp data]

theorem showResponse_plain (plain : ∀ entries, ¬ Tabled response table entries) {s : String}
    (written : Json.indented response.document = some s) :
    showResponse w response table = .ok s := by
  unfold showResponse
  split
  case h_1 e es data => exact absurd ⟨rfl, (response.hasData_iff _).mpr data, nofun⟩ (plain _)
  case h_2 => rw [written, Option.elim_some]

theorem shows_cases (w : World) (plain : response.document.IsPlain) (table : Bool) :
    (∃ entries, Tabled response table entries ∧
      showResponse w response table = .ok (w.tabulate (.entries entries))) ∨
    ((∀ entries, ¬ Tabled response table entries) ∧ ∃ s : String,
      showResponse w response table = .ok s ∧ Shows w response table s ∧ w.prints s = true) := by
  by_cases some : ∃ entries, Tabled response table entries
  · obtain ⟨entries, tabled⟩ := some
    exact .inl ⟨entries, tabled, showResponse_tabled tabled⟩
  · have none := not_exists.mp some
    obtain ⟨s, written, ascii, returns⟩ := Json.exists_indented plain
    exact .inr ⟨none, s, showResponse_plain none written, .document none written returns,
      w.prints_ascii s ascii⟩

theorem Tabled.unique {entries entries' : List Value} (tabled : Tabled response table entries)
    (tabled' : Tabled response table entries') : entries = entries' := by
  have first := (response.hasData_iff _).mp tabled.2.1
  have second := (response.hasData_iff _).mp tabled'.2.1
  exact Option.some.inj (first.symm.trans second)

def failureText : String := "\x7b\n  \"success\": false\n\x7d"

theorem not_tabled_failed (table : Bool) (entries : List Value) :
    ¬ Tabled .failed table entries := by
  rintro ⟨-, data, -⟩
  cases (Response.hasData_iff _ _).mp data

theorem showResponse_failed (w : World) (table : Bool) :
    showResponse w .failed table = .ok failureText := by
  have written : Json.indented Response.failed.document = some failureText := by decide +kernel
  exact showResponse_plain (not_tabled_failed table) written

theorem encodes_failed (w : World) (table : Bool) : Encodes w .failed table :=
  fun entries tabled => absurd tabled (not_tabled_failed table entries)

theorem print_eq_ok {r : RawText} (encodes : w.prints r = true) (status : Nat) :
    print w status r = .ok (.finished status (r ++ RawText.ofString "\n") "") := by
  rw [print, if_pos encodes]

theorem print_eq_error {r : RawText} (fails : ¬ w.prints r = true) (status : Nat) :
    print w status r = .error .unencodable := by
  rw [print, if_neg fails]

end CommandLine

end SparqlCompose
