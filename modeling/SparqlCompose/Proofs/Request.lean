import SparqlCompose.Proofs.Entries
import SparqlCompose.Proofs.Results
import SparqlCompose.Request

namespace SparqlCompose.Request

variable (r : Request) (name remark : String)

def Gives : Prop := ∃ v, r.parameter? name = some v ∧ v ≠ .null

/-- The parameter is absent, or nothing, or a text of blanks only. -/
def Lacks : Prop :=
  r.parameter? name = none ∨ r.parameter? name = some .null ∨
    ∃ text, r.parameter? name = some (.text text) ∧ ∀ p ∈ text.points, p.isBlank = true

def Prints : Prop :=
  ∀ v, r.parameter? name = some v → ∃ text : String, v.display = some text

theorem isMissing_iff : isMissing (r.parameter? name) = true ↔ r.Lacks name := by
  unfold Lacks
  cases r.parameter? name with
  | none => simp [isMissing]
  | some v =>
    cases v with
    | text s => simp [isMissing, RawText.isAllBlank]
    | _ => simp [isMissing]

theorem require_cases :
    (r.Lacks name ∧ r.require name remark = .error (.parameter name remark)) ∨
      (¬ r.Lacks name ∧ ∃ v, r.parameter? name = some v ∧ r.require name remark = .ok v) := by
  rw [← isMissing_iff, require]
  cases r.parameter? name with
  | none => exact .inl ⟨rfl, rfl⟩
  | some v =>
    by_cases missing : isMissing (some v) = true
    · exact .inl ⟨missing, if_pos missing⟩
    · exact .inr ⟨missing, v, rfl, if_neg missing⟩

variable {r name remark}

theorem exists_require (there : ¬ r.Lacks name) :
    ∃ v, r.parameter? name = some v ∧ ∀ remark, r.require name remark = .ok v := by
  rcases r.require_cases name "" with ⟨lacks, -⟩ | ⟨-, v, is, -⟩
  · exact absurd lacks there
  · refine ⟨v, is, fun remark => ?_⟩
    rw [← isMissing_iff, is] at there
    rw [require, is]
    exact if_neg there

theorem gives_of_not_lacks (there : ¬ r.Lacks name) : r.Gives name := by
  obtain ⟨v, is, -⟩ := exists_require there
  refine ⟨v, is, ?_⟩
  rintro rfl
  exact there (.inr (.inl is))

def Textual (r : Request) : Prop := ∀ p ∈ r.parameters, ∃ text, p.2 = .text text

theorem Textual.exists_text {r : Request} (texts : r.Textual) {name : RawText} {v : Value}
    (found : r.parameter? name = some v) : ∃ text, v = .text text :=
  texts _ (Entries.mem_of_get? found)

theorem prints_of_texts {r : Request} (texts : ∀ p ∈ r.parameters, ∃ s : String, p.2 = .text s)
    (name : String) : r.Prints name := by
  intro v found
  obtain ⟨s, is⟩ := texts _ (Entries.mem_of_get? found)
  exact ⟨s, congrArg Value.display is⟩

section Demands

variable {α : Type}

/-- Where one of these parameters, given with their remarks, is lacking, what is asked for is
refused at a lacking one. -/
def Demands (r : Request) (parameters : List (String × String)) (x : Except Failure α) : Prop :=
  (∃ parameter ∈ parameters, r.Lacks parameter.1) → ∃ parameter ∈ parameters,
    r.Lacks parameter.1 ∧ x = .error (.parameter parameter.1 parameter.2)

theorem demands_nil (x : Except Failure α) : r.Demands [] x := nofun

theorem demands_cons {parameters : List (String × String)} {k : Value → Except Failure α}
    (rest : ∀ v, r.Demands parameters (k v)) :
    r.Demands ((name, remark) :: parameters) (r.require name remark >>= k) := by
  rintro ⟨parameter, listed, lacking⟩
  rcases r.require_cases name remark with ⟨lacks, failed⟩ | ⟨there, v, -, given⟩
  · refine ⟨_, .head _, lacks, ?_⟩
    rw [failed]
    rfl
  · have other : parameter ∈ parameters := by
      rcases List.mem_cons.mp listed with rfl | other
      · exact absurd lacking there
      · exact other
    obtain ⟨found, listed, lacks, refused⟩ := rest v ⟨parameter, other, lacking⟩
    exact ⟨found, .tail _ listed, lacks, (bind_of_eq_ok given k).trans refused⟩

end Demands

end SparqlCompose.Request
