import SparqlCompose.Proofs.Composition.Change

namespace SparqlCompose.Composition

def outcome [IriCheck] (c : Composition) (o : Operation) : Except Failure Answer :=
  match o.run.run c.draft with
  | .ok answer _ => .ok answer
  | .error e _ => .error e

def outcomes [IriCheck] (c : Composition) : List Operation → List (Except Failure Answer)
  | [] => []
  | o :: rest => c.outcome o :: (c.after o).outcomes rest

variable {c : Composition} {o : Operation}

theorem outcome_of_ok [IriCheck] {answer : Answer} {d : Draft}
    (run : o.run.run c.draft = .ok answer d) : c.outcome o = .ok answer := by
  rw [outcome, run]

theorem after_of_ok [IriCheck] {answer : Answer} {d : Draft}
    (run : o.run.run c.draft = .ok answer d) (plain : newPatterns answer = []) :
    c.after o = ⟨d, c.patterns⟩ := by
  rw [after, run]
  simp only [plain, List.append_nil]

end SparqlCompose.Composition
