import Mathlib.Logic.Relation
import SparqlCompose.Proofs.Draft.GroupRuns

namespace SparqlCompose

/-- What a contributor can do. -/
inductive Operation
  | newQuery (strict : Bool) (form : String)
  | newFormless (strict : Bool)
  | internVariable (q : QueryId) (text : String)
  | internResource (q : QueryId) (text : String)
  | newBlank (q : QueryId)
  | expression (q : QueryId) (text : Option String)
  | internGraph (q : QueryId) (uri : String)
  | newGraph (uri : String)
  | newOptional
  | newPlain
  | newBare
  | newPattern (s v o g : Operand)
  | addPattern (group : GroupId) (s v o g : Operand)
  | addElement (group : GroupId) (thing : Option Entity)
  | bindNamespace (q : QueryId) (label uri : String)
  | project (q : QueryId) (xs : List Operand)
  | addProjection (q : QueryId) (x : Operand)
  | setDistinct (q : QueryId) (flag : Bool)
  | groupBy (q : QueryId) (e : Entity)
  | find (group : GroupId) (s v o : Operand)
  | sparql (indent : String) (q : QueryId)
  | report (level : Level) (message : String)

inductive Answer
  | done
  | entity (e : Entity)
  | groups (gs : List GroupId)
  | text (s : String)
deriving DecidableEq

namespace Operation

def run [IriCheck] : Operation → Edit Answer
  | .newQuery strict form => do return .entity (.query (← Edit.newQuery strict form))
  | .newFormless strict => do return .entity (.query (← Edit.newFormless strict))
  | .internVariable q text => do return .entity (.variable (← Edit.internVariable q text))
  | .internResource q text => do return .entity (.resource (← Edit.internResource q text))
  | .newBlank q => do return .entity (.blank (← Edit.newBlank q))
  | .expression q text => do return .entity (.variable (← Edit.expression q text))
  | .internGraph q uri => do return .entity (.group (← Edit.internGraph q uri))
  | .newGraph uri => do return .entity (.group (← Edit.newGraph uri))
  | .newOptional => do return .entity (.group (← Edit.newGroup .optional))
  | .newPlain => do return .entity (.group (← Edit.newGroup .plain))
  | .newBare => do return .entity (← Edit.newBare)
  | .newPattern s v o g => do return .entity (.pattern (← Edit.newPattern s v o g))
  | .addPattern group s v o g => do
    return .entity (.pattern (← Edit.addPattern group s v o g))
  | .addElement group thing => do
    Edit.addElement group (thing.map Element.ofEntity)
    return .done
  | .bindNamespace q label uri => do
    Edit.bindNamespace q label uri
    return .done
  | .project q xs => do
    Edit.project q xs
    return .done
  | .addProjection q x => do
    Edit.addProjection q x
    return .done
  | .setDistinct q flag => do
    Edit.setDistinct q flag
    return .done
  | .groupBy q e => do
    Edit.groupBy q e
    return .done
  | .find group s v o => do return .groups ((← get).find group s v o)
  | .sparql indent q => do return .text (← Edit.sparql indent q)
  | .report level message => do
    Edit.log level message
    return .done

end Operation

/-- A draft, with the patterns that were made in it. -/
structure Composition where
  draft : Draft
  patterns : List Pattern

namespace Composition

def start : Composition := ⟨.empty, []⟩

/-- What a contributor can have been handed. -/
def Holds (c : Composition) : Entity → Prop
  | .variable v =>
    c.draft.HasQuery v.query ∧ v.identifier ∈ Entries.keys (c.draft.query v.query).asked
  | .resource r => c.draft.HasQuery r.query ∧ r.identifier ∈ (c.draft.query r.query).resources
  | .blank b => c.draft.HasQuery b.query ∧ b.index < (c.draft.query b.query).blanks
  | .pattern p => p ∈ c.patterns
  | .group g => c.draft.HasGroup g
  | .bare serial => serial < c.draft.serial
  | .query q => c.draft.HasQuery q

def Offers (c : Composition) : Operand → Prop
  | .entity e => c.Holds e
  | _ => True

instance (c : Composition) : DecidablePred c.Holds
  | .variable _ => inferInstanceAs (Decidable (_ ∧ _))
  | .resource _ => inferInstanceAs (Decidable (_ ∧ _))
  | .blank _ => inferInstanceAs (Decidable (_ ∧ _))
  | .pattern p => inferInstanceAs (Decidable (p ∈ c.patterns))
  | .group g => inferInstanceAs (Decidable (c.draft.HasGroup g))
  | .bare _ => inferInstanceAs (Decidable (_ < _))
  | .query q => inferInstanceAs (Decidable (c.draft.HasQuery q))

instance (c : Composition) : DecidablePred c.Offers
  | .entity e => inferInstanceAs (Decidable (c.Holds e))
  | .absent => inferInstanceAs (Decidable True)
  | .literal _ => inferInstanceAs (Decidable True)
  | .foreign _ => inferInstanceAs (Decidable True)

end Composition

/-- An operation works with what its contributor was handed. -/
def Operation.Fits (c : Composition) : Operation → Prop
  | .internVariable q _ | .internResource q _ | .newBlank q | .expression q _
  | .internGraph q _ | .bindNamespace q _ _ | .setDistinct q _ | .sparql _ q =>
    c.draft.HasQuery q
  | .newPattern s v o g => c.Offers s ∧ c.Offers v ∧ c.Offers o ∧ c.Offers g
  | .addPattern group s v o g =>
    c.draft.HasGroup group ∧ c.Offers s ∧ c.Offers v ∧ c.Offers o ∧ c.Offers g
  | .addElement group thing => c.draft.HasGroup group ∧ ∀ e ∈ thing, c.Holds e
  | .project q xs => c.draft.HasQuery q ∧ ∀ x ∈ xs, c.Offers x
  | .addProjection q x => c.draft.HasQuery q ∧ c.Offers x
  | .groupBy q e => c.draft.HasQuery q ∧ c.Holds e
  | .find group s v o => c.draft.HasGroup group ∧ c.Offers s ∧ c.Offers v ∧ c.Offers o
  | _ => True

instance (c : Composition) (o : Operation) : Decidable (o.Fits c) := by
  cases o <;> unfold Operation.Fits <;> infer_instance

namespace Composition

def newPatterns : Answer → List Pattern
  | .entity (.pattern p) => [p]
  | _ => []

def after [IriCheck] (c : Composition) (o : Operation) : Composition :=
  match o.run.run c.draft with
  | .ok answer d => ⟨d, c.patterns ++ newPatterns answer⟩
  | .error _ d => ⟨d, c.patterns⟩

def Next [IriCheck] (c c' : Composition) : Prop := ∃ o : Operation, o.Fits c ∧ c' = c.after o

/-- A composition that comes about by any number of operations. -/
def Reachable [IriCheck] (c : Composition) : Prop := Relation.ReflTransGen Next start c

def replay [IriCheck] (c : Composition) : List Operation → Composition
  | [] => c
  | o :: rest => (c.after o).replay rest

def Admits [IriCheck] (c : Composition) : List Operation → Prop
  | [] => True
  | o :: rest => o.Fits c ∧ (c.after o).Admits rest

instance decidableAdmits [IriCheck] :
    (c : Composition) → (os : List Operation) → Decidable (c.Admits os)
  | _, [] => inferInstanceAs (Decidable True)
  | c, o :: rest =>
    have := decidableAdmits (c.after o) rest
    inferInstanceAs (Decidable (o.Fits c ∧ (c.after o).Admits rest))

theorem replay_later [IriCheck] {c : Composition} {os : List Operation} (h : c.Admits os) :
    Relation.ReflTransGen Next c (c.replay os) := by
  induction os generalizing c with
  | nil => exact .refl
  | cons o rest ih => exact .head ⟨o, h.1, rfl⟩ (ih h.2)

theorem reachable_replay [IriCheck] {os : List Operation} (h : start.Admits os) :
    (start.replay os).Reachable :=
  replay_later h

end Composition

end SparqlCompose
