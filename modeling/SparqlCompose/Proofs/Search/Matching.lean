import SparqlCompose.Draft.Group
import SparqlCompose.Proofs.Number.Value

namespace SparqlCompose

namespace Term

/-- When a stored term is the one that a search asks for: variables and resources by identifier,
nodes by identity, and literals of one kind by value. -/
inductive Meets : Term → Term → Prop
  | «variable» {v w : Variable} (same : v.identifier = w.identifier) :
    Meets (.variable v) (.variable w)
  | resource {r w : Resource} (same : r.identifier = w.identifier) :
    Meets (.resource r) (.resource w)
  | blank (b : BlankNode) : Meets (.blank b) (.blank b)
  | text (s : String) : Meets (.literal (.text s)) (.literal (.text s))
  | integer (n : Int) : Meets (.literal (.integer n)) (.literal (.integer n))
  | float {x y : Number.Double} (equal : x.EqualValue y) :
    Meets (.literal (.float x)) (.literal (.float y))
  | boolean (b : Bool) : Meets (.literal (.boolean b)) (.literal (.boolean b))

def IsCanonical : Term → Prop
  | .literal (.float x) => x.IsCanonical
  | _ => True

instance : DecidablePred IsCanonical
  | .literal (.float x) => inferInstanceAs (Decidable x.IsCanonical)
  | .literal (.text _) | .literal (.integer _) | .literal (.boolean _) | .variable _
  | .resource _ | .blank _ => inferInstanceAs (Decidable True)

theorem answers_iff_meets {stored wanted : Term} (hs : stored.IsCanonical)
    (hw : wanted.IsCanonical) : stored.answers wanted = true ↔ stored.Meets wanted := by
  constructor
  · intro h
    cases stored with
    | «variable» v =>
      cases wanted <;> simp only [answers, Bool.false_eq_true, beq_iff_eq] at h
      exact .variable h
    | resource r =>
      cases wanted <;> simp only [answers, Bool.false_eq_true, beq_iff_eq] at h
      exact .resource h
    | blank b =>
      cases wanted <;> simp only [answers, Bool.false_eq_true, beq_iff_eq] at h
      exact h ▸ .blank b
    | literal l =>
      cases wanted with
      | «variable» | resource | blank => cases h
      | literal k =>
        cases l <;> cases k <;>
          simp only [answers, Literal.same, Bool.false_eq_true, beq_iff_eq] at h
        · exact h ▸ .text _
        · exact h ▸ .integer _
        · exact .float ((Number.Double.same_iff_equalValue hs hw).mp h)
        · exact h ▸ .boolean _
  · rintro (same | same | _ | _ | _ | equal | _)
    · simpa only [answers, beq_iff_eq] using same
    · simpa only [answers, beq_iff_eq] using same
    · simp only [answers, BEq.rfl]
    · simp only [answers, Literal.same, BEq.rfl]
    · simp only [answers, Literal.same, BEq.rfl]
    · exact (Number.Double.same_iff_equalValue hs hw).mpr equal
    · simp only [answers, Literal.same, BEq.rfl]

theorem answers_self {t : Term} (number : t ≠ .literal (.float .nan)) : t.answers t = true := by
  cases t with
  | «variable» | resource | blank => simp only [answers, BEq.rfl]
  | literal l =>
    cases l with
    | text | integer | boolean => simp only [answers, Literal.same, BEq.rfl]
    | float x => exact Number.Double.same_self fun same => number (by rw [same])

end Term

namespace Operand

def Asks (wanted : Operand) (stored : Term) : Prop :=
  wanted = .absent ∨ ∃ t, wanted.term? = some t ∧ stored.Meets t

def IsCanonical (x : Operand) : Prop := ∀ t ∈ x.term?, t.IsCanonical

instance (x : Operand) : Decidable x.IsCanonical :=
  inferInstanceAs (Decidable (∀ t ∈ x.term?, t.IsCanonical))

/-- The operand leaves the term open, or is that term and no NaN. -/
def Recalls (x : Operand) (t : Term) : Prop :=
  x = .absent ∨ x.term? = some t ∧ t ≠ .literal (.float .nan)

theorem accepts_eq {wanted : Operand} (given : wanted ≠ .absent) (stored : Term) :
    wanted.accepts stored = wanted.term?.elim false stored.answers := by
  cases wanted with
  | absent => exact absurd rfl given
  | literal | foreign => rfl
  | entity e => cases e <;> rfl

theorem accepts_iff_asks {wanted : Operand} {stored : Term} (hw : wanted.IsCanonical)
    (hs : stored.IsCanonical) : wanted.accepts stored = true ↔ wanted.Asks stored := by
  by_cases given : wanted = .absent
  · subst given
    exact iff_of_true rfl (.inl rfl)
  rw [accepts_eq given, Asks, or_iff_right given]
  cases term : wanted.term? with
  | none => simp
  | some t => simp [Term.answers_iff_meets hs (hw t term)]

theorem Recalls.accepts {x : Operand} {t : Term} (h : x.Recalls t) : x.accepts t = true := by
  rcases h with rfl | ⟨term, number⟩
  · rfl
  · have given : x ≠ .absent := by
      rintro rfl
      cases term
    rw [accepts_eq given, term]
    exact Term.answers_self number

end Operand

namespace Pattern

structure IsCanonical (x : Pattern) : Prop where
  subject : x.subject.IsCanonical
  predicate : x.predicate.IsCanonical
  object : x.object.IsCanonical

instance (x : Pattern) : Decidable x.IsCanonical :=
  decidable_of_iff (x.subject.IsCanonical ∧ x.predicate.IsCanonical ∧ x.object.IsCanonical)
    ⟨fun h => ⟨h.1, h.2.1, h.2.2⟩, fun h => ⟨h.subject, h.predicate, h.object⟩⟩

structure Suits (x : Pattern) (s v o : Operand) : Prop where
  subject : s.Asks x.subject
  predicate : v.Asks x.predicate
  object : o.Asks x.object

theorem answers_iff_suits {x : Pattern} {s v o : Operand} (hx : x.IsCanonical)
    (hs : s.IsCanonical) (hv : v.IsCanonical) (ho : o.IsCanonical) :
    x.answers s v o = true ↔ x.Suits s v o := by
  rw [answers, Bool.and_eq_true, Bool.and_eq_true, Operand.accepts_iff_asks hs hx.subject,
    Operand.accepts_iff_asks hv hx.predicate, Operand.accepts_iff_asks ho hx.object]
  exact ⟨fun h => ⟨h.1.1, h.1.2, h.2⟩, fun h => ⟨⟨h.subject, h.predicate⟩, h.object⟩⟩

end Pattern

end SparqlCompose
