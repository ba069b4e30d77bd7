import SparqlCompose.Text.Blank
import SparqlCompose.Text.Digit

namespace SparqlCompose

/-- A code point: a character, or one of the 2048 surrogates standing on its own. -/
inductive Point
  | char (c : Char)
  | surrogate (offset : Fin 2048)
deriving DecidableEq, Inhabited

namespace Point

instance : Coe Char Point := ⟨.char⟩

def char? : Point → Option Char
  | .char c => some c
  | .surrogate _ => none

def ofNat (n : Nat) : Point :=
  if 0xD800 ≤ n ∧ n < 0xE000 then .surrogate (Fin.ofNat 2048 (n - 0xD800))
  else .char (Char.ofNat n)

def shown : Point → List Char
  | .char c => [c]
  | .surrogate offset => '\\' :: 'u' :: Text.hexDigits 4 (0xD800 + offset)

def isBlank : Point → Bool
  | .char c => Text.isBlank c
  | .surrogate _ => false

end Point

/-- A text as it comes from outside, surrogates included that make up no character. -/
structure RawText where
  points : List Point
deriving DecidableEq, Inhabited

namespace RawText

def ofString (s : String) : RawText := ⟨s.toList.map .char⟩

instance : Coe String RawText := ⟨ofString⟩

def toString? (r : RawText) : Option String := (r.points.mapM Point.char?).map String.ofList

def shown (r : RawText) : String := String.ofList (r.points.flatMap Point.shown)

def isEmpty (r : RawText) : Bool := r.points.isEmpty

def isAllBlank (r : RawText) : Bool := r.points.all Point.isBlank

def append (r t : RawText) : RawText := ⟨r.points ++ t.points⟩

instance : Append RawText := ⟨append⟩

@[simp] theorem points_ofString (s : String) : (ofString s).points = s.toList.map .char := rfl

@[simp] theorem ofString_inj {s t : String} : ofString s = ofString t ↔ s = t := by
  rw [RawText.mk.injEq, ← String.toList_inj]
  exact List.map_inj_right fun _ _ same => Point.char.inj same

theorem mapM_char?_eq_some_iff {ps : List Point} {cs : List Char} :
    ps.mapM Point.char? = some cs ↔ ps = cs.map .char := by
  induction ps generalizing cs with
  | nil => cases cs <;> simp
  | cons p ps ih =>
    cases p with
    | surrogate => cases cs <;> simp [List.mapM_cons, Point.char?]
    | char c =>
      cases cs with
      | nil => simp [List.mapM_cons, Point.char?, Option.bind_eq_some_iff]
      | cons d cs =>
        simpa [List.mapM_cons, Point.char?, Option.bind_eq_some_iff, ih] using and_comm

@[simp] theorem toString?_eq_some_iff {r : RawText} {s : String} :
    r.toString? = some s ↔ r = ofString s := by
  obtain ⟨ps⟩ := r
  simp only [toString?, Option.map_eq_some_iff, mapM_char?_eq_some_iff]
  constructor
  · rintro ⟨cs, rfl, rfl⟩
    simp [ofString]
  · intro same
    exact ⟨_, RawText.mk.inj same, String.ofList_toList⟩

@[simp] theorem toString?_ofString (s : String) : (ofString s).toString? = some s :=
  toString?_eq_some_iff.mpr rfl

theorem isSome_toString?_ofString (s : String) : (ofString s).toString?.isSome = true := by
  rw [toString?_ofString, Option.isSome_some]

@[simp] theorem shown_ofString (s : String) : (ofString s).shown = s := by
  simp only [shown, points_ofString, List.flatMap_map, Point.shown]
  simp

@[simp] theorem isEmpty_ofString (s : String) : (ofString s).isEmpty = s.isEmpty := by
  rw [Bool.eq_iff_iff]
  simp [isEmpty]

theorem isEmpty_eq_false {r : RawText} (filled : r ≠ ofString "") : r.isEmpty = false := by
  obtain ⟨ps⟩ := r
  cases ps with
  | nil => exact absurd rfl filled
  | cons => rfl

@[simp] theorem isAllBlank_ofString (s : String) :
    (ofString s).isAllBlank = Text.isAllBlank s := by
  simp only [isAllBlank, points_ofString, List.all_map, Text.isAllBlank]
  rfl

end RawText

end SparqlCompose
