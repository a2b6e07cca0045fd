/-!
# Widths of text

A text is measured in UTF-8 bytes, the unit of offsets, and in UTF-16 code units, the unit of
columns. `takeWidth` cuts a text at a width in either unit and never splits a character. Lines
are not known here.
-/

namespace LanguageServer.Text

/-- A character outside the basic plane takes two UTF-16 code units, every other one takes one. -/
def units (c : Char) : Nat := if c.toNat < 0x10000 then 1 else 2

theorem units_pos (c : Char) : 0 < units c := by
  unfold units
  split <;> decide

/-- Total width of `cs` when `measure` gives the width of each character. -/
def width (measure : Char → Nat) : List Char → Nat
  | [] => 0
  | c :: cs => measure c + width measure cs

@[simp] theorem width_nil (measure : Char → Nat) : width measure [] = 0 := rfl

@[simp] theorem width_cons (measure : Char → Nat) (c : Char) (cs : List Char) :
    width measure (c :: cs) = measure c + width measure cs := rfl

@[simp] theorem width_append (measure : Char → Nat) (as bs : List Char) :
    width measure (as ++ bs) = width measure as + width measure bs := by
  induction as with
  | nil => simp
  | cons c cs ih => simp [ih, Nat.add_assoc]

abbrev byteLength (cs : List Char) : Nat := width Char.utf8Size cs

abbrev unitLength (cs : List Char) : Nat := width units cs

/-- The longest initial part of a text that is no wider than the budget. -/
def takeWidth (measure : Char → Nat) : Nat → List Char → List Char
  | _, [] => []
  | budget, c :: cs =>
    if measure c ≤ budget then c :: takeWidth measure (budget - measure c) cs else []

def dropWidth (measure : Char → Nat) : Nat → List Char → List Char
  | _, [] => []
  | budget, c :: cs =>
    if measure c ≤ budget then dropWidth measure (budget - measure c) cs else c :: cs

@[simp] theorem takeWidth_append_dropWidth (measure : Char → Nat) (budget : Nat)
    (cs : List Char) : takeWidth measure budget cs ++ dropWidth measure budget cs = cs := by
  fun_induction takeWidth measure budget cs with
  | case1 => rfl
  | case2 budget c cs fits ih => simp [dropWidth, fits, ih]
  | case3 budget c cs tooWide => simp [dropWidth, tooWide]

theorem width_takeWidth_le (measure : Char → Nat) (budget : Nat) (cs : List Char) :
    width measure (takeWidth measure budget cs) ≤ budget := by
  fun_induction takeWidth measure budget cs with
  | case1 => simp
  | case2 budget c cs fits ih =>
    rw [width_cons]
    omega
  | case3 => simp

/-- The greatest character boundary of `cs` that is not above `offset`. -/
def floorBoundary (cs : List Char) (offset : Nat) : Nat :=
  byteLength (takeWidth Char.utf8Size offset cs)

theorem floorBoundary_le (cs : List Char) (offset : Nat) : floorBoundary cs offset ≤ offset :=
  width_takeWidth_le _ _ _

def slice (cs : List Char) (start stop : Nat) : List Char :=
  takeWidth Char.utf8Size (stop - start) (dropWidth Char.utf8Size start cs)

end LanguageServer.Text
