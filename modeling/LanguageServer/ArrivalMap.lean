/-!
# Maps in order of arrival

An association list in which a key keeps the place of its first insertion until it is erased. The
laws below assume nothing about the map; that no key occurs twice is kept by `insert` and `erase`
and is not part of the type.
-/

namespace LanguageServer

universe u v

/-- Values under keys, the key that arrived first in front. -/
structure ArrivalMap (κ : Type u) (ν : Type v) where
  entries : List (κ × ν)
deriving DecidableEq, Repr

namespace ArrivalMap

variable {κ : Type u} {ν : Type v}

def empty : ArrivalMap κ ν := ⟨[]⟩

instance : EmptyCollection (ArrivalMap κ ν) := ⟨empty⟩

instance : Inhabited (ArrivalMap κ ν) := ⟨empty⟩

def keys (m : ArrivalMap κ ν) : List κ := m.entries.map Prod.fst

def values (m : ArrivalMap κ ν) : List ν := m.entries.map Prod.snd

def size (m : ArrivalMap κ ν) : Nat := m.entries.length

def isEmpty (m : ArrivalMap κ ν) : Bool := m.entries.isEmpty

variable [DecidableEq κ]

/-- Overwrites the entry of a key in its place, or appends one. -/
def insertEntry (k : κ) (v : ν) : List (κ × ν) → List (κ × ν)
  | [] => [(k, v)]
  | e :: es => if e.1 = k then (k, v) :: es else e :: insertEntry k v es

def get? (m : ArrivalMap κ ν) (k : κ) : Option ν := m.entries.lookup k

def insert (m : ArrivalMap κ ν) (k : κ) (v : ν) : ArrivalMap κ ν := ⟨insertEntry k v m.entries⟩

def erase (m : ArrivalMap κ ν) (k : κ) : ArrivalMap κ ν := ⟨m.entries.filter (·.1 ≠ k)⟩

@[simp] theorem get?_empty (k : κ) : (empty : ArrivalMap κ ν).get? k = none := rfl

theorem lookup_insertEntry (es : List (κ × ν)) (k : κ) (v : ν) (a : κ) :
    (insertEntry k v es).lookup a = if a = k then some v else es.lookup a := by
  induction es with
  | nil => by_cases h : a = k <;> grind [insertEntry]
  | cons e es ih =>
    obtain ⟨b, w⟩ := e
    by_cases h : b = k <;> by_cases ha : a = b <;> grind [insertEntry]

theorem get?_insert (m : ArrivalMap κ ν) (k : κ) (v : ν) (a : κ) :
    (m.insert k v).get? a = if a = k then some v else m.get? a :=
  lookup_insertEntry m.entries k v a

theorem get?_erase (m : ArrivalMap κ ν) (k a : κ) :
    (m.erase k).get? a = if a = k then none else m.get? a := by
  obtain ⟨es⟩ := m
  simp only [erase, get?]
  induction es with
  | nil => simp
  | cons e es ih =>
    obtain ⟨b, w⟩ := e
    by_cases h : b = k <;> by_cases ha : a = b <;> grind

/-- A key that is already there keeps its place. -/
theorem keys_insert (m : ArrivalMap κ ν) (k : κ) (v : ν) :
    (m.insert k v).keys = if k ∈ m.keys then m.keys else m.keys ++ [k] := by
  obtain ⟨es⟩ := m
  simp only [insert, keys]
  induction es with
  | nil => simp [insertEntry]
  | cons e es ih =>
    obtain ⟨b, w⟩ := e
    by_cases h : b = k <;> grind [insertEntry]

/-- The other keys keep their order. -/
theorem keys_erase (m : ArrivalMap κ ν) (k : κ) : (m.erase k).keys = m.keys.filter (· ≠ k) := by
  simp [erase, keys, List.filter_map, Function.comp_def]

end ArrivalMap

end LanguageServer
