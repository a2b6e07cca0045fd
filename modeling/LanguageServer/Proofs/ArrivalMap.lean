import LanguageServer.ArrivalMap
import Mathlib.Data.List.Nodup
import Mathlib.Data.List.Perm.Basic
import Mathlib.Data.Set.Basic

/-!
# Entries of maps in order of arrival

What insertion and erasure do to the list of entries, where no key occurs twice, which entries one
map has and another has not, and what is left of a map under the keys of a set.
-/

namespace LanguageServer

universe u v w

namespace ArrivalMap

variable {κ : Type u} {ν : Type v} [DecidableEq κ] {m : ArrivalMap κ ν} {k : κ} {v : ν}

theorem lookup_cons_of_ne {b : κ} (hne : k ≠ b) (w : ν) (es : List (κ × ν)) :
    ((b, w) :: es).lookup k = es.lookup k := by
  rw [List.lookup_cons, beq_false_of_ne hne]

theorem get?_eq_none_iff : m.get? k = none ↔ k ∉ m.keys := by
  rw [get?, List.lookup_eq_none_iff]
  simp [keys]
  grind

theorem mem_keys_of_get? (h : m.get? k = some v) : k ∈ m.keys := by
  by_contra hk
  rw [get?_eq_none_iff.mpr hk] at h
  cases h

theorem exists_get?_of_mem_keys (h : k ∈ m.keys) : ∃ v, m.get? k = some v :=
  Option.ne_none_iff_exists'.mp fun hnone => get?_eq_none_iff.mp hnone h

theorem eq_empty_of_get? (h : ∀ k, m.get? k = none) : m = ∅ := by
  have hkeys : m.keys = [] :=
    List.eq_nil_iff_forall_not_mem.mpr fun k => get?_eq_none_iff.mp (h k)
  obtain ⟨es⟩ := m
  obtain rfl := List.map_eq_nil_iff.mp hkeys
  rfl

theorem mem_entries_of_get? (h : m.get? k = some v) : (k, v) ∈ m.entries := by
  obtain ⟨before, after, heq, -⟩ := List.lookup_eq_some_iff.mp h
  rw [heq]
  simp

theorem get?_of_mem_entries (hnodup : m.keys.Nodup) (h : (k, v) ∈ m.entries) :
    m.get? k = some v := by
  obtain ⟨es⟩ := m
  simp only [keys, get?] at *
  induction es with
  | nil => cases h
  | cons e es ih =>
    obtain ⟨b, w⟩ := e
    obtain ⟨hb, hrest⟩ := List.nodup_cons.mp hnodup
    rcases List.mem_cons.mp h with heq | hmem
    · cases heq
      exact List.lookup_cons_self
    · have hne : k ≠ b := by
        rintro rfl
        exact hb (List.mem_map.mpr ⟨(k, v), hmem, rfl⟩)
      rw [lookup_cons_of_ne hne]
      exact ih hrest hmem

theorem entries_insert_of_not_mem (h : k ∉ m.keys) (v : ν) :
    (m.insert k v).entries = m.entries ++ [(k, v)] := by
  obtain ⟨es⟩ := m
  simp only [keys, insert] at *
  induction es with
  | nil => rfl
  | cons e es ih =>
    obtain ⟨hne, hrest⟩ := not_or.mp (mt List.mem_cons.mpr h)
    rw [insertEntry, if_neg (Ne.symm hne), ih hrest, List.cons_append]

theorem nodup_keys_insert (hnodup : m.keys.Nodup) (k : κ) (v : ν) : (m.insert k v).keys.Nodup := by
  rw [keys_insert]
  split
  · exact hnodup
  · rename_i hk
    refine List.nodup_append.mpr ⟨hnodup, List.nodup_singleton k, ?_⟩
    rintro a ha b hb rfl
    exact hk (List.mem_singleton.mp hb ▸ ha)

theorem nodup_keys_erase (hnodup : m.keys.Nodup) (k : κ) : (m.erase k).keys.Nodup := by
  rw [keys_erase]
  exact hnodup.filter _

/-- A value that is overwritten is not seen by a function that agrees on the old and the new one. -/
theorem map_entries_insert {γ : Type w} (f : κ × ν → γ) {old : ν} (h : m.get? k = some old)
    (hf : f (k, v) = f (k, old)) : (m.insert k v).entries.map f = m.entries.map f := by
  obtain ⟨es⟩ := m
  simp only [insert, get?] at *
  induction es with
  | nil => cases h
  | cons e es ih =>
    obtain ⟨b, w⟩ := e
    by_cases hb : b = k
    · subst hb
      obtain rfl : w = old := by simpa using h
      simp [insertEntry, hf]
    · rw [lookup_cons_of_ne (Ne.symm hb)] at h
      simp [insertEntry, hb, ih h]

theorem insertEntry_insertEntry (k : κ) (a b : ν) (es : List (κ × ν)) :
    insertEntry k b (insertEntry k a es) = insertEntry k b es := by
  induction es with
  | nil => simp [insertEntry]
  | cons e es ih => by_cases he : e.1 = k <;> simp [insertEntry, he, ih]

theorem insert_insert (m : ArrivalMap κ ν) (k : κ) (a b : ν) :
    (m.insert k a).insert k b = m.insert k b :=
  congrArg mk (insertEntry_insertEntry k a b m.entries)

theorem erase_erase (m : ArrivalMap κ ν) (k : κ) : (m.erase k).erase k = m.erase k := by
  simp [erase]

theorem perm_cons_erase (hnodup : m.keys.Nodup) (h : m.get? k = some v) :
    m.entries.Perm ((k, v) :: (m.erase k).entries) := by
  obtain ⟨before, after, heq, hbefore⟩ := List.lookup_eq_some_iff.mp h
  obtain ⟨es⟩ := m
  subst heq
  have hk : ∀ e ∈ before ++ after, e.1 ≠ k := by
    simp only [keys, List.map_append, List.map_cons, List.nodup_middle] at hnodup
    rintro e he rfl
    apply (List.nodup_cons.mp hnodup).1
    rw [← List.map_append]
    exact List.mem_map_of_mem he
  have herase : (before ++ (k, v) :: after).filter (·.1 ≠ k) = before ++ after := by
    rw [List.filter_append, List.filter_cons_of_neg (by simp), ← List.filter_append]
    exact List.filter_eq_self.mpr fun e he => decide_eq_true (hk e he)
  rw [erase, herase]
  exact List.perm_middle

theorem filter_fst_eq_singleton {es : List (κ × ν)} (hnodup : (es.map Prod.fst).Nodup)
    (h : (k, v) ∈ es) : es.filter (·.1 = k) = [(k, v)] := by
  obtain ⟨before, after, rfl⟩ := List.append_of_mem h
  simp only [List.map_append, List.map_cons, List.nodup_middle] at hnodup
  have hnone : (before ++ after).filter (·.1 = k) = [] := by
    apply List.filter_eq_nil_iff.mpr
    rintro e he heq
    apply (List.nodup_cons.mp hnodup).1
    rw [← List.map_append]
    exact of_decide_eq_true heq ▸ List.mem_map_of_mem he
  obtain ⟨hbefore, hafter⟩ := List.append_eq_nil_iff.mp ((List.filter_append _ _).symm.trans hnone)
  rw [List.filter_append, List.filter_cons_of_pos (by simp), hbefore, hafter]
  rfl

/-- The entries of a map whose keys another map does not have. -/
def without (m other : ArrivalMap κ ν) : List (κ × ν) :=
  m.entries.filter fun e => (other.get? e.1).isNone

theorem without_eq_nil {other : ArrivalMap κ ν} (h : ∀ k ∈ m.keys, k ∈ other.keys) :
    m.without other = [] := by
  apply List.filter_eq_nil_iff.mpr
  intro e he
  obtain ⟨v, hv⟩ := exists_get?_of_mem_keys (h e.1 (List.mem_map_of_mem he))
  simp [hv]

theorem append_without {later : List (κ × ν)} (h : ∀ e ∈ later, e.1 ∉ m.keys) :
    (⟨m.entries ++ later⟩ : ArrivalMap κ ν).without m = later := by
  have hold : m.entries.filter (fun e => (m.get? e.1).isNone) = [] :=
    without_eq_nil fun _ hk => hk
  rw [without, List.filter_append, hold, List.nil_append]
  apply List.filter_eq_self.mpr
  intro e he
  rw [get?_eq_none_iff.mpr (h e he)]
  rfl

theorem without_append (later : List (κ × ν)) : m.without ⟨m.entries ++ later⟩ = [] :=
  without_eq_nil fun _ hk => by
    simp only [keys, List.map_append, List.mem_append]
    exact Or.inl hk

theorem insert_without (h : k ∈ m.keys) (v : ν) : (m.insert k v).without m = [] :=
  without_eq_nil fun _ hk => by rwa [keys_insert, if_pos h] at hk

theorem without_insert (k : κ) (v : ν) : m.without (m.insert k v) = [] :=
  without_eq_nil fun _ hk => by
    rw [keys_insert]
    split
    · exact hk
    · exact List.mem_append_left _ hk

theorem erase_without (k : κ) : (m.erase k).without m = [] :=
  without_eq_nil fun _ hk => by
    rw [keys_erase] at hk
    exact (List.mem_filter.mp hk).1

theorem without_erase (hnodup : m.keys.Nodup) (h : m.get? k = some v) :
    m.without (m.erase k) = [(k, v)] := by
  have hkept : (m.erase k).entries.filter (fun e => ((m.erase k).get? e.1).isNone) = [] :=
    without_eq_nil fun _ hk => hk
  have hperm := (perm_cons_erase hnodup h).filter fun e => ((m.erase k).get? e.1).isNone
  rw [List.filter_cons_of_pos (by simp [get?_erase]), hkept] at hperm
  exact List.perm_singleton.mp hperm

section Restrict
variable (S : Set κ) [DecidablePred (· ∈ S)]

def restrict (m : ArrivalMap κ ν) : ArrivalMap κ ν := ⟨m.entries.filter (·.1 ∈ S)⟩

variable {S}

theorem filter_insertEntry_of_mem (hk : k ∈ S) (v : ν) (es : List (κ × ν)) :
    (insertEntry k v es).filter (·.1 ∈ S) = insertEntry k v (es.filter (·.1 ∈ S)) := by
  induction es with
  | nil => simp [insertEntry, hk]
  | cons e es ih =>
    by_cases he : e.1 = k
    · simp [insertEntry, he, hk]
    · by_cases hmem : e.1 ∈ S <;> simp [insertEntry, he, hmem, ih]

theorem filter_insertEntry_of_not_mem (hk : k ∉ S) (v : ν) (es : List (κ × ν)) :
    (insertEntry k v es).filter (·.1 ∈ S) = es.filter (·.1 ∈ S) := by
  induction es with
  | nil => simp [insertEntry, hk]
  | cons e es ih =>
    by_cases he : e.1 = k
    · simp [insertEntry, he, hk]
    · by_cases hmem : e.1 ∈ S <;> simp [insertEntry, he, hmem, ih]

theorem restrict_insert_of_mem (hk : k ∈ S) (m : ArrivalMap κ ν) (v : ν) :
    (m.insert k v).restrict S = (m.restrict S).insert k v :=
  congrArg mk (filter_insertEntry_of_mem hk v m.entries)

theorem restrict_insert_of_not_mem (hk : k ∉ S) (m : ArrivalMap κ ν) (v : ν) :
    (m.insert k v).restrict S = m.restrict S :=
  congrArg mk (filter_insertEntry_of_not_mem hk v m.entries)

theorem restrict_erase (m : ArrivalMap κ ν) (k : κ) :
    (m.erase k).restrict S = (m.restrict S).erase k := by
  simp only [restrict, erase, List.filter_filter, Bool.and_comm]

theorem restrict_erase_of_not_mem (hk : k ∉ S) (m : ArrivalMap κ ν) :
    (m.erase k).restrict S = m.restrict S := by
  rw [restrict_erase, erase, restrict]
  congr 1
  apply List.filter_eq_self.mpr
  intro e he
  have hmem : e.1 ∈ S := of_decide_eq_true (List.mem_filter.mp he).2
  have hne : e.1 ≠ k := fun heq => hk (heq ▸ hmem)
  exact decide_eq_true hne

theorem get?_restrict_of_mem (hk : k ∈ S) (m : ArrivalMap κ ν) :
    (m.restrict S).get? k = m.get? k := by
  obtain ⟨es⟩ := m
  simp only [restrict, get?]
  induction es with
  | nil => rfl
  | cons e es ih =>
    obtain ⟨b, v⟩ := e
    by_cases hb : k = b <;> by_cases hmem : b ∈ S <;> grind

end Restrict

end ArrivalMap

end LanguageServer
