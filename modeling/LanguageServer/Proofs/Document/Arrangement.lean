import LanguageServer.Proofs.Document.Acceptance
import Mathlib.Data.List.Induction
import Mathlib.Order.Bounds.Basic

/-!
# The order of the open documents

Which documents are open after a run, and in which order they stand, is a matter of history: a
document stands where the opening put it that came first after its last close.
-/

namespace LanguageServer

universe u
variable {ι : Type u}

/-- Whether an operation opens or closes a document; the other ones do neither. -/
def StoreOperation.opens? (uri : Uri) : StoreOperation ι → Option Bool
  | notice (.didOpen item) => if item.uri = uri then some true else none
  | notice (.didClose about) => if about = uri then some false else none
  | _ => none

section History
variable (operations : List (StoreOperation ι)) (uri : Uri) (place : Nat)

def OpensAt : Prop := ∃ item, operations[place]? = some (.notice (.didOpen item)) ∧ item.uri = uri

def ClosesAt : Prop :=
  operations[place]? = some (.notice (.didClose uri)) ∧
    uri ∈ (DocumentStore.empty.run (operations.take place)).1.keys

/-- The place of the first opening of a document after its last close. -/
def IsOpening : Prop :=
  IsLeast {place | OpensAt operations uri place ∧ ∀ close, ClosesAt operations uri close → close < place}
    place

/-- Documents with the places of their openings, the earliest in front. -/
def AreOpenings (openings : List (Uri × Nat)) : Prop :=
  openings.Pairwise (·.2 < ·.2) ∧ ∀ opening ∈ openings, IsOpening operations opening.1 opening.2

end History

structure Arranged (operations : List (StoreOperation ι)) (store : DocumentStore ι) : Prop where
  nodup : store.keys.Nodup
  keyed : store.Keyed
  map_uri_all : store.all.map (·.uri) = store.keys
  size_eq : store.size = store.keys.length
  isEmpty_iff : store.isEmpty ↔ store.keys = []
  mem_iff : ∀ uri, uri ∈ store.keys ↔ (operations.filterMap (·.opens? uri)).getLast? = some true
  inOrder : ∃ openings, openings.map Prod.fst = store.keys ∧ AreOpenings operations openings
  keys_reopened : ∀ item, item.uri ∈ store.keys →
    (store.openDocument item).store.keys = store.keys
  keys_changed : ∀ uri version changes,
    (store.changeDocument uri version changes).store.keys = store.keys

namespace DocumentStore

variable (store : DocumentStore ι)

theorem keys_openDocument (item : DocumentItem) : (store.openDocument item).store.keys =
    if item.uri ∈ store.keys then store.keys else store.keys ++ [item.uri] :=
  ArrivalMap.keys_insert _ _ _

theorem keys_changeDocument (uri : Uri) (version : Int) (changes : List ContentChange) :
    (store.changeDocument uri version changes).store.keys = store.keys := by
  rcases store.changeDocument_cases uri version changes with ⟨last, document, -, hget, -, heq⟩ | ⟨-, heq⟩
  · rw [heq]
    exact (ArrivalMap.keys_insert _ _ _).trans (if_pos (ArrivalMap.mem_keys_of_get? hget))
  · rw [heq]

theorem keys_closeDocument (uri : Uri) :
    (store.closeDocument uri).store.keys = store.keys.filter (· ≠ uri) := by
  unfold closeDocument
  split
  · exact ArrivalMap.keys_erase _ _
  · rename_i hget
    symm
    apply List.filter_eq_self.mpr
    rintro key hkey
    apply decide_eq_true
    rintro rfl
    exact ArrivalMap.get?_eq_none_iff.mp hget hkey

/-- Openings put a document behind the others, closes take it out, and nothing else moves one. -/
theorem keys_apply (operation : StoreOperation ι) : (store.apply operation).store.keys =
    match operation with
    | .notice (.didOpen item) =>
      if item.uri ∈ store.keys then store.keys else store.keys ++ [item.uri]
    | .notice (.didClose uri) => store.keys.filter (· ≠ uri)
    | _ => store.keys := by
  cases operation with
  | listen kind listener => rfl
  | handleSave handler => rfl
  | notice notice =>
    cases notice with
    | didOpen item => exact store.keys_openDocument item
    | didChange uri version changes => exact store.keys_changeDocument uri version changes
    | didClose uri => exact store.keys_closeDocument uri
    | willSave uri reason | didSave uri => rw [apply, handle, store_announce]
    | willSaveWaitUntil uri reason => rw [apply, handle, store_editsBeforeSave]

theorem mem_keys_apply {operation : StoreOperation ι} {uri : Uri} :
    uri ∈ (store.apply operation).store.keys ↔
      (operation.opens? uri).getD (decide (uri ∈ store.keys)) = true := by
  rw [keys_apply]
  cases operation with
  | listen kind listener => simp [StoreOperation.opens?]
  | handleSave handler => simp [StoreOperation.opens?]
  | notice notice =>
    cases notice with
    | didOpen item => by_cases heq : item.uri = uri <;> grind [StoreOperation.opens?]
    | didClose about => by_cases heq : about = uri <;> grind [StoreOperation.opens?]
    | didChange | willSave | willSaveWaitUntil | didSave => simp [StoreOperation.opens?]

end DocumentStore

section History
variable {operations : List (StoreOperation ι)} {operation : StoreOperation ι} {uri : Uri}
variable {place : Nat}

theorem getElem?_concat_eq_some_iff {α : Type u} {l : List α} {a b : α} {i : Nat} :
    (l ++ [a])[i]? = some b ↔ l[i]? = some b ∨ i = l.length ∧ a = b := by
  rcases Nat.lt_trichotomy i l.length with hlt | rfl | hgt
  · rw [List.getElem?_append_left hlt]
    exact ⟨Or.inl, fun h => h.resolve_right fun h' => Nat.ne_of_lt hlt h'.1⟩
  · simp
  · rw [List.getElem?_eq_none (by simp; omega), List.getElem?_eq_none (by omega)]
    simp only [reduceCtorEq, false_or, false_iff, not_and]
    omega

theorem OpensAt.lt (h : OpensAt operations uri place) : place < operations.length := by
  obtain ⟨item, hitem, -⟩ := h
  exact (List.getElem?_eq_some_iff.mp hitem).1

theorem ClosesAt.lt (h : ClosesAt operations uri place) : place < operations.length :=
  (List.getElem?_eq_some_iff.mp h.1).1

theorem opens?_eq_true_iff : operation.opens? uri = some true ↔
    ∃ item, operation = .notice (.didOpen item) ∧ item.uri = uri := by
  constructor
  · intro h
    unfold StoreOperation.opens? at h
    split at h
    · rename_i item
      exact ⟨item, rfl, by simpa using h⟩
    · simp at h
    · cases h
  · rintro ⟨item, rfl, huri⟩
    exact if_pos huri

theorem opens?_eq_false_iff :
    operation.opens? uri = some false ↔ operation = .notice (.didClose uri) := by
  unfold StoreOperation.opens?
  split <;> simp_all

theorem opensAt_concat_iff : OpensAt (operations ++ [operation]) uri place ↔
    OpensAt operations uri place ∨
      place = operations.length ∧ operation.opens? uri = some true := by
  simp only [OpensAt, getElem?_concat_eq_some_iff, opens?_eq_true_iff]
  constructor
  · rintro ⟨item, hold | ⟨rfl, rfl⟩, huri⟩
    · exact Or.inl ⟨item, hold, huri⟩
    · exact Or.inr ⟨rfl, item, rfl, huri⟩
  · rintro (⟨item, hold, huri⟩ | ⟨rfl, item, rfl, huri⟩)
    · exact ⟨item, Or.inl hold, huri⟩
    · exact ⟨item, Or.inr ⟨rfl, rfl⟩, huri⟩

theorem closesAt_concat_iff : ClosesAt (operations ++ [operation]) uri place ↔
    ClosesAt operations uri place ∨
      place = operations.length ∧ operation.opens? uri = some false ∧
        uri ∈ (DocumentStore.empty.run operations).1.keys := by
  simp only [ClosesAt, getElem?_concat_eq_some_iff, opens?_eq_false_iff]
  constructor
  · rintro ⟨hold | ⟨rfl, rfl⟩, hopen⟩
    · have hlt := (List.getElem?_eq_some_iff.mp hold).1
      rw [List.take_append_of_le_length (Nat.le_of_lt hlt)] at hopen
      exact Or.inl ⟨hold, hopen⟩
    · rw [List.take_left] at hopen
      exact Or.inr ⟨rfl, rfl, hopen⟩
  · rintro (⟨hold, hopen⟩ | ⟨rfl, rfl, hopen⟩)
    · have hlt := (List.getElem?_eq_some_iff.mp hold).1
      rw [List.take_append_of_le_length (Nat.le_of_lt hlt)]
      exact ⟨Or.inl hold, hopen⟩
    · rw [List.take_left]
      exact ⟨Or.inr ⟨rfl, rfl⟩, hopen⟩

theorem mem_keys_run_concat_iff :
    uri ∈ (DocumentStore.empty.run (operations ++ [operation])).1.keys ↔
      (operation.opens? uri).getD
        (decide (uri ∈ (DocumentStore.empty.run operations).1.keys)) = true := by
  rw [DocumentStore.run_concat, DocumentStore.mem_keys_apply]

theorem mem_keys_run_iff (operations : List (StoreOperation ι)) (uri : Uri) :
    uri ∈ (DocumentStore.empty.run operations).1.keys ↔
      (operations.filterMap (·.opens? uri)).getLast? = some true := by
  induction operations using List.reverseRecOn with
  | nil => constructor <;> intro h <;> cases h
  | append_singleton operations operation ih =>
    rw [mem_keys_run_concat_iff, List.filterMap_append]
    cases hopens : operation.opens? uri with
    | none => simpa [hopens] using ih
    | some opens => simp [hopens]

theorem OpensAt.mem_keys_run (h : OpensAt operations uri place)
    (hlast : ∀ close, ClosesAt operations uri close → close < place) :
    uri ∈ (DocumentStore.empty.run operations).1.keys := by
  induction operations using List.reverseRecOn with
  | nil => exact absurd h.lt (Nat.not_lt_zero _)
  | append_singleton operations operation ih =>
    have hbefore : ∀ close, ClosesAt operations uri close → close < place :=
      fun close hclose => hlast close (closesAt_concat_iff.mpr (Or.inl hclose))
    rw [mem_keys_run_concat_iff]
    rcases opensAt_concat_iff.mp h with hold | ⟨-, hopens⟩
    · have hmem := ih hold hbefore
      cases hopens : operation.opens? uri with
      | none => exact decide_eq_true hmem
      | some opens =>
        cases opens with
        | true => rfl
        | false =>
          have hclose := hlast _ (closesAt_concat_iff.mpr (Or.inr ⟨rfl, hopens, hmem⟩))
          exact absurd (Nat.lt_trans hclose hold.lt) (Nat.lt_irrefl _)
    · rw [hopens]
      rfl

theorem IsOpening.concat (h : IsOpening operations uri place)
    (hkept : operation.opens? uri ≠ some false) :
    IsOpening (operations ++ [operation]) uri place := by
  obtain ⟨⟨hopens, hlast⟩, hfirst⟩ := h
  refine ⟨⟨opensAt_concat_iff.mpr (Or.inl hopens), ?_⟩, ?_⟩
  · intro close hclose
    rcases closesAt_concat_iff.mp hclose with hold | ⟨-, hcloses, -⟩
    · exact hlast close hold
    · exact absurd hcloses hkept
  · rintro other ⟨hother, hsince⟩
    rcases opensAt_concat_iff.mp hother with hold | ⟨rfl, -⟩
    · exact hfirst ⟨hold, fun close hclose => hsince close (closesAt_concat_iff.mpr (Or.inl hclose))⟩
    · exact Nat.le_of_lt hopens.lt

theorem isOpening_concat_self (habsent : uri ∉ (DocumentStore.empty.run operations).1.keys)
    (hopens : operation.opens? uri = some true) :
    IsOpening (operations ++ [operation]) uri operations.length := by
  refine ⟨⟨opensAt_concat_iff.mpr (Or.inr ⟨rfl, hopens⟩), ?_⟩, ?_⟩
  · intro close hclose
    rcases closesAt_concat_iff.mp hclose with hold | ⟨-, hcloses, -⟩
    · exact hold.lt
    · rw [hopens] at hcloses
      cases hcloses
  · rintro other ⟨hother, hsince⟩
    rcases opensAt_concat_iff.mp hother with hold | ⟨rfl, -⟩
    · refine absurd (hold.mem_keys_run ?_) habsent
      exact fun close hclose => hsince close (closesAt_concat_iff.mpr (Or.inl hclose))
    · exact Nat.le_refl _

theorem AreOpenings.concat {openings : List (Uri × Nat)} (h : AreOpenings operations openings)
    (hkept : ∀ opening ∈ openings, operation.opens? opening.1 ≠ some false) :
    AreOpenings (operations ++ [operation]) openings :=
  ⟨h.1, fun opening hmem => (h.2 opening hmem).concat (hkept opening hmem)⟩

theorem AreOpenings.concat_opening {openings : List (Uri × Nat)}
    (h : AreOpenings operations openings)
    (habsent : uri ∉ (DocumentStore.empty.run operations).1.keys)
    (hopens : operation.opens? uri = some true)
    (hkept : ∀ opening ∈ openings, operation.opens? opening.1 ≠ some false) :
    AreOpenings (operations ++ [operation]) (openings ++ [(uri, operations.length)]) := by
  have hconcat := h.concat hkept
  constructor
  · refine List.pairwise_append.mpr ⟨h.1, List.pairwise_singleton _ _, ?_⟩
    intro opening hmem last hlast
    rw [List.mem_singleton.mp hlast]
    exact (h.2 opening hmem).1.1.lt
  · intro opening hmem
    rcases List.mem_append.mp hmem with hold | hnew
    · exact hconcat.2 opening hold
    · rw [List.mem_singleton.mp hnew]
      exact isOpening_concat_self habsent hopens

theorem exists_openings (operations : List (StoreOperation ι)) :
    ∃ openings, openings.map Prod.fst = (DocumentStore.empty.run operations).1.keys ∧
      AreOpenings operations openings := by
  induction operations using List.reverseRecOn with
  | nil => exact ⟨[], rfl, .nil, fun _ h => by cases h⟩
  | append_singleton operations operation ih =>
    obtain ⟨openings, hkeys, hopenings⟩ := ih
    rw [DocumentStore.run_concat, DocumentStore.keys_apply]
    cases operation with
    | listen kind listener => exact ⟨openings, hkeys, hopenings.concat (by simp [StoreOperation.opens?])⟩
    | handleSave handler => exact ⟨openings, hkeys, hopenings.concat (by simp [StoreOperation.opens?])⟩
    | notice notice =>
      cases notice with
      | didOpen item =>
        have hkept : ∀ opening ∈ openings,
            (StoreOperation.notice (ι := ι) (.didOpen item)).opens? opening.1 ≠ some false := by
          simp [opens?_eq_false_iff]
        dsimp only
        split
        · exact ⟨openings, hkeys, hopenings.concat hkept⟩
        · rename_i habsent
          refine ⟨openings ++ [(item.uri, operations.length)], by simp [hkeys], ?_⟩
          exact hopenings.concat_opening habsent (if_pos rfl) hkept
      | didClose about =>
        refine ⟨openings.filter (·.1 ≠ about), ?_, ?_⟩
        · dsimp only
          rw [← hkeys, List.filter_map]
          rfl
        · have hleft : AreOpenings operations (openings.filter (·.1 ≠ about)) :=
            ⟨hopenings.1.filter _, fun opening hmem => hopenings.2 opening (List.mem_filter.mp hmem).1⟩
          apply hleft.concat
          intro opening hmem hcloses
          rw [opens?_eq_false_iff] at hcloses
          cases hcloses
          exact absurd rfl (of_decide_eq_true (List.mem_filter.mp hmem).2)
      | didChange | willSave | willSaveWaitUntil | didSave =>
        exact ⟨openings, hkeys, hopenings.concat (by simp [StoreOperation.opens?])⟩

end History

namespace DocumentStore

theorem keyed_run (operations : List (StoreOperation ι)) : (empty.run operations).1.Keyed := by
  induction operations using List.reverseRecOn with
  | nil =>
    intro uri document h
    cases h
  | append_singleton operations operation ih =>
    rw [run_concat]
    exact ih.apply operation

theorem nodup_keys_run (operations : List (StoreOperation ι)) :
    (empty.run operations).1.keys.Nodup := by
  induction operations using List.reverseRecOn with
  | nil => exact List.nodup_nil
  | append_singleton operations operation ih =>
    rw [run_concat]
    cases operation with
    | listen kind listener => exact ih
    | handleSave handler => exact ih
    | notice notice => exact nodup_keys_handle ih notice

end DocumentStore

/-- After any sequence of operations the open documents are those that were opened last and not
closed since, once each and in the order in which they came to be open. -/
theorem arranged_run (operations : List (StoreOperation ι)) :
    Arranged operations (DocumentStore.empty.run operations).1 where
  nodup := DocumentStore.nodup_keys_run operations
  keyed := DocumentStore.keyed_run operations
  map_uri_all := DocumentStore.map_uri_all (DocumentStore.keyed_run operations)
    (DocumentStore.nodup_keys_run operations)
  size_eq := by simp [DocumentStore.size, DocumentStore.keys, ArrivalMap.size, ArrivalMap.keys]
  isEmpty_iff := by simp [DocumentStore.isEmpty, DocumentStore.keys, ArrivalMap.isEmpty, ArrivalMap.keys]
  mem_iff := mem_keys_run_iff operations
  inOrder := exists_openings operations
  keys_reopened := by
    intro item hmem
    rw [DocumentStore.keys_openDocument, if_pos hmem]
  keys_changed := DocumentStore.keys_changeDocument _

end LanguageServer
