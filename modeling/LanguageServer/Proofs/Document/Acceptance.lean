import LanguageServer.Proofs.ArrivalMap
import LanguageServer.Proofs.Document.Step

/-!
# Notices that a store accepts

A store takes over a content with every opening and with every change that is not stale. All other
notices leave the open documents as they are or close one of them.
-/

namespace LanguageServer

universe u
variable {ι : Type u}

namespace DocumentStore

/-- Whether a notice gives a document a new content: it opens the document, or it offers an open one
a content whose version is not below the stored one. -/
def accepts (store : DocumentStore ι) : Notice → Bool
  | .didOpen _ => true
  | .didChange uri version changes =>
    !changes.isEmpty && (store.get? uri).any (fun document => document.version ≤ version)
  | .willSave _ _ | .willSaveWaitUntil _ _ | .didSave _ | .didClose _ => false

variable {store : DocumentStore ι}

/-- A change either is stored with its last content, or does nothing. -/
theorem changeDocument_cases (store : DocumentStore ι) (uri : Uri) (version : Int)
    (changes : List ContentChange) :
    (∃ last document, changes.getLast? = some last ∧ store.get? uri = some document ∧
        store.accepts (.didChange uri version changes) = true ∧
        store.changeDocument uri version changes =
          { store := { store with
              documents := store.documents.insert uri (document.update last.text version) }
            deliveries := store.deliver (.changed (document.update last.text version)) }) ∨
      (store.accepts (.didChange uri version changes) = false ∧
        store.changeDocument uri version changes = { store }) := by
  unfold changeDocument
  split
  · rename_i last document hlast hget
    have hne : changes ≠ [] := by
      rintro rfl
      cases hlast
    split
    · rename_i hstale
      exact Or.inr ⟨by simp [accepts, hget, hstale], rfl⟩
    · rename_i hfresh
      exact Or.inl ⟨last, document, hlast, hget, by simp [accepts, hget, hne, Int.not_lt.mp hfresh], rfl⟩
  · rename_i hno
    refine Or.inr ⟨?_, rfl⟩
    cases hlast : changes.getLast? with
    | none => simp [accepts, List.getLast?_eq_none_iff.mp hlast]
    | some last =>
      cases hget : store.get? uri with
      | none => simp [accepts, hget]
      | some document => exact absurd hget (hno last document hlast)

theorem saveHandler?_handle (store : DocumentStore ι) (notice : Notice) :
    (store.handle notice).store.saveHandler? = store.saveHandler? := by
  cases notice with
  | didOpen item => rfl
  | didChange uri version changes =>
    rcases store.changeDocument_cases uri version changes with ⟨_, _, -, -, -, heq⟩ | ⟨-, heq⟩ <;>
      rw [handle, heq]
  | didClose uri =>
    simp only [handle, closeDocument]
    split <;> rfl
  | willSave uri reason | didSave uri => rw [handle, store_announce]
  | willSaveWaitUntil uri reason => rw [handle, store_editsBeforeSave]

theorem nodup_keys_handle (hnodup : store.keys.Nodup) (notice : Notice) :
    (store.handle notice).store.keys.Nodup := by
  cases notice with
  | didOpen item => exact ArrivalMap.nodup_keys_insert hnodup _ _
  | didChange uri version changes =>
    rcases store.changeDocument_cases uri version changes with ⟨_, _, -, -, -, heq⟩ | ⟨-, heq⟩
    · rw [handle, heq]
      exact ArrivalMap.nodup_keys_insert hnodup _ _
    · rwa [handle, heq]
  | didClose uri =>
    simp only [handle, closeDocument]
    split
    · exact ArrivalMap.nodup_keys_erase hnodup _
    · exact hnodup
  | willSave uri reason | didSave uri => rwa [handle, store_announce]
  | willSaveWaitUntil uri reason => rwa [handle, store_editsBeforeSave]

theorem mem_all_iff (hkeyed : store.Keyed) (hnodup : store.keys.Nodup) {document : TextDocument} :
    document ∈ store.all ↔ store.get? document.uri = some document := by
  constructor
  · intro hmem
    obtain ⟨⟨uri, found⟩, he, rfl⟩ := List.mem_map.mp hmem
    have hget : store.get? uri = some found := ArrivalMap.get?_of_mem_entries hnodup he
    rwa [hkeyed uri found hget]
  · intro hget
    exact List.mem_map.mpr ⟨_, ArrivalMap.mem_entries_of_get? hget, rfl⟩

theorem map_uri_all (hkeyed : store.Keyed) (hnodup : store.keys.Nodup) :
    store.all.map (·.uri) = store.keys := by
  rw [all, keys, ArrivalMap.values, ArrivalMap.keys, List.map_map]
  apply List.map_congr_left
  rintro ⟨key, document⟩ he
  exact hkeyed key document (ArrivalMap.get?_of_mem_entries hnodup he)

/-- An open document is among the open ones once, and no other one has its URI. -/
theorem countP_uri_all (hkeyed : store.Keyed) (hnodup : store.keys.Nodup) (uri : Uri) :
    store.all.countP (·.uri = uri) = if (store.get? uri).isSome then 1 else 0 := by
  calc store.all.countP (·.uri = uri) = (store.all.map (·.uri)).count uri := by
        rw [List.count, List.countP_map]
        rfl
    _ = store.keys.count uri := by rw [map_uri_all hkeyed hnodup]
    _ = if uri ∈ store.keys then 1 else 0 := hnodup.count
    _ = if (store.get? uri).isSome then 1 else 0 := by
        congr 1
        rw [eq_iff_iff, Option.isSome_iff_ne_none]
        exact (not_iff_comm.mp ArrivalMap.get?_eq_none_iff.symm).symm

end DocumentStore

end LanguageServer
