import LanguageServer.Proofs.Document.Replay

/-!
# Documents do not interfere

What a run does to the documents of some URIs, and what it tells about them, is what the notices
about these URIs do when they come alone: the order of the documents, the acceptance of changes and
the events do not depend on any other document.
-/

namespace LanguageServer

universe w

variable {ι : Type w}

section Restriction
variable (S : Set Uri) [DecidablePred (· ∈ S)]

def DocumentStore.restrict (store : DocumentStore ι) : DocumentStore ι :=
  { store with documents := store.documents.restrict S }

def Outcome.restrict (outcome : Outcome ι) : Outcome ι :=
  { outcome with store := outcome.store.restrict S }

/-- Registrations concern every document, a notice concerns the one that it is about. -/
def StoreOperation.concerns : StoreOperation ι → Bool
  | listen _ _ | handleSave _ => true
  | notice n => n.uri ∈ S

def deliveriesWithin (deliveries : List (Delivery ι)) : List (Delivery ι) :=
  deliveries.filter (·.event.document.uri ∈ S)

end Restriction

namespace DocumentStore

variable {S : Set Uri} [DecidablePred (· ∈ S)] {store : DocumentStore ι} {notice : Notice}

theorem get?_restrict_of_mem {uri : Uri} (huri : uri ∈ S) (store : DocumentStore ι) :
    (store.restrict S).get? uri = store.get? uri :=
  ArrivalMap.get?_restrict_of_mem huri store.documents

theorem openDocument_restrict {item : DocumentItem} (h : item.uri ∈ S) (store : DocumentStore ι) :
    (store.restrict S).openDocument item = (store.openDocument item).restrict S := by
  simp only [openDocument, Outcome.restrict, restrict, ArrivalMap.restrict_insert_of_mem h]
  rfl

theorem changeDocument_restrict {uri : Uri} (h : uri ∈ S) (store : DocumentStore ι) (version : Int)
    (changes : List ContentChange) :
    (store.restrict S).changeDocument uri version changes =
      (store.changeDocument uri version changes).restrict S := by
  unfold changeDocument
  rw [get?_restrict_of_mem h]
  split
  · split
    · rfl
    · simp only [Outcome.restrict, restrict, ArrivalMap.restrict_insert_of_mem h]
      rfl
  · rfl

theorem closeDocument_restrict {uri : Uri} (h : uri ∈ S) (store : DocumentStore ι) :
    (store.restrict S).closeDocument uri = (store.closeDocument uri).restrict S := by
  unfold closeDocument
  rw [get?_restrict_of_mem h]
  split
  · simp only [Outcome.restrict, restrict, ArrivalMap.restrict_erase]
    rfl
  · rfl

theorem announce_restrict {uri : Uri} (h : uri ∈ S) (store : DocumentStore ι)
    (event : TextDocument → Event) :
    (store.restrict S).announce uri event = (store.announce uri event).restrict S := by
  unfold announce
  rw [get?_restrict_of_mem h]
  split <;> rfl

theorem editsBeforeSave_restrict {uri : Uri} (h : uri ∈ S) (store : DocumentStore ι) (reason : Int) :
    (store.restrict S).editsBeforeSave uri reason =
      (store.editsBeforeSave uri reason).restrict S := by
  obtain ⟨documents, listeners, saveHandler?⟩ := store
  unfold editsBeforeSave
  rw [get?_restrict_of_mem h]
  cases saveHandler? with
  | none => rfl
  | some handler => split <;> simp_all [restrict, Outcome.restrict]

theorem handle_restrict_of_mem (h : notice.uri ∈ S) (store : DocumentStore ι) :
    (store.restrict S).handle notice = (store.handle notice).restrict S := by
  cases notice with
  | didOpen item => exact openDocument_restrict h store
  | didChange uri version changes => exact changeDocument_restrict h store version changes
  | willSave uri reason => exact announce_restrict h store _
  | willSaveWaitUntil uri reason => exact editsBeforeSave_restrict h store reason
  | didSave uri => exact announce_restrict h store _
  | didClose uri => exact closeDocument_restrict h store

theorem restrict_changeDocument_of_not_mem {uri : Uri} (h : uri ∉ S) (store : DocumentStore ι)
    (version : Int) (changes : List ContentChange) :
    (store.changeDocument uri version changes).store.restrict S = store.restrict S := by
  unfold changeDocument
  split
  · split
    · rfl
    · simp only [restrict, ArrivalMap.restrict_insert_of_not_mem h]
  · rfl

theorem restrict_closeDocument_of_not_mem {uri : Uri} (h : uri ∉ S) (store : DocumentStore ι) :
    (store.closeDocument uri).store.restrict S = store.restrict S := by
  unfold closeDocument
  split
  · simp only [restrict, ArrivalMap.restrict_erase_of_not_mem h]
  · rfl

theorem restrict_handle_of_not_mem (h : notice.uri ∉ S) (store : DocumentStore ι) :
    (store.handle notice).store.restrict S = store.restrict S := by
  cases notice with
  | didOpen item =>
    have hopen : item.uri ∉ S := h
    simp only [handle, openDocument, restrict, ArrivalMap.restrict_insert_of_not_mem hopen]
  | didChange uri version changes =>
    exact restrict_changeDocument_of_not_mem h store version changes
  | didClose uri => exact restrict_closeDocument_of_not_mem h store
  | willSave uri reason | didSave uri => rw [handle, store_announce]
  | willSaveWaitUntil uri reason => rw [handle, store_editsBeforeSave]

/-- Everything that a notice causes to be told is about the document that it is about. -/
theorem uri_of_mem_deliveries (hkeyed : store.Keyed) {d : Delivery ι}
    (h : d ∈ (store.handle notice).deliveries) : d.event.document.uri = notice.uri := by
  cases notice with
  | didOpen item =>
    rcases List.mem_append.mp h with hopened | hchanged
    · rw [event_of_mem_deliver hopened]
      rfl
    · rw [event_of_mem_deliver hchanged]
      rfl
  | didChange uri version changes =>
    simp only [handle, changeDocument] at h
    split at h
    · rename_i last document hlast hget
      split at h
      · cases h
      · rw [event_of_mem_deliver h]
        exact hkeyed uri document hget
    · cases h
  | didClose uri =>
    simp only [handle, closeDocument] at h
    split at h
    · rename_i document hget
      rw [event_of_mem_deliver h]
      exact hkeyed uri document hget
    · cases h
  | willSave uri reason | didSave uri =>
    simp only [handle, announce] at h
    split at h
    · rename_i document hget
      rw [event_of_mem_deliver h]
      exact hkeyed uri document hget
    · cases h
  | willSaveWaitUntil uri reason =>
    simp only [handle, editsBeforeSave] at h
    split at h
    · rename_i handler document hhandler hget
      obtain rfl := List.mem_singleton.mp h
      exact hkeyed uri document hget
    · cases h

/-- An operation that concerns the documents that are left does to them, and tells about them, what
it does and tells without the others. -/
theorem apply_of_concerns (hkeyed : store.Keyed) {operation : StoreOperation ι}
    (h : operation.concerns S = true) :
    ((store.restrict S).apply operation).store = (store.apply operation).store.restrict S ∧
      deliveriesWithin S (store.apply operation).deliveries =
        ((store.restrict S).apply operation).deliveries := by
  cases operation with
  | listen kind listener => exact ⟨rfl, rfl⟩
  | handleSave handler => exact ⟨rfl, rfl⟩
  | notice notice =>
    have hmem : notice.uri ∈ S := of_decide_eq_true h
    simp only [apply, handle_restrict_of_mem hmem]
    refine ⟨rfl, List.filter_eq_self.mpr ?_⟩
    intro d hd
    rw [uri_of_mem_deliveries hkeyed hd]
    exact h

theorem apply_of_not_concerns (hkeyed : store.Keyed) {operation : StoreOperation ι}
    (h : operation.concerns S = false) :
    (store.apply operation).store.restrict S = store.restrict S ∧
      deliveriesWithin S (store.apply operation).deliveries = [] := by
  cases operation with
  | listen kind listener => cases h
  | handleSave handler => cases h
  | notice notice =>
    refine ⟨restrict_handle_of_not_mem (of_decide_eq_false h) store, List.filter_eq_nil_iff.mpr ?_⟩
    intro d hd
    rw [uri_of_mem_deliveries hkeyed hd]
    exact ne_true_of_eq_false h

theorem run_restrict (hkeyed : store.Keyed) (operations : List (StoreOperation ι)) :
    (store.run operations).1.restrict S =
        ((store.restrict S).run (operations.filter (·.concerns S))).1 ∧
      deliveriesWithin S (store.run operations).2 =
        ((store.restrict S).run (operations.filter (·.concerns S))).2 := by
  induction operations generalizing store with
  | nil => exact ⟨rfl, rfl⟩
  | cons operation operations ih =>
    obtain ⟨hstore, hdeliveries⟩ := ih (hkeyed.apply operation)
    simp only [run]
    cases hconcerns : operation.concerns S with
    | true =>
      obtain ⟨hhead, htold⟩ := apply_of_concerns hkeyed hconcerns
      rw [List.filter_cons_of_pos hconcerns]
      simp only [run, hhead]
      refine ⟨hstore, ?_⟩
      rw [deliveriesWithin, List.filter_append]
      exact congrArg₂ (· ++ ·) htold hdeliveries
    | false =>
      obtain ⟨hhead, htold⟩ := apply_of_not_concerns hkeyed hconcerns
      rw [List.filter_cons_of_neg (ne_true_of_eq_false hconcerns), ← hhead]
      refine ⟨hstore, ?_⟩
      rw [deliveriesWithin, List.filter_append]
      exact (congrArg₂ (· ++ ·) htold hdeliveries).trans (List.nil_append _)

end DocumentStore

/-- Running everything and looking at the documents of some URIs gives the store and the deliveries
of a run of the registrations and of the notices about these URIs alone. -/
theorem restrict_run_eq_run_filter (S : Set Uri) [DecidablePred (· ∈ S)]
    (operations : List (StoreOperation ι)) :
    (DocumentStore.empty.run operations).1.restrict S =
        (DocumentStore.empty.run (operations.filter (·.concerns S))).1 ∧
      deliveriesWithin S (DocumentStore.empty.run operations).2 =
        (DocumentStore.empty.run (operations.filter (·.concerns S))).2 := by
  have hkeyed : (DocumentStore.empty : DocumentStore ι).Keyed := by
    intro uri document h
    cases h
  exact DocumentStore.run_restrict hkeyed operations

end LanguageServer
