import LanguageServer.Document.Store

/-!
# One step of the store, seen from one document

A notice acts on the document that it is about and on no other, and what it makes of that document
depends on nothing else in the store. `Notice.act` is this action; what a run does to one document
follows from it step by step.
-/

namespace LanguageServer

universe u
variable {ι : Type u}

namespace Notice

def act : Notice → Option TextDocument → Option TextDocument
  | didOpen item, _ => some (.ofItem item)
  | didChange _ version changes, state =>
    match changes.getLast?, state with
    | some last, some document =>
      if version < document.version then some document
      else some (document.update last.text version)
    | _, state => state
  | didClose _, _ => none
  | willSave _ _, state | willSaveWaitUntil _ _, state | didSave _, state => state

theorem uri_act {notice : Notice} {state : Option TextDocument} {document : TextDocument}
    (hstate : ∀ before, state = some before → before.uri = notice.uri)
    (h : notice.act state = some document) : document.uri = notice.uri := by
  cases notice with
  | didOpen item =>
    obtain rfl := Option.some.inj h
    rfl
  | didChange uri version changes =>
    cases state with
    | none => cases hlast : changes.getLast? <;> simp [act, hlast] at h
    | some before =>
      have huri : before.uri = uri := hstate before rfl
      cases hlast : changes.getLast? with
      | none =>
        obtain rfl : before = document := by simpa [act, hlast] using h
        exact huri
      | some last =>
        simp only [act, hlast] at h
        split at h
        · obtain rfl := Option.some.inj h
          exact huri
        · obtain rfl := Option.some.inj h
          exact huri
  | didClose uri => cases h
  | willSave | willSaveWaitUntil | didSave => exact hstate document h

end Notice

namespace DocumentStore

variable (store : DocumentStore ι) (uri : Uri)

theorem get?_openDocument (item : DocumentItem) :
    (store.openDocument item).store.get? uri =
      if uri = item.uri then some (.ofItem item) else store.get? uri :=
  ArrivalMap.get?_insert _ _ _ _

theorem get?_changeDocument (about : Uri) (version : Int) (changes : List ContentChange) :
    (store.changeDocument about version changes).store.get? uri =
      if uri = about then (Notice.didChange about version changes).act (store.get? uri)
      else store.get? uri := by
  unfold changeDocument
  split
  · rename_i last document hlast hget
    split
    · rename_i hstale
      split
      · rename_i heq
        subst heq
        simp [Notice.act, hlast, hget, hstale]
      · rfl
    · rename_i hfresh
      change (store.documents.insert about _).get? uri = _
      rw [ArrivalMap.get?_insert]
      split
      · rename_i heq
        subst heq
        simp [Notice.act, hlast, hget, hfresh]
      · rfl
  · rename_i hno
    split
    · rename_i heq
      subst heq
      cases hlast : changes.getLast? <;> cases hget : store.get? uri <;>
        simp_all [Notice.act]
    · rfl

theorem get?_closeDocument (about : Uri) :
    (store.closeDocument about).store.get? uri = if uri = about then none else store.get? uri := by
  unfold closeDocument
  split
  · exact ArrivalMap.get?_erase _ _ _
  · rename_i hget
    split
    · rename_i heq
      rw [heq]
      exact hget
    · rfl

theorem store_announce (about : Uri) (event : TextDocument → Event) :
    (store.announce about event).store = store := by
  unfold announce
  split <;> rfl

theorem store_editsBeforeSave (about : Uri) (reason : Int) :
    (store.editsBeforeSave about reason).store = store := by
  unfold editsBeforeSave
  split <;> rfl

/-- A notice changes at most the document that it is about. -/
theorem get?_handle (notice : Notice) :
    (store.handle notice).store.get? uri =
      if uri = notice.uri then notice.act (store.get? uri) else store.get? uri := by
  cases notice with
  | didOpen item => exact get?_openDocument store uri item
  | didChange about version changes => exact get?_changeDocument store uri about version changes
  | didClose about => exact get?_closeDocument store uri about
  | willSave about reason =>
    rw [handle, store_announce]
    exact (ite_self _).symm
  | willSaveWaitUntil about reason =>
    rw [handle, store_editsBeforeSave]
    exact (ite_self _).symm
  | didSave about =>
    rw [handle, store_announce]
    exact (ite_self _).symm

theorem listeners_handle (notice : Notice) :
    (store.handle notice).store.listeners = store.listeners := by
  cases notice with
  | didOpen item => rfl
  | didChange about version changes =>
    simp only [handle, changeDocument]
    split
    · split <;> rfl
    · rfl
  | didClose about =>
    simp only [handle, closeDocument]
    split <;> rfl
  | willSave about reason => rw [handle, store_announce]
  | willSaveWaitUntil about reason => rw [handle, store_editsBeforeSave]
  | didSave about => rw [handle, store_announce]

theorem mem_listeners_apply {registration : EventKind × ι} (h : registration ∈ store.listeners)
    (operation : StoreOperation ι) : registration ∈ (store.apply operation).store.listeners := by
  cases operation with
  | listen kind listener => exact List.mem_append_left _ h
  | handleSave handler => exact h
  | notice notice =>
    rw [apply, listeners_handle]
    exact h

theorem run_append (before after : List (StoreOperation ι)) :
    store.run (before ++ after) =
      (((store.run before).1.run after).1,
        (store.run before).2 ++ ((store.run before).1.run after).2) := by
  induction before generalizing store with
  | nil => rfl
  | cons operation before ih =>
    simp only [List.cons_append, run, ih, List.append_assoc]

theorem run_concat (operations : List (StoreOperation ι)) (operation : StoreOperation ι) :
    (store.run (operations ++ [operation])).1 = ((store.run operations).1.apply operation).store := by
  rw [run_append]
  rfl

def Keyed (store : DocumentStore ι) : Prop :=
  ∀ uri document, store.get? uri = some document → document.uri = uri

variable {store}

theorem Keyed.handle (h : store.Keyed) (notice : Notice) : (store.handle notice).store.Keyed := by
  intro uri document hget
  rw [get?_handle] at hget
  split at hget
  · rename_i heq
    rw [heq] at hget ⊢
    exact Notice.uri_act (h notice.uri) hget
  · exact h uri document hget

theorem Keyed.apply (h : store.Keyed) (operation : StoreOperation ι) :
    (store.apply operation).store.Keyed := by
  cases operation with
  | listen kind listener => exact h
  | handleSave handler => exact h
  | notice notice => exact h.handle notice

end DocumentStore

end LanguageServer
