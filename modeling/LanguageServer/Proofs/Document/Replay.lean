import LanguageServer.Proofs.ArrivalMap
import LanguageServer.Proofs.Document.Step
import Mathlib.Data.List.Permutation

/-!
# Rebuilding the open documents from the events

A listener for changes and one for closings, both registered on a fresh store, are told enough to
rebuild its documents with their order: no operation changes them in silence, none tells of a change
that did not happen, and every event carries the document as it is stored.
-/

namespace LanguageServer

universe w

/-- What an event tells about the open documents; only changes and closings tell something. -/
def Event.replay (documents : ArrivalMap Uri TextDocument) : Event → ArrivalMap Uri TextDocument
  | changed document => documents.insert document.uri document
  | closed document => documents.erase document.uri
  | _ => documents

def replay (documents : ArrivalMap Uri TextDocument) (events : List Event) :
    ArrivalMap Uri TextDocument := events.foldl Event.replay documents

variable {ι : Type w}

namespace DocumentStore

structure Watched (changes closes : ι) (store : DocumentStore ι) : Prop where
  changes_mem : (.changed, changes) ∈ store.listeners
  closes_mem : (.closed, closes) ∈ store.listeners
  keyed : store.Keyed

theorem watched_of_mem {changes closes : ι} {listeners : List (EventKind × ι)}
    (hchanges : (.changed, changes) ∈ listeners) (hcloses : (.closed, closes) ∈ listeners) :
    Watched changes closes ⟨∅, listeners, none⟩ := by
  refine ⟨hchanges, hcloses, ?_⟩
  intro uri document h
  cases h

theorem event_of_mem_deliver {store : DocumentStore ι} {event : Event} {d : Delivery ι}
    (h : d ∈ store.deliver event) : d.event = event := by
  obtain ⟨l, _, rfl⟩ := List.mem_map.mp h
  rfl

theorem Watched.apply {changes closes : ι} {store : DocumentStore ι}
    (h : Watched changes closes store) (operation : StoreOperation ι) :
    Watched changes closes (store.apply operation).store :=
  ⟨mem_listeners_apply store h.changes_mem operation, mem_listeners_apply store h.closes_mem operation,
    h.keyed.apply operation⟩

end DocumentStore

variable [DecidableEq ι]

def received (first second : ι) (deliveries : List (Delivery ι)) : List Event :=
  (deliveries.filter fun d => d.listener = first ∨ d.listener = second).map (·.event)

theorem received_append (first second : ι) (before after : List (Delivery ι)) :
    received first second (before ++ after) =
      received first second before ++ received first second after := by
  rw [received, List.filter_append, List.map_append]
  rfl

section Replay
variable {documents : ArrivalMap Uri TextDocument} {event : Event} {events : List Event}

theorem replay_append (documents : ArrivalMap Uri TextDocument) (before after : List Event) :
    replay documents (before ++ after) = replay (replay documents before) after :=
  List.foldl_append

theorem Event.replay_replay (documents : ArrivalMap Uri TextDocument) (event : Event) :
    event.replay (event.replay documents) = event.replay documents := by
  cases event with
  | changed document => exact ArrivalMap.insert_insert _ _ _ _
  | closed document => exact ArrivalMap.erase_erase _ _
  | opened | willSave | willSaveWaitUntil | saved => rfl

theorem replay_of_fixed (hall : ∀ e ∈ events, e = event) (hfixed : event.replay documents = documents) :
    replay documents events = documents := by
  induction events with
  | nil => rfl
  | cons e events ih =>
    obtain rfl := hall e List.mem_cons_self
    rw [replay, List.foldl_cons, hfixed]
    exact ih fun e he => hall e (List.mem_cons_of_mem _ he)

theorem replay_of_repeated (hall : ∀ e ∈ events, e = event) (hne : events ≠ []) :
    replay documents events = event.replay documents := by
  cases events with
  | nil => exact absurd rfl hne
  | cons e events =>
    obtain rfl := hall e List.mem_cons_self
    exact replay_of_fixed (fun e he => hall e (List.mem_cons_of_mem _ he))
      (Event.replay_replay documents e)

end Replay

namespace DocumentStore

variable {changes closes : ι} {store : DocumentStore ι}

theorem eq_of_mem_received {deliveries : List (Delivery ι)} {event e : Event}
    (hall : ∀ d ∈ deliveries, d.event = event) (h : e ∈ received changes closes deliveries) :
    e = event := by
  obtain ⟨d, hd, rfl⟩ := List.mem_map.mp h
  exact hall d (List.mem_filter.mp hd).1

theorem received_deliver_ne_nil {event : Event} {kind : EventKind} {listener : ι}
    (hkind : event.kind? = some kind) (hregistered : (kind, listener) ∈ store.listeners)
    (hlistener : listener = changes ∨ listener = closes) :
    received changes closes (store.deliver event) ≠ [] := by
  apply List.ne_nil_of_mem (a := event)
  apply List.mem_map.mpr
  refine ⟨⟨listener, event⟩, List.mem_filter.mpr ⟨?_, decide_eq_true hlistener⟩, rfl⟩
  apply List.mem_map.mpr
  refine ⟨(kind, listener), List.mem_filter.mpr ⟨hregistered, ?_⟩, rfl⟩
  exact decide_eq_true hkind.symm

namespace Watched

variable (h : Watched changes closes store)
include h

theorem replay_deliver (documents : ArrivalMap Uri TextDocument) (event : Event) :
    replay documents (received changes closes (store.deliver event)) = event.replay documents := by
  -- a name may be registered for one event more than once, so the same event can come several times
  have hall : ∀ e ∈ received changes closes (store.deliver event), e = event :=
    fun e => eq_of_mem_received fun d => event_of_mem_deliver
  cases event with
  | changed document =>
    exact replay_of_repeated hall (received_deliver_ne_nil rfl h.changes_mem (Or.inl rfl))
  | closed document =>
    exact replay_of_repeated hall (received_deliver_ne_nil rfl h.closes_mem (Or.inr rfl))
  | opened | willSave | willSaveWaitUntil | saved => exact replay_of_fixed hall rfl

theorem replay_announce (uri : Uri) (event : TextDocument → Event)
    (hsilent : ∀ document documents, (event document).replay documents = documents) :
    replay store.documents (received changes closes (store.announce uri event).deliveries) =
      store.documents := by
  unfold announce
  split
  · rw [h.replay_deliver, hsilent]
  · rfl

theorem replay_handle (notice : Notice) :
    replay store.documents (received changes closes (store.handle notice).deliveries) =
      (store.handle notice).store.documents := by
  cases notice with
  | didOpen item =>
    simp only [handle, openDocument]
    rw [received_append, replay_append, h.replay_deliver, h.replay_deliver]
    rfl
  | didChange uri version changes =>
    simp only [handle, changeDocument]
    split
    · rename_i last document hlast hget
      split
      · rfl
      · rw [h.replay_deliver]
        change store.documents.insert document.uri _ = _
        rw [h.keyed uri document hget]
    · rfl
  | didClose uri =>
    simp only [handle, closeDocument]
    split
    · rename_i document hget
      rw [h.replay_deliver]
      change store.documents.erase document.uri = _
      rw [h.keyed uri document hget]
    · rfl
  | willSave uri reason =>
    rw [handle, store_announce]
    exact h.replay_announce uri _ fun _ _ => rfl
  | didSave uri =>
    rw [handle, store_announce]
    exact h.replay_announce uri _ fun _ _ => rfl
  | willSaveWaitUntil uri reason =>
    rw [handle, store_editsBeforeSave]
    unfold editsBeforeSave
    split
    · rename_i handler document hhandler hget
      have hall : ∀ d ∈ [Delivery.mk handler.listener (.willSaveWaitUntil document reason)],
          d.event = .willSaveWaitUntil document reason := by
        intro d hd
        rw [List.mem_singleton.mp hd]
      exact replay_of_fixed (fun _ => eq_of_mem_received hall) rfl
    · rfl

theorem replay_apply (operation : StoreOperation ι) :
    replay store.documents (received changes closes (store.apply operation).deliveries) =
      (store.apply operation).store.documents := by
  cases operation with
  | listen kind listener => rfl
  | handleSave handler => rfl
  | notice notice => exact h.replay_handle notice

theorem replay_run (operations : List (StoreOperation ι)) :
    replay store.documents (received changes closes (store.run operations).2) =
      (store.run operations).1.documents := by
  induction operations generalizing store with
  | nil => rfl
  | cons operation operations ih =>
    simp only [run]
    rw [received_append, replay_append, h.replay_apply, ih (h.apply operation)]

end Watched

end DocumentStore

/-- Whatever operations follow the two registrations, replaying what the two listeners received
into an empty map gives the documents of the store, entry by entry and in the same order. -/
theorem replay_received_run (changes closes : ι) {registrations : List (StoreOperation ι)}
    (hregistrations : registrations.Perm [.listen .changed changes, .listen .closed closes])
    (operations : List (StoreOperation ι)) :
    replay ∅ (received changes closes (DocumentStore.empty.run (registrations ++ operations)).2) =
      (DocumentStore.empty.run (registrations ++ operations)).1.documents := by
  rcases List.perm_pair.mp hregistrations with rfl | rfl
  · exact (DocumentStore.watched_of_mem List.mem_cons_self (by simp)).replay_run operations
  · exact (DocumentStore.watched_of_mem (by simp) List.mem_cons_self).replay_run operations

/-- Two documents, a stale change, a close and reopening of the first and a close of an unknown one. -/
def reopening : List (StoreOperation Nat) :=
  [.notice (.didOpen ⟨⟨"file:///a"⟩, "plaintext", 2, "first"⟩), .listen .opened 0,
    .notice (.didOpen ⟨⟨"file:///b"⟩, "plaintext", 1, "other"⟩),
    .notice (.didChange ⟨"file:///a"⟩ 1 [⟨"stale", none, none⟩]),
    .notice (.didChange ⟨"file:///b"⟩ 3 [⟨"newer", none, none⟩]), .notice (.didClose ⟨"file:///a"⟩),
    .notice (.didClose ⟨"file:///c"⟩),
    .notice (.didOpen ⟨⟨"file:///a"⟩, "plaintext", 1, "second"⟩)]

theorem replay_received_run_reopening :
    [StoreOperation.listen .closed 1, .listen .changed 0].Perm
        [.listen .changed 0, .listen .closed 1] ∧
      replay ∅ (received 0 1
          (DocumentStore.empty.run ([.listen .closed 1, .listen .changed 0] ++ reopening)).2) =
        (DocumentStore.empty.run ([.listen .closed 1, .listen .changed 0] ++ reopening)).1.documents ∧
      (DocumentStore.empty.run ([.listen .closed 1, .listen .changed 0] ++ reopening)).1.keys =
        [⟨"file:///b"⟩, ⟨"file:///a"⟩] :=
  ⟨List.Perm.swap _ _ _, replay_received_run 0 1 (List.Perm.swap _ _ _) reopening, by decide⟩

end LanguageServer
