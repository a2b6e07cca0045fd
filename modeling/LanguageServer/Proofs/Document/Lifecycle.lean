import LanguageServer.Proofs.Document.Acceptance
import LanguageServer.Proofs.Document.Course
import LanguageServer.Proofs.Document.Restriction

/-!
# What listeners hear about one document

Where one listener for each kind of event has been registered on a fresh store, what they hear about
a document follows its life: every operation adds a course from the document before it to the
document after it.
-/

namespace LanguageServer

universe u
variable {ι : Type u}

/-- What holds of everything that is heard about a document from the beginning. -/
structure FollowsLifecycle (trace : List Event) : Prop where
  blocks : ∃ blocks, blocks.flatten = trace ∧ AreBlocks blocks
  /-- Savings and closes repeat the latest content. -/
  repeated : ∀ before e after, trace = before ++ e :: after →
    e.kind? = some .willSave ∨ e.kind? = some .saved ∨ e.kind? = some .closed →
      (before.filterMap Event.content?).getLast? = some e.document
  /-- Versions do not fall up to the next opening. -/
  rising : ∀ before document between after,
    trace = before ++ .opened document :: (between ++ after) →
      (∀ e ∈ between, e.kind? ≠ some .opened) →
        (between.filterMap Event.content?).Pairwise (·.version ≤ ·.version)

theorem Course.followsLifecycle {trace : List Event} {after : Option TextDocument}
    (h : Course none trace after) : FollowsLifecycle trace where
  blocks := h.fallsIntoBlocks
  repeated := by
    rintro before e later rfl hkind
    have hcontent : e.content? = none := by
      cases e with
      | changed => simp [Event.kind?] at hkind
      | opened | willSave | willSaveWaitUntil | saved | closed => rfl
    obtain ⟨middle, hfront, hback⟩ := h.split hcontent
    have hmiddle : middle = some e.document := by
      cases hback with
      | opened | changed => simp [Event.kind?] at hkind
      | willSave | saved | closed => rfl
    exact hfront.content_after hmiddle
  rising := by
    rintro before document between later rfl hnone
    obtain ⟨middle, -, hback⟩ := h.split (e := .opened document) rfl
    generalize hall : between ++ later = rest at hback
    cases hback with
    | opened hrest =>
      cases between with
      | nil => exact .nil
      | cons e between =>
        obtain ⟨rfl, rfl⟩ := List.cons.inj hall
        exact hrest.pairwise_version fun e he => hnone e (List.mem_cons_of_mem _ he)

variable [DecidableEq ι]

def heardAbout (watch : EventKind → ι) (uri : Uri) (deliveries : List (Delivery ι)) : List Event :=
  (deliveries.filter fun d =>
    d.event.document.uri = uri ∧ d.event.kind?.map watch = some d.listener).map (·.event)

theorem heardAbout_append (watch : EventKind → ι) (uri : Uri) (before after : List (Delivery ι)) :
    heardAbout watch uri (before ++ after) =
      heardAbout watch uri before ++ heardAbout watch uri after := by
  rw [heardAbout, List.filter_append, List.map_append]
  rfl

theorem heardAbout_eq_nil {watch : EventKind → ι} {uri : Uri} {deliveries : List (Delivery ι)}
    (h : ∀ d ∈ deliveries, d.event.document.uri = uri → d.event.kind? = none) :
    heardAbout watch uri deliveries = [] := by
  rw [heardAbout, List.map_eq_nil_iff, List.filter_eq_nil_iff]
  intro d hd hheard
  obtain ⟨huri, hkind⟩ := of_decide_eq_true hheard
  rw [h d hd huri] at hkind
  cases hkind

namespace DocumentStore

/-- The names that watch a store are registered once each for their kind. -/
structure Attended (watch : EventKind → ι) (store : DocumentStore ι) : Prop where
  count_eq : ∀ kind, store.listeners.count (kind, watch kind) = 1
  keyed : store.Keyed

namespace Attended

variable {watch : EventKind → ι} {store : DocumentStore ι} {uri : Uri}

theorem apply (h : Attended watch store) {operation : StoreOperation ι}
    (hsole : ∀ kind, operation ≠ .listen kind (watch kind)) :
    Attended watch (store.apply operation).store := by
  refine ⟨?_, h.keyed.apply operation⟩
  intro kind
  cases operation with
  | listen about listener =>
    have hne : (about, listener) ≠ (kind, watch kind) := by
      rintro heq
      cases heq
      exact hsole kind rfl
    change (store.listeners ++ [(about, listener)]).count (kind, watch kind) = 1
    rw [List.count_append, h.count_eq kind, List.count_eq_zero_of_not_mem]
    simpa using hne.symm
  | handleSave handler => exact h.count_eq kind
  | notice notice =>
    change (store.handle notice).store.listeners.count _ = 1
    rw [listeners_handle]
    exact h.count_eq kind

variable (h : Attended watch store)
include h

/-- Of all who are told an event the one that watches hears it once. -/
theorem heardAbout_deliver {event : Event} {kind : EventKind} (hkind : event.kind? = some kind)
    (huri : event.document.uri = uri) : heardAbout watch uri (store.deliver event) = [event] := by
  have hone : store.listeners.filter (· = (kind, watch kind)) = [(kind, watch kind)] := by
    rw [List.filter_eq, h.count_eq kind]
    rfl
  have hheard : heardAbout watch uri (store.deliver event) =
      (store.listeners.filter (· = (kind, watch kind))).map fun _ => event := by
    rw [heardAbout, deliver, List.filter_map, List.map_map, List.filter_filter]
    congr 1
    apply List.filter_congr
    rintro ⟨about, listener⟩ -
    simp only [Function.comp_apply, huri, hkind, Option.map_some, Option.some.injEq, true_and,
      Prod.mk.injEq, ← Bool.decide_and]
    exact decide_eq_decide.mpr ⟨fun ⟨hl, hk⟩ => ⟨hk, hl.symm⟩, fun ⟨hk, hl⟩ => ⟨hl.symm, hk⟩⟩
  rw [hheard, hone]
  rfl

theorem course_announce {event : TextDocument → Event} {kind : EventKind} (uri : Uri)
    (hkind : ∀ document, (event document).kind? = some kind)
    (hdocument : ∀ document, (event document).document = document)
    (hcourse : ∀ document, Course (some document) [event document] (some document)) :
    Course (store.get? uri) (heardAbout watch uri (store.announce uri event).deliveries)
      (store.get? uri) := by
  unfold announce
  split
  · rename_i document hget
    have huri : (event document).document.uri = uri := by
      rw [hdocument]
      exact h.keyed uri document hget
    rw [h.heardAbout_deliver (hkind document) huri, hget]
    exact hcourse document
  · exact .refl _

theorem course_handle_self (notice : Notice) :
    Course (store.get? notice.uri) (heardAbout watch notice.uri (store.handle notice).deliveries)
      ((store.handle notice).store.get? notice.uri) := by
  cases notice with
  | didOpen item =>
    have hopened : heardAbout watch item.uri (store.deliver (.opened (.ofItem item))) =
        [.opened (.ofItem item)] := h.heardAbout_deliver rfl rfl
    have hchanged : heardAbout watch item.uri (store.deliver (.changed (.ofItem item))) =
        [.changed (.ofItem item)] := h.heardAbout_deliver rfl rfl
    have hafter : (store.openDocument item).store.get? item.uri = some (.ofItem item) := by
      rw [get?_openDocument, if_pos rfl]
    simp only [handle, Notice.uri, hafter]
    rw [openDocument, heardAbout_append, hopened, hchanged]
    exact .opened (.refl _)
  | didChange uri version changes =>
    rcases store.changeDocument_cases uri version changes with
      ⟨last, document, -, hget, haccepts, heq⟩ | ⟨-, heq⟩
    · have hle : document.version ≤ version := by
        simp only [accepts, hget, Option.any_some, Bool.and_eq_true] at haccepts
        exact of_decide_eq_true haccepts.2
      have huri : (document.update last.text version).uri = uri := h.keyed uri document hget
      have hafter : (store.changeDocument uri version changes).store.get? uri =
          some (document.update last.text version) := by
        rw [heq]
        exact (ArrivalMap.get?_insert _ _ _ _).trans (if_pos rfl)
      have hchanged : heardAbout watch uri
          (store.deliver (.changed (document.update last.text version))) =
            [.changed (document.update last.text version)] := h.heardAbout_deliver rfl huri
      simp only [handle, Notice.uri, hafter]
      rw [heq, hchanged, hget]
      exact .changed hle (.refl _)
    · rw [handle, heq]
      exact .refl _
  | willSave uri reason =>
    rw [handle, store_announce]
    exact h.course_announce uri (fun _ => rfl) (fun _ => rfl) fun _ => .willSave reason (.refl _)
  | didSave uri =>
    rw [handle, store_announce]
    exact h.course_announce uri (fun _ => rfl) (fun _ => rfl) fun _ => .saved (.refl _)
  | willSaveWaitUntil uri reason =>
    rw [handle, store_editsBeforeSave, heardAbout_eq_nil]
    · exact .refl _
    · intro d hd _
      unfold editsBeforeSave at hd
      split at hd
      · rw [List.mem_singleton.mp hd]
        rfl
      · cases hd
  | didClose uri =>
    simp only [handle, Notice.uri]
    rw [get?_closeDocument, if_pos rfl]
    unfold closeDocument
    split
    · rename_i document hget
      have hclosed : heardAbout watch uri (store.deliver (.closed document)) = [.closed document] :=
        h.heardAbout_deliver rfl (h.keyed uri document hget)
      rw [hclosed, hget]
      exact .closed (.refl _)
    · rename_i hget
      rw [hget]
      exact .refl _

theorem course_handle (notice : Notice) (uri : Uri) :
    Course (store.get? uri) (heardAbout watch uri (store.handle notice).deliveries)
      ((store.handle notice).store.get? uri) := by
  by_cases heq : uri = notice.uri
  · subst heq
    exact h.course_handle_self notice
  · rw [get?_handle, if_neg heq, heardAbout_eq_nil]
    · exact .refl _
    · intro d hd huri
      exact absurd (huri.symm.trans (uri_of_mem_deliveries h.keyed hd)) heq

theorem course_apply (operation : StoreOperation ι) (uri : Uri) :
    Course (store.get? uri) (heardAbout watch uri (store.apply operation).deliveries)
      ((store.apply operation).store.get? uri) := by
  cases operation with
  | listen kind listener => exact .refl _
  | handleSave handler => exact .refl _
  | notice notice => exact h.course_handle notice uri

theorem course_run {operations : List (StoreOperation ι)}
    (hsole : ∀ kind, .listen kind (watch kind) ∉ operations) (uri : Uri) :
    Course (store.get? uri) (heardAbout watch uri (store.run operations).2)
      ((store.run operations).1.get? uri) := by
  induction operations generalizing store with
  | nil => exact .refl _
  | cons operation operations ih =>
    have hhead : ∀ kind, operation ≠ .listen kind (watch kind) := by
      rintro kind rfl
      exact hsole kind List.mem_cons_self
    have hrest : ∀ kind, .listen kind (watch kind) ∉ operations :=
      fun kind hmem => hsole kind (List.mem_cons_of_mem _ hmem)
    simp only [run]
    rw [heardAbout_append]
    exact (h.course_apply operation uri).trans (ih (h.apply hhead) hrest)

end Attended

omit [DecidableEq ι] in
theorem run_listen (store : DocumentStore ι) (watch : EventKind → ι) (kinds : List EventKind) :
    store.run (kinds.map fun kind => .listen kind (watch kind)) =
      ({ store with listeners := store.listeners ++ kinds.map fun kind => (kind, watch kind) }, []) := by
  induction kinds generalizing store with
  | nil => simp [run]
  | cons kind kinds ih =>
    simp only [List.map_cons, run, apply, ih]
    simp

theorem attended_of_count {kinds : List EventKind} (hkinds : ∀ kind, kinds.count kind = 1)
    (watch : EventKind → ι) :
    Attended watch (empty.run (kinds.map fun kind => .listen kind (watch kind))).1 := by
  rw [run_listen]
  constructor
  · intro kind
    have hinj : Function.Injective fun kind => (kind, watch kind) :=
      fun a b hab => congrArg Prod.fst hab
    exact (List.count_map_of_injective kinds _ hinj kind).trans (hkinds kind)
  · intro uri document hget
    cases hget

end DocumentStore

/-- Whatever operations follow the registrations, as long as no name is registered again for its
kind, what is heard about a document follows its lifecycle, and the document is open at the end
exactly when something was heard of it and its close was not the last of it. -/
theorem heardAbout_run_lifecycle (watch : EventKind → ι) {kinds : List EventKind}
    (hkinds : ∀ kind, kinds.count kind = 1) {operations : List (StoreOperation ι)}
    (hsole : ∀ kind, .listen kind (watch kind) ∉ operations) (uri : Uri) :
    let last := DocumentStore.empty.run
      (kinds.map (fun kind => .listen kind (watch kind)) ++ operations)
    let trace := heardAbout watch uri last.2
    FollowsLifecycle trace ∧ ((last.1.get? uri).isSome ↔ trace ≠ [] ∧ ¬ EndsClosed trace) := by
  intro last trace
  have hcourse : Course none trace (last.1.get? uri) := by
    have hrun := (DocumentStore.attended_of_count hkinds watch).course_run hsole uri
    simp only [last, trace, DocumentStore.run_append]
    rw [DocumentStore.run_listen] at hrun ⊢
    exact hrun
  exact ⟨hcourse.followsLifecycle, hcourse.isSome_iff⟩

/-- A change and a close too early, a reopening that lowers the version, and notices after the close. -/
def unruly (uri : Uri) : List (StoreOperation Nat) :=
  [.notice (.didChange uri 7 [⟨"early", none, none⟩]), .notice (.didClose uri),
    .notice (.didOpen ⟨uri, "plaintext", 5, "first"⟩), .listen .opened 1,
    .notice (.didChange uri 4 [⟨"stale", none, none⟩]), .notice (.willSave uri 1),
    .notice (.didOpen ⟨uri, "plaintext", 2, "second"⟩),
    .notice (.didOpen ⟨⟨"file:///elsewhere"⟩, "plaintext", 1, "other"⟩),
    .notice (.didChange uri 3 [⟨"third", none, none⟩]), .notice (.didSave uri),
    .notice (.didClose uri), .notice (.didSave uri), .notice (.didClose uri)]

theorem heardAbout_run_lifecycle_unruly :
    (∀ kind, [EventKind.closed, .saved, .willSave, .changed, .opened].count kind = 1) ∧
      (∀ kind, .listen kind 0 ∉ unruly ⟨"file:///a"⟩) ∧
      let last := DocumentStore.empty.run (([EventKind.closed, .saved, .willSave, .changed, .opened].map
        fun kind => .listen kind 0) ++ unruly ⟨"file:///a"⟩)
      let trace := heardAbout (fun _ => 0) ⟨"file:///a"⟩ last.2
      FollowsLifecycle trace ∧
        ((last.1.get? ⟨"file:///a"⟩).isSome ↔ trace ≠ [] ∧ ¬ EndsClosed trace) ∧
        trace.map (fun e => (e.kind?, e.document.version)) =
          [(some .opened, 5), (some .changed, 5), (some .willSave, 5), (some .opened, 2),
            (some .changed, 2), (some .changed, 3), (some .saved, 3), (some .closed, 3)] := by
  have hkinds : ∀ kind, [EventKind.closed, .saved, .willSave, .changed, .opened].count kind = 1 := by
    intro kind
    cases kind <;> rfl
  have hsole : ∀ kind, .listen kind 0 ∉ unruly ⟨"file:///a"⟩ := by
    intro kind
    simp [unruly]
  obtain ⟨hfollows, hopen⟩ := heardAbout_run_lifecycle (fun _ => 0) hkinds hsole ⟨"file:///a"⟩
  exact ⟨hkinds, hsole, hfollows, hopen, by decide⟩

end LanguageServer
