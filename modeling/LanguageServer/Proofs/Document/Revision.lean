import LanguageServer.Proofs.Document.Step
import Mathlib.Data.List.Induction
import Mathlib.Order.Bounds.Basic

/-!
# What an open document holds after any run

The store decides change by change whether to take it. Looking back from the end of a run, all that
counts is the last opening of a document and the revisions offered since: the document holds the
last one of those with the greatest version, in whatever order they came.
-/

namespace LanguageServer

universe u
variable {ι : Type u}

/-- A content that is offered for a document. -/
structure Revision where
  version : Int
  text : String
deriving DecidableEq, Repr

/-- What a change offers as the content of a document; one without entries offers nothing. -/
def StoreOperation.revision? (uri : Uri) : StoreOperation ι → Option Revision
  | notice (.didChange about version changes) =>
    if about = uri then changes.getLast?.map fun last => ⟨version, last.text⟩ else none
  | _ => none

/-- The last one of the revisions that have the greatest version. -/
def IsLatest (revisions : List Revision) (revision : Revision) : Prop :=
  IsGreatest {version | ∃ other ∈ revisions, other.version = version} revision.version ∧
    (revisions.filter (·.version = revision.version)).getLast? = some revision

/-- A document holds the latest revision since its last opening, in the language of that one. -/
def Settled (uri : Uri) (operations : List (StoreOperation ι)) (document : TextDocument) : Prop :=
  ∃ before item after, operations = before ++ .notice (.didOpen item) :: after ∧ item.uri = uri ∧
    (∀ later, .notice (.didOpen later) ∈ after → later.uri ≠ uri) ∧
    IsLatest (⟨item.version, item.text⟩ :: after.filterMap (·.revision? uri))
      ⟨document.version, document.text⟩ ∧
    document.languageId = item.languageId

theorem isLatest_singleton (revision : Revision) : IsLatest [revision] revision := by
  refine ⟨⟨⟨revision, List.mem_singleton_self _, rfl⟩, ?_⟩, by simp⟩
  rintro _ ⟨other, hother, rfl⟩
  rw [List.mem_singleton.mp hother]

section Latest
variable {revisions : List Revision} {held offered : Revision}

theorem IsLatest.le (h : IsLatest revisions held) {other : Revision} (hother : other ∈ revisions) :
    other.version ≤ held.version := h.1.2 ⟨other, hother, rfl⟩

theorem IsLatest.concat_stale (h : IsLatest revisions held)
    (hstale : offered.version < held.version) : IsLatest (revisions ++ [offered]) held := by
  obtain ⟨other, hother, hversion⟩ := h.1.1
  refine ⟨⟨⟨other, List.mem_append_left _ hother, hversion⟩, ?_⟩, ?_⟩
  · rintro _ ⟨other, hother, rfl⟩
    rcases List.mem_append.mp hother with hold | hnew
    · exact h.le hold
    · rw [List.mem_singleton.mp hnew]
      exact Int.le_of_lt hstale
  · rw [List.filter_append]
    simpa [Int.ne_of_lt hstale] using h.2

theorem IsLatest.concat_accepted (h : IsLatest revisions held)
    (haccepted : held.version ≤ offered.version) : IsLatest (revisions ++ [offered]) offered := by
  refine ⟨⟨⟨offered, by simp, rfl⟩, ?_⟩, by simp [List.filter_append]⟩
  rintro _ ⟨other, hother, rfl⟩
  rcases List.mem_append.mp hother with hold | hnew
  · exact Int.le_trans (h.le hold) haccepted
  · rw [List.mem_singleton.mp hnew]

end Latest

namespace Settled

variable {uri : Uri} {operations : List (StoreOperation ι)} {operation : StoreOperation ι}
variable {document : TextDocument}

theorem of_opening (operations : List (StoreOperation ι)) (item : DocumentItem) :
    Settled item.uri (operations ++ [.notice (.didOpen item)]) (.ofItem item) := by
  refine ⟨operations, item, [], rfl, rfl, ?_, isLatest_singleton _, rfl⟩
  intro later hlater
  cases hlater

theorem concat {after : TextDocument} (h : Settled uri operations document)
    (hopens : ∀ later, operation = .notice (.didOpen later) → later.uri ≠ uri)
    (hlanguage : after.languageId = document.languageId)
    (hlatest : ∀ revisions, IsLatest revisions ⟨document.version, document.text⟩ →
      IsLatest (revisions ++ (operation.revision? uri).toList) ⟨after.version, after.text⟩) :
    Settled uri (operations ++ [operation]) after := by
  obtain ⟨before, item, rest, rfl, huri, hrest, hheld, hitem⟩ := h
  refine ⟨before, item, rest ++ [operation], by simp, huri, ?_, ?_, hlanguage.trans hitem⟩
  · intro later hlater
    rcases List.mem_append.mp hlater with hold | hnew
    · exact hrest later hold
    · exact hopens later (List.mem_singleton.mp hnew).symm
  · have hsplit : (rest ++ [operation]).filterMap (·.revision? uri) =
        rest.filterMap (·.revision? uri) ++ (operation.revision? uri).toList := by
      rw [List.filterMap_append]
      cases hrevision : operation.revision? uri <;> simp [hrevision]
    rw [hsplit, ← List.cons_append]
    exact hlatest _ hheld

theorem concat_idle (h : Settled uri operations document)
    (hopens : ∀ later, operation = .notice (.didOpen later) → later.uri ≠ uri)
    (hnone : operation.revision? uri = none) : Settled uri (operations ++ [operation]) document := by
  apply h.concat hopens rfl
  intro revisions hlatest
  rwa [hnone, Option.toList_none, List.append_nil]

theorem concat_elsewhere (h : Settled uri operations document) {notice : Notice}
    (hne : uri ≠ notice.uri) : Settled uri (operations ++ [.notice notice]) document := by
  apply h.concat_idle
  · rintro later heq rfl
    cases heq
    exact hne rfl
  · cases notice with
    | didChange about version changes => exact if_neg (Ne.symm hne)
    | didOpen | didClose | willSave | willSaveWaitUntil | didSave => rfl

/-- The decision of the store about a change keeps the latest revision. -/
theorem concat_change (h : Settled uri operations document) {version : Int}
    {changes : List ContentChange} {after : TextDocument}
    (hafter : (Notice.didChange uri version changes).act (some document) = some after) :
    Settled uri (operations ++ [.notice (.didChange uri version changes)]) after := by
  have hopens : ∀ later, StoreOperation.notice (ι := ι) (.didChange uri version changes) =
      .notice (.didOpen later) → later.uri ≠ uri := by
    intro later heq
    cases heq
  cases hlast : changes.getLast? with
  | none =>
    obtain rfl : document = after := by simpa [Notice.act, hlast] using hafter
    exact h.concat_idle hopens (by simp [StoreOperation.revision?, hlast])
  | some last =>
    have hoffered : (StoreOperation.notice (ι := ι) (.didChange uri version changes)).revision? uri =
        some ⟨version, last.text⟩ := by
      simp [StoreOperation.revision?, hlast]
    simp only [Notice.act, hlast] at hafter
    split at hafter
    · rename_i hstale
      obtain rfl := Option.some.inj hafter
      apply h.concat hopens rfl
      intro revisions hlatest
      rw [hoffered]
      exact hlatest.concat_stale hstale
    · rename_i haccepted
      obtain rfl := Option.some.inj hafter
      have hlanguage : (document.update last.text version).languageId = document.languageId := rfl
      apply h.concat hopens hlanguage
      intro revisions hlatest
      rw [hoffered]
      exact hlatest.concat_accepted (Int.not_lt.mp haccepted)

theorem concat_notice {store : DocumentStore ι} {notice : Notice}
    (ih : ∀ document, store.get? uri = some document → Settled uri operations document)
    (h : (store.handle notice).store.get? uri = some document) :
    Settled uri (operations ++ [.notice notice]) document := by
  rw [DocumentStore.get?_handle] at h
  split at h
  · rename_i heq
    subst heq
    cases notice with
    | didOpen item =>
      obtain rfl := Option.some.inj h
      exact of_opening operations item
    | didChange about version changes =>
      cases hget : store.get? about with
      | none =>
        rw [Notice.uri, hget] at h
        cases hlast : changes.getLast? <;> simp [Notice.act, hlast] at h
      | some held =>
        rw [Notice.uri, hget] at h
        exact (ih held hget).concat_change h
    | didClose about => cases h
    | willSave | willSaveWaitUntil | didSave =>
      exact (ih document h).concat_idle (fun _ heq => by cases heq) rfl
  · rename_i hne
    exact (ih document h).concat_elsewhere hne

end Settled

/-- Whatever operations were run on a fresh store, in whatever order, each document that is open at
the end holds the latest of the revisions offered since its last opening. -/
theorem settled_of_get?_run {operations : List (StoreOperation ι)} {uri : Uri}
    {document : TextDocument}
    (hopen : (DocumentStore.empty.run operations).1.get? uri = some document) :
    Settled uri operations document := by
  induction operations using List.reverseRecOn generalizing document with
  | nil => cases hopen
  | append_singleton operations operation ih =>
    rw [DocumentStore.run_concat] at hopen
    cases operation with
    | listen kind listener => exact (ih hopen).concat_idle (fun _ heq => by cases heq) rfl
    | handleSave handler => exact (ih hopen).concat_idle (fun _ heq => by cases heq) rfl
    | notice notice => exact Settled.concat_notice (fun _ => ih) hopen

/-- A run with a reopening that lowers the version, changes out of order and one without entries. -/
def outOfOrder (uri : Uri) : List (StoreOperation Unit) :=
  [.notice (.didOpen ⟨uri, "plaintext", 9, "first"⟩),
    .notice (.didOpen ⟨uri, "markdown", 1, "second"⟩),
    .notice (.didChange uri 4 [⟨"dropped", none, none⟩, ⟨"four", none, none⟩]),
    .notice (.didChange uri 3 [⟨"stale", none, none⟩]),
    .notice (.didChange uri 4 [⟨"four again", none, none⟩]),
    .notice (.didChange uri 5 []),
    .notice (.didClose ⟨"file:///elsewhere"⟩)]

theorem settled_outOfOrder :
    (DocumentStore.empty.run (outOfOrder ⟨"file:///a"⟩)).1.get? ⟨"file:///a"⟩ =
        some ⟨⟨⟨"file:///a"⟩, "markdown", 4, "four again"⟩, none⟩ ∧
      Settled ⟨"file:///a"⟩ (outOfOrder ⟨"file:///a"⟩)
        ⟨⟨⟨"file:///a"⟩, "markdown", 4, "four again"⟩, none⟩ := by
  have hopen : (DocumentStore.empty.run (outOfOrder ⟨"file:///a"⟩)).1.get? ⟨"file:///a"⟩ =
      some ⟨⟨⟨"file:///a"⟩, "markdown", 4, "four again"⟩, none⟩ := by decide
  exact ⟨hopen, settled_of_get?_run hopen⟩

end LanguageServer
