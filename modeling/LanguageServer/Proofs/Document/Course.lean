import LanguageServer.Document.Store

/-!
# Courses of events about one document

A course leads a document from one state to another, event by event. From a document that is not
open a course falls into blocks, one for each time that it is open: a block begins with an opening
and the content, and nothing follows its close.

This module does NOT know which courses a store tells.
-/

namespace LanguageServer

def Event.content? : Event → Option TextDocument
  | changed document => some document
  | _ => none

def Event.leavesOpen : Event → Bool
  | closed _ => false
  | _ => true

/-- Events about a document between two of its states. -/
inductive Course : Option TextDocument → List Event → Option TextDocument → Prop where
  | refl (state : Option TextDocument) : Course state [] state
  | opened {state after : Option TextDocument} {document : TextDocument} {events : List Event} :
      Course (some document) events after →
        Course state (.opened document :: .changed document :: events) after
  | changed {before document : TextDocument} {events : List Event} {after : Option TextDocument} :
      before.version ≤ document.version → Course (some document) events after →
        Course (some before) (.changed document :: events) after
  | willSave {document : TextDocument} {events : List Event} {after : Option TextDocument}
      (reason : Int) : Course (some document) events after →
        Course (some document) (.willSave document reason :: events) after
  | saved {document : TextDocument} {events : List Event} {after : Option TextDocument} :
      Course (some document) events after →
        Course (some document) (.saved document :: events) after
  | closed {document : TextDocument} {events : List Event} {after : Option TextDocument} :
      Course none events after → Course (some document) (.closed document :: events) after

/-- What may follow the first two events of a block. -/
inductive BlockRest : List Event → Prop where
  | nil : BlockRest []
  | closed (document : TextDocument) : BlockRest [.closed document]
  | changed (document : TextDocument) {events : List Event} :
      BlockRest events → BlockRest (.changed document :: events)
  | willSave (document : TextDocument) (reason : Int) {events : List Event} :
      BlockRest events → BlockRest (.willSave document reason :: events)
  | saved (document : TextDocument) {events : List Event} :
      BlockRest events → BlockRest (.saved document :: events)
  | reopened (document : TextDocument) {events : List Event} :
      BlockRest events → BlockRest (.opened document :: .changed document :: events)

/-- A document is opened and at once its content is told; the rest happens to it while it is open. -/
def IsBlock (events : List Event) : Prop :=
  ∃ document rest, events = .opened document :: .changed document :: rest ∧ BlockRest rest

def EndsClosed (events : List Event) : Prop := ∃ document, events.getLast? = some (.closed document)

/-- Blocks one after the other; all but the last one end with a close. -/
def AreBlocks (blocks : List (List Event)) : Prop :=
  (∀ block ∈ blocks, IsBlock block) ∧ ∀ block ∈ blocks.dropLast, EndsClosed block

theorem EndsClosed.append {events : List Event} (h : EndsClosed events) (front : List Event) :
    EndsClosed (front ++ events) := by
  obtain ⟨document, hlast⟩ := h
  refine ⟨document, ?_⟩
  rw [List.getLast?_append, hlast, Option.some_or]

theorem areBlocks_nil : AreBlocks [] := by
  constructor <;> intro block h <;> cases h

theorem AreBlocks.cons {block : List Event} {blocks : List (List Event)} (h : AreBlocks blocks)
    (hblock : IsBlock block) (hends : blocks = [] ∨ EndsClosed block) :
    AreBlocks (block :: blocks) := by
  refine ⟨List.forall_mem_cons.mpr ⟨hblock, h.1⟩, ?_⟩
  intro b hb
  cases blocks with
  | nil => cases hb
  | cons next blocks =>
    rw [List.dropLast_cons_of_ne_nil (List.cons_ne_nil _ _)] at hb
    rcases List.mem_cons.mp hb with rfl | hb
    · exact hends.resolve_left (List.cons_ne_nil _ _)
    · exact h.2 b hb

/-- Events that follow a state of a document: an open one first comes to the end of its block. -/
def FallsIntoBlocks : Option TextDocument → List Event → Prop
  | none, events => ∃ blocks, blocks.flatten = events ∧ AreBlocks blocks
  | some _, events => ∃ rest blocks, rest ++ blocks.flatten = events ∧ BlockRest rest ∧
      AreBlocks blocks ∧ (blocks = [] ∨ EndsClosed rest)

theorem FallsIntoBlocks.prepend {document : TextDocument} {events : List Event}
    (h : FallsIntoBlocks (some document) events) (front : List Event)
    (hfront : ∀ rest, BlockRest rest → BlockRest (front ++ rest)) (before : TextDocument) :
    FallsIntoBlocks (some before) (front ++ events) := by
  obtain ⟨rest, blocks, rfl, hrest, hblocks, hends⟩ := h
  refine ⟨front ++ rest, blocks, List.append_assoc _ _ _, hfront rest hrest, hblocks, ?_⟩
  exact hends.imp_right fun h => h.append front

namespace Course
variable {state middle after : Option TextDocument} {document : TextDocument}
variable {events later : List Event}

theorem trans (h : Course state events middle) (h' : Course middle later after) :
    Course state (events ++ later) after := by
  induction h with
  | refl => exact h'
  | opened _ ih => exact .opened (ih h')
  | changed hle _ ih => exact .changed hle (ih h')
  | willSave reason _ ih => exact .willSave reason (ih h')
  | saved _ ih => exact .saved (ih h')
  | closed _ ih => exact .closed (ih h')

theorem fallsIntoBlocks (h : Course state events after) : FallsIntoBlocks state events := by
  induction h with
  | refl state =>
    cases state with
    | none => exact ⟨[], rfl, areBlocks_nil⟩
    | some document => exact ⟨[], [], rfl, .nil, areBlocks_nil, Or.inl rfl⟩
  | @opened state _ document _ _ ih =>
    cases state with
    | some before =>
      exact ih.prepend [.opened document, .changed document]
        (fun _ => .reopened document) before
    | none =>
      obtain ⟨rest, blocks, rfl, hrest, hblocks, hends⟩ := ih
      have hblock : IsBlock (.opened document :: .changed document :: rest) :=
        ⟨document, rest, rfl, hrest⟩
      refine ⟨(.opened document :: .changed document :: rest) :: blocks, rfl,
        hblocks.cons hblock ?_⟩
      exact hends.imp_right fun h => h.append [.opened document, .changed document]
  | @changed before document _ _ _ _ ih =>
    exact ih.prepend [.changed document] (fun _ => .changed document) before
  | @willSave document _ _ reason _ ih =>
    exact ih.prepend [.willSave document reason] (fun _ => .willSave document reason) document
  | @saved document _ _ _ ih =>
    exact ih.prepend [.saved document] (fun _ => .saved document) document
  | @closed document _ _ _ ih =>
    obtain ⟨blocks, rfl, hblocks⟩ := ih
    exact ⟨[.closed document], blocks, rfl, .closed document, hblocks, Or.inr ⟨document, rfl⟩⟩

theorem isSome_after (h : Course state events after) :
    after.isSome = (events.getLast?.map Event.leavesOpen).getD state.isSome := by
  -- what an event leaves is the state in which the rest of the course starts
  have hcons : ∀ (first : Event) (rest : List Event) (fallback : Bool),
      ((first :: rest).getLast?.map Event.leavesOpen).getD fallback =
        (rest.getLast?.map Event.leavesOpen).getD first.leavesOpen := by
    intro first rest fallback
    rw [List.getLast?_cons, Option.map_some, Option.getD_some, Option.getD_map]
  induction h with
  | refl state => rfl
  | opened _ ih => rw [hcons, hcons, ih]; rfl
  | changed _ _ ih | willSave _ _ ih | saved _ ih | closed _ ih => rw [hcons, ih]; rfl

theorem isSome_iff (h : Course none events after) :
    after.isSome ↔ events ≠ [] ∧ ¬ EndsClosed events := by
  rw [h.isSome_after]
  cases hlast : events.getLast? with
  | none =>
    obtain rfl := List.getLast?_eq_none_iff.mp hlast
    simp
  | some e =>
    have hne : events ≠ [] := by
      rintro rfl
      cases hlast
    cases e <;> simp [Event.leavesOpen, EndsClosed, hlast, hne]

theorem content_after (h : Course state events after) (hafter : after = some document) :
    (state.toList ++ events.filterMap Event.content?).getLast? = some document := by
  -- a content that was told later hides the state in which the course started
  have hhidden : ∀ {front : List TextDocument} {contents : List TextDocument},
      contents.getLast? = some document → (front ++ contents).getLast? = some document := by
    intro front contents hlast
    rw [List.getLast?_append, hlast, Option.some_or]
  induction h with
  | refl state =>
    subst hafter
    rfl
  | opened _ ih | changed _ _ ih => exact hhidden (ih hafter)
  | willSave _ _ ih | saved _ ih => exact ih hafter
  | closed _ ih => exact hhidden (ih hafter)

theorem split_cons {before : Option TextDocument} {first e : Event} {rest : List Event}
    (hfirst : ∀ {events middle}, Course state events middle → Course before (first :: events) middle)
    (hrest : Course state rest after)
    (ih : ∀ events, events ++ e :: later = rest →
      ∃ middle, Course state events middle ∧ Course middle (e :: later) after)
    (hall : events ++ e :: later = first :: rest) :
    ∃ middle, Course before events middle ∧ Course middle (e :: later) after := by
  cases events with
  | nil =>
    rw [List.nil_append] at hall
    exact ⟨before, .refl before, hall ▸ hfirst hrest⟩
  | cons head events =>
    obtain ⟨rfl, htail⟩ := List.cons.inj hall
    obtain ⟨middle, hfront, hback⟩ := ih events htail
    exact ⟨middle, hfirst hfront, hback⟩

/-- A course can be cut before an event that tells no content, since an opening and its content are
not torn apart. -/
theorem split {e : Event} (h : Course state (events ++ e :: later) after) (he : e.content? = none) :
    ∃ middle, Course state events middle ∧ Course middle (e :: later) after := by
  generalize hall : events ++ e :: later = all at h
  induction h generalizing events with
  | refl state => exact absurd hall (by simp)
  | @opened state _ document _ hrest ih =>
    cases events with
    | nil =>
      rw [List.nil_append] at hall
      exact ⟨state, .refl state, hall ▸ .opened hrest⟩
    | cons first events =>
      obtain ⟨rfl, htail⟩ := List.cons.inj hall
      cases events with
      | nil =>
        obtain ⟨rfl, -⟩ := List.cons.inj htail
        cases he
      | cons second events =>
        obtain ⟨rfl, hrest'⟩ := List.cons.inj htail
        obtain ⟨middle, hfront, hback⟩ := ih hrest'
        exact ⟨middle, .opened hfront, hback⟩
  | changed hle hrest ih => exact split_cons (.changed hle) hrest (fun _ => ih) hall
  | willSave reason hrest ih => exact split_cons (.willSave reason) hrest (fun _ => ih) hall
  | saved hrest ih => exact split_cons .saved hrest (fun _ => ih) hall
  | closed hrest ih => exact split_cons .closed hrest (fun _ => ih) hall

theorem eq_nil_of_not_opened (h : Course none (events ++ later) after)
    (hnone : ∀ e ∈ events, e.kind? ≠ some .opened) : events = [] := by
  cases events with
  | nil => rfl
  | cons e events =>
    generalize hall : e :: events ++ later = all at h
    cases h with
    | refl => cases hall
    | opened =>
      obtain ⟨rfl, -⟩ := List.cons.inj hall
      exact absurd rfl (hnone _ List.mem_cons_self)

/-- Without an opening on the way the version never falls. -/
theorem pairwise_version (h : Course state (events ++ later) after)
    (hnone : ∀ e ∈ events, e.kind? ≠ some .opened) :
    (state.toList ++ events.filterMap Event.content?).Pairwise (·.version ≤ ·.version) := by
  induction events generalizing state with
  | nil => cases state <;> simp
  | cons e events ih =>
    have hrest : ∀ e ∈ events, e.kind? ≠ some .opened :=
      fun e he => hnone e (List.mem_cons_of_mem _ he)
    generalize hall : e :: events ++ later = all at h
    cases h with
    | refl => cases hall
    | opened =>
      obtain ⟨rfl, -⟩ := List.cons.inj hall
      exact absurd rfl (hnone _ List.mem_cons_self)
    | changed hle htail =>
      obtain ⟨rfl, rfl⟩ := List.cons.inj hall
      have hlater := ih htail hrest
      refine List.pairwise_cons.mpr ⟨?_, hlater⟩
      intro content hcontent
      rcases List.mem_cons.mp hcontent with rfl | hcontent
      · exact hle
      · exact Int.le_trans hle ((List.pairwise_cons.mp hlater).1 content hcontent)
    | willSave reason htail =>
      obtain ⟨rfl, rfl⟩ := List.cons.inj hall
      exact ih htail hrest
    | saved htail =>
      obtain ⟨rfl, rfl⟩ := List.cons.inj hall
      exact ih htail hrest
    | closed htail =>
      obtain ⟨rfl, rfl⟩ := List.cons.inj hall
      rw [htail.eq_nil_of_not_opened hrest]
      exact List.pairwise_singleton _ _

end Course

end LanguageServer
