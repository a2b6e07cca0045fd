import LanguageServer.Proofs.ArrivalMap
import LanguageServer.Proofs.Document.Contents

/-!
# Documents that several hold

The store and those to whom it gave a document hold the same cell. A question that one of them asks
leaves the line index in the cell for all of them. A holder that changes the content of a cell that
others hold too gets a cell of its own, which starts as a copy, line index and all.

No cell ever holds a line index of another text, and the answers are those that everyone would get
without sharing and without memory. Which cells nobody holds any more is not followed.
-/

namespace LanguageServer

universe u v

/-- Documents in cells, and the cell that each holder holds. -/
structure Shelf (ν : Type v) where
  cells : List TextDocument
  held : ArrivalMap (Holder ν) Nat

namespace Shelf

variable {ν : Type v} [DecidableEq ν] (shelf : Shelf ν)

def empty : Shelf ν := ⟨[], ∅⟩

def get? (holder : Holder ν) : Option TextDocument :=
  (shelf.held.get? holder).bind fun cell => shelf.cells[cell]?

def put (holder : Holder ν) (document : TextDocument) : Shelf ν :=
  ⟨shelf.cells ++ [document], shelf.held.insert holder shelf.cells.length⟩

def hold (holder : Holder ν) (cell : Nat) : Shelf ν :=
  { shelf with held := shelf.held.insert holder cell }

def write (cell : Nat) (document : TextDocument) : Shelf ν :=
  { shelf with cells := shelf.cells.set cell document }

def release (holder : Holder ν) : Shelf ν := { shelf with held := shelf.held.erase holder }

def share (source holder : Holder ν) : Shelf ν :=
  match shelf.held.get? source with
  | some cell => shelf.hold holder cell
  | none => shelf

def copy (source holder : Holder ν) : Shelf ν :=
  match shelf.get? source with
  | some document => shelf.put holder document
  | none => shelf

def isShared (holder : Holder ν) (cell : Nat) : Bool :=
  shelf.held.entries.any fun e => e.1 ≠ holder && e.2 = cell

/-- A cell that others hold too is left to them. -/
def update (holder : Holder ν) (text : String) (version : Int) : Shelf ν :=
  match shelf.held.get? holder, shelf.get? holder with
  | some cell, some document =>
    if shelf.isShared holder cell then shelf.put holder (document.update text version)
    else shelf.write cell (document.update text version)
  | _, _ => shelf

/-- The line index that the answer used stays in the cell. -/
def query (holder : Holder ν) (query : TextDocument.Query) : Option TextDocument.Answer × Shelf ν :=
  match shelf.held.get? holder, shelf.get? holder with
  | some cell, some document =>
    (some (document.answer query), shelf.write cell (document.afterQuery query))
  | _, _ => (none, shelf)

def handle : Notice → Shelf ν
  | .didOpen item => shelf.put (.store item.uri) (.ofItem item)
  | .didChange uri version changes =>
    match changes.getLast?, shelf.get? (.store uri) with
    | some last, some document =>
      if version < document.version then shelf else shelf.update (.store uri) last.text version
    | _, _ => shelf
  | .didClose uri => shelf.release (.store uri)
  | .willSave _ _ | .willSaveWaitUntil _ _ | .didSave _ => shelf

def step : DocumentUse ν → Option TextDocument.Answer × Shelf ν
  | .notice notice => (none, shelf.handle notice)
  | .create name item => (none, shelf.put (.other name) (.ofItem item))
  | .share source name => (none, shelf.share source (.other name))
  | .copy source name => (none, shelf.copy source (.other name))
  | .release name => (none, shelf.release (.other name))
  | .update name text version => (none, shelf.update (.other name) text version)
  | .query holder query => shelf.query holder query

def contents : Contents ν := fun holder => (shelf.get? holder).map (·.toDocumentItem)

structure Sound : Prop where
  held_lt : ∀ holder cell, shelf.held.get? holder = some cell → cell < shelf.cells.length
  current : ∀ document ∈ shelf.cells, document.IndexCurrent

variable {shelf} {holder source : Holder ν} {cell : Nat} {document : TextDocument}

theorem get?_of_held (h : shelf.held.get? holder = some cell) :
    shelf.get? holder = shelf.cells[cell]? := by
  rw [get?, h]
  rfl

theorem get?_of_not_held (h : shelf.held.get? holder = none) : shelf.get? holder = none := by
  rw [get?, h]
  rfl

theorem get?_eq_none (h : ∀ cell document, shelf.held.get? holder = some cell →
    shelf.get? holder = some document → False) : shelf.get? holder = none := by
  apply Option.eq_none_iff_forall_ne_some.mpr
  intro document hget
  obtain ⟨cell, hheld, -⟩ := Option.bind_eq_some_iff.mp hget
  exact h cell document hheld hget

theorem contents_of_get? (h : shelf.get? holder = some document) :
    shelf.contents holder = some document.toDocumentItem := by
  rw [contents, h]
  rfl

theorem contents_of_get?_none (h : shelf.get? holder = none) : shelf.contents holder = none := by
  rw [contents, h]
  rfl

theorem contents_congr {later : Shelf ν} {other : Holder ν} (h : later.get? other = shelf.get? other) :
    later.contents other = shelf.contents other := by
  rw [contents, h]
  rfl

theorem get?_put_self (holder : Holder ν) (document : TextDocument) :
    (shelf.put holder document).get? holder = some document := by
  have hheld : (shelf.put holder document).held.get? holder = some shelf.cells.length := by
    rw [put, ArrivalMap.get?_insert, if_pos rfl]
  rw [get?_of_held hheld, put, List.getElem?_concat_length]

theorem held_eq_of_not_isShared (h : ¬ shelf.isShared holder cell = true) {other : Holder ν}
    (hother : shelf.held.get? other = some cell) : other = holder := by
  by_contra hne
  apply h
  refine List.any_eq_true.mpr ⟨(other, cell), ArrivalMap.mem_entries_of_get? hother, ?_⟩
  simp [hne]

namespace Sound

theorem empty : (empty : Shelf ν).Sound :=
  ⟨fun _ _ h => (Option.some_ne_none _ h.symm).elim, fun _ h => (List.not_mem_nil h).elim⟩

theorem get? (h : shelf.Sound) (hget : shelf.get? holder = some document) :
    document.IndexCurrent := by
  obtain ⟨cell, -, hcell⟩ := Option.bind_eq_some_iff.mp hget
  exact h.current document (List.mem_of_getElem? hcell)

theorem put (h : shelf.Sound) (hdocument : document.IndexCurrent) (holder : Holder ν) :
    (shelf.put holder document).Sound := by
  constructor
  · intro other cell hheld
    simp only [Shelf.put, ArrivalMap.get?_insert, List.length_append, List.length_singleton] at *
    split at hheld
    · obtain rfl := Option.some.inj hheld
      omega
    · have := h.held_lt other cell hheld
      omega
  · intro other hmem
    rcases List.mem_append.mp hmem with hold | hnew
    · exact h.current other hold
    · obtain rfl := List.mem_singleton.mp hnew
      exact hdocument

theorem hold (h : shelf.Sound) (hcell : cell < shelf.cells.length) (holder : Holder ν) :
    (shelf.hold holder cell).Sound := by
  refine ⟨?_, h.current⟩
  intro other found hheld
  rw [Shelf.hold, ArrivalMap.get?_insert] at hheld
  split at hheld
  · obtain rfl := Option.some.inj hheld
    exact hcell
  · exact h.held_lt other found hheld

theorem write (h : shelf.Sound) (hdocument : document.IndexCurrent) (cell : Nat) :
    (shelf.write cell document).Sound := by
  constructor
  · intro other found hheld
    rw [Shelf.write, List.length_set]
    exact h.held_lt other found hheld
  · intro other hmem
    rcases List.mem_or_eq_of_mem_set hmem with hold | rfl
    · exact h.current other hold
    · exact hdocument

theorem release (h : shelf.Sound) (holder : Holder ν) : (shelf.release holder).Sound := by
  refine ⟨?_, h.current⟩
  intro other cell hheld
  rw [Shelf.release, ArrivalMap.get?_erase] at hheld
  split at hheld
  · cases hheld
  · exact h.held_lt other cell hheld

theorem share (h : shelf.Sound) (source holder : Holder ν) : (shelf.share source holder).Sound := by
  unfold Shelf.share
  split
  · rename_i cell hheld
    exact h.hold (h.held_lt source cell hheld) holder
  · exact h

theorem copy (h : shelf.Sound) (source holder : Holder ν) : (shelf.copy source holder).Sound := by
  unfold Shelf.copy
  split
  · rename_i document hget
    exact h.put (h.get? hget) holder
  · exact h

theorem update (h : shelf.Sound) (holder : Holder ν) (text : String) (version : Int) :
    (shelf.update holder text version).Sound := by
  unfold Shelf.update
  split
  · split
    · exact h.put (Or.inl rfl) holder
    · exact h.write (Or.inl rfl) _
  · exact h

theorem query (h : shelf.Sound) (holder : Holder ν) (query : TextDocument.Query) :
    (shelf.query holder query).2.Sound := by
  unfold Shelf.query
  split
  · rename_i cell document hheld hget
    exact h.write ((h.get? hget).afterQuery query) cell
  · exact h

theorem handle (h : shelf.Sound) (notice : Notice) : (shelf.handle notice).Sound := by
  cases notice with
  | didOpen item => exact h.put (Or.inl rfl) _
  | didChange uri version changes =>
    unfold Shelf.handle
    dsimp only
    split
    · split
      · exact h
      · exact h.update _ _ _
    · exact h
  | didClose uri => exact h.release _
  | willSave | willSaveWaitUntil | didSave => exact h

theorem step (h : shelf.Sound) (use : DocumentUse ν) : (shelf.step use).2.Sound := by
  cases use with
  | notice notice => exact h.handle notice
  | create name item => exact h.put (Or.inl rfl) _
  | share source name => exact h.share source _
  | copy source name => exact h.copy source _
  | release name => exact h.release _
  | update name text version => exact h.update _ text version
  | query holder query => exact h.query holder query

end Sound

/-! What the operations do to what everyone sees. -/

theorem contents_put (h : shelf.Sound) (holder : Holder ν) (document : TextDocument) :
    (shelf.put holder document).contents =
      shelf.contents.set holder (some document.toDocumentItem) := by
  apply Contents.eq_set
  · exact contents_of_get? (get?_put_self holder document)
  · intro other hne
    apply contents_congr
    have hheld : (shelf.put holder document).held.get? other = shelf.held.get? other := by
      rw [put, ArrivalMap.get?_insert, if_neg hne]
    rw [get?, get?, hheld]
    refine Option.bind_congr fun cell hcell => ?_
    exact List.getElem?_append_left (h.held_lt other cell hcell)

theorem contents_hold (holder : Holder ν) (cell : Nat) :
    (shelf.hold holder cell).contents =
      shelf.contents.set holder (shelf.cells[cell]?.map (·.toDocumentItem)) := by
  apply Contents.eq_set
  · have hheld : (shelf.hold holder cell).held.get? holder = some cell := by
      rw [hold, ArrivalMap.get?_insert, if_pos rfl]
    rw [contents, get?_of_held hheld]
    rfl
  · intro other hne
    apply contents_congr
    rw [get?, get?, hold, ArrivalMap.get?_insert, if_neg hne]

theorem contents_release (holder : Holder ν) :
    (shelf.release holder).contents = shelf.contents.set holder none := by
  apply Contents.eq_set
  · apply contents_of_get?_none
    rw [get?, release, ArrivalMap.get?_erase, if_pos rfl]
    rfl
  · intro other hne
    apply contents_congr
    rw [get?, get?, release, ArrivalMap.get?_erase, if_neg hne]

theorem contents_share (h : shelf.Sound) (source holder : Holder ν) :
    (shelf.share source holder).contents =
      shelf.contents.set holder ((shelf.contents source).or (shelf.contents holder)) := by
  unfold share
  split
  · rename_i cell hheld
    have hget := get?_of_held hheld
    rw [List.getElem?_eq_getElem (h.held_lt source cell hheld)] at hget
    rw [contents_hold, ← get?_of_held hheld, contents_of_get? hget, hget]
    rfl
  · rename_i hheld
    rw [contents_of_get?_none (get?_of_not_held hheld)]
    exact (Contents.set_self rfl).symm

theorem contents_copy (h : shelf.Sound) (source holder : Holder ν) :
    (shelf.copy source holder).contents =
      shelf.contents.set holder ((shelf.contents source).or (shelf.contents holder)) := by
  unfold copy
  split
  · rename_i document hget
    rw [contents_put h, contents_of_get? hget]
    rfl
  · rename_i hget
    rw [contents_of_get?_none hget]
    exact (Contents.set_self rfl).symm

theorem contents_write (h : shelf.Sound) (hheld : shelf.held.get? holder = some cell)
    (hown : ¬ shelf.isShared holder cell = true) (document : TextDocument) :
    (shelf.write cell document).contents =
      shelf.contents.set holder (some document.toDocumentItem) := by
  apply Contents.eq_set
  · have hsame : (shelf.write cell document).held.get? holder = some cell := hheld
    apply contents_of_get?
    rw [get?_of_held hsame]
    exact List.getElem?_set_self (h.held_lt holder cell hheld)
  · intro other hne
    apply contents_congr
    refine Option.bind_congr fun found hfound => ?_
    apply List.getElem?_set_ne
    rintro rfl
    exact hne (held_eq_of_not_isShared hown hfound)

/-- Others may hold the cell too if its content stays. -/
theorem contents_write_of_eq {old : TextDocument} (hold : shelf.cells[cell]? = some old)
    (hitem : document.toDocumentItem = old.toDocumentItem) :
    (shelf.write cell document).contents = shelf.contents := by
  have hlt := (List.getElem?_eq_some_iff.mp hold).1
  have hcells : ∀ found : Nat,
      ((shelf.cells.set cell document)[found]?).map TextDocument.toDocumentItem =
        (shelf.cells[found]?).map TextDocument.toDocumentItem := by
    intro found
    by_cases heq : cell = found
    · subst heq
      rw [hold, List.getElem?_set_self hlt, Option.map_some, Option.map_some, hitem]
    · rw [List.getElem?_set_ne heq]
  funext other
  rw [contents, contents, get?, get?, Option.map_bind, Option.map_bind]
  exact Option.bind_congr fun found _ => hcells found

theorem contents_update (h : shelf.Sound) (holder : Holder ν) (text : String) (version : Int) :
    (shelf.update holder text version).contents =
      shelf.contents.set holder
        ((shelf.contents holder).map fun item => { item with text, version }) := by
  unfold update
  split
  · rename_i cell document hheld hget
    rw [contents_of_get? hget]
    split
    · exact contents_put h holder _
    · -- nobody else sees the cell that is overwritten
      rename_i hown
      exact contents_write h hheld hown _
  · rename_i hno
    have hnone : shelf.contents holder = none := contents_of_get?_none (get?_eq_none hno)
    rw [hnone]
    exact (Contents.set_self hnone).symm

theorem contents_query (holder : Holder ν) (query : TextDocument.Query) :
    (shelf.query holder query).2.contents = shelf.contents := by
  unfold Shelf.query
  split
  · rename_i cell document hheld hget
    rw [get?_of_held hheld] at hget
    exact contents_write_of_eq hget (document.toDocumentItem_afterQuery query)
  · rfl

theorem answer_query (h : shelf.Sound) (holder : Holder ν) (query : TextDocument.Query) :
    (shelf.contents holder).map (fun item => (TextDocument.ofItem item).answer query) =
      (shelf.query holder query).1 := by
  unfold Shelf.query
  split
  · rename_i cell document hheld hget
    rw [contents_of_get? hget]
    exact congrArg some ((h.get? hget).answer_ofItem query)
  · rename_i hno
    rw [contents_of_get?_none (get?_eq_none hno)]
    rfl

theorem contents_handle (h : shelf.Sound) (notice : Notice) : (shelf.handle notice).contents =
    shelf.contents.set (.store notice.uri)
      (notice.content (shelf.contents (.store notice.uri))) := by
  cases notice with
  | didOpen item => exact contents_put h _ _
  | didChange uri version changes =>
    simp only [Shelf.handle, Notice.uri, Notice.content]
    cases hlast : changes.getLast? with
    | none => exact (Contents.set_self rfl).symm
    | some last =>
      cases hget : shelf.get? (.store uri) with
      | none =>
        rw [contents_of_get?_none hget]
        exact (Contents.set_self (contents_of_get?_none hget)).symm
      | some document =>
        rw [contents_of_get? hget]
        dsimp only
        split
        · exact (Contents.set_self (contents_of_get? hget)).symm
        · rw [contents_update h, contents_of_get? hget]
          rfl
  | didClose uri => exact contents_release _
  | willSave | willSaveWaitUntil | didSave => exact (Contents.set_self rfl).symm

theorem contents_step (h : shelf.Sound) (use : DocumentUse ν) : (shelf.step use).2.contents =
    shelf.contents.set use.holder (use.content shelf.contents) := by
  cases use with
  | notice notice => exact contents_handle h notice
  | create name item => exact contents_put h _ _
  | share source name => exact contents_share h source _
  | copy source name => exact contents_copy h source _
  | release name => exact contents_release _
  | update name text version => exact contents_update h _ text version
  | query holder query => exact (contents_query holder query).trans (Contents.set_self rfl).symm

theorem answer_eq (h : shelf.Sound) (use : DocumentUse ν) :
    use.answer? shelf.contents = (shelf.step use).1 := by
  cases use with
  | query holder query => exact answer_query h holder query
  | notice | create | share | copy | release | update => rfl

theorem step_contents (h : shelf.Sound) (use : DocumentUse ν) :
    shelf.contents.step use = ((shelf.step use).1, (shelf.step use).2.contents) := by
  rw [Contents.step, answer_eq h use, contents_step h use]

theorem sound_run (uses : List (DocumentUse ν)) :
    (runUses step (empty : Shelf ν) uses).2.Sound ∧
      (runUses step (empty : Shelf ν) uses).1 = (runUses Contents.step .empty uses).1 ∧
      (runUses step (empty : Shelf ν) uses).2.contents = (runUses Contents.step .empty uses).2 := by
  have hinv : ∀ (state : Shelf ν) use, state.Sound → (state.step use).2.Sound :=
    fun _ use h => h.step use
  exact runUses_of_step hinv (fun _ use h => step_contents h use) uses .empty

end Shelf

/-- Whatever is done with documents, every line index that is remembered in a cell that several may
hold or in a document of one's own is that of its text, and the answers are those of documents that
remember nothing. So questions that were asked before make no difference to an answer. -/
theorem answers_run {ι : Type u} {ν : Type v} [DecidableEq ν] (uses : List (DocumentUse ν)) :
    (∀ document ∈ (runUses Shelf.step .empty uses).2.cells, document.IndexCurrent) ∧
      (runUses Copies.step (.empty : Copies ι ν) uses).2.Current ∧
      (runUses Shelf.step .empty uses).1 = (runUses Contents.step .empty uses).1 ∧
      (runUses Copies.step (.empty : Copies ι ν) uses).1 = (runUses Contents.step .empty uses).1 ∧
      ∀ holder query,
        ((runUses Shelf.step .empty uses).2.query holder query).1 =
            ((runUses Shelf.step .empty (uses.filter (!·.isQuery))).2.query holder query).1 ∧
          ((runUses Copies.step (.empty : Copies ι ν) uses).2.query holder query).1 =
            ((runUses Copies.step (.empty : Copies ι ν)
              (uses.filter (!·.isQuery))).2.query holder query).1 := by
  obtain ⟨hsound, hshelf, hseen⟩ := Shelf.sound_run uses
  obtain ⟨hcurrent, hcopies, hkept⟩ := Copies.current_run (ι := ι) uses
  refine ⟨hsound.current, hcurrent, hshelf, hcopies, ?_⟩
  intro holder query
  have htrace := Contents.runUses_filter .empty uses
  constructor
  · obtain ⟨hsound', -, hseen'⟩ := Shelf.sound_run (uses.filter (!·.isQuery))
    have hsame := hseen.trans (htrace.symm.trans hseen'.symm)
    refine (Shelf.answer_eq hsound (.query holder query)).symm.trans ?_
    rw [hsame]
    exact Shelf.answer_eq hsound' (.query holder query)
  · obtain ⟨hcurrent', -, hkept'⟩ := Copies.current_run (ι := ι) (uses.filter (!·.isQuery))
    have hsame := hkept.trans (htrace.symm.trans hkept'.symm)
    refine (hcurrent.answer_eq (.query holder query)).symm.trans ?_
    rw [hsame]
    exact hcurrent'.answer_eq (.query holder query)

end LanguageServer
