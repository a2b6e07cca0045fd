import LanguageServer.Proofs.Document.Step

/-!
# What the holders of documents see

The store holds documents under their URIs, others hold documents that they got from someone or made
themselves. `Contents` is what everyone sees, and a question is answered as if the document had just
been opened: there is nothing to remember. `Copies` is the store together with documents of
everyone's own. A line index that one of these remembers is the one of its text, so nobody can tell
`Copies` from `Contents`.

That two may hold the same document is not part of `Copies`.
-/

namespace LanguageServer

universe u v w

/-- The store holds a document under its URI, everyone else has a name. -/
inductive Holder (ν : Type v) where
  | store (uri : Uri)
  | other (name : ν)
deriving DecidableEq

inductive DocumentUse (ν : Type v) where
  | notice (notice : Notice)
  | create (name : ν) (item : DocumentItem)
  /-- The document of the source gets one more holder. -/
  | share (source : Holder ν) (name : ν)
  /-- The name gets a document of its own, a copy. -/
  | copy (source : Holder ν) (name : ν)
  | release (name : ν)
  | update (name : ν) (text : String) (version : Int)
  | query (holder : Holder ν) (query : TextDocument.Query)

section Runs

variable {ν : Type v} {σ : Type u} {τ : Type w}

def runUses (step : σ → DocumentUse ν → Option TextDocument.Answer × σ) (state : σ) :
    List (DocumentUse ν) → List (Option TextDocument.Answer) × σ
  | [] => ([], state)
  | use :: uses =>
    let (answer, next) := step state use
    let (answers, last) := runUses step next uses
    (answer :: answers, last)

variable {step : σ → DocumentUse ν → Option TextDocument.Answer × σ}
  {spec : τ → DocumentUse ν → Option TextDocument.Answer × τ} {view : σ → τ} {inv : σ → Prop}

theorem runUses_of_step (hinv : ∀ state use, inv state → inv (step state use).2)
    (hview : ∀ state use, inv state →
      spec (view state) use = ((step state use).1, view (step state use).2))
    (uses : List (DocumentUse ν)) {state : σ} (h : inv state) :
    inv (runUses step state uses).2 ∧
      (runUses step state uses).1 = (runUses spec (view state) uses).1 ∧
      view (runUses step state uses).2 = (runUses spec (view state) uses).2 := by
  induction uses generalizing state with
  | nil => exact ⟨h, rfl, rfl⟩
  | cons use uses ih =>
    obtain ⟨hlast, hanswers, hcontents⟩ := ih (hinv state use h)
    simp only [runUses, hview state use h]
    exact ⟨hlast, congrArg _ hanswers, hcontents⟩

end Runs

namespace Notice

def content : Notice → Option DocumentItem → Option DocumentItem
  | didOpen item, _ => some item
  | didChange _ version changes, state =>
    match changes.getLast?, state with
    | some last, some item =>
      if version < item.version then some item else some { item with text := last.text, version }
    | _, state => state
  | didClose _, _ => none
  | willSave _ _, state | willSaveWaitUntil _ _, state | didSave _, state => state

theorem map_act (notice : Notice) (state : Option TextDocument) :
    (notice.act state).map (·.toDocumentItem) = notice.content (state.map (·.toDocumentItem)) := by
  cases notice with
  | didOpen | didClose | willSave | willSaveWaitUntil | didSave => rfl
  | didChange uri version changes =>
    cases state with
    | none => cases hlast : changes.getLast? <;> simp [act, content, hlast]
    | some document =>
      cases hlast : changes.getLast? with
      | none => simp [act, content, hlast]
      | some last =>
        simp only [act, content, hlast, Option.map_some]
        split <;> rfl

theorem act_eq_some {notice : Notice} {state : Option TextDocument} {document : TextDocument}
    (h : notice.act state = some document) : state = some document ∨ document.lineIndex? = none := by
  cases notice with
  | didOpen item =>
    obtain rfl := Option.some.inj h
    exact Or.inr rfl
  | didChange uri version changes =>
    simp only [act] at h
    split at h
    · split at h
      · exact Or.inl h
      · obtain rfl := Option.some.inj h
        exact Or.inr rfl
    · exact Or.inl h
  | didClose uri => cases h
  | willSave | willSaveWaitUntil | didSave => exact Or.inl h

end Notice

namespace TextDocument

def IndexCurrent (document : TextDocument) : Prop :=
  document.lineIndex? = none ∨ document.lineIndex? = some (.ofText document.text)

variable {document other : TextDocument}

theorem IndexCurrent.lineIndex_eq (h : document.IndexCurrent) :
    document.lineIndex = .ofText document.text := by
  rcases h with h | h <;> rw [lineIndex, h] <;> rfl

theorem IndexCurrent.afterQuery (h : document.IndexCurrent) (query : Query) :
    (document.afterQuery query).IndexCurrent := by
  have hremember : document.remember.IndexCurrent := Or.inr (congrArg some h.lineIndex_eq)
  cases query with
  | wholeText => exact h
  | textIn | positionAt | offsetAt | lineCount => exact hremember

theorem toDocumentItem_afterQuery (document : TextDocument) (query : Query) :
    (document.afterQuery query).toDocumentItem = document.toDocumentItem := by
  cases query <;> rfl

/-- Nothing but the line index of the text goes into an answer. -/
theorem IndexCurrent.answer_ofItem (h : document.IndexCurrent) (query : Query) :
    (ofItem document.toDocumentItem).answer query = document.answer query := by
  have hindex : (ofItem document.toDocumentItem).lineIndex = document.lineIndex :=
    h.lineIndex_eq.symm
  have hoffset : (ofItem document.toDocumentItem).offsetAt = document.offsetAt := by
    funext position
    rw [offsetAt, offsetAt, hindex]
    rfl
  cases query with
  | wholeText => rfl
  | textIn range =>
    simp only [answer, textIn, hoffset]
    rfl
  | positionAt offset =>
    simp only [answer, positionAt, hindex]
    rfl
  | offsetAt position => rw [answer, answer, hoffset]
  | lineCount => rw [answer, answer, lineCount, lineCount, hindex]

end TextDocument

def Contents (ν : Type v) := Holder ν → Option DocumentItem

namespace DocumentUse

variable {ν : Type v}

def isQuery : DocumentUse ν → Bool
  | query _ _ => true
  | _ => false

/-- The only holder for whom a use may change something. -/
def holder : DocumentUse ν → Holder ν
  | notice n => .store n.uri
  | create name _ | share _ name | copy _ name | release name | update name _ _ => .other name
  | query holder _ => holder

def content (contents : Contents ν) : DocumentUse ν → Option DocumentItem
  | notice n => n.content (contents (.store n.uri))
  | create _ item => some item
  | share source name | copy source name => (contents source).or (contents (.other name))
  | release _ => none
  | update name text version => (contents (.other name)).map fun item => { item with text, version }
  | query holder _ => contents holder

/-- The answer of a document that was opened this moment. -/
def answer? (contents : Contents ν) : DocumentUse ν → Option TextDocument.Answer
  | query holder q => (contents holder).map fun item => (TextDocument.ofItem item).answer q
  | _ => none

end DocumentUse

namespace Contents

variable {ν : Type v} [DecidableEq ν] (contents : Contents ν)

def empty : Contents ν := fun _ => none

def set (holder : Holder ν) (item? : Option DocumentItem) : Contents ν :=
  fun other => if other = holder then item? else contents other

def step (use : DocumentUse ν) : Option TextDocument.Answer × Contents ν :=
  (use.answer? contents, contents.set use.holder (use.content contents))

variable {contents}

theorem eq_set {later : Contents ν} {holder : Holder ν} {item? : Option DocumentItem}
    (hself : later holder = item?) (hother : ∀ other, other ≠ holder → later other = contents other) :
    later = contents.set holder item? := by
  funext other
  rw [set]
  split
  · rename_i heq
    rw [heq, hself]
  · rename_i hne
    exact hother other hne

theorem set_self {holder : Holder ν} {item? : Option DocumentItem} (h : contents holder = item?) :
    contents.set holder item? = contents :=
  (eq_set h fun _ _ => rfl).symm

/-- Questions leave no trace. -/
theorem runUses_filter (contents : Contents ν) (uses : List (DocumentUse ν)) :
    (runUses step contents (uses.filter (!·.isQuery))).2 = (runUses step contents uses).2 := by
  induction uses generalizing contents with
  | nil => rfl
  | cons use uses ih =>
    cases use with
    | query holder query =>
      have hstep : (contents.step (.query holder query)).2 = contents := set_self rfl
      simp only [runUses, hstep]
      exact ih contents
    | notice | create | share | copy | release | update => exact ih _

end Contents

namespace DocumentStore

variable {ι : Type u} (store : DocumentStore ι) (uri : Uri) (query : TextDocument.Query)

theorem answer_query : (store.query uri query).1 = (store.get? uri).map (·.answer query) := by
  unfold DocumentStore.query
  split <;> rename_i hget <;> rw [hget] <;> rfl

theorem get?_query (other : Uri) :
    (store.query uri query).2.get? other =
      if other = uri then (store.get? uri).map (·.afterQuery query) else store.get? other := by
  unfold DocumentStore.query
  split
  · rename_i hget
    rw [hget]
    exact ArrivalMap.get?_insert _ _ _ _
  · rename_i hget
    refine (ite_eq_right_iff.mpr ?_).symm
    rintro rfl
    exact (congrArg _ hget).trans hget.symm

end DocumentStore

/-- A store and others, each with documents of their own. -/
structure Copies (ι : Type u) (ν : Type v) where
  store : DocumentStore ι
  others : ArrivalMap ν TextDocument

namespace Copies

variable {ι : Type u} {ν : Type v} [DecidableEq ν] (copies : Copies ι ν)

def empty : Copies ι ν := ⟨.empty, ∅⟩

def get? : Holder ν → Option TextDocument
  | .store uri => copies.store.get? uri
  | .other name => copies.others.get? name

def keep (name : ν) (document : TextDocument) : Copies ι ν :=
  { copies with others := copies.others.insert name document }

def alter (name : ν) (f : TextDocument → TextDocument) : Copies ι ν :=
  match copies.others.get? name with
  | some document => copies.keep name (f document)
  | none => copies

def copy (source : Holder ν) (name : ν) : Copies ι ν :=
  match copies.get? source with
  | some document => copies.keep name document
  | none => copies

def query (holder : Holder ν) (query : TextDocument.Query) :
    Option TextDocument.Answer × Copies ι ν :=
  match holder with
  | .store uri =>
    let (answer, store) := copies.store.query uri query
    (answer, { copies with store })
  | .other name =>
    ((copies.others.get? name).map (·.answer query), copies.alter name (·.afterQuery query))

/-- Who shares a document gets a copy. -/
def step : DocumentUse ν → Option TextDocument.Answer × Copies ι ν
  | .notice notice => (none, { copies with store := (copies.store.handle notice).store })
  | .create name item => (none, copies.keep name (.ofItem item))
  | .share source name | .copy source name => (none, copies.copy source name)
  | .release name => (none, { copies with others := copies.others.erase name })
  | .update name text version => (none, copies.alter name (·.update text version))
  | .query holder query => copies.query holder query

def contents : Contents ν := fun holder => (copies.get? holder).map (·.toDocumentItem)

def Current : Prop := ∀ holder document, copies.get? holder = some document → document.IndexCurrent

def after : DocumentUse ν → Option TextDocument
  | .notice notice => notice.act (copies.get? (.store notice.uri))
  | .create _ item => some (.ofItem item)
  | .share source name | .copy source name =>
    (copies.get? source).or (copies.get? (.other name))
  | .release _ => none
  | .update name text version => (copies.get? (.other name)).map (·.update text version)
  | .query holder query => (copies.get? holder).map (·.afterQuery query)

theorem get?_keep (name : ν) (document : TextDocument) (holder : Holder ν) :
    (copies.keep name document).get? holder =
      if holder = .other name then some document else copies.get? holder := by
  cases holder with
  | store uri => simp [keep, get?]
  | other other => simp [keep, get?, ArrivalMap.get?_insert]

theorem get?_alter (name : ν) (f : TextDocument → TextDocument) (holder : Holder ν) :
    (copies.alter name f).get? holder =
      if holder = .other name then (copies.get? (.other name)).map f else copies.get? holder := by
  have hsame : copies.others.get? name = copies.get? (.other name) := rfl
  rw [alter, hsame]
  split
  · rename_i document hget
    rw [get?_keep, hget]
    rfl
  · rename_i hget
    refine (ite_eq_right_iff.mpr ?_).symm
    rintro rfl
    rw [hget, Option.map_none]

theorem get?_copy (source : Holder ν) (name : ν) (holder : Holder ν) :
    (copies.copy source name).get? holder =
      if holder = .other name then (copies.get? source).or (copies.get? (.other name))
      else copies.get? holder := by
  unfold copy
  split
  · rename_i document hget
    rw [get?_keep, hget]
    rfl
  · rename_i hget
    rw [hget, Option.none_or]
    refine (ite_eq_right_iff.mpr ?_).symm
    rintro rfl
    rfl

theorem get?_query (about : Holder ν) (query : TextDocument.Query) (holder : Holder ν) :
    (copies.query about query).2.get? holder =
      if holder = about then (copies.get? about).map (·.afterQuery query)
      else copies.get? holder := by
  cases about with
  | store uri =>
    cases holder with
    | store other =>
      simp only [Holder.store.injEq]
      exact copies.store.get?_query uri query other
    | other name => rfl
  | other name => exact copies.get?_alter name _ holder

theorem get?_step (use : DocumentUse ν) (holder : Holder ν) :
    (copies.step use).2.get? holder =
      if holder = use.holder then copies.after use else copies.get? holder := by
  cases use with
  | notice notice =>
    cases holder with
    | store uri =>
      refine (copies.store.get?_handle uri notice).trans ?_
      simp only [DocumentUse.holder, Holder.store.injEq]
      split
      · rename_i heq
        rw [heq]
        rfl
      · rfl
    | other name => rfl
  | create name item => exact copies.get?_keep name _ holder
  | share source name => exact copies.get?_copy source name holder
  | copy source name => exact copies.get?_copy source name holder
  | release name =>
    cases holder with
    | store uri => rfl
    | other other =>
      simp only [DocumentUse.holder, Holder.other.injEq]
      exact ArrivalMap.get?_erase copies.others name other
  | update name text version => exact copies.get?_alter name _ holder
  | query about query => exact copies.get?_query about query holder

theorem map_after (use : DocumentUse ν) :
    (copies.after use).map (·.toDocumentItem) = use.content copies.contents := by
  cases use with
  | notice notice => exact notice.map_act _
  | create name item => rfl
  | share source name => exact Option.map_or
  | copy source name => exact Option.map_or
  | release name => rfl
  | update name text version =>
    simp only [after, DocumentUse.content, contents, Option.map_map]
    rfl
  | query holder query =>
    simp only [after, DocumentUse.content, contents, Option.map_map]
    congr 1
    funext document
    exact document.toDocumentItem_afterQuery query

theorem contents_step (use : DocumentUse ν) : (copies.step use).2.contents =
    copies.contents.set use.holder (use.content copies.contents) := by
  apply Contents.eq_set
  · rw [contents, get?_step, if_pos rfl]
    exact copies.map_after use
  · intro holder hne
    rw [contents, get?_step, if_neg hne]
    rfl

variable {copies} {document : TextDocument}

theorem Current.after (h : copies.Current) {use : DocumentUse ν}
    (hafter : copies.after use = some document) : document.IndexCurrent := by
  cases use with
  | notice notice =>
    rcases Notice.act_eq_some hafter with hget | hnone
    · exact h _ document hget
    · exact Or.inl hnone
  | create name item =>
    obtain rfl := Option.some.inj hafter
    exact Or.inl rfl
  | share source name | copy source name =>
    rcases Option.or_eq_some_iff.mp hafter with hget | ⟨-, hget⟩
    · exact h _ document hget
    · exact h _ document hget
  | release name => cases hafter
  | update name text version =>
    obtain ⟨before, -, rfl⟩ := Option.map_eq_some_iff.mp hafter
    exact Or.inl rfl
  | query holder query =>
    obtain ⟨before, hget, rfl⟩ := Option.map_eq_some_iff.mp hafter
    exact (h holder before hget).afterQuery query

theorem Current.step (h : copies.Current) (use : DocumentUse ν) : (copies.step use).2.Current := by
  intro holder document hget
  rw [get?_step] at hget
  split at hget
  · exact h.after hget
  · exact h holder document hget

theorem Current.answer_eq (h : copies.Current) (use : DocumentUse ν) :
    use.answer? copies.contents = (copies.step use).1 := by
  cases use with
  | query holder query =>
    have hanswer : (copies.query holder query).1 = (copies.get? holder).map (·.answer query) := by
      cases holder with
      | store uri => exact copies.store.answer_query uri query
      | other name => rfl
    refine Eq.trans ?_ hanswer.symm
    rw [DocumentUse.answer?, contents, Option.map_map]
    exact Option.map_congr fun document hget => (h holder document hget).answer_ofItem query
  | notice | create | share | copy | release | update => rfl

theorem Current.step_contents (h : copies.Current) (use : DocumentUse ν) :
    copies.contents.step use = ((copies.step use).1, (copies.step use).2.contents) := by
  rw [Contents.step, h.answer_eq use, copies.contents_step use]

theorem current_empty : (empty : Copies ι ν).Current := by
  rintro (uri | name) document hget <;> cases hget

theorem current_run (uses : List (DocumentUse ν)) :
    (runUses step (empty : Copies ι ν) uses).2.Current ∧
      (runUses step (empty : Copies ι ν) uses).1 = (runUses Contents.step .empty uses).1 ∧
      (runUses step (empty : Copies ι ν) uses).2.contents =
        (runUses Contents.step .empty uses).2 := by
  have hempty : (empty : Copies ι ν).contents = .empty := by
    funext holder
    cases holder <;> rfl
  rw [← hempty]
  exact runUses_of_step (fun _ use h => h.step use) (fun _ use h => h.step_contents use) uses
    current_empty

end Copies

end LanguageServer
