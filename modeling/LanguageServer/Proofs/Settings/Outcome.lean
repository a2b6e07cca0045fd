import LanguageServer.Proofs.Settings.Sharing

/-!
# Outcomes of lookups

A poll gives a pull the outcome that it already had, or else what the answer of the source at that
moment means; it gives a global lookup the value that was global when it was handed out. From then
on nothing that is done to the cache or to its source changes the outcome.
-/

namespace LanguageServer

namespace SettingsLookup

/-- A lookup between two operations. An answer does not wait for the next poll, and nobody is asked
for a value that is global. -/
inductive Resting : SettingsLookup → Prop where
  | idle (origin : LookupOrigin) : Resting ⟨origin, .idle⟩
  | asked (uri : Uri) : Resting ⟨.pull uri, .asked⟩
  | pulled (uri : Uri) (outcome : PullOutcome) : Resting ⟨.pull uri, .settled outcome⟩
  | given (settings : Settings) : Resting ⟨.global settings, .settled (.ok settings)⟩

/-- What a lookup of this origin comes to if it is polled while the source answers this. -/
def comesTo (lookup : SettingsLookup) (answer? : Option PullAnswer) : Option PullOutcome :=
  match lookup.origin with
  | .global settings => some (.ok settings)
  | .pull uri => lookup.outcome?.or (answer?.map (·.outcome uri))

variable {lookup : SettingsLookup}

theorem Resting.pollWith (h : lookup.Resting) (answer? : Option PullAnswer) :
    (lookup.pollWith answer?).Resting := by
  cases h with
  | idle origin =>
    cases origin with
    | global settings => cases answer? <;> exact .given settings
    | pull uri =>
      cases answer? with
      | none => exact .asked uri
      | some answer => exact .pulled uri (answer.outcome uri)
  | asked uri =>
    cases answer? with
    | none => exact .asked uri
    | some answer => exact .pulled uri (answer.outcome uri)
  | pulled uri outcome => cases answer? <;> exact .pulled uri outcome
  | given settings => cases answer? <;> exact .given settings

theorem Resting.outcome?_pollWith (h : lookup.Resting) (answer? : Option PullAnswer) :
    (lookup.pollWith answer?).outcome? = lookup.comesTo answer? := by
  cases h with
  | idle origin => cases origin <;> cases answer? <;> rfl
  | asked uri => cases answer? <;> rfl
  | pulled uri outcome => cases answer? <;> rfl
  | given settings => cases answer? <;> rfl

end SettingsLookup

namespace SettingsSupply

def polled (supply : SettingsSupply) (ticket : Nat) : Option PullOutcome :=
  (supply.poll ticket).1.cache.peek ticket

def handle (supply : SettingsSupply) (before : List Operation) (uri : Uri) : Nat :=
  ((supply.run before).1.cache.get uri).1

def AllResting (supply : SettingsSupply) : Prop :=
  ∀ (ticket : Nat) (lookup : SettingsLookup), supply.cache.lookups[ticket]? = some lookup →
    lookup.Resting

variable {supply : SettingsSupply} {operation : Operation} {uri : Uri} {ticket : Nat}

theorem run_split (supply : SettingsSupply) (before : List Operation) (operation : Operation)
    (later : List Operation) : (supply.run (before ++ operation :: later)).1 =
      (((supply.run before).1.step operation).1.run later).1 := by
  rw [run_append]
  rfl

theorem AllResting.step (h : supply.AllResting) (operation : Operation) :
    (supply.step operation).1.AllResting := by
  intro ticket lookup hget
  -- A poll moves one lookup, a request may add an idle one, and nothing else touches lookups.
  rcases supply.lookups_step_cases operation with
    ⟨polled, rfl⟩ | ⟨-, -, ⟨origin, heq, -⟩ | ⟨heq, -⟩⟩
  · rw [SettingsSupply.step, poll_eq, List.getElem?_modify] at hget
    obtain ⟨old, hold, rfl⟩ := Option.map_eq_some_iff.mp hget
    split
    · exact (h ticket old hold).pollWith supply.answer?
    · exact h ticket old hold
  · rw [heq, List.getElem?_append] at hget
    split at hget
    · exact h ticket lookup hget
    · rw [List.getElem?_singleton] at hget
      split at hget
      · obtain rfl := Option.some.inj hget
        exact .idle origin
      · cases hget
  · rw [heq] at hget
    exact h ticket lookup hget

theorem allResting_new (answer? : Option PullAnswer) : (new answer?).AllResting := by
  intro ticket lookup hget
  cases hget

theorem AllResting.run (h : supply.AllResting) (operations : List Operation) :
    (supply.run operations).1.AllResting := by
  induction operations generalizing supply with
  | nil => exact h
  | cons operation operations ih => exact ih (h.step operation)

theorem AllResting.polled_eq (h : supply.AllResting) {lookup : SettingsLookup}
    (hget : supply.cache.lookups[ticket]? = some lookup) :
    supply.polled ticket = lookup.comesTo supply.answer? := by
  rw [polled, poll_eq, SettingsCache.peek, List.getElem?_modify, hget,
    ← (h ticket lookup hget).outcome?_pollWith]
  simp

theorem polled_of_peek {outcome : PullOutcome} (h : supply.cache.peek ticket = some outcome) :
    supply.polled ticket = some outcome :=
  (supply.extends_step (.poll ticket)).peek h

/-- Whoever asks the source has a lookup that pulls the settings of the document in question. -/
theorem exists_lookup_of_mem_run (supply : SettingsSupply) (operations : List Operation) :
    ∀ fetch ∈ (supply.run operations).2, ∃ lookup,
      (supply.run operations).1.cache.lookups[fetch.ticket]? = some lookup ∧
        lookup.origin = .pull fetch.uri := by
  induction operations using List.reverseRecOn with
  | nil =>
    intro fetch hmem
    cases hmem
  | append_singleton operations operation ih =>
    intro fetch hmem
    rw [run_concat] at hmem ⊢
    obtain ⟨lookup, hget, horigin⟩ : ∃ lookup,
        (supply.run operations).1.cache.lookups[fetch.ticket]? = some lookup ∧
          lookup.origin = .pull fetch.uri := by
      rcases List.mem_append.mp hmem with hold | hnew
      · exact ih fetch hold
      · exact ⟨_, (mem_step_iff.mp hnew).2.2, rfl⟩
    obtain ⟨next, hnext, hcontinues⟩ := extends_step _ operation fetch.ticket lookup hget
    exact ⟨next, hnext, hcontinues.origin_eq.trans horigin⟩

section Handles
variable (answer? : Option PullAnswer)

theorem exists_lookup_handle (uri : Uri) (before later : List Operation) : ∃ lookup,
    ((new answer?).run (before ++ .get uri :: later)).1.cache.lookups[
        (new answer?).handle before uri]? = some lookup ∧
      lookup.origin = if ((new answer?).run before).1.cache.pullEnabled then .pull uri
        else .global ((new answer?).run before).1.cache.global := by
  obtain ⟨lookup, hget, horigin⟩ :=
    (linked_run (linked_new answer?) before).exists_lookup_get uri
  rw [run_split]
  obtain ⟨next, hnext, hcontinues⟩ :=
    extends_run (((new answer?).run before).1.step (.get uri)).1 later _ lookup hget
  exact ⟨next, hnext, hcontinues.origin_eq.trans horigin⟩

/-- As long as the entry of a document is not dropped, each request for it gets the same handle. -/
theorem handle_eq_of_kept {uri : Uri} {before between : List Operation}
    (hon : ((new answer?).run before).1.cache.pullEnabled = true)
    (hon' : ((new answer?).run (before ++ .get uri :: between)).1.cache.pullEnabled = true)
    (hkept : ∀ earlier operation later, between = earlier ++ operation :: later →
      ¬ ((new answer?).run (before ++ .get uri :: earlier)).1.Drops uri operation) :
    (new answer?).handle (before ++ .get uri :: between) uri = (new answer?).handle before uri := by
  obtain ⟨lookup, hlookup, -⟩ := (linked_run (linked_new answer?) before).exists_lookup_get uri
  have hentry := SettingsCache.entries_get_self hon uri
  have hticket := (List.getElem?_eq_some_iff.mp hlookup).1
  rw [run_split] at hon'
  rw [handle, run_split]
  apply (fst_get_run_eq_iff hentry hticket between hon').mpr
  intro earlier operation later heq
  have hnot := hkept earlier operation later heq
  rwa [run_split] at hnot

theorem polled_handle (uri : Uri) (before later : List Operation) : ∃ lookup,
    ((new answer?).run (before ++ .get uri :: later)).1.cache.lookups[
        (new answer?).handle before uri]? = some lookup ∧
      (lookup.origin = if ((new answer?).run before).1.cache.pullEnabled then .pull uri
        else .global ((new answer?).run before).1.cache.global) ∧
      ((new answer?).run (before ++ .get uri :: later)).1.polled ((new answer?).handle before uri) =
        lookup.comesTo ((new answer?).run (before ++ .get uri :: later)).1.answer? := by
  obtain ⟨lookup, hget, horigin⟩ := exists_lookup_handle answer? uri before later
  exact ⟨lookup, hget, horigin, ((allResting_new answer?).run _).polled_eq hget⟩

/-- Once a poll of a lookup has given an outcome, every later look at it and every later poll of it
gives the same, whatever happens to the cache and to the source. Requests on one entry share their
lookup. A poll of a pull gives the outcome that it has, or else what the answer of the source at
that moment means for the document. A lookup that was handed out while settings were not pulled
gives the value that was global at that time, and never puts a question to the source. -/
theorem outcome_fixed (answer? : Option PullAnswer) :
    (∀ before ticket outcome, ((new answer?).run before).1.polled ticket = some outcome →
      ∀ later,
        let supply := ((new answer?).run (before ++ .poll ticket :: later)).1
        supply.cache.peek ticket = some outcome ∧ supply.polled ticket = some outcome) ∧
    (∀ uri before between,
      ((new answer?).run before).1.cache.pullEnabled = true →
      ((new answer?).run (before ++ .get uri :: between)).1.cache.pullEnabled = true →
      (∀ earlier operation later, between = earlier ++ operation :: later →
        ¬ ((new answer?).run (before ++ .get uri :: earlier)).1.Drops uri operation) →
      (new answer?).handle (before ++ .get uri :: between) uri = (new answer?).handle before uri) ∧
    (∀ uri before later,
      let ticket := (new answer?).handle before uri
      let supply := ((new answer?).run (before ++ .get uri :: later)).1
      ((new answer?).run before).1.cache.pullEnabled = true →
      supply.polled ticket =
        (supply.cache.peek ticket).or (supply.answer?.map (·.outcome uri))) ∧
    ∀ uri before later,
      let ticket := (new answer?).handle before uri
      let global := ((new answer?).run before).1.cache.global
      let (supply, fetches) := (new answer?).run (before ++ .get uri :: later)
      ((new answer?).run before).1.cache.pullEnabled = false →
      supply.polled ticket = some (.ok global) ∧
      (∀ outcome, supply.cache.peek ticket = some outcome → outcome = .ok global) ∧
      ∀ fetch ∈ fetches, fetch.ticket ≠ ticket := by
  refine ⟨?_, ?_, ?_, ?_⟩
  · intro before ticket outcome hpolled later
    have hpeek : ((new answer?).run (before ++ .poll ticket :: later)).1.cache.peek ticket =
        some outcome := by
      rw [run_split]
      exact (extends_run _ later).peek hpolled
    exact ⟨hpeek, polled_of_peek hpeek⟩
  · intro uri before between hon hon' hkept
    exact handle_eq_of_kept answer? hon hon' hkept
  · intro uri before later ticket supply hon
    obtain ⟨lookup, hget, horigin, hpolled⟩ := polled_handle answer? uri before later
    rw [if_pos hon] at horigin
    change supply.cache.lookups[ticket]? = some lookup at hget
    change supply.polled ticket = lookup.comesTo supply.answer? at hpolled
    rw [hpolled, SettingsLookup.comesTo, horigin, SettingsCache.peek, hget]
    rfl
  · intro uri before later ticket global hoff
    obtain ⟨lookup, hget, horigin, hpolled⟩ := polled_handle answer? uri before later
    rw [if_neg (Bool.eq_false_iff.mp hoff)] at horigin
    rw [SettingsLookup.comesTo, horigin] at hpolled
    refine ⟨hpolled, ?_, ?_⟩
    · intro outcome hpeek
      exact Option.some.inj ((polled_of_peek hpeek).symm.trans hpolled)
    · -- Whoever asks has a pull under its ticket, and under this one stands a global value.
      intro fetch hfetch hticket
      obtain ⟨asking, hasking, hpull⟩ := exists_lookup_of_mem_run _ _ fetch hfetch
      rw [hticket, hget] at hasking
      obtain rfl := Option.some.inj hasking
      rw [horigin] at hpull
      cases hpull

end Handles

def five : Option PullAnswer := some (.value (.object [("maxNumberOfProblems", .int 5)]))

def notes : Uri := ⟨"file:///notes"⟩

/-- The entry goes, the source answers otherwise, and another pull for the document ends. -/
def renewed : List Operation := [.remove notes, .respond (some .empty), .get notes, .poll 1]

/-- A lookup is polled, and the entry of another document goes. -/
def unrelated : List Operation := [.poll 0, .remove ⟨"file:///other"⟩]

theorem outcome_fixed_renewed :
    ((new five).run [.setPullEnabled true, .get notes]).1.polled 0 = some (.ok ⟨5⟩) ∧
    ((new five).run (.setPullEnabled true :: .get notes :: .poll 0 :: renewed)).1.cache.peek 0 =
      some (.ok ⟨5⟩) ∧
    (∀ earlier operation later, unrelated = earlier ++ operation :: later →
      ¬ ((new five).run (.setPullEnabled true :: .get notes :: earlier)).1.Drops notes operation) ∧
    (new five).handle (.setPullEnabled true :: .get notes :: unrelated) notes =
      (new five).handle [.setPullEnabled true] notes ∧
    ((new five).run [.setPullEnabled true, .get notes, .respond (some .empty)]).1.polled
        ((new five).handle [.setPullEnabled true] notes) = some (.error (.emptyAnswer notes)) ∧
    ((new five).run [.setGlobal ⟨42⟩]).1.cache.pullEnabled = false ∧
    ((new five).run (.setGlobal ⟨42⟩ :: .get notes :: renewed)).1.polled
        ((new five).handle [.setGlobal ⟨42⟩] notes) = some (.ok ⟨42⟩) := by
  have hpolled : ((new five).run [.setPullEnabled true, .get notes]).1.polled 0 =
      some (.ok ⟨5⟩) := by decide +kernel
  have hon : ((new five).run [.setPullEnabled true]).1.cache.pullEnabled = true := rfl
  have hon' : ((new five).run (.setPullEnabled true :: .get notes :: unrelated)).1.cache.pullEnabled =
      true := by decide +kernel
  have hoff : ((new five).run [.setGlobal ⟨42⟩]).1.cache.pullEnabled = false := rfl
  have hkept : ∀ earlier operation later, unrelated = earlier ++ operation :: later →
      ¬ ((new five).run (.setPullEnabled true :: .get notes :: earlier)).1.Drops notes
        operation := by
    intro earlier operation later heq
    have hmem : operation ∈ unrelated := by
      rw [heq]
      exact List.mem_append_right earlier List.mem_cons_self
    rcases List.mem_pair.mp hmem with rfl | rfl
    · exact id
    · intro hdrops
      exact absurd (Uri.mk.inj hdrops) (by decide)
  obtain ⟨hfixed, hshared, hpulled, hglobal⟩ := outcome_fixed five
  have hlater := hfixed [.setPullEnabled true, .get notes] 0 (.ok ⟨5⟩) hpolled renewed
  have hsame := hshared notes [.setPullEnabled true] unrelated hon hon' hkept
  have hanswered := hpulled notes [.setPullEnabled true] [.respond (some .empty)] hon
  have hvalue := hglobal notes [.setGlobal ⟨42⟩] renewed hoff
  refine ⟨hpolled, hlater.1, hkept, hsame, hanswered.trans ?_, hoff, hvalue.1⟩
  decide +kernel

end SettingsSupply

end LanguageServer
