import LanguageServer.Settings.Supply
import LanguageServer.Proofs.Settings.Lookup

/-!
# What one operation does to a cache

An operation leaves the entry of a document alone, drops it, or starts a pull and makes an entry for
it. It leaves a pull that was not polled yet alone, or polls it and puts its question to the source.
-/

namespace LanguageServer

namespace SettingsLookup

def pollWith (answer? : Option PullAnswer) (lookup : SettingsLookup) : SettingsLookup :=
  match answer? with
  | some answer => (lookup.poll.1.receive answer).poll.1
  | none => lookup.poll.1

theorem continues_pollWith (answer? : Option PullAnswer) (lookup : SettingsLookup) :
    lookup.Continues (lookup.pollWith answer?) := by
  cases answer? with
  | none => exact lookup.continues_poll
  | some answer =>
    exact (lookup.continues_poll.trans (continues_receive _ answer)).trans (continues_poll _)

theorem poll_snd_pollWith (answer? : Option PullAnswer) (lookup : SettingsLookup) :
    (lookup.pollWith answer?).poll.2 = none := by
  obtain ⟨origin, stage⟩ := lookup
  cases answer? <;> cases origin <;> cases stage <;> rfl

end SettingsLookup

namespace SettingsSupply

/-- The operations after which a document has no entry, whatever it had before. -/
def Drops (supply : SettingsSupply) (uri : Uri) : Operation → Prop
  | .setPullEnabled _ => True
  | .invalidateAll => True
  | .remove about => about = uri
  | .evictFailed about => about = uri ∧ supply.cache.FailedEntry uri
  | .setGlobal _ | .get _ | .poll _ | .respond _ => False

def loses (supply : SettingsSupply) (uri : Uri) (operation : Operation) : Bool :=
  (supply.cache.entries.get? uri).isSome &&
    ((supply.step operation).1.cache.entries.get? uri).isNone

def starts (supply : SettingsSupply) (uri : Uri) : Operation → Bool
  | .get about => about = uri && supply.cache.pullEnabled && (supply.cache.entries.get? uri).isNone
  | _ => false

def Unpolled (supply : SettingsSupply) (ticket : Nat) (uri : Uri) : Prop :=
  supply.cache.lookups[ticket]? = some ⟨.pull uri, .idle⟩

def unpolled (supply : SettingsSupply) (uri : Uri) : Nat :=
  supply.cache.lookups.countP (·.poll.2 = some uri)

variable {supply : SettingsSupply} {operation : Operation} {uri : Uri} {ticket : Nat}

theorem starts_iff : supply.starts uri operation = true ↔
    operation = .get uri ∧ supply.cache.pullEnabled = true ∧
      supply.cache.entries.get? uri = none := by
  cases operation <;> simp [starts, and_assoc]

theorem poll_eq (supply : SettingsSupply) (ticket : Nat) :
    supply.poll ticket =
      ({ supply with cache := { supply.cache with
          lookups := supply.cache.lookups.modify ticket (·.pollWith supply.answer?) } },
        ((supply.cache.lookups[ticket]?).bind (·.poll.2)).toList.map
          fun uri => ⟨ticket, uri, Settings.sectionName⟩) := by
  rw [poll, SettingsCache.poll_eq]
  obtain ⟨cache, answer?⟩ := supply
  cases answer? with
  | none => rfl
  | some answer =>
    simp only [SettingsCache.poll_eq, SettingsCache.receive, List.modify_modify_eq]
    rfl

theorem extends_step (supply : SettingsSupply) (operation : Operation) :
    supply.cache.Extends (supply.step operation).1.cache := by
  cases operation with
  | get uri => exact SettingsCache.extends_get _ uri
  | evictFailed uri =>
    exact SettingsCache.extends_of_lookups_eq (SettingsCache.lookups_evictFailed _ uri)
  | poll ticket =>
    rw [step, poll_eq]
    exact SettingsCache.extends_modify _ ticket (SettingsLookup.continues_pollWith _)
  | _ => exact SettingsCache.extends_of_lookups_eq rfl

theorem entries_step_of_drops (h : supply.Drops uri operation) :
    (supply.step operation).1.cache.entries.get? uri = none := by
  cases operation with
  | setPullEnabled enabled => rfl
  | invalidateAll => rfl
  | remove about =>
    obtain rfl : about = uri := h
    exact (ArrivalMap.get?_erase _ _ _).trans (if_pos rfl)
  | evictFailed about =>
    obtain ⟨rfl, hfailed⟩ := h
    rw [step, SettingsCache.evictFailed_of_failedEntry hfailed]
    exact (ArrivalMap.get?_erase _ _ _).trans (if_pos rfl)
  | setGlobal | get | poll | respond => exact h.elim

theorem entries_step_of_starts (h : supply.starts uri operation = true) :
    (supply.step operation).1.cache.entries.get? uri = some supply.cache.lookups.length := by
  obtain ⟨rfl, hon, hnone⟩ := starts_iff.mp h
  simp [step, SettingsCache.get, hon, hnone, SettingsCache.handOut, ArrivalMap.get?_insert]

/-- Apart from dropping it and from starting a pull for it, no operation touches the entry of a
document. -/
theorem entries_step_of_kept (hkept : ¬ supply.Drops uri operation)
    (hstarts : ¬ supply.starts uri operation = true) :
    (supply.step operation).1.cache.entries.get? uri = supply.cache.entries.get? uri := by
  cases operation with
  | setPullEnabled enabled => exact absurd trivial hkept
  | invalidateAll => exact absurd trivial hkept
  | remove about =>
    exact (ArrivalMap.get?_erase _ _ _).trans (if_neg (Ne.symm hkept))
  | evictFailed about =>
    apply SettingsCache.get?_evictFailed_of_not_failedEntry
    intro habout hfailed
    exact hkept ⟨habout, hfailed⟩
  | get about =>
    rcases supply.cache.get_cases about with ⟨-, heq⟩ | ⟨held, -, -, heq⟩ | ⟨hon, hnone, heq⟩
    · rw [step, heq]
      rfl
    · rw [step, heq]
    · have hne : uri ≠ about := by
        rintro rfl
        exact hstarts (starts_iff.mpr ⟨rfl, hon, hnone⟩)
      rw [step, heq]
      exact (ArrivalMap.get?_insert _ _ _ _).trans (if_neg hne)
  | poll ticket => rw [step, poll_eq]
  | setGlobal | respond => rfl

theorem not_drops_of_starts (h : supply.starts uri operation = true) :
    ¬ supply.Drops uri operation := by
  obtain ⟨rfl, -, -⟩ := starts_iff.mp h
  exact id

theorem loses_iff : supply.loses uri operation = true ↔
    (supply.cache.entries.get? uri).isSome = true ∧ supply.Drops uri operation := by
  rw [loses, Bool.and_eq_true]
  refine and_congr_right fun hheld => ⟨fun hlost => ?_, fun hdrops => ?_⟩
  · by_contra hkept
    by_cases hstarts : supply.starts uri operation = true
    · rw [entries_step_of_starts hstarts] at hlost
      cases hlost
    · rw [entries_step_of_kept hkept hstarts] at hlost
      rw [Option.isNone_iff_eq_none.mp hlost] at hheld
      cases hheld
  · rw [entries_step_of_drops hdrops]
    rfl

theorem linked_step (h : supply.cache.Linked) (operation : Operation) :
    (supply.step operation).1.cache.Linked := by
  have hsubset := SettingsCache.linked_of_entries_subset h (supply.extends_step operation)
  cases operation with
  | get uri => exact h.get uri
  | setPullEnabled enabled => exact hsubset fun uri ticket hentry => by cases hentry
  | invalidateAll => exact hsubset fun uri ticket hentry => by cases hentry
  | remove about => exact hsubset fun uri ticket => SettingsCache.get?_of_get?_remove
  | evictFailed about => exact hsubset fun uri ticket => SettingsCache.get?_of_get?_evictFailed
  | poll polled =>
    refine hsubset fun uri ticket hentry => ?_
    rwa [step, poll_eq] at hentry
  | setGlobal | respond => exact hsubset fun uri ticket hentry => hentry

/-- Only a poll asks and only a request hands out: a pull if it starts one, else nothing or the value
that is global. -/
theorem lookups_step_cases (supply : SettingsSupply) (operation : Operation) :
    (∃ ticket, operation = .poll ticket) ∨
      ((∀ ticket, operation ≠ .poll ticket) ∧ (supply.step operation).2 = [] ∧
        ((∃ origin, (supply.step operation).1.cache.lookups =
            supply.cache.lookups ++ [⟨origin, .idle⟩] ∧
            ∀ uri, supply.starts uri operation = true ↔ origin = .pull uri) ∨
          ((supply.step operation).1.cache.lookups = supply.cache.lookups ∧
            ∀ uri, supply.starts uri operation = false))) := by
  cases operation with
  | poll ticket => exact Or.inl ⟨ticket, rfl⟩
  | get about =>
    refine Or.inr ⟨by rintro _ ⟨⟩, rfl, ?_⟩
    rcases supply.cache.get_cases about with ⟨hoff, heq⟩ | ⟨held, -, hheld, heq⟩ | ⟨hon, hnone, heq⟩
    · refine Or.inl ⟨.global supply.cache.global, by rw [step, heq]; rfl, fun uri => ?_⟩
      simp [starts, hoff]
    · refine Or.inr ⟨by rw [step, heq], fun uri => ?_⟩
      by_cases hne : about = uri
      · simp [starts, ← hne, hheld]
      · simp [starts, hne]
    · refine Or.inl ⟨.pull about, by rw [step, heq], fun uri => ?_⟩
      rw [starts_iff]
      constructor
      · rintro ⟨hget, -⟩
        cases hget
        rfl
      · rintro ⟨⟩
        exact ⟨rfl, hon, hnone⟩
  | evictFailed about =>
    exact Or.inr ⟨by rintro _ ⟨⟩, rfl, Or.inr ⟨SettingsCache.lookups_evictFailed _ about, fun _ => rfl⟩⟩
  | _ => exact Or.inr ⟨by rintro _ ⟨⟩, rfl, Or.inr ⟨rfl, fun _ => rfl⟩⟩

theorem unpolled_step_iff : (supply.step operation).1.Unpolled ticket uri ↔
    (supply.Unpolled ticket uri ∧ operation ≠ .poll ticket) ∨
      (supply.starts uri operation = true ∧ ticket = supply.cache.lookups.length) := by
  unfold Unpolled
  rcases supply.lookups_step_cases operation with
    ⟨polled, rfl⟩ | ⟨hnot, -, ⟨origin, heq, hstarts⟩ | ⟨heq, hstarts⟩⟩
  · have hnone : supply.starts uri (.poll polled) = false := rfl
    rw [step, poll_eq, List.getElem?_modify]
    simp only [hnone, Bool.false_eq_true, false_and, or_false, ne_eq, Operation.poll.injEq]
    by_cases hticket : polled = ticket
    · -- a lookup that was just polled has nothing left to ask
      refine ⟨fun h => ?_, fun h => absurd hticket h.2⟩
      obtain ⟨lookup, -, hlookup⟩ := Option.map_eq_some_iff.mp h
      have hasked := lookup.poll_snd_pollWith supply.answer?
      rw [if_pos hticket] at hlookup
      rw [hlookup] at hasked
      cases hasked
    · simp [hticket]
  · rw [heq, hstarts, List.getElem?_append]
    split
    · rename_i hlt
      simp [hnot, Nat.ne_of_lt hlt]
    · rename_i hlt
      rw [List.getElem?_singleton, List.getElem?_eq_none (Nat.not_lt.mp hlt)]
      split
      · rename_i hzero
        have hlast : ticket = supply.cache.lookups.length := by omega
        simp [hlast]
      · rename_i hzero
        have hlast : ticket ≠ supply.cache.lookups.length := by omega
        simp [hlast]
  · rw [heq]
    simp [hnot, hstarts]

theorem mem_step_iff {fetch : Fetch} : fetch ∈ (supply.step operation).2 ↔
    operation = .poll fetch.ticket ∧ fetch.sectionName = Settings.sectionName ∧
      supply.Unpolled fetch.ticket fetch.uri := by
  rcases supply.lookups_step_cases operation with ⟨polled, rfl⟩ | ⟨hnot, hsilent, -⟩
  · obtain ⟨ticket, uri, sectionName⟩ := fetch
    rw [step, poll_eq]
    simp only [List.mem_map, Option.mem_toList, Option.bind_eq_some_iff,
      SettingsLookup.poll_snd_eq_some_iff, Operation.poll.injEq, Fetch.mk.injEq, Unpolled]
    grind
  · rw [hsilent]
    simp [hnot]

theorem step_eq_nil_or_singleton (supply : SettingsSupply) (operation : Operation) :
    (supply.step operation).2 = [] ∨ ∃ fetch, (supply.step operation).2 = [fetch] := by
  rcases supply.lookups_step_cases operation with ⟨polled, rfl⟩ | ⟨-, hsilent, -⟩
  · rw [step, poll_eq]
    cases (supply.cache.lookups[polled]?).bind (·.poll.2) with
    | none => exact Or.inl rfl
    | some uri => exact Or.inr ⟨_, rfl⟩
  · exact Or.inl hsilent

theorem countP_modify_pollWith (answer? : Option PullAnswer) (uri : Uri)
    (lookups : List SettingsLookup) (ticket : Nat) :
    ((lookups.modify ticket (·.pollWith answer?)).countP (·.poll.2 = some uri)) +
        ((lookups[ticket]?).bind (·.poll.2)).toList.countP (· = uri) =
      lookups.countP (·.poll.2 = some uri) := by
  induction lookups generalizing ticket with
  | nil => simp
  | cons lookup lookups ih =>
    cases ticket with
    | zero =>
      have hasked := lookup.poll_snd_pollWith answer?
      cases h : lookup.poll.2 <;> simp [h, hasked, List.countP_cons]
    | succ ticket =>
      have hrest := ih ticket
      simp only [List.modify_succ_cons, List.countP_cons, List.getElem?_cons_succ]
      omega

theorem countP_step (supply : SettingsSupply) (uri : Uri) (operation : Operation) :
    (supply.step operation).2.countP (·.uri = uri) + (supply.step operation).1.unpolled uri =
      supply.unpolled uri + (supply.starts uri operation).toNat := by
  unfold unpolled
  rcases supply.lookups_step_cases operation with
    ⟨polled, rfl⟩ | ⟨-, hsilent, ⟨origin, heq, hstarts⟩ | ⟨heq, hstarts⟩⟩
  · have hmodify := countP_modify_pollWith supply.answer? uri supply.cache.lookups polled
    have hnone : supply.starts uri (.poll polled) = false := rfl
    rw [step, poll_eq, hnone, List.countP_map]
    rw [Nat.add_comm] at hmodify
    exact hmodify
  · rw [hsilent, heq, List.countP_append, List.countP_singleton]
    cases origin with
    | global settings =>
      have hnone : supply.starts uri operation = false := by
        rw [Bool.eq_false_iff]
        exact mt (hstarts uri).mp (by rintro ⟨⟩)
      simp [hnone, SettingsLookup.poll]
    | pull about =>
      by_cases hne : about = uri
      · have hsome : supply.starts uri operation = true := (hstarts uri).mpr (by rw [hne])
        simp [hsome, SettingsLookup.poll, hne]
      · have hnone : supply.starts uri operation = false := by
          rw [Bool.eq_false_iff]
          exact mt (hstarts uri).mp (by rintro ⟨⟩; exact hne rfl)
        simp [hnone, SettingsLookup.poll, hne]
  · simp [hsilent, heq, hstarts]

theorem entry_step (supply : SettingsSupply) (uri : Uri) (operation : Operation) :
    ((supply.step operation).1.cache.entries.get? uri).isSome.toNat +
        (supply.loses uri operation).toNat =
      (supply.cache.entries.get? uri).isSome.toNat + (supply.starts uri operation).toNat := by
  by_cases hdrops : supply.Drops uri operation
  · have hnone : supply.starts uri operation = false :=
      Bool.eq_false_iff.mpr fun hstarts => not_drops_of_starts hstarts hdrops
    simp [loses, entries_step_of_drops hdrops, hnone]
  · have hkept : supply.loses uri operation = false :=
      Bool.eq_false_iff.mpr fun hloses => hdrops (loses_iff.mp hloses).2
    by_cases hstarts : supply.starts uri operation = true
    · obtain ⟨-, -, hnone⟩ := starts_iff.mp hstarts
      simp [hkept, hstarts, hnone, entries_step_of_starts hstarts]
    · rw [entries_step_of_kept hdrops hstarts, hkept, Bool.eq_false_iff.mpr hstarts]

end SettingsSupply

end LanguageServer
