import LanguageServer.Settings.Cache
import LanguageServer.Proofs.ArrivalMap

/-!
# Lookups over time

The cache never forgets a lookup: whatever is done to it, a ticket keeps its origin, and an outcome
that is known stays. An entry leads to a pull for its own document.
-/

namespace LanguageServer

namespace SettingsLookup

/-- What a lookup can have become: its origin stays and so does an outcome that is known. -/
structure Continues (lookup later : SettingsLookup) : Prop where
  origin_eq : later.origin = lookup.origin
  outcome_eq : ∀ outcome, lookup.outcome? = some outcome → later.outcome? = some outcome

variable {lookup later : SettingsLookup}

theorem Continues.refl (lookup : SettingsLookup) : lookup.Continues lookup := ⟨rfl, fun _ h => h⟩

theorem Continues.trans {last : SettingsLookup} (h : lookup.Continues later)
    (h' : later.Continues last) : lookup.Continues last :=
  ⟨h'.origin_eq.trans h.origin_eq, fun outcome ho => h'.outcome_eq outcome (h.outcome_eq outcome ho)⟩

theorem outcome?_eq_some_iff {outcome : PullOutcome} :
    lookup.outcome? = some outcome ↔ lookup.stage = .settled outcome := by
  unfold outcome?
  split <;> simp_all

theorem continues_poll (lookup : SettingsLookup) : lookup.Continues lookup.poll.1 := by
  refine ⟨by unfold poll; split <;> rfl, fun outcome h => ?_⟩
  have hstage := outcome?_eq_some_iff.mp h
  cases horigin : lookup.origin <;> simpa [poll, horigin, hstage] using h

theorem continues_receive (lookup : SettingsLookup) (answer : PullAnswer) :
    lookup.Continues (lookup.receive answer) := by
  refine ⟨by unfold receive; split <;> rfl, fun outcome h => ?_⟩
  have hstage := outcome?_eq_some_iff.mp h
  simpa [receive, hstage] using h

theorem poll_snd_eq_some_iff {uri : Uri} :
    lookup.poll.2 = some uri ↔ lookup = ⟨.pull uri, .idle⟩ := by
  obtain ⟨origin, stage⟩ := lookup
  cases origin <;> cases stage <;> simp [poll]

theorem outcome?_receive (lookup : SettingsLookup) (answer : PullAnswer) :
    (lookup.receive answer).outcome? = lookup.outcome? := by
  obtain ⟨origin, stage⟩ := lookup
  cases stage <;> rfl

end SettingsLookup

namespace SettingsCache

def Extends (cache later : SettingsCache) : Prop :=
  ∀ (ticket : Nat) (lookup : SettingsLookup), cache.lookups[ticket]? = some lookup →
    ∃ next, later.lookups[ticket]? = some next ∧ lookup.Continues next

def Linked (cache : SettingsCache) : Prop :=
  ∀ uri ticket, cache.entries.get? uri = some ticket →
    ∃ lookup, cache.lookups[ticket]? = some lookup ∧ lookup.origin = .pull uri

variable {cache later : SettingsCache}

theorem extends_of_lookups_eq (h : later.lookups = cache.lookups) : cache.Extends later := by
  intro ticket lookup hget
  exact ⟨lookup, h ▸ hget, .refl lookup⟩

theorem Extends.refl (cache : SettingsCache) : cache.Extends cache := extends_of_lookups_eq rfl

theorem Extends.trans {last : SettingsCache} (h : cache.Extends later) (h' : later.Extends last) :
    cache.Extends last := by
  intro ticket lookup hget
  obtain ⟨next, hnext, hcontinues⟩ := h ticket lookup hget
  obtain ⟨final, hfinal, hcontinues'⟩ := h' ticket next hnext
  exact ⟨final, hfinal, hcontinues.trans hcontinues'⟩

theorem Extends.peek (h : cache.Extends later) {ticket : Nat} {outcome : PullOutcome}
    (hpeek : cache.peek ticket = some outcome) : later.peek ticket = some outcome := by
  obtain ⟨lookup, hget, houtcome⟩ := Option.bind_eq_some_iff.mp hpeek
  obtain ⟨next, hnext, hcontinues⟩ := h ticket lookup hget
  exact Option.bind_eq_some_iff.mpr ⟨next, hnext, hcontinues.outcome_eq outcome houtcome⟩

theorem Extends.length_le (h : cache.Extends later) :
    cache.lookups.length ≤ later.lookups.length := by
  by_contra hlt
  obtain ⟨next, hnext, -⟩ := h later.lookups.length _
    (List.getElem?_eq_getElem (Nat.not_le.mp hlt))
  exact Nat.lt_irrefl _ (List.getElem?_eq_some_iff.mp hnext).1

/-- What handing out a lookup for a document can be: a new one for the global value, the one of its
entry, or a new one with an entry. -/
theorem get_cases (cache : SettingsCache) (uri : Uri) :
    (cache.pullEnabled = false ∧ cache.get uri = cache.handOut (.global cache.global)) ∨
      (∃ ticket, cache.pullEnabled = true ∧ cache.entries.get? uri = some ticket ∧
        cache.get uri = (ticket, cache)) ∨
      (cache.pullEnabled = true ∧ cache.entries.get? uri = none ∧ cache.get uri =
        (cache.lookups.length,
          { cache with
            lookups := cache.lookups ++ [⟨.pull uri, .idle⟩]
            entries := cache.entries.insert uri cache.lookups.length })) := by
  unfold get
  cases henabled : cache.pullEnabled with
  | false => exact Or.inl ⟨rfl, rfl⟩
  | true =>
    cases hentry : cache.entries.get? uri with
    | some ticket => exact Or.inr (Or.inl ⟨ticket, rfl, rfl, rfl⟩)
    | none => exact Or.inr (Or.inr ⟨rfl, rfl, by simp [handOut, henabled]⟩)

theorem extends_handOut (cache : SettingsCache) (origin : LookupOrigin) :
    cache.Extends (cache.handOut origin).2 := by
  intro ticket lookup hget
  exact ⟨lookup, List.getElem?_append_left (List.getElem?_eq_some_iff.mp hget).1 ▸ hget, .refl lookup⟩

theorem extends_get (cache : SettingsCache) (uri : Uri) : cache.Extends (cache.get uri).2 := by
  rcases cache.get_cases uri with ⟨-, heq⟩ | ⟨ticket, -, -, heq⟩ | ⟨-, -, heq⟩
  · rw [heq]
    exact extends_handOut cache _
  · rw [heq]
    exact .refl cache
  · rw [heq]
    intro ticket lookup hget
    exact extends_handOut cache (.pull uri) ticket lookup hget

theorem pullEnabled_get (cache : SettingsCache) (uri : Uri) :
    (cache.get uri).2.pullEnabled = cache.pullEnabled := by
  rcases cache.get_cases uri with ⟨-, heq⟩ | ⟨ticket, -, -, heq⟩ | ⟨-, -, heq⟩ <;> rw [heq]
  rfl

theorem global_get (cache : SettingsCache) (uri : Uri) :
    (cache.get uri).2.global = cache.global := by
  rcases cache.get_cases uri with ⟨-, heq⟩ | ⟨ticket, -, -, heq⟩ | ⟨-, -, heq⟩ <;> rw [heq]
  rfl

theorem entries_get_cases {uri about : Uri} {ticket : Nat}
    (h : (cache.get about).2.entries.get? uri = some ticket) :
    cache.entries.get? uri = some ticket ∨
      (about = uri ∧ cache.pullEnabled = true ∧ ticket = cache.lookups.length) := by
  rcases cache.get_cases about with ⟨-, heq⟩ | ⟨held, -, -, heq⟩ | ⟨hon, -, heq⟩
  · rw [heq] at h
    exact Or.inl h
  · rw [heq] at h
    exact Or.inl h
  · rw [heq, ArrivalMap.get?_insert] at h
    split at h
    · rename_i huri
      exact Or.inr ⟨huri.symm, hon, (Option.some.inj h).symm⟩
    · exact Or.inl h

theorem fst_get (hon : cache.pullEnabled = true) (uri : Uri) :
    (cache.get uri).1 = (cache.entries.get? uri).getD cache.lookups.length := by
  rcases cache.get_cases uri with ⟨hoff, -⟩ | ⟨ticket, -, hentry, heq⟩ | ⟨-, hnone, heq⟩
  · exact absurd (hon.symm.trans hoff) (by decide)
  · rw [heq, hentry]
    rfl
  · rw [heq, hnone]
    rfl

theorem entries_get_self (hon : cache.pullEnabled = true) (uri : Uri) :
    (cache.get uri).2.entries.get? uri = some (cache.get uri).1 := by
  rcases cache.get_cases uri with ⟨hoff, -⟩ | ⟨ticket, -, hentry, heq⟩ | ⟨-, -, heq⟩
  · exact absurd (hon.symm.trans hoff) (by decide)
  · rw [heq, hentry]
  · rw [heq]
    exact (ArrivalMap.get?_insert _ _ _ _).trans (if_pos rfl)

theorem extends_modify (cache : SettingsCache) (ticket : Nat) {f : SettingsLookup → SettingsLookup}
    (hf : ∀ lookup : SettingsLookup, lookup.Continues (f lookup)) :
    cache.Extends { cache with lookups := cache.lookups.modify ticket f } := by
  intro other lookup hget
  refine ⟨_, (List.getElem?_modify f ticket cache.lookups other).trans (by rw [hget]; rfl), ?_⟩
  split
  · exact hf lookup
  · exact .refl lookup

theorem poll_eq (cache : SettingsCache) (ticket : Nat) :
    cache.poll ticket =
      ({ cache with lookups := cache.lookups.modify ticket (·.poll.1) },
        (cache.lookups[ticket]?).bind (·.poll.2)) := by
  unfold poll
  rw [List.modify_eq_set_getElem?]
  cases cache.lookups[ticket]? <;> rfl

theorem entries_poll (cache : SettingsCache) (ticket : Nat) :
    (cache.poll ticket).1.entries = cache.entries := by rw [poll_eq]

theorem extends_poll (cache : SettingsCache) (ticket : Nat) :
    cache.Extends (cache.poll ticket).1 := by
  rw [poll_eq]
  exact extends_modify cache ticket SettingsLookup.continues_poll

theorem extends_receive (cache : SettingsCache) (ticket : Nat) (answer : PullAnswer) :
    cache.Extends (cache.receive ticket answer) :=
  extends_modify cache ticket fun lookup => lookup.continues_receive answer

/-- A lookup that was just handed out has no outcome, so handing out shows no new one. -/
theorem peek_get (cache : SettingsCache) (uri : Uri) (ticket : Nat) :
    (cache.get uri).2.peek ticket = cache.peek ticket := by
  have happend : ∀ origin : LookupOrigin,
      ((cache.lookups ++ [⟨origin, .idle⟩])[ticket]?).bind SettingsLookup.outcome? =
        (cache.lookups[ticket]?).bind SettingsLookup.outcome? := by
    intro origin
    rw [List.getElem?_append]
    split
    · rfl
    · rename_i hlength
      rw [List.getElem?_eq_none (Nat.not_lt.mp hlength), List.getElem?_singleton]
      split <;> rfl
  rcases cache.get_cases uri with ⟨-, heq⟩ | ⟨held, -, -, heq⟩ | ⟨-, -, heq⟩
  · rw [heq]
    exact happend _
  · rw [heq]
  · rw [heq]
    exact happend _

/-- An answer is seen at the next poll and not before. -/
theorem peek_receive (cache : SettingsCache) (asked : Nat) (answer : PullAnswer) (ticket : Nat) :
    (cache.receive asked answer).peek ticket = cache.peek ticket := by
  simp only [peek, receive, List.getElem?_modify]
  cases cache.lookups[ticket]? with
  | none => rfl
  | some lookup =>
    simp only [Option.bind_some]
    split
    · exact lookup.outcome?_receive answer
    · rfl

theorem peek_eq_some_iff {ticket : Nat} {outcome : PullOutcome} :
    cache.peek ticket = some outcome ↔
      ∃ lookup, cache.lookups[ticket]? = some lookup ∧ lookup.stage = .settled outcome := by
  rw [peek, Option.bind_eq_some_iff]
  simp only [SettingsLookup.outcome?_eq_some_iff]

theorem mem_outcomes_of_peek {ticket : Nat} {outcome : PullOutcome}
    (h : cache.peek ticket = some outcome) :
    some outcome ∈ cache.lookups.map SettingsLookup.outcome? := by
  obtain ⟨lookup, hlookup, houtcome⟩ := Option.bind_eq_some_iff.mp h
  exact houtcome ▸ List.mem_map_of_mem (List.mem_of_getElem? hlookup)

theorem lookups_evictFailed (cache : SettingsCache) (uri : Uri) :
    (cache.evictFailed uri).lookups = cache.lookups := by
  unfold evictFailed
  split <;> rfl

theorem peek_evictFailed (cache : SettingsCache) (uri : Uri) (ticket : Nat) :
    (cache.evictFailed uri).peek ticket = cache.peek ticket := by
  rw [peek, peek, lookups_evictFailed]

/-- The entry of a document leads to a lookup that ended with an error. -/
def FailedEntry (cache : SettingsCache) (uri : Uri) : Prop :=
  ∃ ticket error, cache.entries.get? uri = some ticket ∧ cache.peek ticket = some (.error error)

theorem failedEntry_iff {uri : Uri} :
    cache.FailedEntry uri ↔ ∃ ticket lookup error, cache.entries.get? uri = some ticket ∧
      cache.lookups[ticket]? = some lookup ∧ lookup.stage = .settled (.error error) := by
  simp only [FailedEntry, peek_eq_some_iff]
  constructor
  · rintro ⟨ticket, error, hentry, lookup, hlookup, hstage⟩
    exact ⟨ticket, lookup, error, hentry, hlookup, hstage⟩
  · rintro ⟨ticket, lookup, error, hentry, hlookup, hstage⟩
    exact ⟨ticket, error, hentry, lookup, hlookup, hstage⟩

theorem evictFailed_of_failedEntry {uri : Uri} (h : cache.FailedEntry uri) :
    cache.evictFailed uri = cache.remove uri := by
  obtain ⟨ticket, error, hentry, hpeek⟩ := h
  simp [evictFailed, hentry, hpeek]

theorem evictFailed_of_not_failedEntry {uri : Uri} (h : ¬ cache.FailedEntry uri) :
    cache.evictFailed uri = cache := by
  unfold evictFailed
  split
  · rename_i error hbind
    obtain ⟨ticket, hentry, hpeek⟩ := Option.bind_eq_some_iff.mp hbind
    exact absurd ⟨ticket, error, hentry, hpeek⟩ h
  · rfl

theorem get?_evictFailed_of_not_failedEntry {uri about : Uri}
    (h : about = uri → ¬ cache.FailedEntry uri) :
    (cache.evictFailed about).entries.get? uri = cache.entries.get? uri := by
  by_cases hfailed : cache.FailedEntry about
  · have hne : uri ≠ about := by
      rintro rfl
      exact h rfl hfailed
    rw [evictFailed_of_failedEntry hfailed]
    exact (ArrivalMap.get?_erase _ _ _).trans (if_neg hne)
  · rw [evictFailed_of_not_failedEntry hfailed]

theorem get?_of_get?_remove {uri about : Uri} {ticket : Nat}
    (h : (cache.remove about).entries.get? uri = some ticket) :
    cache.entries.get? uri = some ticket := by
  rw [remove, ArrivalMap.get?_erase] at h
  split at h
  · cases h
  · exact h

theorem get?_of_get?_evictFailed {uri about : Uri} {ticket : Nat}
    (h : (cache.evictFailed about).entries.get? uri = some ticket) :
    cache.entries.get? uri = some ticket := by
  by_cases hfailed : cache.FailedEntry about
  · rw [evictFailed_of_failedEntry hfailed] at h
    exact get?_of_get?_remove h
  · rwa [evictFailed_of_not_failedEntry hfailed] at h

theorem linked_of_entries_subset (h : cache.Linked) (hextends : cache.Extends later)
    (hentries : ∀ uri ticket, later.entries.get? uri = some ticket →
      cache.entries.get? uri = some ticket) : later.Linked := by
  intro uri ticket hentry
  obtain ⟨lookup, hget, horigin⟩ := h uri ticket (hentries uri ticket hentry)
  obtain ⟨next, hnext, hcontinues⟩ := hextends ticket lookup hget
  exact ⟨next, hnext, hcontinues.origin_eq.trans horigin⟩

theorem Linked.get (h : cache.Linked) (uri : Uri) : (cache.get uri).2.Linked := by
  rcases cache.get_cases uri with ⟨-, heq⟩ | ⟨ticket, -, -, heq⟩ | ⟨-, -, heq⟩
  · rw [heq]
    exact linked_of_entries_subset h (extends_handOut cache _) fun _ _ hentry => hentry
  · rw [heq]
    exact h
  · rw [heq]
    intro about ticket hentry
    have hextends := extends_handOut cache (.pull uri)
    rw [ArrivalMap.get?_insert] at hentry
    split at hentry
    · rename_i habout
      obtain rfl := Option.some.inj hentry
      exact ⟨⟨.pull uri, .idle⟩, by simp, by rw [habout]⟩
    · obtain ⟨lookup, hget, horigin⟩ := h about ticket hentry
      obtain ⟨next, hnext, hcontinues⟩ := hextends ticket lookup hget
      exact ⟨next, hnext, hcontinues.origin_eq.trans horigin⟩

/-- A lookup is for the value that is global now, or for the settings of the document that it was
handed out for. -/
theorem Linked.exists_lookup_get (h : cache.Linked) (uri : Uri) :
    ∃ lookup, (cache.get uri).2.lookups[(cache.get uri).1]? = some lookup ∧
      lookup.origin = if cache.pullEnabled then .pull uri else .global cache.global := by
  rcases cache.get_cases uri with ⟨hoff, heq⟩ | ⟨ticket, hon, hentry, heq⟩ | ⟨hon, -, heq⟩
  · exact ⟨⟨.global cache.global, .idle⟩, by simp [heq, handOut], by simp [hoff]⟩
  · obtain ⟨lookup, hget, horigin⟩ := h uri ticket hentry
    exact ⟨lookup, by simpa [heq] using hget, by simp [hon, horigin]⟩
  · exact ⟨⟨.pull uri, .idle⟩, by simp [heq], by simp [hon]⟩

end SettingsCache

end LanguageServer
