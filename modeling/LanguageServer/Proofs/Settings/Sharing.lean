import LanguageServer.Proofs.Settings.Supply
import Mathlib.Data.List.Induction

/-!
# Shared pulls

Two requests for a document get the same pull exactly if its entry was not dropped in between, and
a pull asks the source once, when it is polled for the first time. So the source is asked about a
document at most once more than its entry was dropped.
-/

namespace LanguageServer

namespace SettingsSupply

def steps (supply : SettingsSupply) : List Operation → List (SettingsSupply × Operation)
  | [] => []
  | operation :: operations => (supply, operation) :: (supply.step operation).1.steps operations

variable {supply : SettingsSupply} {operation : Operation} {uri : Uri} {ticket : Nat}

theorem run_append (supply : SettingsSupply) (first second : List Operation) :
    supply.run (first ++ second) =
      (((supply.run first).1.run second).1,
        (supply.run first).2 ++ ((supply.run first).1.run second).2) := by
  induction first generalizing supply with
  | nil => rfl
  | cons operation first ih => simp only [List.cons_append, run, ih, List.append_assoc]

theorem run_concat (supply : SettingsSupply) (operations : List Operation) (operation : Operation) :
    supply.run (operations ++ [operation]) =
      (((supply.run operations).1.step operation).1,
        (supply.run operations).2 ++ ((supply.run operations).1.step operation).2) := by
  rw [run_append]
  simp [run]

theorem extends_run (supply : SettingsSupply) (operations : List Operation) :
    supply.cache.Extends (supply.run operations).1.cache := by
  induction operations generalizing supply with
  | nil => exact .refl _
  | cons operation operations ih => exact (supply.extends_step operation).trans (ih _)

theorem linked_run (h : supply.cache.Linked) (operations : List Operation) :
    (supply.run operations).1.cache.Linked := by
  induction operations generalizing supply with
  | nil => exact h
  | cons operation operations ih => exact ih (linked_step h operation)

theorem linked_new (answer? : Option PullAnswer) : (new answer?).cache.Linked := by
  intro uri ticket hentry
  cases hentry

section Entries

theorem entry_run_of_kept (hentry : supply.cache.entries.get? uri = some ticket)
    (operations : List Operation)
    (hkept : ∀ earlier operation later, operations = earlier ++ operation :: later →
      ¬ (supply.run earlier).1.Drops uri operation) :
    (supply.run operations).1.cache.entries.get? uri = some ticket := by
  induction operations using List.reverseRecOn with
  | nil => exact hentry
  | append_singleton operations operation ih =>
    have hbefore := ih fun earlier other later heq =>
      hkept earlier other (later ++ [operation]) (by simp [heq])
    have hstarts : ¬ (supply.run operations).1.starts uri operation = true := by
      intro hstarts
      obtain ⟨-, -, hnone⟩ := starts_iff.mp hstarts
      exact absurd (hnone.symm.trans hbefore) (by simp)
    rw [run_concat]
    exact (entries_step_of_kept (hkept operations operation [] rfl) hstarts).trans hbefore

theorem le_of_entry_run (hnone : supply.cache.entries.get? uri = none) (operations : List Operation)
    (hentry : (supply.run operations).1.cache.entries.get? uri = some ticket) :
    supply.cache.lookups.length ≤ ticket := by
  induction operations using List.reverseRecOn with
  | nil => exact absurd (hnone.symm.trans hentry) (by simp)
  | append_singleton operations operation ih =>
    rw [run_concat] at hentry
    by_cases hdrops : (supply.run operations).1.Drops uri operation
    · exact absurd ((entries_step_of_drops hdrops).symm.trans hentry) (by simp)
    · by_cases hstarts : (supply.run operations).1.starts uri operation = true
      · have hticket := Option.some.inj ((entries_step_of_starts hstarts).symm.trans hentry)
        exact hticket ▸ (supply.extends_run operations).length_le
      · exact ih ((entries_step_of_kept hdrops hstarts).symm.trans hentry)

theorem le_fst_get_run (hnone : supply.cache.entries.get? uri = none) (operations : List Operation)
    (hon : (supply.run operations).1.cache.pullEnabled = true) :
    supply.cache.lookups.length ≤ ((supply.run operations).1.cache.get uri).1 := by
  rw [SettingsCache.fst_get hon]
  cases hentry : (supply.run operations).1.cache.entries.get? uri with
  | none => exact (supply.extends_run operations).length_le
  | some ticket => exact le_of_entry_run hnone operations hentry

theorem fst_get_run_eq_iff (hentry : supply.cache.entries.get? uri = some ticket)
    (hticket : ticket < supply.cache.lookups.length) (between : List Operation)
    (hon : (supply.run between).1.cache.pullEnabled = true) :
    ((supply.run between).1.cache.get uri).1 = ticket ↔
      ∀ earlier operation later, between = earlier ++ operation :: later →
        ¬ (supply.run earlier).1.Drops uri operation := by
  constructor
  · rintro heq earlier operation later rfl hdrops
    rw [run_append] at heq hon
    -- the entry is older than the moment of the drop, and what comes later is not
    have hgrown := ((supply.extends_run earlier).trans (extends_step _ operation)).length_le
    have hnew := le_fst_get_run (entries_step_of_drops hdrops) later hon
    have hle := Nat.le_trans hgrown (Nat.le_trans hnew (Nat.le_of_eq heq))
    exact Nat.not_lt.mpr hle hticket
  · intro hkept
    rw [SettingsCache.fst_get hon, entry_run_of_kept hentry between hkept]
    rfl

end Entries

section Fetches
variable (answer? : Option PullAnswer)

theorem unpolled_run_iff (operations : List Operation) :
    ((new answer?).run operations).1.Unpolled ticket uri ↔
      ∃ before rest, operations = before ++ .get uri :: rest ∧
        ((new answer?).run before).1.cache.pullEnabled = true ∧
        ((new answer?).run before).1.cache.entries.get? uri = none ∧
        (((new answer?).run before).1.cache.get uri).1 = ticket ∧ .poll ticket ∉ rest := by
  induction operations using List.reverseRecOn with
  | nil =>
    constructor
    · rintro ⟨⟩
    · rintro ⟨before, rest, heq, -⟩
      simp at heq
  | append_singleton operations operation ih =>
    rw [run_concat, unpolled_step_iff, ih, starts_iff]
    constructor
    · rintro (⟨⟨before, rest, rfl, hon, hnone, hticket, hrest⟩, hpoll⟩ | ⟨⟨rfl, hon, hnone⟩, hticket⟩)
      · refine ⟨before, rest ++ [operation], by simp, hon, hnone, hticket, fun hmem => ?_⟩
        rcases List.mem_append.mp hmem with hold | hlast
        · exact hrest hold
        · exact hpoll (List.mem_singleton.mp hlast).symm
      · refine ⟨operations, [], rfl, hon, hnone, ?_, List.not_mem_nil⟩
        rw [SettingsCache.fst_get hon, hnone, hticket]
        rfl
    · rintro ⟨before, rest, heq, hon, hnone, hticket, hrest⟩
      rcases List.eq_nil_or_concat rest with rfl | ⟨rest, last, rfl⟩
      · obtain ⟨rfl, hlast⟩ := List.append_inj' heq rfl
        obtain rfl := (List.cons.inj hlast).1
        rw [SettingsCache.fst_get hon, hnone] at hticket
        exact Or.inr ⟨⟨rfl, hon, hnone⟩, hticket.symm⟩
      · rw [List.concat_eq_append, ← List.cons_append, ← List.append_assoc] at heq
        obtain ⟨rfl, hlast⟩ := List.append_inj' heq rfl
        obtain rfl := (List.cons.inj hlast).1
        simp only [List.concat_eq_append, List.mem_append, List.mem_singleton, not_or] at hrest
        exact Or.inl ⟨⟨before, rest, rfl, hon, hnone, hticket, hrest.1⟩, Ne.symm hrest.2⟩

theorem polled_of_mem_run (operations : List Operation) :
    ∀ fetch ∈ ((new answer?).run operations).2,
      fetch.ticket < ((new answer?).run operations).1.cache.lookups.length ∧
        ∀ uri, ¬ ((new answer?).run operations).1.Unpolled fetch.ticket uri := by
  induction operations using List.reverseRecOn with
  | nil => exact fun fetch hmem => absurd hmem List.not_mem_nil
  | append_singleton operations operation ih =>
    intro fetch hmem
    rw [run_concat] at hmem ⊢
    have hlength := (extends_step ((new answer?).run operations).1 operation).length_le
    rcases List.mem_append.mp hmem with hold | hnew
    · obtain ⟨hlt, hpolled⟩ := ih fetch hold
      refine ⟨Nat.lt_of_lt_of_le hlt hlength, fun uri hunpolled => ?_⟩
      rcases unpolled_step_iff.mp hunpolled with ⟨hbefore, -⟩ | ⟨-, hticket⟩
      · exact hpolled uri hbefore
      · exact Nat.ne_of_lt hlt hticket
    · obtain ⟨rfl, -, hunpolled⟩ := mem_step_iff.mp hnew
      have hlt := (List.getElem?_eq_some_iff.mp hunpolled).1
      refine ⟨Nat.lt_of_lt_of_le hlt hlength, fun uri hafter => ?_⟩
      rcases unpolled_step_iff.mp hafter with ⟨-, hpoll⟩ | ⟨hstarts, -⟩
      · exact hpoll rfl
      · cases hstarts

theorem nodup_tickets (operations : List Operation) :
    (((new answer?).run operations).2.map Fetch.ticket).Nodup := by
  induction operations using List.reverseRecOn with
  | nil => exact List.nodup_nil
  | append_singleton operations operation ih =>
    rw [run_concat, List.map_append]
    refine List.nodup_append.mpr ⟨ih, ?_, ?_⟩
    · rcases step_eq_nil_or_singleton ((new answer?).run operations).1 operation with
        hnil | ⟨fetch, hone⟩
      · rw [hnil]
        exact List.nodup_nil
      · rw [hone]
        exact List.nodup_singleton _
    · rintro _ hold _ hnew rfl
      obtain ⟨fetch, hfetch, hticket⟩ := List.mem_map.mp hold
      obtain ⟨other, hother, hsame⟩ := List.mem_map.mp hnew
      obtain ⟨-, -, hunpolled⟩ := mem_step_iff.mp hother
      exact (polled_of_mem_run answer? operations fetch hfetch).2 other.uri
        (hticket.trans hsame.symm ▸ hunpolled)

end Fetches

theorem balance_run (supply : SettingsSupply) (uri : Uri) (operations : List Operation) :
    (supply.run operations).2.countP (·.uri = uri) + (supply.run operations).1.unpolled uri +
        (supply.cache.entries.get? uri).isSome.toNat =
      supply.unpolled uri + ((supply.run operations).1.cache.entries.get? uri).isSome.toNat +
        (supply.steps operations).countP (fun s => s.1.loses uri s.2) := by
  induction operations generalizing supply with
  | nil => simp [run, steps]
  | cons operation operations ih =>
    have hfetches := supply.countP_step uri operation
    have hentry := supply.entry_step uri operation
    have hrest := ih (supply.step operation).1
    have hloses : (if supply.loses uri operation = true then 1 else 0) =
        (supply.loses uri operation).toNat := by
      cases supply.loses uri operation <;> rfl
    simp only [run, steps, List.countP_append, List.countP_cons, hloses]
    omega

/-- Whatever is done to a cache, two requests for a document while settings are pulled get the same
pull exactly if no operation between them dropped the entry of the document. A pull puts a question
to its source at most once, when it is polled for the first time since the request that started it:
for the document of that request and the section of this server. So a document is never asked about
more often than once for each time that its entry was taken away, and once besides. -/
theorem pulls_shared (answer? : Option PullAnswer) :
    (∀ uri before between,
      ((new answer?).run before).1.cache.pullEnabled = true →
      ((new answer?).run (before ++ .get uri :: between)).1.cache.pullEnabled = true →
        ((((new answer?).run (before ++ .get uri :: between)).1.cache.get uri).1 =
            (((new answer?).run before).1.cache.get uri).1 ↔
          ∀ earlier operation later, between = earlier ++ operation :: later →
            ¬ ((new answer?).run (before ++ .get uri :: earlier)).1.Drops uri operation)) ∧
    ∀ operations,
      (((new answer?).run operations).2.map Fetch.ticket).Nodup ∧
      (∀ operation fetch, fetch ∈ (((new answer?).run operations).1.step operation).2 ↔
        operation = .poll fetch.ticket ∧ fetch.sectionName = "languageServerExample" ∧
        ∃ before rest, operations = before ++ .get fetch.uri :: rest ∧
          ((new answer?).run before).1.cache.pullEnabled = true ∧
          ((new answer?).run before).1.cache.entries.get? fetch.uri = none ∧
          (((new answer?).run before).1.cache.get fetch.uri).1 = fetch.ticket ∧
          .poll fetch.ticket ∉ rest) ∧
      ∀ uri, ((new answer?).run operations).2.countP (·.uri = uri) ≤
        ((new answer?).steps operations).countP (fun s => s.1.loses uri s.2) + 1 := by
  refine ⟨fun uri before between hon hon' => ?_, fun operations => ⟨?_, ?_, ?_⟩⟩
  · have hlinked := linked_run (linked_new answer?) before
    obtain ⟨lookup, hlookup, -⟩ := hlinked.exists_lookup_get uri
    have hentry := SettingsCache.entries_get_self hon uri
    have hrun : ∀ operations, ((new answer?).run (before ++ .get uri :: operations)).1 =
        ((((new answer?).run before).1.step (.get uri)).1.run operations).1 := by
      intro operations
      rw [run_append]
      rfl
    simp only [hrun] at hon' ⊢
    exact fst_get_run_eq_iff hentry (List.getElem?_eq_some_iff.mp hlookup).1 between hon'
  · exact nodup_tickets answer? operations
  · intro operation fetch
    rw [mem_step_iff, unpolled_run_iff]
    rfl
  · intro uri
    have hbalance := (new answer?).balance_run uri operations
    have hnone : (new answer?).unpolled uri = 0 := rfl
    have hempty : ((new answer?).cache.entries.get? uri).isSome.toNat = 0 := rfl
    have hone := Bool.toNat_le (((new answer?).run operations).1.cache.entries.get? uri).isSome
    omega

/-- An entry is to be evicted before its pull has failed, and after that another one is. -/
def failedMeanwhile (uri other : Uri) : List Operation :=
  [.evictFailed uri, .poll 0, .evictFailed other]

/-- The same entry is to be evicted again, this time after its pull has failed. -/
def evictedMeanwhile (uri : Uri) : List Operation :=
  [.evictFailed uri, .poll 0, .evictFailed uri]

theorem pulls_shared_failedMeanwhile :
    ((((new (some .empty)).run ([.setPullEnabled true] ++ .get ⟨"file:///a"⟩ ::
          failedMeanwhile ⟨"file:///a"⟩ ⟨"file:///b"⟩)).1.cache.get ⟨"file:///a"⟩).1 =
        (((new (some .empty)).run [.setPullEnabled true]).1.cache.get ⟨"file:///a"⟩).1 ∧
      ∀ earlier operation later,
        failedMeanwhile ⟨"file:///a"⟩ ⟨"file:///b"⟩ = earlier ++ operation :: later →
        ¬ ((new (some .empty)).run
          ([.setPullEnabled true] ++ .get ⟨"file:///a"⟩ :: earlier)).1.Drops ⟨"file:///a"⟩
            operation) ∧
    (((new (some .empty)).run ([.setPullEnabled true] ++ .get ⟨"file:///a"⟩ ::
          evictedMeanwhile ⟨"file:///a"⟩)).1.cache.get ⟨"file:///a"⟩).1 ≠
        (((new (some .empty)).run [.setPullEnabled true]).1.cache.get ⟨"file:///a"⟩).1 ∧
      ∃ earlier operation later,
        evictedMeanwhile ⟨"file:///a"⟩ = earlier ++ operation :: later ∧
        ((new (some .empty)).run
          ([.setPullEnabled true] ++ .get ⟨"file:///a"⟩ :: earlier)).1.Drops ⟨"file:///a"⟩
            operation := by
  have hon : ((new (some .empty)).run [.setPullEnabled true]).1.cache.pullEnabled = true := rfl
  constructor
  · have hon' : ((new (some .empty)).run ([.setPullEnabled true] ++ .get ⟨"file:///a"⟩ ::
        failedMeanwhile ⟨"file:///a"⟩ ⟨"file:///b"⟩)).1.cache.pullEnabled = true := by
      decide +kernel
    have hsame : (((new (some .empty)).run ([.setPullEnabled true] ++ .get ⟨"file:///a"⟩ ::
          failedMeanwhile ⟨"file:///a"⟩ ⟨"file:///b"⟩)).1.cache.get ⟨"file:///a"⟩).1 =
        (((new (some .empty)).run [.setPullEnabled true]).1.cache.get ⟨"file:///a"⟩).1 := by
      decide +kernel
    exact ⟨hsame, ((pulls_shared (some .empty)).1 _ _ _ hon hon').mp hsame⟩
  · have hon' : ((new (some .empty)).run ([.setPullEnabled true] ++ .get ⟨"file:///a"⟩ ::
        evictedMeanwhile ⟨"file:///a"⟩)).1.cache.pullEnabled = true := by
      decide +kernel
    have hother : (((new (some .empty)).run ([.setPullEnabled true] ++ .get ⟨"file:///a"⟩ ::
          evictedMeanwhile ⟨"file:///a"⟩)).1.cache.get ⟨"file:///a"⟩).1 ≠
        (((new (some .empty)).run [.setPullEnabled true]).1.cache.get ⟨"file:///a"⟩).1 := by
      decide +kernel
    refine ⟨hother, ?_⟩
    by_contra hkept
    refine hother (((pulls_shared (some .empty)).1 _ _ _ hon hon').mpr ?_)
    intro earlier operation later hsplit hdrops
    exact hkept ⟨earlier, operation, later, hsplit, hdrops⟩

end SettingsSupply

end LanguageServer
