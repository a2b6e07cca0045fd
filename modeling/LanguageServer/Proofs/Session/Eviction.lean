import LanguageServer.Proofs.Session.Mode

/-!
# Failed pulls

Several validations can wait for one pull, and its entry can be dropped and made anew before they
learn that it failed. An entry that leads to a failed pull is there only as long as one of them has
not ended: it drops the entry when it ends, unless the entry leads to another pull by then.
-/

namespace LanguageServer

namespace Session

structure EvictsFailed (session : Session) : Prop where
  /-- A validation that waits for the pull of a failed entry has not ended. -/
  awaited : ∀ uri ticket error, session.settings.entries.get? uri = some ticket →
    session.settings.peek ticket = some (.error error) →
      ∃ id document, session.validations.get? id = some ⟨document, some ticket⟩ ∧
        document.uri = uri
  clear : session.validations = ∅ → ∀ uri, ¬ session.settings.FailedEntry uri
  /-- The first validation of a document since none of them was under way finds an entry that has
  not failed, or the editor is asked anew by the time of its second step. -/
  renewed : ∀ id document, session.validations.get? id = some ⟨document, none⟩ →
    (∀ other held ticket, session.validations.get? other = some ⟨held, some ticket⟩ →
      held.uri ≠ document.uri) →
    (∃ ticket, session.settings.entries.get? document.uri = some ticket ∧
      ∀ error, session.settings.peek ticket ≠ some (.error error)) ∨
    ∀ between, .pullSettings session.settings.lookups.length document.uri ∈
      (session.run (.advance id :: between ++ [.advance id])).2
  /-- A validation that ends without settings leaves every entry that has not failed. -/
  spared : ∀ id document ticket error,
    session.validations.get? id = some ⟨document, some ticket⟩ →
    session.settings.peek ticket = some (.error error) →
      ∀ uri held, session.settings.entries.get? uri = some held →
        (∀ failure, session.settings.peek held ≠ some (.error failure)) →
          (session.step (.advance id)).1.settings.entries.get? uri = some held

variable {session : Session} {actions : List Action} {id ticket : Nat} {document : TextDocument}
variable {uri : Uri}

theorem mem_run_of_split {before rest : List Action} {action : Action} {message : ServerMessage}
    (hactions : actions = before ++ action :: rest)
    (hsent : message ∈ ((session.run before).1.step action).2) :
    message ∈ (session.run actions).2 := by
  subst hactions
  rw [run_append]
  exact List.mem_append_right _ (List.mem_append_left _ hsent)

theorem Asked.mem_run (h : session.Asked actions ticket uri) :
    .pullSettings ticket uri ∈ (session.run actions).2 := by
  obtain ⟨before, asking, rest, hactions, hsent, -⟩ := h
  exact mem_run_of_split hactions hsent

theorem Answered.mem_run {answer : PullAnswer} (h : session.Answered actions ticket uri answer) :
    .pullSettings ticket uri ∈ (session.run actions).2 := by
  obtain ⟨asked, rest, rfl, hasked⟩ := h
  rw [run_append]
  exact List.mem_append_left _ hasked.mem_run

theorem step_take (hget : session.validations.get? id = some ⟨document, none⟩) :
    (session.step (.advance id)).1 = session.takeLookup id ⟨document, none⟩ := by
  simp [step, advance, hget]

theorem step_finish {error : PullError}
    (hget : session.validations.get? id = some ⟨document, some ticket⟩)
    (hpeek : session.settings.peek ticket = some (.error error)) :
    (session.step (.advance id)).1.settings = session.settings.evictFailed document.uri := by
  simp [step, advance, hget, hpeek, finish]

theorem asks_of_idle (hget : session.validations.get? id = some ⟨document, some ticket⟩)
    (hidle : session.settings.lookups[ticket]? = some ⟨.pull uri, .idle⟩) :
    .pullSettings ticket uri ∈ (session.step (.advance id)).2 := by
  have hpeek : session.settings.peek ticket = none := by
    rw [SettingsCache.peek, hidle]
    rfl
  simp [step, advance, hget, hpeek, pollLookup, SettingsCache.poll_eq, hidle, SettingsLookup.poll]

namespace Coherent

variable (h : session.Coherent)
include h

theorem held_run (hget : session.validations.get? id = some ⟨document, some ticket⟩)
    (actions : List Action) :
    (session.run actions).1.validations.get? id = some ⟨document, some ticket⟩ ∨
      ∃ outcome, (session.run actions).1.settings.peek ticket = some outcome := by
  induction actions using List.reverseRecOn with
  | nil => exact Or.inl hget
  | append_singleton actions action ih =>
    have hcoherent := h.run actions
    have heffect := hcoherent.effect_step action
    rw [run_concat]
    rcases ih with hheld | ⟨outcome, hknown⟩
    · rcases heffect.validation_kept hcoherent hheld with hkept | ⟨outcome, -, hknown, -⟩
      · exact Or.inl hkept
      · exact Or.inr ⟨outcome, (heffect.extends hcoherent).peek hknown⟩
    · exact Or.inr ⟨outcome, (heffect.extends hcoherent).peek hknown⟩

theorem idle_or_asked_run {stage : LookupStage}
    (hnew : session.settings.lookups.length ≤ ticket)
    (hlookup : (session.run actions).1.settings.lookups[ticket]? = some ⟨.pull uri, stage⟩) :
    stage = .idle ∨ .pullSettings ticket uri ∈ (session.run actions).2 := by
  have hrecorded := h.recorded actions hnew hlookup
  cases hrecorded with
  | idle => exact Or.inl rfl
  | asked hasked => exact Or.inr hasked.mem_run
  | answered hanswered => exact Or.inr hanswered.mem_run
  | settled hanswered => exact Or.inr hanswered.mem_run

theorem take_of_no_entry (hon : session.settings.pullEnabled = true)
    (hget : session.validations.get? id = some ⟨document, none⟩)
    (hnone : session.settings.entries.get? document.uri = none) :
    (session.step (.advance id)).1.validations.get? id =
        some ⟨document, some session.settings.lookups.length⟩ ∧
      ∃ lookup, (session.step (.advance id)).1.settings.lookups[session.settings.lookups.length]? =
        some lookup ∧ lookup.origin = .pull document.uri := by
  have hticket : (session.settings.get document.uri).1 = session.settings.lookups.length := by
    rw [SettingsCache.fst_get hon, hnone]
    rfl
  obtain ⟨lookup, hlookup, horigin⟩ := h.linked.exists_lookup_get document.uri
  rw [if_pos hon] at horigin
  rw [step_take hget, ← hticket]
  exact ⟨(ArrivalMap.get?_insert _ _ _ _).trans (if_pos rfl), lookup, hlookup, horigin⟩

/-- A validation that finds no entry starts a pull, and whatever comes between its first two steps,
the editor has been asked after them. -/
theorem asked_run (hon : session.settings.pullEnabled = true)
    (hget : session.validations.get? id = some ⟨document, none⟩)
    (hnone : session.settings.entries.get? document.uri = none) (between : List Action) :
    .pullSettings session.settings.lookups.length document.uri ∈
      (session.run (.advance id :: between ++ [.advance id])).2 := by
  have htaken := h.step (.advance id)
  obtain ⟨hheld, first, hfirst, horigin⟩ := h.take_of_no_entry hon hget hnone
  obtain ⟨⟨origin, stage⟩, hlookup, hcontinues⟩ := htaken.extends_run between _ first hfirst
  obtain rfl : origin = .pull document.uri := hcontinues.origin_eq.trans horigin
  have hlater : (session.run (.advance id :: between)).1.settings.lookups[
      session.settings.lookups.length]? = some ⟨.pull document.uri, stage⟩ := hlookup
  rw [run_concat]
  rcases h.idle_or_asked_run (Nat.le_refl _) hlater with rfl | hasked
  · -- nobody has polled the lookup, so the validation has not ended and polls it now
    rcases htaken.held_run hheld between with hstill | ⟨outcome, hknown⟩
    · exact List.mem_append_right _ (asks_of_idle hstill hlookup)
    · rw [SettingsCache.peek, hlookup] at hknown
      cases hknown
  · exact List.mem_append_left _ hasked

end Coherent

section Opened
variable {rule : Rule} {flags : ClientFlags} (hon : flags.configuration = true)
include hon

theorem uri_of_ticket
    (hentry : ((new rule).run (.handle (.hello flags) :: actions)).1.settings.entries.get? uri =
      some ticket)
    (hget : ((new rule).run (.handle (.hello flags) :: actions)).1.validations.get? id =
      some ⟨document, some ticket⟩) : document.uri = uri := by
  have h := (coherent_new rule).run (.handle (.hello flags) :: actions)
  obtain ⟨lookup, hlookup, horigin⟩ := h.linked uri ticket hentry
  obtain ⟨found, settings, hfound, hpull⟩ := origin_of_ticket (List.append_nil _).symm hget
  obtain rfl := Option.some.inj (hlookup.symm.trans hfound)
  rw [hon, horigin] at hpull
  injection hpull with huri
  exact huri.symm

theorem held_of_failed (actions : List Action) {error : PullError}
    (hentry : ((new rule).run (.handle (.hello flags) :: actions)).1.settings.entries.get? uri =
      some ticket)
    (hpeek : ((new rule).run (.handle (.hello flags) :: actions)).1.settings.peek ticket =
      some (.error error)) :
    ∃ id document, ((new rule).run (.handle (.hello flags) :: actions)).1.validations.get? id =
      some ⟨document, some ticket⟩ := by
  induction actions using List.reverseRecOn with
  | nil => cases hentry
  | append_singleton actions action ih =>
    have h := (coherent_new rule).run (.handle (.hello flags) :: actions)
    have heffect := h.effect_step action
    rw [← List.cons_append, run_concat] at hentry hpeek ⊢
    rcases heffect.entry_cases h hentry with hold | ⟨id, document, -, -, -, -, rfl, hafter⟩
    · cases hbefore : ((new rule).run (.handle (.hello flags) :: actions)).1.settings.peek ticket with
      | none =>
        obtain ⟨id, document, -, hget, hkept⟩ := heffect.outcome_cases h hbefore hpeek
        exact ⟨id, document, hkept ▸ hget⟩
      | some outcome =>
        obtain rfl := Option.some.inj (((heffect.extends h).peek hbefore).symm.trans hpeek)
        obtain ⟨id, document, hget⟩ := ih hold hbefore
        rcases heffect.validation_kept h hget with hkept | ⟨outcome, rfl, hsettled, -⟩
        · exact ⟨id, document, hkept⟩
        · -- the validation ends, and the entry it would leave is the one that it drops
          obtain rfl := uri_of_ticket hon hold hget
          have hfailed : ((new rule).run (.handle (.hello flags) :: actions)).1.settings.FailedEntry
              document.uri := ⟨ticket, error, hold, hbefore⟩
          rw [step_finish hget hbefore, SettingsCache.evictFailed_of_failedEntry hfailed,
            SettingsCache.remove, ArrivalMap.get?_erase, if_pos rfl] at hentry
          cases hentry
    · have hnew := List.getElem?_eq_none
        (Nat.le_refl ((new rule).run (.handle (.hello flags) :: actions)).1.settings.lookups.length)
      rw [hafter] at hpeek
      have hunknown := (SettingsCache.peek_get _ document.uri _).symm.trans hpeek
      rw [SettingsCache.peek, hnew] at hunknown
      cases hunknown

theorem awaited_of_failed {error : PullError}
    (hentry : ((new rule).run (.handle (.hello flags) :: actions)).1.settings.entries.get? uri =
      some ticket)
    (hpeek : ((new rule).run (.handle (.hello flags) :: actions)).1.settings.peek ticket =
      some (.error error)) :
    ∃ id document, ((new rule).run (.handle (.hello flags) :: actions)).1.validations.get? id =
      some ⟨document, some ticket⟩ ∧ document.uri = uri := by
  obtain ⟨id, document, hget⟩ := held_of_failed hon actions hentry hpeek
  exact ⟨id, document, hget, uri_of_ticket hon hentry hget⟩

end Opened

/-- In every run with settings that are pulled, an entry leads to a failed pull only as long as a
validation that waits for this pull has not ended. Where none is under way no entry has failed, and
the next validation of a document has the editor asked again unless it finds an entry that has not
failed. No validation that fails drops such an entry, not even one of its own document. -/
theorem failed_pulls_evicted (rule : Rule) (flags : ClientFlags) (actions : List Action)
    (hon : flags.configuration = true) :
    ((new rule).run (.handle (.hello flags) :: actions)).1.EvictsFailed := by
  have h := (coherent_new rule).run (.handle (.hello flags) :: actions)
  refine ⟨fun uri ticket error => awaited_of_failed hon, ?_, ?_, ?_⟩
  · rintro hidle uri ⟨ticket, error, hentry, hpeek⟩
    obtain ⟨id, document, hget, -⟩ := awaited_of_failed hon hentry hpeek
    rw [hidle] at hget
    cases hget
  · intro id document hget hfirst
    cases hentry : ((new rule).run (.handle (.hello flags) :: actions)).1.settings.entries.get?
        document.uri with
    | none =>
      have hmode : ((new rule).run (.handle (.hello flags) :: actions)).1.settings.pullEnabled =
          flags.configuration :=
        (mode_of_split (List.append_nil _).symm (List.cons_ne_nil _ _)).2
      exact Or.inr (h.asked_run (hmode.trans hon) hget hentry)
    | some ticket =>
      refine Or.inl ⟨ticket, rfl, fun error hpeek => ?_⟩
      obtain ⟨other, held, hother, huri⟩ := awaited_of_failed hon hentry hpeek
      exact hfirst other held ticket hother huri
  · intro id document ticket error hget hpeek uri held hentry hsound
    rw [step_finish hget hpeek, SettingsCache.get?_evictFailed_of_not_failedEntry]
    · exact hentry
    · rintro - ⟨other, failure, hother, hfailed⟩
      obtain rfl := Option.some.inj (hentry.symm.trans hother)
      exact hsound failure hfailed

/-- Two validations of a document share a pull that is refused. The first one drops the entry when it
ends, a third one starts another pull, and only then does the second one end. -/
def refusedForTwo (uri : Uri) : List Action :=
  [.handle (.notice (.didOpen ⟨uri, "plaintext", 1, "a BC"⟩)),
    .handle (.notice (.didChange uri 2 [⟨"a DE", none, none⟩])), .advance 0, .advance 1, .advance 0,
    .answer 0 (.refused (-32603) "no"), .advance 1, .advance 0,
    .handle (.notice (.didChange uri 3 [⟨"a FG", none, none⟩])), .advance 2]

theorem failed_pulls_evicted_refusedForTwo :
    ((new .uppercase).run (.handle (.hello ⟨true, false, false⟩) ::
      refusedForTwo ⟨"file:///a"⟩)).1.settings.entries.get? ⟨"file:///a"⟩ = some 1 ∧
    (((new .uppercase).run (.handle (.hello ⟨true, false, false⟩) ::
      refusedForTwo ⟨"file:///a"⟩)).1.step (.advance 1)).1.settings.entries.get? ⟨"file:///a"⟩ =
        some 1 := by
  have hentry : ((new .uppercase).run (.handle (.hello ⟨true, false, false⟩) ::
      refusedForTwo ⟨"file:///a"⟩)).1.settings.entries.get? ⟨"file:///a"⟩ = some 1 := by
    decide +kernel
  have hget : ((new .uppercase).run (.handle (.hello ⟨true, false, false⟩) ::
      refusedForTwo ⟨"file:///a"⟩)).1.validations.get? 1 =
        some ⟨.ofItem ⟨⟨"file:///a"⟩, "plaintext", 2, "a DE"⟩, some 0⟩ := by
    decide +kernel
  have hfailed : ((new .uppercase).run (.handle (.hello ⟨true, false, false⟩) ::
      refusedForTwo ⟨"file:///a"⟩)).1.settings.peek 0 =
        some (.error (.refused (-32603) "no")) := by
    rfl
  have hpending : ((new .uppercase).run (.handle (.hello ⟨true, false, false⟩) ::
      refusedForTwo ⟨"file:///a"⟩)).1.settings.peek 1 = none := by
    rfl
  have hevicts := failed_pulls_evicted .uppercase ⟨true, false, false⟩ (refusedForTwo ⟨"file:///a"⟩) rfl
  refine ⟨hentry, hevicts.spared 1 _ 0 _ hget hfailed _ 1 hentry fun failure => ?_⟩
  rw [hpending]
  simp

end Session

end LanguageServer
