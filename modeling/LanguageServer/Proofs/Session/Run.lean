import LanguageServer.Proofs.Session.Step

/-!
# Runs of a session

What a step keeps, a run keeps; every message that a run sends is sent by one of its steps.
-/

namespace LanguageServer

namespace Session

variable {session after : Session} {action : Action} {sent : List ServerMessage}

theorem run_append (session : Session) (first second : List Action) :
    session.run (first ++ second) =
      (((session.run first).1.run second).1,
        (session.run first).2 ++ ((session.run first).1.run second).2) := by
  induction first generalizing session with
  | nil => rfl
  | cons action first ih => simp only [List.cons_append, run, ih, List.append_assoc]

theorem run_concat (session : Session) (actions : List Action) (action : Action) :
    session.run (actions ++ [action]) =
      (((session.run actions).1.step action).1,
        (session.run actions).2 ++ ((session.run actions).1.step action).2) := by
  rw [run_append]
  simp [run]

theorem Coherent.step (h : session.Coherent) (action : Action) : (session.step action).1.Coherent :=
  h.of_effect (h.effect_step action)

theorem Coherent.run (h : session.Coherent) (actions : List Action) :
    (session.run actions).1.Coherent := by
  induction actions generalizing session with
  | nil => exact h
  | cons action actions ih => exact ih (h.step action)

theorem Coherent.extends_run (h : session.Coherent) (actions : List Action) :
    session.settings.Extends (session.run actions).1.settings := by
  induction actions generalizing session with
  | nil => exact .refl _
  | cons action actions ih => exact ((h.effect_step action).extends h).trans (ih (h.step action))

theorem Effect.rule_eq (he : Effect session action after sent) (h : session.Coherent) :
    after.rule = session.rule := by
  cases he with
  | reconfigured payload =>
    rw [h.configurationChanged_eq]
  | @finished id ticket document outcome => cases outcome <;> rfl
  | _ => rfl

theorem Effect.recordedFlags?_eq (he : Effect session action after sent) (h : session.Coherent)
    {flags : ClientFlags} (hflags : session.recordedFlags? = some flags) :
    after.recordedFlags? = some flags := by
  cases he with
  | opened other => simp [hello, hflags]
  | reconfigured payload =>
    rw [h.configurationChanged_eq]
    exact hflags
  | @finished id ticket document outcome => cases outcome <;> exact hflags
  | _ => exact hflags

theorem Effect.pullEnabled_eq (he : Effect session action after sent) (h : session.Coherent)
    {flags : ClientFlags} (hflags : session.recordedFlags? = some flags)
    (hmode : session.settings.pullEnabled = flags.configuration) :
    after.settings.pullEnabled = flags.configuration := by
  cases he with
  | opened other => simp [hello, SettingsCache.setPullEnabled, Session.flags, hflags]
  | reconfigured payload =>
    rw [h.configurationChanged_eq, reconfigure]
    split <;> exact hmode
  | took waiting => exact (SettingsCache.pullEnabled_get _ _).trans hmode
  | @polled id ticket =>
    simp only [pollLookup, SettingsCache.poll_eq]
    exact hmode
  | @finished id ticket document outcome =>
    cases outcome with
    | ok settings => exact hmode
    | error error =>
      simp only [finish, SettingsCache.evictFailed]
      split <;> exact hmode
  | _ => exact hmode

theorem Effect.global_eq (he : Effect session action after sent)
    (hquiet : ∀ payload, action ≠ .handle (.configurationChanged payload)) :
    after.settings.global = session.settings.global := by
  cases he with
  | reconfigured payload => exact absurd rfl (hquiet payload)
  | took waiting => exact SettingsCache.global_get _ _
  | polled => simp only [pollLookup, SettingsCache.poll_eq]
  | @finished id ticket document outcome =>
    cases outcome with
    | ok settings => rfl
    | error error =>
      simp only [finish, SettingsCache.evictFailed]
      split <;> rfl
  | _ => rfl

theorem Coherent.rule_run (h : session.Coherent) (actions : List Action) :
    (session.run actions).1.rule = session.rule := by
  induction actions generalizing session with
  | nil => rfl
  | cons action actions ih => exact (ih (h.step action)).trans ((h.effect_step action).rule_eq h)

theorem Coherent.flags_run (h : session.Coherent) {flags : ClientFlags}
    (hflags : session.recordedFlags? = some flags) (actions : List Action) :
    (session.run actions).1.flags = flags := by
  induction actions generalizing session with
  | nil => simp [Session.run, Session.flags, hflags]
  | cons action actions ih =>
    exact ih (h.step action) ((h.effect_step action).recordedFlags?_eq h hflags)

theorem Coherent.pullEnabled_run (h : session.Coherent) {flags : ClientFlags}
    (hflags : session.recordedFlags? = some flags)
    (hmode : session.settings.pullEnabled = flags.configuration) (actions : List Action) :
    (session.run actions).1.recordedFlags? = some flags ∧
      (session.run actions).1.settings.pullEnabled = flags.configuration := by
  induction actions generalizing session with
  | nil => exact ⟨hflags, hmode⟩
  | cons action actions ih =>
    have heffect := h.effect_step action
    exact ih (h.step action) (heffect.recordedFlags?_eq h hflags)
      (heffect.pullEnabled_eq h hflags hmode)

theorem exists_step_of_run_eq {actions : List Action} {earlier later : List ServerMessage}
    {message : ServerMessage} (h : (session.run actions).2 = earlier ++ message :: later) :
    ∃ before action rest first last, actions = before ++ action :: rest ∧
      ((session.run before).1.step action).2 = first ++ message :: last ∧
      earlier = (session.run before).2 ++ first := by
  induction actions generalizing session earlier with
  | nil => exact absurd h.symm (by simp [run])
  | cons action actions ih =>
    -- whatever the first step does not send comes from the rest of the run
    have hrest : ∀ earlier', ((session.step action).1.run actions).2 = earlier' ++ message :: later →
        ∃ before step rest first last, action :: actions = before ++ step :: rest ∧
          ((session.run before).1.step step).2 = first ++ message :: last ∧
          (session.step action).2 ++ earlier' = (session.run before).2 ++ first := by
      intro earlier' h'
      obtain ⟨before, step, rest, first, last, rfl, hstep, rfl⟩ := ih h'
      exact ⟨action :: before, step, rest, first, last, rfl, hstep, by simp [run]⟩
    rcases List.append_eq_append_iff.mp h with ⟨earlier', rfl, hlater⟩ | ⟨last, hfirst, hlater⟩
    · exact hrest earlier' hlater
    · cases last with
      | nil =>
        have hearlier : (session.step action).2 = earlier := hfirst.trans (List.append_nil _)
        obtain ⟨before, step, rest, first, last, hsplit, hstep, heq⟩ := hrest [] hlater.symm
        rw [hearlier, List.append_nil] at heq
        exact ⟨before, step, rest, first, last, hsplit, hstep, heq⟩
      | cons head last =>
        obtain ⟨rfl, -⟩ := List.cons.inj hlater
        exact ⟨[], action, actions, earlier, last, rfl, hfirst, rfl⟩

end Session

end LanguageServer
