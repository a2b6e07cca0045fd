import LanguageServer.Proofs.Session.Provenance

/-!
# Pulled or pushed settings

Whether settings are pulled is settled by the first opening of the session, also for openings after
it. Where they are not pulled, nothing is asked and the last payload that was pushed counts; where
they are, no payload counts and every validation waits for a pull of its own document.
-/

namespace LanguageServer

namespace Session

def Action.payload? : Action → Option Json
  | .handle (.configurationChanged payload) => some payload
  | _ => none

/-- The settings in the payload that was pushed last, or the default. -/
def lastPushed (actions : List Action) : Settings :=
  ((actions.filterMap Action.payload?).getLast?.map Settings.ofPayload).getD .default

structure PushedOnly (session : Session) (actions : List Action) : Prop where
  entries : (session.run actions).1.settings.entries = ∅
  unregistered : .registerForConfiguration ∉ (session.run actions).2
  unasked : ∀ ticket uri, .pullSettings ticket uri ∉ (session.run actions).2
  global_eq : (session.run actions).1.settings.global = lastPushed actions

/-- A run in which settings are pulled only. Each publication is sent by a validation that was told
the value of the section in answer to the pull that it waited for. -/
structure PulledOnly (session : Session) (related : Bool) (actions : List Action) : Prop where
  global_eq : (session.run actions).1.settings.global = .default
  pulls : ∀ id document ticket,
    (session.run actions).1.validations.get? id = some ⟨document, some ticket⟩ →
      ∃ lookup, (session.run actions).1.settings.lookups[ticket]? = some lookup ∧
        lookup.origin = .pull document.uri
  published : ∀ earlier uri diagnostics version later,
    (session.run actions).2 = earlier ++ .publish uri diagnostics version :: later →
      ∃ before id rest document ticket value, actions = before ++ .advance id :: rest ∧
        earlier = (session.run before).2 ∧
        (session.run before).1.validations.get? id = some ⟨document, some ticket⟩ ∧
        session.Answered before ticket document.uri (.value value) ∧
        uri = document.uri ∧ version = document.version ∧
        diagnostics = Diagnostic.compute session.rule document (.ofSection value) related

variable {session after : Session} {action : Action} {sent : List ServerMessage}
variable {flags : ClientFlags} {actions : List Action}

theorem lastPushed_concat (actions : List Action) (action : Action) :
    lastPushed (actions ++ [action]) =
      (action.payload?.map Settings.ofPayload).getD (lastPushed actions) := by
  cases h : action.payload? <;> simp [lastPushed, List.filterMap_append, h]

theorem payload?_eq_none_iff :
    action.payload? = none ↔ ∀ payload, action ≠ .handle (.configurationChanged payload) := by
  constructor
  · rintro h payload rfl
    cases h
  · intro h
    unfold Action.payload?
    split
    · exact absurd rfl (h _)
    · rfl

namespace Effect

variable (he : Effect session action after sent) (hflags : session.recordedFlags? = some flags)
include he hflags

theorem global_eq_getD (h : session.Coherent) :
    after.settings.global =
      if flags.configuration then session.settings.global
      else (action.payload?.map Settings.ofPayload).getD session.settings.global := by
  cases hpayload : action.payload? with
  | none =>
    rw [he.global_eq (payload?_eq_none_iff.mp hpayload)]
    simp
  | some payload =>
    have hrecorded : session.flags = flags := by rw [Session.flags, hflags]; rfl
    cases he with
    | reconfigured payload =>
      cases hpayload
      rw [h.configurationChanged_eq, reconfigure, hrecorded]
      split <;> rfl
    | _ => cases hpayload

theorem registers (hsent : .registerForConfiguration ∈ sent) : flags.configuration = true := by
  cases he with
  | ready =>
    rcases List.mem_cons.mp hsent with heq | hregister
    · cases heq
    · have hrecorded : session.flags = flags := by rw [Session.flags, hflags]; rfl
      rw [hrecorded] at hregister
      by_contra hoff
      rw [if_neg hoff] at hregister
      cases hregister
  | shutdown => simp at hsent
  | polled waiting unsettled => simp [pollLookup] at hsent
  | @finished id ticket document outcome => cases outcome <;> simp [finish] at hsent
  | _ => cases hsent

end Effect

/-- Settings of a document are asked for by a validation that holds the ticket of a pull for it. -/
theorem Effect.asks (he : Effect session action after sent) {ticket : Nat} {uri : Uri}
    (hsent : .pullSettings ticket uri ∈ sent) :
    ∃ id document lookup, session.validations.get? id = some ⟨document, some ticket⟩ ∧
      session.settings.lookups[ticket]? = some lookup ∧ lookup.poll.2 = some uri := by
  cases he with
  | ready =>
    rcases List.mem_cons.mp hsent with heq | hregister
    · cases heq
    · split at hregister <;> simp at hregister
  | shutdown => simp at hsent
  | @polled id held document waiting unsettled =>
    simp only [pollLookup, SettingsCache.poll_eq, List.mem_map, Option.mem_toList,
      Option.bind_eq_some_iff] at hsent
    obtain ⟨_, ⟨lookup, hlookup, hasked⟩, heq⟩ := hsent
    cases heq
    exact ⟨id, document, lookup, waiting, hlookup, hasked⟩
  | @finished id held document outcome => cases outcome <;> simp [finish] at hsent
  | _ => cases hsent

namespace Coherent

variable (h : session.Coherent) (hflags : session.recordedFlags? = some flags)
variable (hmode : session.settings.pullEnabled = flags.configuration)
include h hflags hmode

theorem global_run (hglobal : session.settings.global = .default) (actions : List Action) :
    (session.run actions).1.settings.global =
      if flags.configuration then .default else lastPushed actions := by
  induction actions using List.reverseRecOn with
  | nil => simpa [Session.run, lastPushed] using hglobal
  | append_singleton actions action ih =>
    have hcoherent := h.run actions
    have hrecorded := (h.pullEnabled_run hflags hmode actions).1
    rw [run_concat, (hcoherent.effect_step action).global_eq_getD hrecorded hcoherent,
      lastPushed_concat, ih]
    cases flags.configuration <;> rfl

theorem no_entry_run (hoff : flags.configuration = false) (actions : List Action)
    (hclear : ∀ uri, session.settings.entries.get? uri = none) (uri : Uri) :
    (session.run actions).1.settings.entries.get? uri = none := by
  induction actions using List.reverseRecOn with
  | nil => exact hclear uri
  | append_singleton actions action ih =>
    have hcoherent := h.run actions
    have hmode' := (h.pullEnabled_run hflags hmode actions).2
    rw [run_concat]
    by_contra hentry
    obtain ⟨ticket, hticket⟩ := Option.ne_none_iff_exists'.mp hentry
    rcases (hcoherent.effect_step action).entry_cases hcoherent hticket with
      hold | ⟨id, document, -, -, -, hon, -⟩
    · exact absurd (ih.symm.trans hold) (by simp)
    · exact absurd (hon.symm.trans (hmode'.trans hoff)) (by decide)

end Coherent

section Opened
variable {rule : Rule}

theorem mode_of_split {before rest : List Action}
    (hsplit : .handle (.hello flags) :: actions = before ++ rest) (hne : before ≠ []) :
    ((new rule).run before).1.recordedFlags? = some flags ∧
      ((new rule).run before).1.settings.pullEnabled = flags.configuration := by
  cases before with
  | nil => exact absurd rfl hne
  | cons head before =>
    obtain ⟨rfl, -⟩ := List.cons.inj hsplit
    have hrecorded : ((new rule).step (.handle (.hello flags))).1.recordedFlags? = some flags := rfl
    exact ((coherent_new rule).step _).pullEnabled_run hrecorded rfl before

theorem global_opened (rule : Rule) (flags : ClientFlags) (actions : List Action) :
    ((new rule).run (.handle (.hello flags) :: actions)).1.settings.global =
      if flags.configuration then .default else lastPushed (.handle (.hello flags) :: actions) := by
  have hopened : ((new rule).step (.handle (.hello flags))).1.recordedFlags? = some flags := rfl
  exact ((coherent_new rule).step _).global_run hopened rfl rfl actions

theorem ne_nil_of_validation {before : List Action} {id : Nat} {validation : Validation}
    (hget : ((new rule).run before).1.validations.get? id = some validation) : before ≠ [] := by
  rintro rfl
  cases hget

/-- A validation that holds a ticket waits for a pull of its document if settings are pulled, and
for a value that was global if not. -/
theorem origin_of_ticket {before rest : List Action}
    (hsplit : .handle (.hello flags) :: actions = before ++ rest) {id ticket : Nat}
    {document : TextDocument}
    (hget : ((new rule).run before).1.validations.get? id = some ⟨document, some ticket⟩) :
    ∃ lookup settings, ((new rule).run before).1.settings.lookups[ticket]? = some lookup ∧
      lookup.origin =
        if flags.configuration then .pull document.uri else .global settings := by
  obtain ⟨taken, later, rfl, hwaiting, -, lookup, hlookup, horigin⟩ :=
    (coherent_new rule).took rfl before hget
  rw [List.append_assoc] at hsplit
  rw [(mode_of_split hsplit (ne_nil_of_validation hwaiting)).2] at horigin
  exact ⟨lookup, _, hlookup, horigin⟩

theorem not_mem_of_pushed (hoff : flags.configuration = false) {message : ServerMessage}
    (hsent : message ∈ ((new rule).run (.handle (.hello flags) :: actions)).2) :
    message ≠ .registerForConfiguration ∧ ∀ ticket uri, message ≠ .pullSettings ticket uri := by
  obtain ⟨earlier, later, hrun⟩ := List.append_of_mem hsent
  obtain ⟨before, action, rest, first, last, hactions, hstep, -⟩ := exists_step_of_run_eq hrun
  have hmem : message ∈ (((new rule).run before).1.step action).2 := by
    rw [hstep]
    simp
  have heffect := ((coherent_new rule).run before).effect_step action
  constructor
  · rintro rfl
    have hne : before ≠ [] := by
      rintro rfl
      obtain ⟨rfl, -⟩ := List.cons.inj hactions
      cases hmem
    have hon := heffect.registers (mode_of_split hactions hne).1 hmem
    exact absurd (hoff.symm.trans hon) (by decide)
  · rintro ticket uri rfl
    obtain ⟨id, document, lookup, hget, hlookup, hasked⟩ := heffect.asks hmem
    obtain ⟨found, settings, hfound, horigin⟩ := origin_of_ticket hactions hget
    obtain rfl := Option.some.inj (hlookup.symm.trans hfound)
    rw [SettingsLookup.poll_snd_eq_some_iff] at hasked
    rw [hasked, hoff] at horigin
    cases horigin

/-- Where settings are pulled, a publication has the settings that the editor gave in answer to the
pull that its validation waited for. -/
theorem published_by_pull (hon : flags.configuration = true) {earlier later : List ServerMessage}
    {uri : Uri} {diagnostics : List Diagnostic} {version : Int}
    (hsent : ((new rule).run (.handle (.hello flags) :: actions)).2 =
      earlier ++ .publish uri diagnostics version :: later) :
    ∃ before id rest document ticket value,
      .handle (.hello flags) :: actions = before ++ .advance id :: rest ∧
      earlier = ((new rule).run before).2 ∧
      ((new rule).run before).1.validations.get? id = some ⟨document, some ticket⟩ ∧
      (new rule).Answered before ticket document.uri (.value value) ∧
      uri = document.uri ∧ version = document.version ∧
      diagnostics = Diagnostic.compute rule document (.ofSection value) flags.relatedInformation := by
  have h := coherent_new rule
  obtain ⟨before, id, rest, document, ticket, settings, hactions, hearlier, hget, hpeek, huri,
    hversion, hdiagnostics⟩ := h.exists_publishing_step hsent
  obtain ⟨lookup, global, hlookup, horigin⟩ := origin_of_ticket hactions hget
  obtain ⟨value, rfl, hanswered⟩ : ∃ value, settings = .ofSection value ∧
      (new rule).Answered before ticket document.uri (.value value) := by
    have hsettings := h.settings_of_peek before (Nat.zero_le _) hlookup horigin hpeek
    rwa [hon] at hsettings
  have hflags : ((new rule).run before).1.recordedFlags? = some flags :=
    (mode_of_split hactions (ne_nil_of_validation hget)).1
  rw [Session.flags, hflags] at hdiagnostics
  exact ⟨before, id, rest, document, ticket, value, hactions, hearlier, hget, hanswered, huri,
    hversion, hdiagnostics⟩

end Opened

/-- In a run that begins with opening the session, what the editor said then decides for good
whether settings are pulled. If they are not, no document has an entry, nothing is registered or
asked, and the payload that was pushed last is what counts. If they are, a payload never counts:
every validation waits for a pull of its own document, and what it publishes has the cap that the
editor gave in answer to this pull. -/
theorem single_mode (rule : Rule) (flags : ClientFlags) (actions : List Action) :
    ((new rule).run (.handle (.hello flags) :: actions)).1.recordedFlags? = some flags ∧
    ((new rule).run (.handle (.hello flags) :: actions)).1.settings.pullEnabled =
      flags.configuration ∧
    (flags.configuration = false → (new rule).PushedOnly (.handle (.hello flags) :: actions)) ∧
    (flags.configuration = true →
      (new rule).PulledOnly flags.relatedInformation (.handle (.hello flags) :: actions)) := by
  have h := coherent_new rule
  have hopened : ((new rule).step (.handle (.hello flags))).1.recordedFlags? = some flags := rfl
  obtain ⟨hrecorded, hmode⟩ := (h.step _).pullEnabled_run hopened rfl actions
  have hglobal := global_opened rule flags actions
  refine ⟨hrecorded, hmode, fun hoff => ?_, fun hon => ?_⟩
  · refine ⟨ArrivalMap.eq_empty_of_get? ?_, fun hsent => ?_, fun ticket uri hsent => ?_, ?_⟩
    · exact (h.step _).no_entry_run hopened rfl hoff actions fun uri => rfl
    · exact (not_mem_of_pushed hoff hsent).1 rfl
    · exact (not_mem_of_pushed hoff hsent).2 ticket uri rfl
    · rw [hoff] at hglobal
      exact hglobal
  · refine ⟨?_, fun id document ticket hget => ?_, fun earlier uri diagnostics version later =>
      published_by_pull hon⟩
    · rw [hon] at hglobal
      exact hglobal
    · obtain ⟨lookup, settings, hlookup, horigin⟩ :=
        origin_of_ticket (List.append_nil _).symm hget
      rw [hon] at horigin
      exact ⟨lookup, hlookup, horigin⟩

/-- The session is opened again by an editor that says the opposite, and settings are pushed. -/
def reopened (uri : Uri) (configuration : Bool) : List Action :=
  [.handle (.hello ⟨configuration, false, false⟩),
    .handle (.notice (.didOpen ⟨uri, "plaintext", 1, "a BC"⟩)), .handle .ready,
    .handle (.hello ⟨!configuration, false, false⟩),
    .handle (.configurationChanged
      (.object [("languageServerExample", .object [("maxNumberOfProblems", .int 5)])])),
    .advance 0, .advance 0, .advance 0, .advance 1]

theorem single_mode_reopened :
    (new .uppercase).PushedOnly (reopened ⟨"file:///a"⟩ false) ∧
    lastPushed (reopened ⟨"file:///a"⟩ false) = ⟨5⟩ ∧
    (new .uppercase).PulledOnly false (reopened ⟨"file:///a"⟩ true) := by
  have hpushed : lastPushed (reopened ⟨"file:///a"⟩ false) = ⟨5⟩ := by decide +kernel
  exact ⟨(single_mode .uppercase ⟨false, false, false⟩ _).2.2.1 rfl, hpushed,
    (single_mode .uppercase ⟨true, false, false⟩ _).2.2.2 rfl⟩

end Session

end LanguageServer
