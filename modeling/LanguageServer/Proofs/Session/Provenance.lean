import LanguageServer.Proofs.Session.Cause
import Mathlib.Data.List.Induction

/-!
# Where published diagnostics come from

A validation outlives the notice that started it: its document may be changed, closed and opened
again, and the settings may be dropped and pulled anew before it publishes. Whatever comes in
between, it publishes one content that was stored under its URI, with that content's own version,
under settings that were meant for this URI.
-/

namespace LanguageServer

namespace Session

/-- In the course of the actions a notice was accepted and left this document under its URI. -/
def Stored (session : Session) (actions : List Action) (document : TextDocument) : Prop :=
  ∃ before notice rest, actions = before ++ .handle (.notice notice) :: rest ∧
    (session.run before).1.documents.accepts notice = true ∧ notice.uri = document.uri ∧
    (session.run (before ++ [.handle (.notice notice)])).1.documents.get? document.uri =
      some document

/-- In the course of the actions the editor was asked for the settings of a document on behalf of a
lookup, and has not answered. -/
def Asked (session : Session) (actions : List Action) (ticket : Nat) (uri : Uri) : Prop :=
  ∃ before asking rest, actions = before ++ asking :: rest ∧
    .pullSettings ticket uri ∈ ((session.run before).1.step asking).2 ∧
    ∀ answer, .answer ticket answer ∉ rest

/-- In the course of the actions the editor was asked for the settings of a document on behalf of a
lookup, and this was its answer, the first one that came. -/
def Answered (session : Session) (actions : List Action) (ticket : Nat) (uri : Uri)
    (answer : PullAnswer) : Prop :=
  ∃ asked rest, actions = asked ++ .answer ticket answer :: rest ∧ session.Asked asked ticket uri

/-- A validation took its lookup in the course of the actions, and these are its settings: those
that were global at that moment, or, where settings are pulled, those that the editor gave for the
same document in answer to the lookup. -/
def ValidatedWith (session : Session) (actions : List Action) (id : Nat) (document : TextDocument)
    (settings : Settings) : Prop :=
  ∃ before rest, actions = before ++ .advance id :: rest ∧
    (session.run before).1.validations.get? id = some ⟨document, none⟩ ∧
    if (session.run before).1.settings.pullEnabled then
      ∃ value, settings = .ofSection value ∧ session.Answered actions
        ((session.run before).1.settings.get document.uri).1 document.uri (.value value)
    else settings = (session.run before).1.settings.global

structure Sourced (session : Session) (actions : List Action) (id : Nat) (related : Bool)
    (document : TextDocument) (settings : Settings) (uri : Uri) (diagnostics : List Diagnostic)
    (version : Int) : Prop where
  sent : ((session.run actions).1.step (.advance id)).2 = [.publish uri diagnostics version]
  uri_eq : uri = document.uri
  version_eq : version = document.version
  diagnostics_eq : diagnostics = Diagnostic.compute session.rule document settings related
  stored : session.Stored actions document
  validatedWith : session.ValidatedWith actions id document settings

/-- A lookup that has come as far as the actions account for. -/
inductive Recorded (session : Session) (actions : List Action) (ticket : Nat) :
    SettingsLookup → Prop where
  | idle (origin : LookupOrigin) : Recorded session actions ticket ⟨origin, .idle⟩
  | global (settings : Settings) :
      Recorded session actions ticket ⟨.global settings, .settled (.ok settings)⟩
  | asked {uri : Uri} (asked : session.Asked actions ticket uri) :
      Recorded session actions ticket ⟨.pull uri, .asked⟩
  | answered {uri : Uri} {answer : PullAnswer}
      (answered : session.Answered actions ticket uri answer) :
      Recorded session actions ticket ⟨.pull uri, .answered answer⟩
  | settled {uri : Uri} {answer : PullAnswer}
      (answered : session.Answered actions ticket uri answer) :
      Recorded session actions ticket ⟨.pull uri, .settled (answer.outcome uri)⟩

variable {session : Session} {actions : List Action} {action : Action} {ticket : Nat} {uri : Uri}

theorem Stored.append {document : TextDocument} (h : session.Stored actions document)
    (later : List Action) : session.Stored (actions ++ later) document := by
  obtain ⟨before, notice, rest, rfl, h⟩ := h
  exact ⟨before, notice, rest ++ later, by simp, h⟩

theorem Answered.append {answer : PullAnswer} (h : session.Answered actions ticket uri answer)
    (later : List Action) : session.Answered (actions ++ later) ticket uri answer := by
  obtain ⟨asked, rest, rfl, h⟩ := h
  exact ⟨asked, rest ++ later, by simp, h⟩

theorem Asked.concat (h : session.Asked actions ticket uri)
    (hsilent : ∀ answer, action ≠ .answer ticket answer) :
    session.Asked (actions ++ [action]) ticket uri := by
  obtain ⟨before, asking, rest, rfl, hasked, hrest⟩ := h
  refine ⟨before, asking, rest ++ [action], by simp, hasked, ?_⟩
  intro answer hmem
  rcases List.mem_append.mp hmem with hold | hnew
  · exact hrest answer hold
  · exact hsilent answer (List.mem_singleton.mp hnew).symm

theorem asked_concat
    (h : .pullSettings ticket uri ∈ ((session.run actions).1.step action).2) :
    session.Asked (actions ++ [action]) ticket uri :=
  ⟨actions, action, [], rfl, h, by simp⟩

theorem Asked.answered_concat (h : session.Asked actions ticket uri) (answer : PullAnswer) :
    session.Answered (actions ++ [.answer ticket answer]) ticket uri answer :=
  ⟨actions, [], rfl, h⟩

namespace Recorded

variable {lookup : SettingsLookup} (h : session.Recorded actions ticket lookup)
include h

theorem concat_kept (hsilent : ∀ answer, action ≠ .answer ticket answer) :
    session.Recorded (actions ++ [action]) ticket lookup := by
  cases h with
  | idle origin => exact .idle origin
  | global settings => exact .global settings
  | asked hasked => exact .asked (hasked.concat hsilent)
  | answered hanswered => exact .answered (hanswered.append _)
  | settled hanswered => exact .settled (hanswered.append _)

theorem concat_polled (hsilent : ∀ answer, action ≠ .answer ticket answer)
    (hsent : ∀ uri, lookup.poll.2 = some uri →
      .pullSettings ticket uri ∈ ((session.run actions).1.step action).2) :
    session.Recorded (actions ++ [action]) ticket lookup.poll.1 := by
  cases h with
  | idle origin =>
    cases origin with
    | global settings => exact .global settings
    | pull uri => exact .asked (asked_concat (hsent uri rfl))
  | global settings => exact .global settings
  | asked hasked => exact .asked (hasked.concat hsilent)
  | answered hanswered => exact .settled (hanswered.append _)
  | settled hanswered => exact .settled (hanswered.append _)

theorem concat_answered (answer : PullAnswer) :
    session.Recorded (actions ++ [.answer ticket answer]) ticket (lookup.receive answer) := by
  cases h with
  | idle origin => exact .idle origin
  | global settings => exact .global settings
  | asked hasked => exact .answered (hasked.answered_concat answer)
  | answered hanswered => exact .answered (hanswered.append _)
  | settled hanswered => exact .settled (hanswered.append _)

end Recorded

/-- Whatever became of a lookup since it was handed out in a run, the run accounts for it. -/
theorem Coherent.recorded (h : session.Coherent) (actions : List Action) {lookup : SettingsLookup}
    (hnew : session.settings.lookups.length ≤ ticket)
    (hget : (session.run actions).1.settings.lookups[ticket]? = some lookup) :
    session.Recorded actions ticket lookup := by
  induction actions using List.reverseRecOn generalizing lookup with
  | nil =>
    have hlt := (List.getElem?_eq_some_iff.mp hget).1
    exact absurd hlt (Nat.not_lt.mpr hnew)
  | append_singleton actions action ih =>
    rw [run_concat] at hget
    have hcoherent := h.run actions
    rcases (hcoherent.effect_step action).lookup_cases hcoherent hget with
      ⟨-, hidle⟩ | ⟨before, hbefore, hturn⟩
    · obtain ⟨origin, stage⟩ := lookup
      obtain rfl : stage = .idle := hidle
      exact .idle origin
    · cases hturn with
      | kept hsilent => exact (ih hbefore).concat_kept hsilent
      | polled hsilent hasked => exact (ih hbefore).concat_polled hsilent hasked
      | answered hgiven => exact hgiven ▸ (ih hbefore).concat_answered _

theorem Recorded.answered_of_settled {origin : LookupOrigin} {settings : Settings}
    (h : session.Recorded actions ticket ⟨origin, .settled (.ok settings)⟩)
    (horigin : origin = .pull uri) :
    ∃ value, settings = .ofSection value ∧ session.Answered actions ticket uri (.value value) := by
  subst horigin
  generalize hlookup : SettingsLookup.mk (.pull uri) (.settled (.ok settings)) = lookup at h
  cases h with
  | @settled about answer hanswered =>
    cases answer with
    | value value =>
      cases hlookup
      exact ⟨value, rfl, hanswered⟩
    | refused code message => cases hlookup
    | empty => cases hlookup
  | _ => cases hlookup

theorem Recorded.eq_of_settled {settings known : Settings}
    (h : session.Recorded actions ticket ⟨.global known, .settled (.ok settings)⟩) :
    settings = known := by
  cases h
  rfl

/-- The settings that a lookup of the run gave: the editor's answer where it was a pull, and the value
that was global when it was handed out otherwise. -/
theorem Coherent.settings_of_peek (h : session.Coherent) (actions : List Action)
    (hnew : session.settings.lookups.length ≤ ticket) {lookup : SettingsLookup} {pulls : Bool}
    {known settings : Settings}
    (hget : (session.run actions).1.settings.lookups[ticket]? = some lookup)
    (horigin : lookup.origin = if pulls then .pull uri else .global known)
    (hpeek : (session.run actions).1.settings.peek ticket = some (.ok settings)) :
    if pulls then
      ∃ value, settings = .ofSection value ∧ session.Answered actions ticket uri (.value value)
    else settings = known := by
  obtain ⟨found, hfound, hstage⟩ := SettingsCache.peek_eq_some_iff.mp hpeek
  obtain rfl := Option.some.inj (hget.symm.trans hfound)
  obtain ⟨origin, stage⟩ := lookup
  obtain rfl : stage = .settled (.ok settings) := hstage
  have hrecorded := h.recorded actions hnew hget
  cases pulls with
  | true => exact hrecorded.answered_of_settled horigin
  | false =>
    obtain rfl : origin = .global known := horigin
    exact hrecorded.eq_of_settled

theorem Coherent.stored (h : session.Coherent) (hclear : session.documents.keys = [])
    (hidle : session.validations.keys = []) (actions : List Action) :
    (∀ uri document, (session.run actions).1.documents.get? uri = some document →
      session.Stored actions document) ∧
    ∀ id validation, (session.run actions).1.validations.get? id = some validation →
      session.Stored actions validation.document := by
  induction actions using List.reverseRecOn with
  | nil =>
    refine ⟨fun uri document hget => ?_, fun id validation hget => ?_⟩
    · have hmem : uri ∈ session.documents.keys := ArrivalMap.mem_keys_of_get? hget
      rw [hclear] at hmem
      cases hmem
    · exact absurd (ArrivalMap.mem_keys_of_get? hget) (hidle ▸ List.not_mem_nil)
  | append_singleton actions action ih =>
    obtain ⟨hdocuments, hvalidations⟩ := ih
    have hcoherent := h.run actions
    have heffect := hcoherent.effect_step action
    have hopen : ∀ uri document,
        (session.run (actions ++ [action])).1.documents.get? uri = some document →
        session.Stored (actions ++ [action]) document := by
      intro uri document hget
      have huri := (h.run (actions ++ [action])).keyed uri document hget
      have hstep := hget
      rw [run_concat] at hstep
      rcases heffect.document_cases hcoherent hstep with hold | ⟨notice, rfl, haccepted, hnotice⟩
      · exact (hdocuments uri document hold).append _
      · exact ⟨actions, notice, [], rfl, haccepted, hnotice.trans huri.symm, huri.symm ▸ hget⟩
    refine ⟨hopen, fun id validation hget => ?_⟩
    have hstep := hget
    rw [run_concat] at hstep
    rcases heffect.validation_cases hcoherent hstep with
      hold | ⟨-, -, hnew⟩ | ⟨document, rfl, hwaiting, rfl, -⟩
    · exact (hvalidations id validation hold).append _
    · exact hopen _ _ (by rw [run_concat]; exact hnew)
    · exact (hvalidations id _ hwaiting).append _

/-- A validation that holds a ticket took it in the run, for the value that was global then or for
the settings of its document. -/
theorem Coherent.took (h : session.Coherent) (hidle : session.validations.keys = [])
    (actions : List Action) {id : Nat} {document : TextDocument}
    (hget : (session.run actions).1.validations.get? id = some ⟨document, some ticket⟩) :
    ∃ before rest, actions = before ++ .advance id :: rest ∧
      (session.run before).1.validations.get? id = some ⟨document, none⟩ ∧
      ticket = ((session.run before).1.settings.get document.uri).1 ∧
      ∃ lookup, (session.run actions).1.settings.lookups[ticket]? = some lookup ∧
        lookup.origin = if (session.run before).1.settings.pullEnabled then .pull document.uri
          else .global (session.run before).1.settings.global := by
  induction actions using List.reverseRecOn with
  | nil => exact absurd (ArrivalMap.mem_keys_of_get? hget) (hidle ▸ List.not_mem_nil)
  | append_singleton actions action ih =>
    have hcoherent := h.run actions
    have heffect := hcoherent.effect_step action
    rw [run_concat] at hget ⊢
    rcases heffect.validation_cases hcoherent hget with
      hold | ⟨-, hnone, -⟩ | ⟨held, rfl, hwaiting, heq, hsettings⟩
    · obtain ⟨before, rest, hactions, hwaiting, hticket, lookup, hlookup, horigin⟩ := ih hold
      obtain ⟨next, hnext, hcontinues⟩ := heffect.extends hcoherent ticket lookup hlookup
      exact ⟨before, rest ++ [action], by rw [hactions]; simp, hwaiting, hticket, next, hnext,
        hcontinues.origin_eq.trans horigin⟩
    · cases hnone
    · cases heq
      obtain ⟨lookup, hlookup, horigin⟩ := hcoherent.linked.exists_lookup_get document.uri
      exact ⟨actions, [], rfl, hwaiting, rfl, lookup, by rwa [hsettings], horigin⟩

theorem Coherent.validatedWith (h : session.Coherent) (hidle : session.validations.keys = [])
    (hnone : session.settings.lookups = []) (actions : List Action) {id : Nat}
    {document : TextDocument} {settings : Settings}
    (hget : (session.run actions).1.validations.get? id = some ⟨document, some ticket⟩)
    (hpeek : (session.run actions).1.settings.peek ticket = some (.ok settings)) :
    session.ValidatedWith actions id document settings := by
  obtain ⟨before, rest, hactions, hwaiting, hticket, lookup, hlookup, horigin⟩ :=
    h.took hidle actions hget
  have hsettings := h.settings_of_peek actions (by simp [hnone]) hlookup horigin hpeek
  exact ⟨before, rest, hactions, hwaiting, hticket ▸ hsettings⟩

theorem Coherent.exists_publishing_step (h : session.Coherent) {earlier later : List ServerMessage}
    {diagnostics : List Diagnostic} {version : Int}
    (hsent : (session.run actions).2 = earlier ++ .publish uri diagnostics version :: later) :
    ∃ before id rest document ticket settings, actions = before ++ .advance id :: rest ∧
      earlier = (session.run before).2 ∧
      (session.run before).1.validations.get? id = some ⟨document, some ticket⟩ ∧
      (session.run before).1.settings.peek ticket = some (.ok settings) ∧
      uri = document.uri ∧ version = document.version ∧
      diagnostics = Diagnostic.compute session.rule document settings
        (session.run before).1.flags.relatedInformation := by
  obtain ⟨before, action, rest, first, last, hactions, hstep, hearlier⟩ := exists_step_of_run_eq hsent
  have hmem : .publish uri diagnostics version ∈ ((session.run before).1.step action).2 := by
    rw [hstep]
    simp
  obtain ⟨id, document, ticket, settings, rfl, hwaiting, hpeek, -, hpublish, hall⟩ :=
    ((h.run before).effect_step action).publish_cases hmem
  have hfirst : first = [] := by
    have hlength := congrArg List.length (hstep.symm.trans hall)
    exact List.eq_nil_of_length_eq_zero (by simp at hlength; omega)
  rw [h.rule_run] at hpublish
  injection hpublish with huri hdiagnostics hversion
  exact ⟨before, id, rest, document, ticket, settings, hactions,
    by rw [hearlier, hfirst, List.append_nil], hwaiting, hpeek, huri, hversion, hdiagnostics⟩

/-- Every publication of a run that begins with opening the session is what one validation sends at
one of its steps: it names the URI and the version of a document that an accepted notice had stored,
and its diagnostics are those of that document, under settings that the validation took for it. -/
theorem publish_provenance (rule : Rule) (flags : ClientFlags) (actions : List Action)
    {earlier later : List ServerMessage} {uri : Uri} {diagnostics : List Diagnostic} {version : Int}
    (hsent : ((new rule).run (.handle (.hello flags) :: actions)).2 =
      earlier ++ .publish uri diagnostics version :: later) :
    ∃ before id rest document settings,
      .handle (.hello flags) :: actions = before ++ .advance id :: rest ∧
      earlier = ((new rule).run before).2 ∧
      (new rule).Sourced before id flags.relatedInformation document settings uri diagnostics
        version := by
  have h := coherent_new rule
  obtain ⟨before, action, rest, first, last, hactions, hstep, hearlier⟩ := exists_step_of_run_eq hsent
  have hcoherent := h.run before
  have hmem : .publish uri diagnostics version ∈ (((new rule).run before).1.step action).2 := by
    rw [hstep]
    simp
  obtain ⟨id, document, ticket, settings, rfl, hwaiting, hpeek, -, hpublish, hall⟩ :=
    (hcoherent.effect_step action).publish_cases hmem
  -- the publishing step is not the first action, so the flags have been recorded before
  have hflags : ((new rule).run before).1.flags = flags := by
    cases before with
    | nil => cases hactions
    | cons head before =>
      obtain ⟨rfl, -⟩ := List.cons.inj hactions
      have hrecorded : ((new rule).step (.handle (.hello flags))).1.recordedFlags? = some flags := rfl
      exact (h.step _).flags_run hrecorded before
  have hfirst : first = [] := by
    have hlength := congrArg List.length (hstep.symm.trans hall)
    exact List.eq_nil_of_length_eq_zero (by simp at hlength; omega)
  rw [h.rule_run, hflags] at hpublish
  injection hpublish with huri hdiagnostics hversion
  exact ⟨before, id, rest, document, settings, hactions, by rw [hearlier, hfirst, List.append_nil],
    hall, huri, hversion, hdiagnostics, (h.stored rfl rfl before).2 id _ hwaiting,
    h.validatedWith rfl rfl before hwaiting hpeek⟩

/-- The first content of a document is published after the document was changed and closed and the
configuration was changed. -/
def overtaken (uri : Uri) : List Action :=
  [.handle (.notice (.didOpen ⟨uri, "plaintext", 1, "a BC"⟩)), .advance 0, .advance 0,
    .handle (.notice (.didChange uri 2 [⟨"DE", none, none⟩])), .handle (.configurationChanged .null),
    .handle (.notice (.didClose uri)), .answer 0 (.value (.array [.int 5])), .advance 0, .advance 0]

theorem publish_provenance_overtaken :
    ((new .uppercase).run
        (.handle (.hello ⟨true, false, false⟩) :: overtaken ⟨"file:///a"⟩)).2 =
      [.pullSettings 0 ⟨"file:///a"⟩] ++ .publish ⟨"file:///a"⟩
        [⟨⟨⟨0, 2⟩, ⟨0, 4⟩⟩, .warning, "ex", "BC is all uppercase.", none⟩] 1 :: [] ∧
    ∃ before id rest document settings,
      .handle (.hello ⟨true, false, false⟩) :: overtaken ⟨"file:///a"⟩ =
        before ++ .advance id :: rest ∧
      [.pullSettings 0 ⟨"file:///a"⟩] = ((new .uppercase).run before).2 ∧
      (new .uppercase).Sourced before id false document settings ⟨"file:///a"⟩
        [⟨⟨⟨0, 2⟩, ⟨0, 4⟩⟩, .warning, "ex", "BC is all uppercase.", none⟩] 1 := by
  have hsent : ((new .uppercase).run
        (.handle (.hello ⟨true, false, false⟩) :: overtaken ⟨"file:///a"⟩)).2 =
      [.pullSettings 0 ⟨"file:///a"⟩] ++ .publish ⟨"file:///a"⟩
        [⟨⟨⟨0, 2⟩, ⟨0, 4⟩⟩, .warning, "ex", "BC is all uppercase.", none⟩] 1 :: [] := by
    decide +kernel
  exact ⟨hsent, publish_provenance .uppercase ⟨true, false, false⟩ _ hsent⟩

end Session

end LanguageServer
