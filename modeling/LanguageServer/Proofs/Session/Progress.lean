import LanguageServer.Proofs.Session.Run

/-!
# Validations over a run

An action starts validations, lets one take its lookup or ends one. `begun` and `ended` read off
what was started and what has gone in the course of a run, and `publications` tells which of them
published: no validation is lost on the way or ends twice, and what is published are the validations
that ended, in their order, where their lookups gave settings.
-/

namespace LanguageServer

def ServerMessage.published? : ServerMessage → Option Uri
  | publish uri _ _ => some uri
  | _ => none

namespace Validation

def outcome? (validation : Validation) (settings : SettingsCache) : Option PullOutcome :=
  validation.ticket?.bind settings.peek

def succeeded (validation : Validation) (settings : SettingsCache) : Bool :=
  match validation.outcome? settings with
  | some (.ok _) => true
  | _ => false

theorem outcome?_extends {validation : Validation} {settings later : SettingsCache}
    (h : settings.Extends later) {outcome : PullOutcome}
    (hknown : validation.outcome? settings = some outcome) :
    validation.outcome? later = some outcome := by
  obtain ⟨ticket, hticket, hpeek⟩ := Option.bind_eq_some_iff.mp hknown
  exact Option.bind_eq_some_iff.mpr ⟨ticket, hticket, h.peek hpeek⟩

end Validation

namespace Session

/-- What a validation that ends now publishes. -/
def publication? (session : Session) (validation : Validation) : Option ServerMessage :=
  match validation.outcome? session.settings with
  | some (.ok settings) =>
    some (.publish validation.document.uri
      (Diagnostic.compute session.rule validation.document settings session.flags.relatedInformation)
      validation.document.version)
  | _ => none

def Action.opens (uri : Uri) : Action → Bool
  | .handle (.notice (.didOpen item)) => item.uri = uri
  | _ => false

/-- Whether an action is a change of the document that its store accepts. -/
def changes (session : Session) (uri : Uri) : Action → Bool
  | .handle (.notice (.didChange about version changes)) =>
    about = uri && session.documents.accepts (.didChange about version changes)
  | _ => false

/-- Whether an action is a change of the configuration that finds the document open. -/
def reconfigures (session : Session) (uri : Uri) : Action → Bool
  | .handle (.configurationChanged _) => (session.documents.get? uri).isSome
  | _ => false

def due (session : Session) (uri : Uri) (action : Action) : Nat :=
  (action.opens uri).toNat + (session.changes uri action).toNat +
    (session.reconfigures uri action).toNat

def steps (session : Session) : List Action → List (Session × Action)
  | [] => []
  | action :: actions => (session, action) :: (session.step action).1.steps actions

def begunBy (session : Session) (action : Action) : List (Nat × Validation) :=
  (session.step action).1.validations.without session.validations

def endedBy (session : Session) (action : Action) : List (Nat × Validation) :=
  session.validations.without (session.step action).1.validations

def publicationsBy (session : Session) : Action → List (Nat × Uri)
  | .advance id =>
    ((session.step (.advance id)).2.filterMap ServerMessage.published?).map fun uri => (id, uri)
  | _ => []

def begun (session : Session) (actions : List Action) : List (Nat × Validation) :=
  (session.steps actions).flatMap fun s => s.1.begunBy s.2

def ended (session : Session) (actions : List Action) : List (Nat × Validation) :=
  (session.steps actions).flatMap fun s => s.1.endedBy s.2

def publications (session : Session) (actions : List Action) : List (Nat × Uri) :=
  (session.steps actions).flatMap fun s => s.1.publicationsBy s.2

variable {session after : Session} {action : Action} {sent : List ServerMessage}

theorem filterMap_publication? (session : Session) (validation : Validation) :
    (session.publication? validation).toList.filterMap ServerMessage.published? =
      if validation.succeeded session.settings then [validation.document.uri] else [] := by
  rw [publication?, Validation.succeeded]
  split <;> rfl

theorem publication?_eq_of_outcome? {validation : Validation} {outcome : PullOutcome}
    (hknown : validation.outcome? session.settings = some outcome)
    (hlater : validation.outcome? after.settings = some outcome) (hrule : after.rule = session.rule)
    (hflags : after.flags = session.flags) :
    after.publication? validation = session.publication? validation := by
  rw [publication?, publication?, hknown, hlater, hrule, hflags]

theorem due_notice (session : Session) (uri : Uri) (notice : Notice) :
    session.due uri (.handle (.notice notice)) =
      if session.documents.accepts notice = true ∧ notice.uri = uri then 1 else 0 := by
  cases notice with
  | didOpen item =>
    by_cases huri : item.uri = uri <;>
      simp [due, Action.opens, changes, reconfigures, DocumentStore.accepts, Notice.uri, huri]
  | didChange about version changes =>
    by_cases huri : about = uri
    · subst huri
      cases haccepts : session.documents.accepts (.didChange about version changes) <;>
        simp [due, Action.opens, Session.changes, reconfigures, Notice.uri, haccepts]
    · simp [due, Action.opens, Session.changes, reconfigures, Notice.uri, huri]
  | _ => simp [due, Action.opens, changes, reconfigures, DocumentStore.accepts]

theorem due_le_one (session : Session) (uri : Uri) (action : Action) :
    session.due uri action ≤ 1 := by
  cases action with
  | handle message =>
    cases message with
    | notice notice =>
      rw [due_notice]
      split <;> omega
    | _ => simp [due, Action.opens, changes, reconfigures, Bool.toNat_le]
  | _ => exact Nat.zero_le _

/-- What an action does to the validations under way, and what it publishes. -/
inductive Progress (session : Session) (action : Action) (after : Session)
    (sent : List ServerMessage) : Prop where
  | begun (documents : List TextDocument)
      (owed : ∀ uri, documents.countP (·.uri = uri) = session.due uri action)
      (validations : after.validations =
        ⟨session.validations.entries ++ newValidations session.started documents⟩)
      (started : after.started = session.started + documents.length)
      (silent : sent.filterMap ServerMessage.published? = [])
  | took {id ticket : Nat} {document : TextDocument} (moved : action = .advance id)
      (waiting : session.validations.get? id = some ⟨document, none⟩)
      (validations : after.validations =
        session.validations.insert id ⟨document, some ticket⟩)
      (started : after.started = session.started)
      (silent : sent.filterMap ServerMessage.published? = [])
  | ended {id : Nat} {validation : Validation} {outcome : PullOutcome}
      (moved : action = .advance id)
      (waiting : session.validations.get? id = some validation)
      (settled : validation.outcome? session.settings = some outcome)
      (validations : after.validations = session.validations.erase id)
      (started : after.started = session.started)
      (published : sent = (session.publication? validation).toList)

theorem progress_idle (hdue : ∀ uri, session.due uri action = 0)
    (hvalidations : after.validations = session.validations)
    (hstarted : after.started = session.started)
    (hsilent : sent.filterMap ServerMessage.published? = []) :
    Progress session action after sent :=
  .begun [] (fun uri => (hdue uri).symm) (by simp [newValidations, hvalidations]) hstarted hsilent

theorem Effect.progress (he : Effect session action after sent) (h : session.Coherent) :
    Progress session action after sent := by
  cases he with
  | opened flags => exact progress_idle (fun _ => rfl) rfl rfl rfl
  | ready =>
    refine progress_idle (fun _ => rfl) rfl rfl ?_
    cases session.flags.configuration <;> rfl
  | shutdown => exact progress_idle (fun _ => rfl) rfl rfl rfl
  | @stored notice document accepted held =>
    have huri : document.uri = notice.uri := (h.keyed.handle notice) notice.uri document held
    have heq := foldl_validate [document] (h.handle notice).numbered
    refine .begun [document] (fun uri => ?_) (congrArg Session.validations heq)
      (congrArg Session.started heq) rfl
    simp [due_notice, accepted, huri, List.countP_singleton]
  | closed held =>
    exact progress_idle (fun uri => by simp [due_notice, DocumentStore.accepts]) rfl rfl rfl
  | ignored refused => exact progress_idle (fun uri => by simp [due_notice, refused]) rfl rfl rfl
  | reconfigured payload =>
    have heq := h.configurationChanged_eq payload
    refine .begun session.documents.all (fun uri => ?_) (congrArg Session.validations heq)
      (congrArg Session.started heq) rfl
    rw [DocumentStore.countP_uri_all h.keyed h.nodup_uris]
    cases hopen : (session.documents.get? uri).isSome <;>
      simp [due, Action.opens, changes, reconfigures, hopen]
  | took waiting => exact .took rfl waiting rfl rfl rfl
  | polled waiting unsettled =>
    refine progress_idle (fun _ => rfl) rfl rfl ?_
    simp [pollLookup, List.filterMap_map, ServerMessage.published?, Function.comp_def]
  | @finished id ticket document outcome waiting settled =>
    have hknown : Validation.outcome? ⟨document, some ticket⟩ session.settings = some outcome :=
      settled
    refine .ended rfl waiting hknown (by cases outcome <;> rfl) (by cases outcome <;> rfl) ?_
    rw [publication?, hknown]
    cases outcome <;> rfl
  | absent gone => exact progress_idle (fun _ => rfl) rfl rfl rfl
  | answered ticket answer => exact progress_idle (fun _ => rfl) rfl rfl rfl

namespace Progress

variable (hp : Progress session action after sent) (h : session.Coherent)
include hp h

theorem countP_begun (uri : Uri) :
    (after.validations.without session.validations).countP (·.2.document.uri = uri) =
      session.due uri action := by
  cases hp with
  | begun documents owed validations =>
    rw [validations, ArrivalMap.append_without h.not_mem_keys_of_mem_newValidations, ← owed]
    conv_rhs => rw [← map_document_newValidations session.started documents, List.countP_map]
    rfl
  | took moved waiting validations =>
    rw [validations, ArrivalMap.insert_without (ArrivalMap.mem_keys_of_get? waiting), moved]
    rfl
  | ended moved waiting settled validations =>
    rw [validations, ArrivalMap.erase_without, moved]
    rfl

theorem range_started :
    List.range session.started ++
        (after.validations.without session.validations).map Prod.fst =
      List.range after.started := by
  cases hp with
  | begun documents owed validations started =>
    rw [validations, ArrivalMap.append_without h.not_mem_keys_of_mem_newValidations,
      map_fst_newValidations, started, List.range_eq_range', List.range_eq_range']
    simpa using List.range'_append_1 (s := 0) (m := session.started) (n := documents.length)
  | took moved waiting validations started =>
    rw [validations, ArrivalMap.insert_without (ArrivalMap.mem_keys_of_get? waiting), started]
    exact List.append_nil _
  | ended moved waiting settled validations started =>
    rw [validations, ArrivalMap.erase_without, started]
    exact List.append_nil _

theorem balance :
    ((session.validations.entries ++ after.validations.without session.validations).map
        fun e => (e.1, e.2.document)).Perm
      ((session.validations.without after.validations ++ after.validations.entries).map
        fun e => (e.1, e.2.document)) := by
  cases hp with
  | begun documents owed validations =>
    rw [validations, ArrivalMap.append_without h.not_mem_keys_of_mem_newValidations,
      ArrivalMap.without_append]
    rfl
  | @took id ticket document moved waiting validations =>
    have hsame := ArrivalMap.map_entries_insert (fun e : Nat × Validation => (e.1, e.2.document))
      (v := ⟨document, some ticket⟩) waiting rfl
    rw [validations, ArrivalMap.insert_without (ArrivalMap.mem_keys_of_get? waiting),
      ArrivalMap.without_insert, List.append_nil, List.nil_append, hsame]
  | ended moved waiting settled validations =>
    rw [validations, ArrivalMap.erase_without, ArrivalMap.without_erase h.nodup_ids waiting,
      List.append_nil]
    exact (ArrivalMap.perm_cons_erase h.nodup_ids waiting).map _

theorem outcome_ended :
    ∀ e ∈ session.validations.without after.validations,
      ∃ outcome, e.2.outcome? session.settings = some outcome := by
  cases hp with
  | begun documents owed validations =>
    rw [validations, ArrivalMap.without_append]
    simp
  | took moved waiting validations =>
    rw [validations, ArrivalMap.without_insert]
    simp
  | @ended id validation outcome moved waiting settled validations =>
    rw [validations, ArrivalMap.without_erase h.nodup_ids waiting]
    intro e he
    obtain rfl := List.mem_singleton.mp he
    exact ⟨outcome, settled⟩

theorem filter_published (uri : Uri) :
    sent.filter (·.published? = some uri) =
      ((session.validations.without after.validations).filter (·.2.document.uri = uri)).filterMap
        fun e => session.publication? e.2 := by
  have hsilent : sent.filterMap ServerMessage.published? = [] →
      sent.filter (·.published? = some uri) = [] := by
    intro hnone
    apply List.filter_eq_nil_iff.mpr
    intro message hmem
    simp [List.filterMap_eq_nil_iff.mp hnone message hmem]
  cases hp with
  | begun documents owed validations started silent =>
    rw [hsilent silent, validations, ArrivalMap.without_append]
    rfl
  | took moved waiting validations started silent =>
    rw [hsilent silent, validations, ArrivalMap.without_insert]
    rfl
  | @ended id validation outcome moved waiting settled validations started published =>
    rw [published, validations, ArrivalMap.without_erase h.nodup_ids waiting, publication?, settled]
    cases outcome <;> by_cases huri : validation.document.uri = uri <;>
      simp [ServerMessage.published?, huri, publication?, settled]

end Progress

theorem publicationsBy_of_silent
    (h : (session.step action).2.filterMap ServerMessage.published? = []) :
    session.publicationsBy action = [] := by
  cases action with
  | advance id => simp [publicationsBy, h]
  | handle message => rfl
  | answer ticket answer => rfl

namespace Coherent

variable (h : session.Coherent)
include h

theorem progress_step (action : Action) :
    Progress session action (session.step action).1 (session.step action).2 :=
  (h.effect_step action).progress h

theorem publicationsBy_eq (action : Action) :
    session.publicationsBy action =
      ((session.endedBy action).filter (·.2.succeeded session.settings)).map
        fun e => (e.1, e.2.document.uri) := by
  unfold endedBy
  cases h.progress_step action with
  | begun documents owed validations started silent =>
    rw [publicationsBy_of_silent silent, validations, ArrivalMap.without_append]
    rfl
  | took moved waiting validations started silent =>
    rw [publicationsBy_of_silent silent, validations, ArrivalMap.without_insert]
    rfl
  | @ended id validation outcome moved waiting settled validations started published =>
    rw [validations, ArrivalMap.without_erase h.nodup_ids waiting]
    subst moved
    rw [publicationsBy, published, filterMap_publication?]
    cases hgave : validation.succeeded session.settings <;> simp [hgave]

theorem map_publicationsBy (action : Action) :
    (session.publicationsBy action).map Prod.snd =
      (session.step action).2.filterMap ServerMessage.published? := by
  cases h.progress_step action with
  | begun documents owed validations started silent | took moved waiting validations started silent =>
    rw [publicationsBy_of_silent silent, silent]
    rfl
  | ended moved =>
    subst moved
    simp [publicationsBy, Function.comp_def]

end Coherent

theorem steps_append (session : Session) (first second : List Action) :
    session.steps (first ++ second) =
      session.steps first ++ (session.run first).1.steps second := by
  induction first generalizing session with
  | nil => rfl
  | cons action first ih => simp [steps, run, ih]

theorem publications_append (session : Session) (first second : List Action) :
    session.publications (first ++ second) =
      session.publications first ++ (session.run first).1.publications second := by
  simp only [publications, steps_append, List.flatMap_append]

namespace Coherent

variable (h : session.Coherent)
include h

theorem countP_begun (uri : Uri) (actions : List Action) :
    (session.begun actions).countP (·.2.document.uri = uri) =
      (session.steps actions).countP (fun s => s.2.opens uri) +
        (session.steps actions).countP (fun s => s.1.changes uri s.2) +
        (session.steps actions).countP (fun s => s.1.reconfigures uri s.2) := by
  induction actions generalizing session with
  | nil => rfl
  | cons action actions ih =>
    have htoNat : ∀ b : Bool, b.toNat = if b then 1 else 0 := by decide
    have hstep := (h.progress_step action).countP_begun h uri
    have hrest := ih (h.step action)
    simp only [begun, begunBy, steps, List.flatMap_cons, List.countP_append, List.countP_cons]
      at hstep hrest ⊢
    rw [hstep, hrest, due]
    simp only [htoNat]
    omega

theorem range_started_run (actions : List Action) :
    List.range session.started ++ (session.begun actions).map Prod.fst =
      List.range (session.run actions).1.started := by
  induction actions generalizing session with
  | nil => exact List.append_nil _
  | cons action actions ih =>
    have hstep := (h.progress_step action).range_started h
    have hrest := ih (h.step action)
    simp only [begun, begunBy, steps, List.flatMap_cons, List.map_append, ← List.append_assoc]
      at hstep hrest ⊢
    rw [hstep]
    exact hrest

/-- What was under way or is started in a run is under way at its end or has ended. -/
theorem balance_run (actions : List Action) :
    ((session.validations.entries ++ session.begun actions).map fun e => (e.1, e.2.document)).Perm
      ((session.ended actions ++ (session.run actions).1.validations.entries).map
        fun e => (e.1, e.2.document)) := by
  induction actions generalizing session with
  | nil => simp [begun, ended, steps, Session.run]
  | cons action actions ih =>
    have hstep := (h.progress_step action).balance h
    have hrest := ih (h.step action)
    -- what the first step leaves under way is what the rest of the run begins with
    have hfirst := hstep.append_right (((session.step action).1.begun actions).map
      fun e => (e.1, e.2.document))
    have hlater := hrest.append_left ((session.endedBy action).map fun e => (e.1, e.2.document))
    simp only [begun, begunBy, ended, endedBy, steps, List.flatMap_cons, List.map_append,
      List.append_assoc] at hfirst hlater ⊢
    exact hfirst.trans hlater

theorem outcome_ended_run (actions : List Action) :
    ∀ e ∈ session.ended actions,
      ∃ outcome, e.2.outcome? (session.run actions).1.settings = some outcome := by
  induction actions generalizing session with
  | nil => simp [ended, steps]
  | cons action actions ih =>
    intro e he
    rcases List.mem_append.mp he with hnow | hlater
    · obtain ⟨outcome, hknown⟩ := (h.progress_step action).outcome_ended h e hnow
      exact ⟨outcome, Validation.outcome?_extends (h.extends_run (action :: actions)) hknown⟩
    · exact ih (h.step action) e hlater

theorem succeeded_ended_iff {action : Action} {e : Nat × Validation} (he : e ∈ session.endedBy action)
    {later : SettingsCache} (hlater : session.settings.Extends later) :
    e.2.succeeded later = e.2.succeeded session.settings := by
  obtain ⟨outcome, hknown⟩ := (h.progress_step action).outcome_ended h e he
  simp only [Validation.succeeded, hknown, Validation.outcome?_extends hlater hknown]

/-- The validations that ended publish in the order in which they ended, each once if its lookup gave
settings and never otherwise. -/
theorem publications_eq (actions : List Action) :
    session.publications actions =
      ((session.ended actions).filter (·.2.succeeded (session.run actions).1.settings)).map
        fun e => (e.1, e.2.document.uri) := by
  induction actions generalizing session with
  | nil => rfl
  | cons action actions ih =>
    have hnow : (session.endedBy action).filter (·.2.succeeded session.settings) =
        (session.endedBy action).filter
          (·.2.succeeded (session.run (action :: actions)).1.settings) :=
      List.filter_congr fun e he =>
        (h.succeeded_ended_iff he (h.extends_run (action :: actions))).symm
    have hfirst := h.publicationsBy_eq action
    have hrest := ih (h.step action)
    simp only [publications, ended, steps, List.flatMap_cons, List.filter_append, List.map_append]
      at hrest ⊢
    rw [hfirst, hnow, hrest]
    rfl

/-- What is published for a document is what its validations that ended publish, in the order in which
they ended. -/
theorem filter_published_run {flags : ClientFlags} (hflags : session.recordedFlags? = some flags)
    (uri : Uri) (actions : List Action) :
    (session.run actions).2.filter (·.published? = some uri) =
      ((session.ended actions).filter (·.2.document.uri = uri)).filterMap
        fun e => (session.run actions).1.publication? e.2 := by
  induction actions generalizing session with
  | nil => rfl
  | cons action actions ih =>
    have hnow : ∀ e ∈ (session.endedBy action).filter (·.2.document.uri = uri),
        session.publication? e.2 = (session.run (action :: actions)).1.publication? e.2 := by
      intro e he
      obtain ⟨outcome, hknown⟩ :=
        (h.progress_step action).outcome_ended h e (List.mem_filter.mp he).1
      exact (publication?_eq_of_outcome? hknown
        (Validation.outcome?_extends (h.extends_run (action :: actions)) hknown)
        (h.rule_run _) ((h.flags_run hflags _).trans (h.flags_run hflags []).symm)).symm
    have hfirst := ((h.progress_step action).filter_published h uri).trans
      (List.filterMap_congr hnow)
    have hrest := ih (h.step action) ((h.effect_step action).recordedFlags?_eq h hflags)
    simp only [ended, endedBy, steps, List.flatMap_cons, Session.run, List.filter_append,
      List.filterMap_append] at hfirst hrest ⊢
    rw [hfirst, hrest]

theorem map_publications (actions : List Action) :
    (session.publications actions).map Prod.snd =
      (session.run actions).2.filterMap ServerMessage.published? := by
  induction actions generalizing session with
  | nil => rfl
  | cons action actions ih =>
    have hfirst := h.map_publicationsBy action
    have hrest := ih (h.step action)
    simp only [publications, steps, List.flatMap_cons, List.map_append, Session.run,
      List.filterMap_append] at hfirst hrest ⊢
    rw [hfirst, hrest]

end Coherent

end Session

end LanguageServer
