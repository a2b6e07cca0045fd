import LanguageServer.Session.Basic
import LanguageServer.Proofs.Document.Acceptance
import LanguageServer.Proofs.Settings.Lookup

/-!
# What one action does to a session

The session wires its documents to its validations and its settings through listeners. `Effect` says
without them what each action can do; the laws below it say what a document, a validation, a lookup
and a message that is there after an action was before it.
-/

namespace LanguageServer

namespace Session

/-- What holds of a session from its beginning on: it listens to its documents as it did when it was
new, its documents stand under their URIs, its validations under numbers that were given out, and
the entries of its settings lead to pulls for their documents. -/
structure Coherent (session : Session) : Prop where
  listeners : session.documents.listeners = [(.changed, .validate), (.closed, .forgetSettings)]
  saveHandler : session.documents.saveHandler? = none
  keyed : session.documents.Keyed
  nodup_uris : session.documents.keys.Nodup
  numbered : ∀ id ∈ session.validations.keys, id < session.started
  nodup_ids : session.validations.keys.Nodup
  linked : session.settings.Linked

/-- What an action can do to a session, and what is sent meanwhile. -/
inductive Effect (session : Session) : Action → Session → List ServerMessage → Prop where
  | opened (flags : ClientFlags) : Effect session (.handle (.hello flags)) (session.hello flags) []
  | ready : Effect session (.handle .ready) { session with phase := .initialized }
      (.log "LSP server initialized" ::
        if session.flags.configuration then [.registerForConfiguration] else [])
  | shutdown : Effect session (.handle .shutdown) session [.log "LSP server shutting down"]
  | stored {notice : Notice} {document : TextDocument}
      (accepted : session.documents.accepts notice = true)
      (held : (session.documents.handle notice).store.get? notice.uri = some document) :
      Effect session (.handle (.notice notice))
        (validate { session with documents := (session.documents.handle notice).store } document) []
  | closed {uri : Uri} {document : TextDocument} (held : session.documents.get? uri = some document) :
      Effect session (.handle (.notice (.didClose uri)))
        { session with
          documents := (session.documents.handle (.didClose uri)).store
          settings := session.settings.remove uri } []
  | ignored {notice : Notice} (refused : session.documents.accepts notice = false)
      (kept : (session.documents.handle notice).store = session.documents) :
      Effect session (.handle (.notice notice)) session []
  | reconfigured (payload : Json) :
      Effect session (.handle (.configurationChanged payload))
        (session.configurationChanged payload) []
  | took {id : Nat} {document : TextDocument}
      (waiting : session.validations.get? id = some ⟨document, none⟩) :
      Effect session (.advance id) (session.takeLookup id ⟨document, none⟩) []
  | polled {id ticket : Nat} {document : TextDocument}
      (waiting : session.validations.get? id = some ⟨document, some ticket⟩)
      (unsettled : session.settings.peek ticket = none) :
      Effect session (.advance id) (session.pollLookup ticket).1 (session.pollLookup ticket).2
  | finished {id ticket : Nat} {document : TextDocument} {outcome : PullOutcome}
      (waiting : session.validations.get? id = some ⟨document, some ticket⟩)
      (settled : session.settings.peek ticket = some outcome) :
      Effect session (.advance id) (session.finish id document outcome).1
        (session.finish id document outcome).2
  | absent {id : Nat} (gone : session.validations.get? id = none) :
      Effect session (.advance id) session []
  | answered (ticket : Nat) (answer : PullAnswer) :
      Effect session (.answer ticket answer) (session.receive ticket answer) []

variable {session after : Session} {action : Action} {sent : List ServerMessage}

section Deliveries
variable {store : DocumentStore Reaction}
variable (h : store.listeners = [(.changed, .validate), (.closed, .forgetSettings)])
include h

theorem deliver_changed (document : TextDocument) :
    store.deliver (.changed document) = [⟨.validate, .changed document⟩] := by
  simp [DocumentStore.deliver, h, Event.kind?]

theorem deliver_closed (document : TextDocument) :
    store.deliver (.closed document) = [⟨.forgetSettings, .closed document⟩] := by
  simp [DocumentStore.deliver, h, Event.kind?]

theorem deliver_eq_nil {event : Event} (hchanged : event.kind? ≠ some .changed)
    (hclosed : event.kind? ≠ some .closed) : store.deliver event = [] := by
  simp [DocumentStore.deliver, h, Ne.symm hchanged, Ne.symm hclosed]

theorem deliveries_announce {uri : Uri} {event : TextDocument → Event}
    (hchanged : ∀ document, (event document).kind? ≠ some .changed)
    (hclosed : ∀ document, (event document).kind? ≠ some .closed) :
    (store.announce uri event).deliveries = [] := by
  unfold DocumentStore.announce
  split
  · exact deliver_eq_nil h (hchanged _) (hclosed _)
  · rfl

end Deliveries

theorem effect_ignored {notice : Notice} (hrefused : session.documents.accepts notice = false)
    (hkept : (session.documents.handle notice).store = session.documents)
    (hsilent : (session.documents.handle notice).deliveries = []) :
    Effect session (.handle (.notice notice)) (session.notice notice) [] := by
  have heq : session.notice notice = session := by
    rw [Session.notice, hsilent, hkept]
    rfl
  rw [heq]
  exact .ignored hrefused hkept

theorem effect_advance (id : Nat) :
    Effect session (.advance id) (session.advance id).1 (session.advance id).2 := by
  unfold advance
  split
  · rename_i hget
    exact .absent hget
  · rename_i validation hget
    obtain ⟨document, ticket?⟩ := validation
    cases ticket? with
    | none => exact .took hget
    | some ticket =>
      simp only
      split
      · rename_i hpeek
        exact .polled hget hpeek
      · rename_i outcome hpeek
        exact .finished hget hpeek

namespace Coherent

variable (h : session.Coherent)
include h

theorem effect_notice (notice : Notice) :
    Effect session (.handle (.notice notice)) (session.notice notice) [] := by
  cases notice with
  | didOpen item =>
    have heq : session.notice (.didOpen item) =
        validate { session with documents := (session.documents.handle (.didOpen item)).store }
          (.ofItem item) := by
      simp only [Session.notice, DocumentStore.handle, DocumentStore.openDocument]
      rw [deliver_eq_nil h.listeners (by simp [Event.kind?]) (by simp [Event.kind?]),
        deliver_changed h.listeners]
      rfl
    rw [heq]
    exact .stored rfl (by simp [DocumentStore.get?_handle, Notice.act])
  | didChange uri version changes =>
    rcases session.documents.changeDocument_cases uri version changes with
      ⟨last, document, hlast, hget, haccepted, heq⟩ | ⟨hrefused, heq⟩
    · have heq' : session.notice (.didChange uri version changes) =
          validate { session with documents :=
            (session.documents.handle (.didChange uri version changes)).store }
              (document.update last.text version) := by
        simp only [Session.notice, DocumentStore.handle, heq]
        rw [deliver_changed h.listeners]
        rfl
      rw [heq']
      refine .stored haccepted ?_
      simp only [DocumentStore.handle, heq]
      exact (ArrivalMap.get?_insert _ _ _ _).trans (if_pos rfl)
    · exact effect_ignored hrefused (by rw [DocumentStore.handle, heq])
        (by rw [DocumentStore.handle, heq])
  | didClose uri =>
    cases hget : session.documents.get? uri with
    | none =>
      have heq : session.documents.closeDocument uri = { store := session.documents } := by
        simp [DocumentStore.closeDocument, hget]
      exact effect_ignored rfl (by rw [DocumentStore.handle, heq])
        (by rw [DocumentStore.handle, heq])
    | some document =>
      have heq : session.notice (.didClose uri) =
          { session with
            documents := (session.documents.handle (.didClose uri)).store
            settings := session.settings.remove uri } := by
        simp only [Session.notice, DocumentStore.handle, DocumentStore.closeDocument, hget]
        rw [deliver_closed h.listeners]
        simp only [List.foldl_cons, List.foldl_nil, react, Event.document,
          h.keyed uri document hget]
      rw [heq]
      exact .closed hget
  | willSave uri reason =>
    exact effect_ignored rfl (DocumentStore.store_announce _ _ _)
      (deliveries_announce h.listeners (by simp [Event.kind?]) (by simp [Event.kind?]))
  | didSave uri =>
    exact effect_ignored rfl (DocumentStore.store_announce _ _ _)
      (deliveries_announce h.listeners (by simp [Event.kind?]) (by simp [Event.kind?]))
  | willSaveWaitUntil uri reason =>
    refine effect_ignored rfl (DocumentStore.store_editsBeforeSave _ _ _) ?_
    simp [DocumentStore.handle, DocumentStore.editsBeforeSave, h.saveHandler]

theorem effect_step (action : Action) :
    Effect session action (session.step action).1 (session.step action).2 := by
  cases action with
  | handle message =>
    cases message with
    | hello flags => exact .opened flags
    | ready => exact .ready
    | shutdown => exact .shutdown
    | notice notice => exact h.effect_notice notice
    | configurationChanged payload => exact .reconfigured payload
  | advance id => exact effect_advance id
  | answer ticket answer => exact .answered ticket answer

end Coherent

def newValidations (first : Nat) (documents : List TextDocument) : List (Nat × Validation) :=
  (documents.zipIdx first).map fun d => (d.2, ⟨d.1, none⟩)

theorem mem_newValidations_iff {first id : Nat} {documents : List TextDocument}
    {validation : Validation} :
    (id, validation) ∈ newValidations first documents ↔
      first ≤ id ∧ documents[id - first]? = some validation.document ∧ validation.ticket? = none := by
  obtain ⟨document, ticket?⟩ := validation
  simp only [newValidations, List.mem_map, List.mem_zipIdx_iff_le_and_getElem?_sub, Prod.exists,
    Prod.mk.injEq, Validation.mk.injEq]
  constructor
  · rintro ⟨d, n, ⟨hle, hget⟩, rfl, rfl, rfl⟩
    exact ⟨hle, hget, rfl⟩
  · rintro ⟨hle, hget, rfl⟩
    exact ⟨document, id, ⟨hle, hget⟩, rfl, rfl, rfl⟩

theorem map_fst_newValidations (first : Nat) (documents : List TextDocument) :
    (newValidations first documents).map Prod.fst = List.range' first documents.length := by
  rw [newValidations, List.map_map, ← List.zipIdx_map_snd]
  rfl

theorem map_document_newValidations (first : Nat) (documents : List TextDocument) :
    (newValidations first documents).map (fun e => e.2.document) = documents := by
  rw [newValidations, List.map_map]
  exact List.zipIdx_map_fst first documents

theorem Coherent.not_mem_keys_of_mem_newValidations (h : session.Coherent)
    {documents : List TextDocument} :
    ∀ e ∈ newValidations session.started documents, e.1 ∉ session.validations.keys := by
  rintro ⟨id, validation⟩ he hid
  exact Nat.not_lt.mpr (mem_newValidations_iff.mp he).1 (h.numbered id hid)

theorem foldl_validate (documents : List TextDocument)
    (hnumbered : ∀ id ∈ session.validations.keys, id < session.started) :
    documents.foldl validate session =
      { session with
        validations := ⟨session.validations.entries ++ newValidations session.started documents⟩
        started := session.started + documents.length } := by
  induction documents generalizing session with
  | nil => simp [newValidations]
  | cons document documents ih =>
    have hfresh : session.started ∉ session.validations.keys :=
      fun hmem => Nat.lt_irrefl _ (hnumbered _ hmem)
    have hentries := ArrivalMap.entries_insert_of_not_mem hfresh (⟨document, none⟩ : Validation)
    have hnext : ∀ id ∈ (session.validate document).validations.keys,
        id < (session.validate document).started := by
      intro id hid
      simp only [validate, ArrivalMap.keys, hentries, List.map_append, List.mem_append,
        List.map_cons, List.map_nil, List.mem_singleton] at hid ⊢
      rcases hid with hold | rfl
      · exact Nat.lt_succ_of_lt (hnumbered id hold)
      · exact Nat.lt_succ_self _
    rw [List.foldl_cons, ih hnext]
    simp only [validate, hentries, newValidations, List.zipIdx_cons, List.map_cons, List.append_assoc,
      List.singleton_append, List.length_cons, Nat.add_right_comm, Nat.add_assoc]

def reconfigure (session : Session) (payload : Json) : SettingsCache :=
  if session.flags.configuration then session.settings.invalidateAll
  else session.settings.setGlobal (.ofPayload payload)

/-- A change of the configuration has every open document validated with the settings after it. -/
theorem Coherent.configurationChanged_eq (h : session.Coherent) (payload : Json) :
    session.configurationChanged payload =
      { session with
        settings := session.reconfigure payload
        validations :=
          ⟨session.validations.entries ++ newValidations session.started session.documents.all⟩
        started := session.started + session.documents.all.length } := by
  have hnumbered : ∀ id ∈ { session with settings := session.reconfigure payload }.validations.keys,
      id < session.started := h.numbered
  exact foldl_validate session.documents.all hnumbered

/-- No action takes a lookup away or changes a known outcome. -/
theorem Effect.extends (he : Effect session action after sent) (h : session.Coherent) :
    session.settings.Extends after.settings := by
  cases he with
  | opened flags => exact SettingsCache.extends_of_lookups_eq rfl
  | ready | shutdown | ignored | absent => exact .refl _
  | stored => exact .refl _
  | closed => exact SettingsCache.extends_of_lookups_eq rfl
  | reconfigured payload =>
    rw [h.configurationChanged_eq]
    apply SettingsCache.extends_of_lookups_eq
    simp only [reconfigure]
    split <;> rfl
  | took => exact SettingsCache.extends_get _ _
  | polled => exact SettingsCache.extends_poll _ _
  | @finished id ticket document outcome =>
    cases outcome with
    | ok settings => exact .refl _
    | error error =>
      exact SettingsCache.extends_of_lookups_eq (SettingsCache.lookups_evictFailed _ _)
  | answered ticket answer => exact SettingsCache.extends_receive _ _ _

namespace Coherent

variable (h : session.Coherent)
include h

theorem handle (notice : Notice) :
    Coherent { session with documents := (session.documents.handle notice).store } where
  listeners := (DocumentStore.listeners_handle _ notice).trans h.listeners
  saveHandler := (DocumentStore.saveHandler?_handle _ notice).trans h.saveHandler
  keyed := h.keyed.handle notice
  nodup_uris := DocumentStore.nodup_keys_handle h.nodup_uris notice
  numbered := h.numbered
  nodup_ids := h.nodup_ids
  linked := h.linked

theorem withSettings {settings : SettingsCache} (hlinked : settings.Linked) :
    Coherent { session with settings } := { h with linked := hlinked }

theorem withDropped {settings : SettingsCache} (hlookups : settings.lookups = session.settings.lookups)
    (hentries : ∀ uri ticket, settings.entries.get? uri = some ticket →
      session.settings.entries.get? uri = some ticket) : Coherent { session with settings } :=
  h.withSettings (SettingsCache.linked_of_entries_subset h.linked
    (SettingsCache.extends_of_lookups_eq hlookups) hentries)

theorem spawn (documents : List TextDocument) : (documents.foldl validate session).Coherent := by
  rw [foldl_validate documents h.numbered]
  refine { h with numbered := ?_, nodup_ids := ?_ }
  · intro id hid
    simp only [ArrivalMap.keys, List.map_append, List.mem_append, map_fst_newValidations,
      List.mem_range'_1] at hid
    rcases hid with hold | hlate
    · exact Nat.lt_add_right _ (h.numbered id hold)
    · exact hlate.2
  · simp only [ArrivalMap.keys, List.map_append, map_fst_newValidations]
    refine List.nodup_append.mpr ⟨h.nodup_ids, List.nodup_range', ?_⟩
    rintro id hold _ hlate rfl
    exact absurd (h.numbered id hold) (Nat.not_lt.mpr (List.mem_range'_1.mp hlate).1)

theorem replace {id : Nat} {old : Validation} (held : session.validations.get? id = some old)
    (validation : Validation) :
    Coherent { session with validations := session.validations.insert id validation } := by
  refine { h with numbered := ?_, nodup_ids := ArrivalMap.nodup_keys_insert h.nodup_ids _ _ }
  simp only [ArrivalMap.keys_insert, if_pos (ArrivalMap.mem_keys_of_get? held)]
  exact h.numbered

theorem drop (id : Nat) : Coherent { session with validations := session.validations.erase id } := by
  refine { h with numbered := ?_, nodup_ids := ArrivalMap.nodup_keys_erase h.nodup_ids _ }
  intro other hother
  rw [ArrivalMap.keys_erase] at hother
  exact h.numbered other (List.mem_filter.mp hother).1

theorem of_effect (he : Effect session action after sent) : after.Coherent := by
  cases he with
  | opened flags =>
    have hlinked : (session.hello flags).settings.Linked := by
      intro uri ticket hentry
      cases hentry
    exact { h with linked := hlinked }
  | ready | shutdown | ignored | absent => exact { h with }
  | @stored notice document => exact (h.handle notice).spawn [document]
  | @closed uri =>
    exact (h.handle (.didClose uri)).withDropped rfl fun _ _ => SettingsCache.get?_of_get?_remove
  | reconfigured payload =>
    have hreconfigured : Coherent { session with settings := session.reconfigure payload } := by
      unfold reconfigure
      split
      · exact h.withDropped rfl (fun uri ticket hentry => by cases hentry)
      · exact h.withDropped rfl fun _ _ hentry => hentry
    exact hreconfigured.spawn _
  | took waiting => exact (h.withSettings (h.linked.get _)).replace waiting _
  | @polled id ticket =>
    have hentries := session.settings.entries_poll ticket
    exact h.withSettings (SettingsCache.linked_of_entries_subset h.linked
      (SettingsCache.extends_poll _ ticket) fun uri held hentry => hentries ▸ hentry)
  | @finished id ticket document outcome =>
    cases outcome with
    | ok settings => exact h.drop id
    | error error =>
      exact (h.drop id).withDropped (SettingsCache.lookups_evictFailed _ _)
        fun _ _ => SettingsCache.get?_of_get?_evictFailed
  | answered ticket answer =>
    exact h.withSettings (SettingsCache.linked_of_entries_subset h.linked
      (SettingsCache.extends_receive _ _ _) fun _ _ hentry => hentry)

end Coherent

theorem coherent_new (rule : Rule) : (new rule).Coherent where
  listeners := rfl
  saveHandler := rfl
  keyed := by intro uri document hget; cases hget
  nodup_uris := List.nodup_nil
  numbered := by intro id hid; cases hid
  nodup_ids := List.nodup_nil
  linked := by intro uri ticket hentry; cases hentry

end Session

end LanguageServer
