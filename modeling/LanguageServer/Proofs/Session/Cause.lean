import LanguageServer.Proofs.Session.Run

/-!
# Where things in a session come from

For a document, a validation, a lookup, an entry or a message that is there after an action: what
of it was there before, and what the action did.
-/

namespace LanguageServer

namespace Session

variable {session after : Session} {action : Action} {sent : List ServerMessage}

/-- What an action makes of the lookup of a ticket, with what is sent meanwhile. -/
inductive LookupTurn (action : Action) (sent : List ServerMessage) (ticket : Nat)
    (lookup : SettingsLookup) : SettingsLookup → Prop where
  | kept (silent : ∀ answer, action ≠ .answer ticket answer) :
      LookupTurn action sent ticket lookup lookup
  | polled (silent : ∀ answer, action ≠ .answer ticket answer)
      (asked : ∀ uri, lookup.poll.2 = some uri → .pullSettings ticket uri ∈ sent) :
      LookupTurn action sent ticket lookup lookup.poll.1
  | answered {answer : PullAnswer} (given : action = .answer ticket answer) :
      LookupTurn action sent ticket lookup (lookup.receive answer)

namespace Effect

variable (he : Effect session action after sent)
include he

theorem document_cases (h : session.Coherent) {document : TextDocument} {uri : Uri}
    (hget : after.documents.get? uri = some document) :
    session.documents.get? uri = some document ∨
      ∃ notice, action = .handle (.notice notice) ∧ session.documents.accepts notice = true ∧
        notice.uri = uri := by
  cases he with
  | @stored notice _ accepted held =>
    have hhandled : (session.documents.handle notice).store.get? uri = some document := hget
    rw [DocumentStore.get?_handle] at hhandled
    split at hhandled
    · rename_i huri
      exact Or.inr ⟨notice, rfl, accepted, huri.symm⟩
    · exact Or.inl hhandled
  | @closed about _ held =>
    have hhandled : (session.documents.handle (.didClose about)).store.get? uri = some document := hget
    rw [DocumentStore.get?_handle] at hhandled
    split at hhandled
    · cases hhandled
    · exact Or.inl hhandled
  | reconfigured payload =>
    rw [h.configurationChanged_eq] at hget
    exact Or.inl hget
  | @finished id ticket document outcome => cases outcome <;> exact Or.inl hget
  | _ => exact Or.inl hget

/-- A validation under way was so before, or has just been started with the document that is open,
or has just taken its lookup. -/
theorem validation_cases (h : session.Coherent) {id : Nat} {validation : Validation}
    (hget : after.validations.get? id = some validation) :
    session.validations.get? id = some validation ∨
      (session.started ≤ id ∧ validation.ticket? = none ∧
        after.documents.get? validation.document.uri = some validation.document) ∨
      ∃ document, action = .advance id ∧
        session.validations.get? id = some ⟨document, none⟩ ∧
        validation = ⟨document, some (session.settings.get document.uri).1⟩ ∧
        after.settings = (session.settings.get document.uri).2 := by
  have hspawned : ∀ documents : List TextDocument,
      (∀ document ∈ documents, after.documents.get? document.uri = some document) →
      after.validations = ⟨session.validations.entries ++ newValidations session.started documents⟩ →
      session.validations.get? id = some validation ∨
        (session.started ≤ id ∧ validation.ticket? = none ∧
          after.documents.get? validation.document.uri = some validation.document) := by
    intro documents hopen heq
    have hmem := ArrivalMap.mem_entries_of_get? hget
    rw [heq] at hmem
    rcases List.mem_append.mp hmem with hold | hnew
    · exact Or.inl (ArrivalMap.get?_of_mem_entries h.nodup_ids hold)
    · obtain ⟨hle, hdocument, hticket⟩ := mem_newValidations_iff.mp hnew
      exact Or.inr ⟨hle, hticket, hopen _ (List.mem_of_getElem? hdocument)⟩
  cases he with
  | @stored notice document accepted held =>
    have huri : document.uri = notice.uri := (h.keyed.handle notice) notice.uri document held
    have heq := foldl_validate [document] (h.handle notice).numbered
    refine (hspawned [document] ?_ (congrArg validations heq)).imp_right Or.inl
    intro other hother
    obtain rfl := List.mem_singleton.mp hother
    rw [huri]
    exact held
  | reconfigured payload =>
    have heq := h.configurationChanged_eq payload
    refine (hspawned session.documents.all ?_ (congrArg validations heq)).imp_right Or.inl
    intro document hdocument
    rw [heq]
    exact (DocumentStore.mem_all_iff h.keyed h.nodup_uris).mp hdocument
  | @took other document waiting =>
    have hinsert : (session.validations.insert other
        ⟨document, some (session.settings.get document.uri).1⟩).get? id = some validation := hget
    rw [ArrivalMap.get?_insert] at hinsert
    split at hinsert
    · rename_i hid
      subst hid
      exact Or.inr (Or.inr ⟨document, rfl, waiting, (Option.some.inj hinsert).symm, rfl⟩)
    · exact Or.inl hinsert
  | @finished other ticket document outcome =>
    have herase : (session.validations.erase other).get? id = some validation := by
      cases outcome <;> exact hget
    rw [ArrivalMap.get?_erase] at herase
    split at herase
    · cases herase
    · exact Or.inl herase
  | _ => exact Or.inl hget

/-- A lookup that is there has just been handed out, or it was there before and was polled, was
answered or stayed as it was. -/
theorem lookup_cases (h : session.Coherent) {ticket : Nat} {lookup : SettingsLookup}
    (hget : after.settings.lookups[ticket]? = some lookup) :
    (session.settings.lookups.length ≤ ticket ∧ lookup.stage = .idle) ∨
      ∃ before, session.settings.lookups[ticket]? = some before ∧
        LookupTurn action sent ticket before lookup := by
  have hkept : session.settings.lookups[ticket]? = some lookup →
      (∀ answer, action ≠ .answer ticket answer) →
      ∃ before, session.settings.lookups[ticket]? = some before ∧
        LookupTurn action sent ticket before lookup :=
    fun hold hsilent => ⟨lookup, hold, .kept hsilent⟩
  cases he with
  | reconfigured payload =>
    have heq : (session.reconfigure payload).lookups = session.settings.lookups := by
      unfold reconfigure
      split <;> rfl
    rw [h.configurationChanged_eq] at hget
    exact Or.inr (hkept (heq ▸ hget) (by rintro _ ⟨⟩))
  | @took id document waiting =>
    have hhanded : (session.settings.get document.uri).2.lookups[ticket]? = some lookup := hget
    have hnew : ∀ origin, (session.settings.get document.uri).2.lookups =
        session.settings.lookups ++ [⟨origin, .idle⟩] →
        (session.settings.lookups.length ≤ ticket ∧ lookup.stage = .idle) ∨
          session.settings.lookups[ticket]? = some lookup := by
      intro origin heq
      rw [heq, List.getElem?_append] at hhanded
      split at hhanded
      · exact Or.inr hhanded
      · rename_i hlt
        obtain rfl := List.mem_singleton.mp (List.mem_of_getElem? hhanded)
        exact Or.inl ⟨Nat.not_lt.mp hlt, rfl⟩
    have hcases : (session.settings.lookups.length ≤ ticket ∧ lookup.stage = .idle) ∨
        session.settings.lookups[ticket]? = some lookup := by
      rcases session.settings.get_cases document.uri with ⟨-, heq⟩ | ⟨held, -, -, heq⟩ | ⟨-, -, heq⟩
      · exact hnew (.global session.settings.global) (by rw [heq]; rfl)
      · exact Or.inr (by rwa [heq] at hhanded)
      · exact hnew (.pull document.uri) (by rw [heq])
    exact hcases.imp_right fun hold => hkept hold (by rintro _ ⟨⟩)
  | @polled id polled document waiting unsettled =>
    have hmodify : (session.settings.lookups.modify polled (·.poll.1))[ticket]? = some lookup := by
      have hpoll : (session.settings.poll polled).1.lookups[ticket]? = some lookup := hget
      rwa [SettingsCache.poll_eq] at hpoll
    rw [List.getElem?_modify] at hmodify
    obtain ⟨before, hbefore, rfl⟩ := Option.map_eq_some_iff.mp hmodify
    refine Or.inr ⟨before, hbefore, ?_⟩
    split
    · rename_i hticket
      subst hticket
      refine .polled (by rintro _ ⟨⟩) fun uri hasked => ?_
      simp [pollLookup, SettingsCache.poll_eq, hbefore, hasked]
    · exact .kept (by rintro _ ⟨⟩)
  | @finished id held document outcome =>
    have hold : session.settings.lookups[ticket]? = some lookup := by
      cases outcome with
      | ok settings => exact hget
      | error error => exact SettingsCache.lookups_evictFailed session.settings document.uri ▸ hget
    exact Or.inr (hkept hold (by rintro _ ⟨⟩))
  | answered answered answer =>
    have hmodify : (session.settings.lookups.modify answered (·.receive answer))[ticket]? =
        some lookup := hget
    rw [List.getElem?_modify] at hmodify
    obtain ⟨before, hbefore, rfl⟩ := Option.map_eq_some_iff.mp hmodify
    refine Or.inr ⟨before, hbefore, ?_⟩
    split
    · rename_i hticket
      subst hticket
      exact .answered rfl
    · rename_i hticket
      exact .kept (by rintro _ ⟨⟩; exact hticket rfl)
  | _ => exact Or.inr (hkept hget (by rintro _ ⟨⟩))

/-- An entry was there before, or a validation that had no lookup yet has just started a pull for it. -/
theorem entry_cases (h : session.Coherent) {uri : Uri} {ticket : Nat}
    (hentry : after.settings.entries.get? uri = some ticket) :
    session.settings.entries.get? uri = some ticket ∨
      ∃ id document, action = .advance id ∧ session.validations.get? id = some ⟨document, none⟩ ∧
        document.uri = uri ∧ session.settings.pullEnabled = true ∧
        ticket = session.settings.lookups.length ∧
        after = session.takeLookup id ⟨document, none⟩ := by
  cases he with
  | opened flags => cases hentry
  | closed => exact Or.inl (SettingsCache.get?_of_get?_remove hentry)
  | reconfigured payload =>
    rw [h.configurationChanged_eq] at hentry
    simp only [reconfigure] at hentry
    split at hentry
    · cases hentry
    · exact Or.inl hentry
  | @took id document waiting =>
    rcases SettingsCache.entries_get_cases hentry with hold | ⟨huri, hon, hticket⟩
    · exact Or.inl hold
    · exact Or.inr ⟨id, document, rfl, waiting, huri, hon, hticket, rfl⟩
  | @polled id polled => exact Or.inl (session.settings.entries_poll polled ▸ hentry)
  | @finished id held document outcome =>
    cases outcome with
    | ok settings => exact Or.inl hentry
    | error error => exact Or.inl (SettingsCache.get?_of_get?_evictFailed hentry)
  | _ => exact Or.inl hentry

theorem validation_kept (h : session.Coherent) {id ticket : Nat} {document : TextDocument}
    (hget : session.validations.get? id = some ⟨document, some ticket⟩) :
    after.validations.get? id = some ⟨document, some ticket⟩ ∨
      ∃ outcome, action = .advance id ∧ session.settings.peek ticket = some outcome ∧
        after = (session.finish id document outcome).1 := by
  have hnodup := (h.of_effect he).nodup_ids
  have hspawned : ∀ documents : List TextDocument,
      after.validations = ⟨session.validations.entries ++ newValidations session.started documents⟩ →
      after.validations.get? id = some ⟨document, some ticket⟩ := by
    intro documents heq
    apply ArrivalMap.get?_of_mem_entries hnodup
    rw [heq]
    exact List.mem_append_left _ (ArrivalMap.mem_entries_of_get? hget)
  cases he with
  | @stored notice other accepted held =>
    have heq := foldl_validate [other] (h.handle notice).numbered
    exact Or.inl (hspawned [other] (congrArg validations heq))
  | reconfigured payload =>
    have heq := h.configurationChanged_eq payload
    exact Or.inl (hspawned session.documents.all (congrArg validations heq))
  | @took other held waiting =>
    have hne : id ≠ other := by
      rintro rfl
      exact absurd (hget.symm.trans waiting) (by simp)
    exact Or.inl ((ArrivalMap.get?_insert _ _ _ _).trans ((if_neg hne).trans hget))
  | @finished other held _ outcome waiting settled =>
    by_cases hid : id = other
    · subst hid
      cases hget.symm.trans waiting
      exact Or.inr ⟨outcome, rfl, settled, rfl⟩
    · have herase := (ArrivalMap.get?_erase session.validations other id).trans (if_neg hid)
      cases outcome <;> exact Or.inl (herase.trans hget)
  | _ => exact Or.inl hget

theorem outcome_cases (h : session.Coherent) {ticket : Nat} {outcome : PullOutcome}
    (hunknown : session.settings.peek ticket = none)
    (hknown : after.settings.peek ticket = some outcome) :
    ∃ id document, action = .advance id ∧
      session.validations.get? id = some ⟨document, some ticket⟩ ∧
      after.validations = session.validations := by
  have hsame : after.settings.peek ticket ≠ session.settings.peek ticket := by
    rw [hunknown, hknown]
    simp
  cases he with
  | reconfigured payload =>
    rw [h.configurationChanged_eq, reconfigure] at hsame
    split at hsame <;> exact absurd rfl hsame
  | took waiting => exact absurd (SettingsCache.peek_get _ _ _) hsame
  | @polled id held document waiting unsettled =>
    by_cases hticket : held = ticket
    · exact ⟨id, document, rfl, hticket ▸ waiting, rfl⟩
    · refine absurd ?_ hsame
      simp [pollLookup, SettingsCache.poll_eq, SettingsCache.peek, hticket]
  | @finished id held document outcome =>
    cases outcome with
    | ok settings => exact absurd rfl hsame
    | error error => exact absurd (SettingsCache.peek_evictFailed _ _ _) hsame
  | answered asked answer => exact absurd (SettingsCache.peek_receive _ _ _ _) hsame
  | _ => exact absurd rfl hsame

/-- A message about diagnostics is sent by a validation at its end, once its lookup has given
settings, and nothing else is sent with it. -/
theorem publish_cases {uri : Uri} {diagnostics : List Diagnostic} {version : Int}
    (hsent : .publish uri diagnostics version ∈ sent) :
    ∃ id document ticket settings, action = .advance id ∧
      session.validations.get? id = some ⟨document, some ticket⟩ ∧
      session.settings.peek ticket = some (.ok settings) ∧
      after.validations = session.validations.erase id ∧
      .publish uri diagnostics version = ServerMessage.publish document.uri
        (Diagnostic.compute session.rule document settings session.flags.relatedInformation)
        document.version ∧
      sent = [.publish uri diagnostics version] := by
  cases he with
  | ready =>
    rcases List.mem_cons.mp hsent with heq | hregister
    · cases heq
    · split at hregister <;> simp at hregister
  | shutdown => simp at hsent
  | polled waiting unsettled => simp [pollLookup] at hsent
  | @finished id ticket document outcome waiting settled =>
    cases outcome with
    | ok settings =>
      have heq := List.mem_singleton.mp hsent
      exact ⟨id, document, ticket, settings, rfl, waiting, settled, rfl, heq, by rw [heq]; rfl⟩
    | error error => cases hsent
  | _ => cases hsent

end Effect

end Session

end LanguageServer
