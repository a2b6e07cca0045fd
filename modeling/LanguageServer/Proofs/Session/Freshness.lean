import LanguageServer.Proofs.Session.Cause
import LanguageServer.Proofs.Session.Progress

/-!
# Validations since a moment

Two invariants of a run from some moment on. `Newest` says that the last validation started for a
document that is open has its current content. `Renewed` says that validations started since the
moment, as long as the configuration does not change again, wait for lookups that were handed out
since. Both hold right after the configuration changed.
-/

namespace LanguageServer

namespace SettingsCache

/-- A lookup that was handed out since the base, for the settings of the document as the base would
have handed it out. -/
def HandedOutSince (settings base : SettingsCache) (uri : Uri) (ticket : Nat) : Prop :=
  base.lookups.length ≤ ticket ∧ ∃ lookup, settings.lookups[ticket]? = some lookup ∧
    lookup.origin = if base.pullEnabled then .pull uri else .global base.global

variable {base settings later : SettingsCache} {uri : Uri} {ticket : Nat}

theorem HandedOutSince.extends (h : settings.HandedOutSince base uri ticket)
    (hextends : settings.Extends later) : later.HandedOutSince base uri ticket := by
  obtain ⟨hle, lookup, hlookup, horigin⟩ := h
  obtain ⟨next, hnext, hcontinues⟩ := hextends ticket lookup hlookup
  exact ⟨hle, next, hnext, hcontinues.origin_eq.trans horigin⟩

theorem handedOutSince_get (hlinked : settings.Linked)
    (hmode : settings.pullEnabled = base.pullEnabled) (hglobal : settings.global = base.global)
    (hlength : base.lookups.length ≤ settings.lookups.length)
    (hentries : settings.pullEnabled = true → ∀ uri ticket,
      settings.entries.get? uri = some ticket → base.lookups.length ≤ ticket) (uri : Uri) :
    (settings.get uri).2.HandedOutSince base uri (settings.get uri).1 := by
  obtain ⟨lookup, hlookup, horigin⟩ := hlinked.exists_lookup_get uri
  refine ⟨?_, lookup, hlookup, by rw [horigin, hmode, hglobal]⟩
  rcases settings.get_cases uri with ⟨-, heq⟩ | ⟨ticket, hon, hentry, heq⟩ | ⟨-, -, heq⟩ <;> rw [heq]
  · exact hlength
  · exact hentries hon uri ticket hentry
  · exact hlength

end SettingsCache

namespace Session

variable {session after : Session} {action : Action} {sent : List ServerMessage}

namespace Effect

variable (he : Effect session action after sent)
include he

theorem get?_of_due_eq_zero (h : session.Coherent) {uri : Uri} {document : TextDocument}
    (hdue : session.due uri action = 0) (hget : after.documents.get? uri = some document) :
    session.documents.get? uri = some document := by
  rcases he.document_cases h hget with hold | ⟨notice, rfl, haccepted, huri⟩
  · exact hold
  · rw [due_notice, if_pos ⟨haccepted, huri⟩] at hdue
    cases hdue

end Effect

/-- What holds since a moment of which the settings and the number of the next validation are known,
if the configuration has not changed again: entries and the lookups of validations started since are
no older than the moment. -/
structure Renewed (flags : ClientFlags) (base : SettingsCache) (first : Nat) (session : Session) :
    Prop where
  recorded : session.recordedFlags? = some flags
  mode : session.settings.pullEnabled = flags.configuration
  global_eq : session.settings.global = base.global
  length_le : base.lookups.length ≤ session.settings.lookups.length
  entries : session.settings.pullEnabled = true → ∀ uri ticket,
    session.settings.entries.get? uri = some ticket → base.lookups.length ≤ ticket
  taken : ∀ id document ticket, first ≤ id →
    session.validations.get? id = some ⟨document, some ticket⟩ →
      session.settings.HandedOutSince base document.uri ticket

namespace Renewed

variable {flags : ClientFlags} {base : SettingsCache} {first : Nat}

theorem of_effect (hr : Renewed flags base first session)
    (hbase : base.pullEnabled = flags.configuration) (he : Effect session action after sent) (h : session.Coherent)
    (hquiet : ∀ payload, action ≠ .handle (.configurationChanged payload)) :
    Renewed flags base first after where
  recorded := he.recordedFlags?_eq h hr.recorded
  mode := he.pullEnabled_eq h hr.recorded hr.mode
  global_eq := (he.global_eq hquiet).trans hr.global_eq
  length_le := Nat.le_trans hr.length_le (he.extends h).length_le
  entries := by
    intro hon uri ticket hentry
    have hon' : session.settings.pullEnabled = true :=
      hr.mode.trans ((he.pullEnabled_eq h hr.recorded hr.mode).symm.trans hon)
    rcases he.entry_cases h hentry with hold | ⟨id, document, -, -, -, -, rfl, -⟩
    · exact hr.entries hon' uri ticket hold
    · exact hr.length_le
  taken := by
    intro id document ticket hfirst hget
    rcases he.validation_cases h hget with hold | ⟨-, hnone, -⟩ | ⟨held, -, -, heq, hsettings⟩
    · exact (hr.taken id document ticket hfirst hold).extends (he.extends h)
    · cases hnone
    · cases heq
      rw [hsettings]
      exact SettingsCache.handedOutSince_get h.linked (hr.mode.trans hbase.symm) hr.global_eq
        hr.length_le hr.entries document.uri

theorem run (hr : Renewed flags base first session) (hbase : base.pullEnabled = flags.configuration)
    (h : session.Coherent) (actions : List Action)
    (hquiet : ∀ payload, .handle (.configurationChanged payload) ∉ actions) :
    Renewed flags base first (session.run actions).1 := by
  induction actions generalizing session with
  | nil => exact hr
  | cons action actions ih =>
    have hstep := hr.of_effect hbase (h.effect_step action) h
      fun payload heq => hquiet payload (heq ▸ List.mem_cons_self)
    exact ih hstep (h.step action) fun payload hmem => hquiet payload (List.mem_cons_of_mem _ hmem)

theorem ended (hr : Renewed flags base first session) (hbase : base.pullEnabled = flags.configuration)
    (h : session.Coherent) (actions : List Action)
    (hquiet : ∀ payload, .handle (.configurationChanged payload) ∉ actions)
    {id ticket : Nat} {document : TextDocument} (hfirst : first ≤ id)
    (he : (id, ⟨document, some ticket⟩) ∈ session.ended actions) :
    (session.run actions).1.settings.HandedOutSince base document.uri ticket := by
  induction actions generalizing session with
  | nil => cases he
  | cons action actions ih =>
    rcases List.mem_append.mp he with hnow | hlater
    · have hget := ArrivalMap.get?_of_mem_entries h.nodup_ids (List.mem_filter.mp hnow).1
      exact (hr.taken id document ticket hfirst hget).extends (h.extends_run (action :: actions))
    · have hstep := hr.of_effect hbase (h.effect_step action) h
        fun payload heq => hquiet payload (heq ▸ List.mem_cons_self)
      exact ih hstep (h.step action)
        (fun payload hmem => hquiet payload (List.mem_cons_of_mem _ hmem)) hlater

end Renewed

namespace Coherent

variable (h : session.Coherent)
include h

theorem begunBy_fresh {id : Nat} {validation : Validation}
    (he : (id, validation) ∈ session.begunBy action) :
    session.started ≤ id ∧ validation.ticket? = none ∧
      (session.step action).1.documents.get? validation.document.uri = some validation.document := by
  obtain ⟨hmem, hnew⟩ := List.mem_filter.mp he
  have hnone := Option.isNone_iff_eq_none.mp hnew
  have hget := ArrivalMap.get?_of_mem_entries (h.step action).nodup_ids hmem
  rcases (h.effect_step action).validation_cases h hget with
    hold | hstarted | ⟨document, -, hwaiting, -⟩
  -- the first and the last case are of validations that were under way before
  · exact absurd (hnone.symm.trans hold) (by simp)
  · exact hstarted
  · exact absurd (hnone.symm.trans hwaiting) (by simp)

theorem numbered_step (action : Action) :
    session.started ≤ (session.step action).1.started ∧
      ∀ e ∈ session.begunBy action, e.1 < (session.step action).1.started := by
  have hrange := (h.progress_step action).range_started h
  have hlength := congrArg List.length hrange
  simp only [List.length_append, List.length_range] at hlength
  refine ⟨by omega, fun e he => ?_⟩
  rw [← List.mem_range, ← hrange]
  exact List.mem_append_right _ (List.mem_map_of_mem he)

/-- An action starts at most one validation for a document, and it starts it for the content that the
document has afterwards. -/
theorem begunBy_cases (uri : Uri) (action : Action) :
    (session.due uri action = 0 ∧
      (session.begunBy action).filter (·.2.document.uri = uri) = []) ∨
    ∃ id document, session.started ≤ id ∧
      (session.begunBy action).filter (·.2.document.uri = uri) = [(id, ⟨document, none⟩)] ∧
      (session.step action).1.documents.get? uri = some document := by
  have hcount : ((session.begunBy action).filter (·.2.document.uri = uri)).length =
      session.due uri action :=
    List.countP_eq_length_filter.symm.trans ((h.progress_step action).countP_begun h uri)
  rcases Nat.le_one_iff_eq_zero_or_eq_one.mp (session.due_le_one uri action) with hzero | hdue
  · exact Or.inl ⟨hzero, List.eq_nil_of_length_eq_zero (hcount.trans hzero)⟩
  · obtain ⟨⟨id, validation⟩, hfilter⟩ := List.length_eq_one_iff.mp (hcount.trans hdue)
    obtain ⟨hmem, huri⟩ := List.mem_filter.mp (hfilter ▸ List.mem_singleton_self (id, validation))
    obtain ⟨hle, hticket, hopen⟩ := h.begunBy_fresh hmem
    obtain ⟨document, ticket?⟩ := validation
    obtain rfl : ticket? = none := hticket
    obtain rfl : document.uri = uri := of_decide_eq_true huri
    exact Or.inr ⟨id, document, hle, hfilter, hopen⟩

end Coherent

/-- Of the validations in the pool, the last one for each open document has its current content and
one of the numbers since the first. -/
structure Newest (first : Nat) (pool : List (Nat × Validation)) (session : Session) : Prop where
  first_le : first ≤ session.started
  numbered : ∀ e ∈ pool, e.1 < session.started
  current : ∀ uri document, session.documents.get? uri = some document →
    ∃ id, first ≤ id ∧ (id, ⟨document, none⟩) ∈ pool ∧
      ∀ e ∈ pool, e.2.document.uri = uri → e.1 ≤ id

namespace Newest

variable {first : Nat} {pool : List (Nat × Validation)}

theorem exists_of_filter {begun : List (Nat × Validation)} {uri : Uri} {id : Nat}
    {document : TextDocument} (hnumbered : ∀ e ∈ pool, e.1 < id)
    (hfilter : begun.filter (·.2.document.uri = uri) = [(id, ⟨document, none⟩)]) :
    (id, ⟨document, none⟩) ∈ pool ++ begun ∧
      ∀ e ∈ pool ++ begun, e.2.document.uri = uri → e.1 ≤ id := by
  have hmem : (id, ⟨document, none⟩) ∈ begun.filter (·.2.document.uri = uri) :=
    hfilter ▸ List.mem_singleton_self _
  refine ⟨List.mem_append_right _ (List.mem_filter.mp hmem).1, fun e he huri => ?_⟩
  rcases List.mem_append.mp he with hold | hnew
  · exact Nat.le_of_lt (hnumbered e hold)
  · have hsame : e ∈ begun.filter (·.2.document.uri = uri) :=
      List.mem_filter.mpr ⟨hnew, decide_eq_true huri⟩
    rw [hfilter] at hsame
    obtain rfl := List.mem_singleton.mp hsame
    exact Nat.le_refl _

/-- An action that starts validations keeps the pool up to date if it was so for the documents that
are owed none. -/
theorem of_kept (h : session.Coherent) (hfirst : first ≤ session.started)
    (hnumbered : ∀ e ∈ pool, e.1 < session.started)
    (hkept : ∀ uri document, session.due uri action = 0 →
      session.documents.get? uri = some document →
        ∃ id, first ≤ id ∧ (id, ⟨document, none⟩) ∈ pool ∧
          ∀ e ∈ pool, e.2.document.uri = uri → e.1 ≤ id) :
    Newest first (pool ++ session.begunBy action) (session.step action).1 := by
  obtain ⟨hle, hbegun⟩ := h.numbered_step action
  refine ⟨Nat.le_trans hfirst hle, fun e he => ?_, fun uri document hget => ?_⟩
  · rcases List.mem_append.mp he with hold | hnew
    · exact Nat.lt_of_lt_of_le (hnumbered e hold) hle
    · exact hbegun e hnew
  -- a document that is owed none keeps its last validation, any other one has just got a new one
  · rcases h.begunBy_cases uri action with ⟨hdue, hfilter⟩ | ⟨id, held, hid, hfilter, hheld⟩
    · have hold := (h.effect_step action).get?_of_due_eq_zero h hdue hget
      obtain ⟨id, hle, hmem, hmax⟩ := hkept uri document hdue hold
      refine ⟨id, hle, List.mem_append_left _ hmem, fun e he huri => ?_⟩
      rcases List.mem_append.mp he with hpool | hnew
      · exact hmax e hpool huri
      · have hnone := List.filter_eq_nil_iff.mp hfilter e hnew
        exact absurd (decide_eq_true huri) hnone
    · obtain rfl := Option.some.inj (hget.symm.trans hheld)
      exact ⟨id, Nat.le_trans hfirst hid,
        exists_of_filter (fun e he => Nat.lt_of_lt_of_le (hnumbered e he) hid) hfilter⟩

theorem step (hn : Newest first pool session) (h : session.Coherent) (action : Action) :
    Newest first (pool ++ session.begunBy action) (session.step action).1 :=
  of_kept h hn.first_le hn.numbered fun uri document _ => hn.current uri document

theorem run (hn : Newest first pool session) (h : session.Coherent) (actions : List Action) :
    Newest first (pool ++ session.begun actions) (session.run actions).1 := by
  induction actions generalizing session pool with
  | nil => simpa [begun, steps, Session.run] using hn
  | cons action actions ih =>
    have hrest := ih (hn.step h action) (h.step action)
    rwa [List.append_assoc] at hrest

end Newest

section Reconfigured
variable (h : session.Coherent) (payload : Json)
include h

theorem entries_reconfigured :
    (session.configurationChanged payload).validations.entries =
      session.validations.entries ++
        session.begunBy (.handle (.configurationChanged payload)) := by
  have heq := congrArg validations (h.configurationChanged_eq payload)
  have hbegun : session.begunBy (.handle (.configurationChanged payload)) =
      (session.configurationChanged payload).validations.without session.validations := rfl
  rw [hbegun, heq, ArrivalMap.append_without h.not_mem_keys_of_mem_newValidations]

/-- Right after a change of the configuration the last validation of every open document is one that
the change started. -/
theorem newest_reconfigured :
    Newest session.started (session.configurationChanged payload).validations.entries
      (session.configurationChanged payload) := by
  rw [entries_reconfigured h payload]
  refine Newest.of_kept h (Nat.le_refl _) (fun e he => h.numbered e.1 (List.mem_map_of_mem he)) ?_
  intro uri document hdue hopen
  simp [due, Action.opens, changes, reconfigures, hopen] at hdue

/-- Right after a change of the configuration no validation that the change started has a lookup, and
where settings are pulled no entry is left. -/
theorem renewed_reconfigured {flags : ClientFlags} (hflags : session.recordedFlags? = some flags)
    (hmode : session.settings.pullEnabled = flags.configuration) :
    Renewed flags (session.configurationChanged payload).settings session.started
      (session.configurationChanged payload) where
  recorded := (h.effect_step (.handle (.configurationChanged payload))).recordedFlags?_eq h hflags
  mode := (h.effect_step (.handle (.configurationChanged payload))).pullEnabled_eq h hflags hmode
  global_eq := rfl
  length_le := Nat.le_refl _
  entries := by
    intro hon uri ticket hentry
    have hmode' :=
      (h.effect_step (.handle (.configurationChanged payload))).pullEnabled_eq h hflags hmode
    have hpull : session.flags.configuration = true := by
      rw [show session.flags = flags from h.flags_run hflags []]
      exact hmode'.symm.trans hon
    rw [h.configurationChanged_eq] at hentry
    simp only [reconfigure, hpull] at hentry
    cases hentry
  taken := by
    intro id document ticket hid hget
    have hmem := ArrivalMap.mem_entries_of_get? hget
    rw [entries_reconfigured h payload] at hmem
    rcases List.mem_append.mp hmem with hold | hnew
    · exact absurd (h.numbered id (List.mem_map_of_mem hold)) (Nat.not_lt.mpr hid)
    · obtain ⟨-, hnone, -⟩ := h.begunBy_fresh hnew
      cases hnone

end Reconfigured

end Session

end LanguageServer
