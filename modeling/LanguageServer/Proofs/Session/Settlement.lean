import LanguageServer.Proofs.Session.Freshness
import LanguageServer.Proofs.Session.Mode

/-!
# What the editor shows in the end

Once no validation is under way, the last diagnostics published for an open document are those of its
current content under settings that are current too: the global ones, which are those that were pushed
last, or those that were asked for after the last change of the configuration. This needs that the
publications for the document came in the order in which their validations were started and that no
pull failed.
-/

namespace LanguageServer

namespace Session

/-- A run after which no validation is under way and a document is open. No pull failed in it, and
what was published for the document came in order. -/
structure AtRest (session : Session) (actions : List Action) (uri : Uri) (document : TextDocument) :
    Prop where
  ordered : ((session.publications actions).filter (·.2 = uri)).Pairwise (·.1 < ·.1)
  no_error : ∀ ticket error, (session.run actions).1.settings.peek ticket ≠ some (.error error)
  idle : (session.run actions).1.validations = ∅
  opened : (session.run actions).1.documents.get? uri = some document

variable {session : Session} {flags : ClientFlags} {first : Nat} {actions : List Action} {uri : Uri}
  {document : TextDocument} {rule : Rule}

theorem AtRest.of_append {before after : List Action}
    (h : session.AtRest (before ++ after) uri document) :
    (session.run before).1.AtRest after uri document := by
  obtain ⟨hordered, hpulls, hidle, hopened⟩ := h
  rw [publications_append, List.filter_append] at hordered
  rw [run_append] at hpulls hidle hopened
  exact ⟨(List.pairwise_append.mp hordered).2.1, hpulls, hidle, hopened⟩

theorem publications_eq_map_ended (h : session.Coherent)
    (hpulls : ∀ ticket error, (session.run actions).1.settings.peek ticket ≠ some (.error error)) :
    session.publications actions =
      (session.ended actions).map fun e => (e.1, e.2.document.uri) := by
  rw [h.publications_eq]
  congr 1
  apply List.filter_eq_self.mpr
  intro e he
  obtain ⟨outcome, hknown⟩ := h.outcome_ended_run actions e he
  obtain ⟨ticket, -, hpeek⟩ := Option.bind_eq_some_iff.mp hknown
  rw [Validation.succeeded, hknown]
  cases outcome with
  | ok settings => rfl
  | error error => exact absurd hpeek (hpulls ticket error)

/-- Once no validation is under way, the last one for an open document has ended, and it had the
content that is open. -/
theorem Newest.exists_ended (hn : Newest first session.validations.entries session)
    (h : session.Coherent) (hidle : (session.run actions).1.validations = ∅)
    (hopen : (session.run actions).1.documents.get? uri = some document) :
    ∃ id ticket?, first ≤ id ∧ (id, ⟨document, ticket?⟩) ∈ session.ended actions ∧
      ∀ e ∈ session.ended actions, e.2.document.uri = uri → e.1 ≤ id := by
  have hbalance := h.balance_run actions
  have hnone : (session.run actions).1.validations.entries = [] := by rw [hidle]; rfl
  rw [hnone, List.append_nil] at hbalance
  obtain ⟨id, hfirst, hmem, hmax⟩ := (hn.run h actions).current uri document hopen
  -- with nothing under way the pool and the validations that ended agree on numbers and documents
  obtain ⟨⟨_, held, ticket?⟩, hended, heq⟩ :=
    List.mem_map.mp (hbalance.mem_iff.mp (List.mem_map_of_mem hmem))
  cases heq
  refine ⟨id, ticket?, hfirst, hended, fun e he huri => ?_⟩
  obtain ⟨e', hpool, heq⟩ := List.mem_map.mp (hbalance.mem_iff.mpr (List.mem_map_of_mem he))
  obtain ⟨hid, hdocument⟩ := Prod.mk.inj heq
  exact hid ▸ hmax e' hpool (by rw [hdocument, huri])

theorem eq_concat_of_pairwise {α : Type} {f : α → Nat} {l : List α} {a : α}
    (hpairwise : l.Pairwise (f · < f ·)) (hmem : a ∈ l) (hmax : ∀ b ∈ l, f b ≤ f a) :
    ∃ earlier, l = earlier ++ [a] := by
  obtain ⟨earlier, later, rfl⟩ := List.append_of_mem hmem
  cases later with
  | nil => exact ⟨earlier, rfl⟩
  | cons b later =>
    have hlt : f a < f b :=
      (List.pairwise_cons.mp (List.pairwise_append.mp hpairwise).2.1).1 b List.mem_cons_self
    exact absurd (hmax b (by simp)) (Nat.not_le.mpr hlt)

theorem last_publication_since (h : session.Coherent)
    (hr : Renewed flags session.settings first session)
    (hn : Newest first session.validations.entries session)
    (hquiet : ∀ payload, .handle (.configurationChanged payload) ∉ actions)
    (hrest : session.AtRest actions uri document) :
    ∃ settings ticket,
      ((session.run actions).2.filter (·.published? = some uri)).getLast? =
        some (.publish uri
          (Diagnostic.compute session.rule document settings flags.relatedInformation)
          document.version) ∧
      if flags.configuration then
        ∃ value, settings = .ofSection value ∧ session.Answered actions ticket uri (.value value)
      else settings = session.settings.global := by
  obtain ⟨horder, hpulls, hidle, hopen⟩ := hrest
  obtain rfl : document.uri = uri := (h.run actions).keyed uri document hopen
  obtain ⟨id, ticket?, hfirst, hended, hmax⟩ := hn.exists_ended h hidle hopen
  obtain ⟨outcome, hknown⟩ := h.outcome_ended_run actions _ hended
  obtain ⟨ticket, hticket, hpeek⟩ := Option.bind_eq_some_iff.mp hknown
  obtain rfl : ticket? = some ticket := hticket
  cases outcome with
  | error error => exact absurd hpeek (hpulls ticket error)
  | ok settings =>
    -- the publications for the document are its validations that ended, so this one is the last
    rw [publications_eq_map_ended h hpulls, List.filter_map, List.pairwise_map] at horder
    obtain ⟨earlier, hfilter⟩ := eq_concat_of_pairwise horder
      (List.mem_filter.mpr ⟨hended, decide_eq_true rfl⟩)
      fun e he => hmax e (List.mem_filter.mp he).1 (of_decide_eq_true (List.mem_filter.mp he).2)
    have hflags := h.flags_run hr.recorded actions
    have hpublication : (session.run actions).1.publication? ⟨document, some ticket⟩ =
        some (.publish document.uri
          (Diagnostic.compute session.rule document settings flags.relatedInformation)
          document.version) := by
      rw [publication?, hknown, h.rule_run, hflags]
    have hsince := hr.ended hr.mode h actions hquiet hfirst hended
    obtain ⟨hnew, lookup, hlookup, horigin⟩ := hsince
    have hsettings := h.settings_of_peek actions hnew hlookup horigin hpeek
    rw [hr.mode] at hsettings
    refine ⟨settings, ticket, ?_, hsettings⟩
    have hlist : (session.ended actions).filter (·.2.document.uri = document.uri) =
        earlier ++ [(id, ⟨document, some ticket⟩)] := hfilter
    rw [h.filter_published_run hr.recorded, hlist, List.filterMap_append]
    simp [hpublication]

theorem renewed_hello (rule : Rule) (flags : ClientFlags) :
    Renewed flags ((new rule).hello flags).settings 0 ((new rule).hello flags) where
  recorded := rfl
  mode := rfl
  global_eq := rfl
  length_le := Nat.le_refl _
  entries := by intro _ uri ticket hentry; cases hentry
  taken := by intro id document ticket _ hget; cases hget

theorem newest_hello (rule : Rule) (flags : ClientFlags) :
    Newest 0 ((new rule).hello flags).validations.entries ((new rule).hello flags) where
  first_le := Nat.le_refl _
  numbered := by intro e he; cases he
  current := by intro uri document hget; cases hget

/-- Every run that begins with opening the session splits at its last change of the configuration, or
right after the opening if there is none. -/
theorem exists_last_reconfigured (rule : Rule) (flags : ClientFlags) (actions : List Action) :
    ∃ before after first, .handle (.hello flags) :: actions = before ++ after ∧
      (∀ payload, .handle (.configurationChanged payload) ∉ after) ∧
      Renewed flags ((new rule).run before).1.settings first ((new rule).run before).1 ∧
      Newest first ((new rule).run before).1.validations.entries ((new rule).run before).1 := by
  have h := coherent_new rule
  induction actions using List.reverseRecOn with
  | nil =>
    exact ⟨[.handle (.hello flags)], [], 0, rfl, by simp, renewed_hello rule flags,
      newest_hello rule flags⟩
  | append_singleton actions action ih =>
    by_cases hchange : ∃ payload, action = .handle (.configurationChanged payload)
    · obtain ⟨payload, rfl⟩ := hchange
      have hcoherent := h.run (.handle (.hello flags) :: actions)
      obtain ⟨hflags, hmode⟩ := (h.step (.handle (.hello flags))).pullEnabled_run
        (renewed_hello rule flags).recorded (renewed_hello rule flags).mode actions
      refine ⟨.handle (.hello flags) :: actions ++ [.handle (.configurationChanged payload)], [],
        ((new rule).run (.handle (.hello flags) :: actions)).1.started, by simp, by simp, ?_, ?_⟩
      · rw [run_concat]
        exact renewed_reconfigured hcoherent payload hflags hmode
      · rw [run_concat]
        exact newest_reconfigured hcoherent payload
    · obtain ⟨before, after, first, heq, hquiet, hr, hn⟩ := ih
      refine ⟨before, after ++ [action], first, ?_, ?_, hr, hn⟩
      · rw [← List.cons_append, heq, List.append_assoc]
      · intro payload hmem
        rcases List.mem_append.mp hmem with hold | hnew
        · exact hquiet payload hold
        · exact hchange ⟨payload, (List.mem_singleton.mp hnew).symm⟩

theorem exists_last_publication
    (hrest : (new rule).AtRest (.handle (.hello flags) :: actions) uri document) :
    ∃ settings before after ticket,
      .handle (.hello flags) :: actions = before ++ after ∧
      (∀ payload, .handle (.configurationChanged payload) ∉ after) ∧
      (((new rule).run (.handle (.hello flags) :: actions)).2.filter
        (·.published? = some uri)).getLast? =
          some (.publish uri
            (Diagnostic.compute rule document settings flags.relatedInformation)
            document.version) ∧
      if flags.configuration then
        ∃ value, settings = .ofSection value ∧
          ((new rule).run before).1.Answered after ticket uri (.value value)
      else settings = ((new rule).run (.handle (.hello flags) :: actions)).1.settings.global := by
  have h := coherent_new rule
  obtain ⟨before, after, first, hsplit, hquiet, hr, hn⟩ := exists_last_reconfigured rule flags actions
  rw [hsplit] at hrest ⊢
  have hcoherent := h.run before
  obtain ⟨settings, ticket, hlast, hsettings⟩ :=
    last_publication_since hcoherent hr hn hquiet hrest.of_append
  rw [h.rule_run] at hlast
  have hglobal := (hr.run hr.mode hcoherent after hquiet).global_eq
  refine ⟨settings, before, after, ticket, rfl, hquiet, ?_, ?_⟩
  · rw [run_append, List.filter_append, List.getLast?_append, hlast]
    rfl
  · rw [run_append, hglobal]
    exact hsettings

/-- Once no validation is under way, in a run that begins with opening the session, in which no pull
failed and the publications for a document came in the order in which its validations were started:
if the document is open, the last one is that of its current content with its current version. Without
configuration support the settings are the global ones; with it they are the editor's answer to a
request for this document, and both the request and the answer came after the last change of the
configuration. -/
theorem last_publication_current (rule : Rule) (flags : ClientFlags) (actions : List Action)
    {uri : Uri} {document : TextDocument}
    (horder : (((new rule).publications (.handle (.hello flags) :: actions)).filter
      (·.2 = uri)).Pairwise (·.1 < ·.1))
    (hpulls : ∀ ticket error,
      ((new rule).run (.handle (.hello flags) :: actions)).1.settings.peek ticket ≠
        some (.error error))
    (hidle : ((new rule).run (.handle (.hello flags) :: actions)).1.validations = ∅)
    (hopen : ((new rule).run (.handle (.hello flags) :: actions)).1.documents.get? uri =
      some document) :
    ∃ settings,
      (((new rule).run (.handle (.hello flags) :: actions)).2.filter
        (·.published? = some uri)).getLast? =
          some (.publish uri
            (Diagnostic.compute rule document settings flags.relatedInformation)
            document.version) ∧
      if flags.configuration then
        ∃ before after ticket value,
          .handle (.hello flags) :: actions = before ++ after ∧
          (∀ payload, .handle (.configurationChanged payload) ∉ after) ∧
          ((new rule).run before).1.Answered after ticket uri (.value value) ∧
          settings = .ofSection value
      else settings = ((new rule).run (.handle (.hello flags) :: actions)).1.settings.global := by
  obtain ⟨settings, before, after, ticket, hsplit, hquiet, hlast, hsettings⟩ :=
    exists_last_publication ⟨horder, hpulls, hidle, hopen⟩
  refine ⟨settings, hlast, ?_⟩
  split
  · rename_i hon
    obtain ⟨value, hvalue, hanswered⟩ := (if_pos hon).mp hsettings
    exact ⟨before, after, ticket, value, hsplit, hquiet, hanswered, hvalue⟩
  · rename_i hoff
    exact (if_neg hoff).mp hsettings

/-- The configuration changes and the document changes while a pull is under way; the next pull
answers for both validations that follow. -/
def renewedPull (uri : Uri) : List Action :=
  [.handle (.notice (.didOpen ⟨uri, "plaintext", 1, "a BC"⟩)), .advance 0, .advance 0,
    .handle (.configurationChanged .null),
    .handle (.notice (.didChange uri 2 [⟨"DE FG", none, none⟩])), .advance 1, .advance 2, .advance 1,
    .answer 0 (.value (.array [.int 5])), .answer 1 (.value (.array [.int 1])), .advance 0,
    .advance 0, .advance 2, .advance 1, .advance 2]

/-- The configuration changes twice while validations are under way, and so does the document. -/
def renewedPush (uri : Uri) : List Action :=
  [.handle (.notice (.didOpen ⟨uri, "plaintext", 1, "a BC"⟩)), .advance 0,
    .handle (.configurationChanged
      (.object [("languageServerExample", .object [("maxNumberOfProblems", .int 5)])])), .advance 1,
    .handle (.notice (.didChange uri 2 [⟨"DE FG", none, none⟩])), .advance 2,
    .handle (.configurationChanged
      (.object [("languageServerExample", .object [("maxNumberOfProblems", .int 1)])])),
    .advance 0, .advance 0, .advance 1, .advance 1, .advance 2, .advance 2, .advance 3, .advance 3,
    .advance 3]

theorem atRest_renewedPull :
    (new .uppercase).AtRest (.handle (.hello ⟨true, false, false⟩) :: renewedPull ⟨"file:///a"⟩)
      ⟨"file:///a"⟩ (.ofItem ⟨⟨"file:///a"⟩, "plaintext", 2, "DE FG"⟩) where
  ordered := by decide +kernel
  no_error := by
    have houtcomes : ((new .uppercase).run (.handle (.hello ⟨true, false, false⟩) ::
        renewedPull ⟨"file:///a"⟩)).1.settings.lookups.map SettingsLookup.outcome? =
          [some (.ok ⟨5⟩), some (.ok ⟨1⟩)] := by
      decide +kernel
    intro ticket error hpeek
    have hmem := SettingsCache.mem_outcomes_of_peek hpeek
    simp [houtcomes] at hmem
  idle := by decide +kernel
  opened := by decide +kernel

theorem atRest_renewedPush :
    (new .uppercase).AtRest (.handle (.hello ⟨false, false, false⟩) :: renewedPush ⟨"file:///a"⟩)
      ⟨"file:///a"⟩ (.ofItem ⟨⟨"file:///a"⟩, "plaintext", 2, "DE FG"⟩) where
  ordered := by decide +kernel
  no_error := by
    have houtcomes : ((new .uppercase).run (.handle (.hello ⟨false, false, false⟩) ::
        renewedPush ⟨"file:///a"⟩)).1.settings.lookups.map SettingsLookup.outcome? =
          [some (.ok .default), some (.ok ⟨5⟩), some (.ok ⟨5⟩), some (.ok ⟨1⟩)] := by
      decide +kernel
    intro ticket error hpeek
    have hmem := SettingsCache.mem_outcomes_of_peek hpeek
    simp [houtcomes] at hmem
  idle := by decide +kernel
  opened := by decide +kernel

theorem last_publication_current_renewed :
    ((new .uppercase).run (.handle (.hello ⟨true, false, false⟩) ::
        renewedPull ⟨"file:///a"⟩)).1.documents.get? ⟨"file:///a"⟩ =
      some (.ofItem ⟨⟨"file:///a"⟩, "plaintext", 2, "DE FG"⟩) ∧
    (∃ settings,
      (((new .uppercase).run (.handle (.hello ⟨true, false, false⟩) ::
          renewedPull ⟨"file:///a"⟩)).2.filter (·.published? = some ⟨"file:///a"⟩)).getLast? =
        some (.publish ⟨"file:///a"⟩
          (Diagnostic.compute .uppercase (.ofItem ⟨⟨"file:///a"⟩, "plaintext", 2, "DE FG"⟩) settings
            false) 2) ∧
      ∃ before after ticket value,
        .handle (.hello ⟨true, false, false⟩) :: renewedPull ⟨"file:///a"⟩ = before ++ after ∧
        (∀ payload, .handle (.configurationChanged payload) ∉ after) ∧
        ((new .uppercase).run before).1.Answered after ticket ⟨"file:///a"⟩ (.value value) ∧
        settings = .ofSection value) ∧
    ((new .uppercase).run (.handle (.hello ⟨false, false, false⟩) ::
        renewedPush ⟨"file:///a"⟩)).1.documents.get? ⟨"file:///a"⟩ =
      some (.ofItem ⟨⟨"file:///a"⟩, "plaintext", 2, "DE FG"⟩) ∧
    ∃ settings,
      (((new .uppercase).run (.handle (.hello ⟨false, false, false⟩) ::
          renewedPush ⟨"file:///a"⟩)).2.filter (·.published? = some ⟨"file:///a"⟩)).getLast? =
        some (.publish ⟨"file:///a"⟩
          (Diagnostic.compute .uppercase (.ofItem ⟨⟨"file:///a"⟩, "plaintext", 2, "DE FG"⟩) settings
            false) 2) ∧
      settings = ((new .uppercase).run (.handle (.hello ⟨false, false, false⟩) ::
        renewedPush ⟨"file:///a"⟩)).1.settings.global := by
  obtain ⟨hordered, hpulled, hidle, hopened⟩ := atRest_renewedPull
  obtain ⟨hordered', hpulled', hidle', hopened'⟩ := atRest_renewedPush
  exact ⟨hopened, last_publication_current .uppercase ⟨true, false, false⟩ _ hordered hpulled hidle
    hopened, hopened', last_publication_current .uppercase ⟨false, false, false⟩ _ hordered' hpulled'
    hidle' hopened'⟩

/-- Without configuration support, the last publication for an open document is under the settings
that were pushed last. -/
theorem last_publication_pushed (hoff : flags.configuration = false)
    (hrest : (new rule).AtRest (.handle (.hello flags) :: actions) uri document) :
    (((new rule).run (.handle (.hello flags) :: actions)).2.filter
      (·.published? = some uri)).getLast? =
        some (.publish uri
          (Diagnostic.compute rule document (lastPushed (.handle (.hello flags) :: actions))
            flags.relatedInformation)
          document.version) := by
  obtain ⟨settings, _, _, _, -, -, hlast, hsettings⟩ := exists_last_publication hrest
  have hpushed : settings = lastPushed (.handle (.hello flags) :: actions) := by
    simpa [global_opened, hoff] using hsettings
  rw [hlast, hpushed]

theorem last_publication_pushed_renewedPush :
    (((new .uppercase).run (.handle (.hello ⟨false, false, false⟩) ::
      renewedPush ⟨"file:///a"⟩)).2.filter (·.published? = some ⟨"file:///a"⟩)).getLast? =
        some (.publish ⟨"file:///a"⟩
          (Diagnostic.compute .uppercase (.ofItem ⟨⟨"file:///a"⟩, "plaintext", 2, "DE FG"⟩) ⟨1⟩
            false) 2) := by
  have hpushed : lastPushed (.handle (.hello ⟨false, false, false⟩) ::
      renewedPush ⟨"file:///a"⟩) = ⟨1⟩ := by
    decide +kernel
  rw [last_publication_pushed rfl atRest_renewedPush, hpushed]
  rfl

end Session

end LanguageServer
