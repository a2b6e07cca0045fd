import LanguageServer.Proofs.Session.Progress

/-!
# Every validation accounted for

A document is validated once for every opening, once for every change that is accepted and once for
every change of the configuration that finds it open. Each validation that was started is under way
or has ended, and it has published once if it ended with settings and never otherwise.
-/

namespace LanguageServer

namespace Session

section Run
variable (rule : Rule) (actions : List Action)

theorem map_fst_begun :
    ((new rule).begun actions).map Prod.fst = List.range ((new rule).run actions).1.started :=
  (coherent_new rule).range_started_run actions

theorem begun_perm :
    (((new rule).begun actions).map fun e => (e.1, e.2.document)).Perm
      (((new rule).ended actions ++ ((new rule).run actions).1.validations.entries).map
        fun e => (e.1, e.2.document)) :=
  (coherent_new rule).balance_run actions

theorem nodup_ended : (((new rule).ended actions).map Prod.fst).Nodup := by
  have hperm := (begun_perm rule actions).map Prod.fst
  simp only [List.map_map, List.map_append] at hperm
  have hnodup : (((new rule).begun actions).map Prod.fst).Nodup := by
    rw [map_fst_begun]
    exact List.nodup_range
  exact (List.nodup_append.mp (hperm.nodup_iff.mp hnodup)).1

theorem countP_published (uri : Uri) :
    ((new rule).run actions).2.countP (·.published? = some uri) =
      ((new rule).ended actions).countP fun e =>
        e.2.document.uri = uri ∧ e.2.succeeded ((new rule).run actions).1.settings := by
  have h := coherent_new rule
  calc ((new rule).run actions).2.countP (·.published? = some uri)
      = (((new rule).run actions).2.filterMap ServerMessage.published?).countP (· = uri) := by
        rw [List.countP_filterMap]
        congr 1
        funext message
        cases message.published? <;> simp
    _ = (((new rule).publications actions).map Prod.snd).countP (· = uri) := by
        rw [h.map_publications]
    _ = _ := by
        rw [h.publications_eq, List.map_map, List.countP_map, List.countP_filter]
        congr 1
        funext e
        simp

theorem publications_of_ended {id : Nat} {validation : Validation}
    (he : (id, validation) ∈ (new rule).ended actions) :
    ((new rule).publications actions).filter (·.1 = id) =
      if validation.succeeded ((new rule).run actions).1.settings then
        [(id, validation.document.uri)] else [] := by
  have hone := ArrivalMap.filter_fst_eq_singleton (nodup_ended rule actions) he
  have hnumbers : (fun p : Nat × Uri => decide (p.1 = id)) ∘
      (fun e : Nat × Validation => (e.1, e.2.document.uri)) = fun e => decide (e.1 = id) := rfl
  rw [(coherent_new rule).publications_eq, List.filter_map, hnumbers, List.filter_comm, hone,
    List.filter_singleton]
  cases hgave : validation.succeeded ((new rule).run actions).1.settings <;> rfl

end Run

/-- In every run each document is validated exactly as often as it was opened, given a new content or
open at a change of the configuration, and the validations are numbered in the order in which they
start. None is lost and none ends twice: those that were started are, document by document, those
that ended and those still under way. A document is published as often as a validation of it ended
with settings; one that ended published this once, and if its pull failed it published nothing. -/
theorem validations_accounted (rule : Rule) (actions : List Action) :
    (∀ uri, ((new rule).begun actions).countP (·.2.document.uri = uri) =
      ((new rule).steps actions).countP (fun s => s.2.opens uri) +
        ((new rule).steps actions).countP (fun s => s.1.changes uri s.2) +
        ((new rule).steps actions).countP (fun s => s.1.reconfigures uri s.2)) ∧
    ((new rule).begun actions).map Prod.fst = List.range ((new rule).run actions).1.started ∧
    (((new rule).begun actions).map fun e => (e.1, e.2.document)).Perm
      (((new rule).ended actions ++ ((new rule).run actions).1.validations.entries).map
        fun e => (e.1, e.2.document)) ∧
    (∀ uri, ((new rule).run actions).2.countP (·.published? = some uri) =
      ((new rule).ended actions).countP fun e =>
        e.2.document.uri = uri ∧ e.2.succeeded ((new rule).run actions).1.settings) ∧
    ∀ id validation, (id, validation) ∈ (new rule).ended actions →
      ∃ outcome, validation.outcome? ((new rule).run actions).1.settings = some outcome ∧
        ((new rule).publications actions).filter (·.1 = id) =
          match outcome with
          | .ok _ => [(id, validation.document.uri)]
          | .error _ => [] := by
  have h := coherent_new rule
  refine ⟨fun uri => h.countP_begun uri actions, map_fst_begun rule actions,
    begun_perm rule actions, countP_published rule actions, fun id validation he => ?_⟩
  obtain ⟨outcome, hknown⟩ := h.outcome_ended_run actions _ he
  refine ⟨outcome, hknown, ?_⟩
  rw [publications_of_ended rule actions he, Validation.succeeded, hknown]
  cases outcome <;> rfl

/-- A document is validated twice because the configuration changed meanwhile; the first pull is
refused, the second one gives settings. -/
def refusedOnce (uri : Uri) : List Action :=
  [.handle (.hello ⟨true, false, false⟩),
    .handle (.notice (.didOpen ⟨uri, "plaintext", 1, "a BC"⟩)), .advance 0, .advance 0,
    .handle (.configurationChanged .null), .advance 1, .advance 1,
    .answer 1 (.value (.array [.int 5])), .answer 0 (.refused (-32603) "no"), .advance 0, .advance 0,
    .advance 1, .advance 1]

theorem validations_accounted_refusedOnce :
    (0, ⟨.ofItem ⟨⟨"file:///a"⟩, "plaintext", 1, "a BC"⟩, some 0⟩) ∈
      (new .uppercase).ended (refusedOnce ⟨"file:///a"⟩) ∧
    ∃ outcome, Validation.outcome? ⟨.ofItem ⟨⟨"file:///a"⟩, "plaintext", 1, "a BC"⟩, some 0⟩
        ((new .uppercase).run (refusedOnce ⟨"file:///a"⟩)).1.settings = some outcome ∧
      ((new .uppercase).publications (refusedOnce ⟨"file:///a"⟩)).filter (·.1 = 0) =
        match outcome with
        | .ok _ => [(0, ⟨"file:///a"⟩)]
        | .error _ => [] := by
  have hended : (0, ⟨.ofItem ⟨⟨"file:///a"⟩, "plaintext", 1, "a BC"⟩, some 0⟩) ∈
      (new .uppercase).ended (refusedOnce ⟨"file:///a"⟩) := by decide +kernel
  exact ⟨hended, (validations_accounted .uppercase _).2.2.2.2 _ _ hended⟩

end Session

end LanguageServer
