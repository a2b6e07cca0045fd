import LanguageServer.Proofs.Session.Cause
import Mathlib.Data.List.Induction

/-!
# Whose settings are kept

Closing a document drops its entry. A validation of the document that has not taken its lookup by
then makes a new entry when it does, and that stays when the validation has ended. These are the only
entries of documents that are not open.
-/

namespace LanguageServer

namespace Session

/-- In the course of the actions a validation took this ticket for a document that was not open any
more, and the document has not been opened since. -/
def TakenAfterClose (session : Session) (actions : List Action) (uri : Uri) (ticket : Nat) : Prop :=
  ∃ before id rest document, actions = before ++ .advance id :: rest ∧
    (session.run before).1.validations.get? id = some ⟨document, none⟩ ∧ document.uri = uri ∧
    (session.run before).1.documents.get? uri = none ∧
    ((session.run before).1.settings.get uri).1 = ticket ∧
    ∀ item, item.uri = uri → .handle (.notice (.didOpen item)) ∉ rest

variable {session after : Session} {action : Action} {actions : List Action}
variable {sent : List ServerMessage} {uri : Uri} {ticket : Nat}

theorem TakenAfterClose.concat (h : session.TakenAfterClose actions uri ticket)
    (hopening : ∀ item, item.uri = uri → action ≠ .handle (.notice (.didOpen item))) :
    session.TakenAfterClose (actions ++ [action]) uri ticket := by
  obtain ⟨before, id, rest, document, rfl, hget, huri, hclosed, hticket, hrest⟩ := h
  refine ⟨before, id, rest ++ [action], document, by simp, hget, huri, hclosed, hticket, ?_⟩
  intro item hitem hmem
  rcases List.mem_append.mp hmem with hold | hnew
  · exact hrest item hitem hold
  · exact hopening item hitem (List.mem_singleton.mp hnew).symm

end Session

end LanguageServer
