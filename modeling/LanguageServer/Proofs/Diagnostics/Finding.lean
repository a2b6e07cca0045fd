import LanguageServer.Diagnostics.Basic
import LanguageServer.Proofs.Document.Excerpt
import LanguageServer.Proofs.Text.PositionOrder
import Mathlib.Data.List.Forall2

/-!
# Diagnostics and findings

Whatever offsets a rule reports, the diagnostics of a document stand for its first findings, one for
each and in their order. How many of them there are depends on the settings, and whether they carry
remarks on the client; neither changes anything else about them.

This module does NOT say what a particular rule finds.
-/

namespace LanguageServer

open Text

namespace Diagnostic

structure StandsFor (document : TextDocument) (finding : Finding) (diagnostic : Diagnostic) :
    Prop where
  message_eq : diagnostic.message = finding.message
  offsetAt_start :
    document.offsetAt diagnostic.range.start = snap document.text.toList finding.start
  offsetAt_stop :
    document.offsetAt diagnostic.range.stop = snap document.text.toList finding.stop
  start_le_stop : finding.start ≤ finding.stop → diagnostic.range.start ≤ diagnostic.range.stop

def Remarked (document : TextDocument) (diagnostic : Diagnostic) : Prop :=
  ∃ first second, diagnostic.relatedInformation? = some [first, second] ∧
    ∀ remark ∈ [first, second], remark.uri = document.uri ∧ remark.range = diagnostic.range

def withoutRemarks (diagnostic : Diagnostic) : Diagnostic :=
  { diagnostic with relatedInformation? := none }

variable {document : TextDocument} {rule : Rule}

theorem standsFor_ofFinding (hindex : document.IndexCurrent)
    (hshort : byteLength document.text.toList < 2 ^ 32) (related : Bool) (finding : Finding) :
    StandsFor document finding (ofFinding document related finding) := by
  refine ⟨rfl, ?_, ?_, ?_⟩
  · exact hindex.offsetAt_positionAt hshort finding.start
  · exact hindex.offsetAt_positionAt hshort finding.stop
  · intro hle
    simp only [ofFinding, hindex.positionAt_eq]
    exact LineIndex.positionAt_le_positionAt hshort hle

theorem remarked_ofFinding (document : TextDocument) (finding : Finding) :
    Remarked document (ofFinding document true finding) := by
  refine ⟨_, _, rfl, ?_⟩
  intro remark hremark
  obtain ⟨message, -, rfl⟩ : ∃ message ∈ ["Spelling matters", "Particularly for names"],
      (⟨document.uri, _, message⟩ : RelatedInformation) = remark := List.mem_map.mp hremark
  exact ⟨rfl, rfl⟩

theorem compute_take {m n : Nat} (h : m ≤ n) (related : Bool) :
    compute rule document ⟨m⟩ related =
      (compute rule document ⟨n⟩ related).take (min m (rule.check document.text).length) := by
  rw [compute, compute, ← List.map_take, List.take_take]
  -- Both sides take what the smaller cap and the number of findings leave.
  have hcut : min m (rule.check document.text).length =
      min (min (min m (rule.check document.text).length) n) (rule.check document.text).length := by
    omega
  exact congrArg _ (List.take_eq_take_iff.mpr hcut)

theorem length_compute (n : Nat) (related : Bool) :
    (compute rule document ⟨n⟩ related).length = min n (rule.check document.text).length := by
  rw [compute, List.length_map, List.length_take]

theorem map_withoutRemarks_compute (n : Nat) (related : Bool) :
    (compute rule document ⟨n⟩ related).map withoutRemarks = compute rule document ⟨n⟩ false := by
  rw [compute, compute, List.map_map]
  rfl

/-- Whatever a rule reports, the diagnostics stand for its first findings, in order and as many as
are allowed, and fewer of them are the first of more. Remarks are the only difference that the
client's support for them makes. A line index that the document remembers has to be that of its
text, as it is in every document that is in use. -/
theorem compute_standsFor (rule : Rule) (document : TextDocument) (hindex : document.IndexCurrent)
    (hshort : byteLength document.text.toList < 2 ^ 32) (m n : Nat) (hmn : m ≤ n) :
    (∀ related,
      compute rule document ⟨m⟩ related =
        (compute rule document ⟨n⟩ related).take (min m (rule.check document.text).length) ∧
      (compute rule document ⟨m⟩ related).length = min m (rule.check document.text).length ∧
      List.Forall₂ (StandsFor document) ((rule.check document.text).take n)
        (compute rule document ⟨n⟩ related)) ∧
    (compute rule document ⟨n⟩ true).map withoutRemarks = compute rule document ⟨n⟩ false ∧
    (∀ diagnostic ∈ compute rule document ⟨n⟩ true, Remarked document diagnostic) ∧
    ∀ diagnostic ∈ compute rule document ⟨n⟩ false, diagnostic.relatedInformation? = none := by
  refine ⟨?_, map_withoutRemarks_compute n true, ?_, ?_⟩
  · intro related
    refine ⟨compute_take hmn related, length_compute m related, ?_⟩
    rw [compute, List.forall₂_map_right_iff, List.forall₂_same]
    intro finding _
    exact standsFor_ofFinding hindex hshort related finding
  · intro diagnostic hdiagnostic
    obtain ⟨finding, -, rfl⟩ := List.mem_map.mp hdiagnostic
    exact remarked_ofFinding document finding
  · intro diagnostic hdiagnostic
    obtain ⟨finding, -, rfl⟩ := List.mem_map.mp hdiagnostic
    rfl

/-- A finding that runs backwards and one that ends inside a character, far beyond its line. -/
def stray : List Finding := [⟨9, 3, "backwards"⟩, ⟨1, 6, "astray"⟩]

theorem compute_standsFor_stray :
    TextDocument.broken.IndexCurrent ∧ byteLength TextDocument.broken.text.toList < 2 ^ 32 ∧
      1 ≤ 2 ∧
      compute (.constant stray) .broken ⟨2⟩ false =
        [⟨⟨⟨1, 2⟩, ⟨0, 2⟩⟩, .warning, "ex", "backwards", none⟩,
          ⟨⟨⟨0, 0⟩, ⟨1, 0⟩⟩, .warning, "ex", "astray", none⟩] ∧
      compute (.constant stray) .broken ⟨1⟩ false =
        (compute (.constant stray) .broken ⟨2⟩ false).take 1 ∧
      List.Forall₂ (StandsFor .broken) stray (compute (.constant stray) .broken ⟨2⟩ true) ∧
      ∀ diagnostic ∈ compute (.constant stray) .broken ⟨2⟩ true, Remarked .broken diagnostic := by
  have hindex : TextDocument.broken.IndexCurrent := Or.inl rfl
  have hshort : byteLength TextDocument.broken.text.toList < 2 ^ 32 := by decide
  obtain ⟨hcaps, -, hremarked, -⟩ :=
    compute_standsFor (.constant stray) .broken hindex hshort 1 2 (by decide)
  exact ⟨hindex, hshort, by decide, by decide, (hcaps false).1, (hcaps true).2.2, hremarked⟩

end Diagnostic

end LanguageServer
