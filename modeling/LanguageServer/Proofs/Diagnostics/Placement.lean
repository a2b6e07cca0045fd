import LanguageServer.Proofs.Diagnostics.Finding
import LanguageServer.Proofs.Diagnostics.Uppercase

/-!
# Where diagnostics stand

A word in upper case holds no line break, and each of its characters is one byte and one unit. So
the range of a diagnostic about it lies on one line, is as wide as the word, and leads back to the
word that the message names. The ranges of a document follow one another with something between them.
-/

namespace LanguageServer

open Text

theorem unitLength_eq_length {cs : List Char} (h : ∀ c ∈ cs, units c = 1) :
    unitLength cs = cs.length := by
  induction cs with
  | nil => rfl
  | cons c cs ih =>
    rw [List.length_cons, ← ih fun d hd => h d (List.mem_cons_of_mem c hd), Nat.add_comm,
      ← h c List.mem_cons_self]
    rfl

theorem units_of_letter {c : Char} (h : 'A' ≤ c ∧ c ≤ 'Z') : units c = 1 := by
  have hhigh : c.toNat ≤ 0x5A := h.2
  have hplane : c.toNat < 0x10000 := by omega
  rw [units, if_pos hplane]

theorem not_break_of_letter {c : Char} (h : 'A' ≤ c ∧ c ≤ 'Z') : ¬ (c = '\n' ∨ c = '\r') := by
  rintro (rfl | rfl)
  · exact absurd h.1 (by decide)
  · exact absurd h.1 (by decide)

namespace IsUppercaseWord

variable {cs : List Char} {start stop : Nat}

theorem isBoundary_start (h : IsUppercaseWord cs start stop) : IsBoundary cs start := by
  obtain ⟨before, word, after, hcs, hstart, -⟩ := h
  exact ⟨before, word ++ after, hcs, hstart⟩

theorem isBoundary_stop (h : IsUppercaseWord cs start stop) : IsBoundary cs stop := by
  obtain ⟨before, word, after, rfl, rfl, rfl, -⟩ := h
  exact ⟨before ++ word, after, List.append_assoc _ _ _, byteLength_append _ _⟩

theorem start_le_stop (h : IsUppercaseWord cs start stop) : start ≤ stop := by
  obtain ⟨before, word, after, -, -, rfl, -⟩ := h
  exact Nat.le_add_right _ _

theorem ne_nil (h : IsUppercaseWord cs start stop) : cs ≠ [] := by
  obtain ⟨before, word, after, rfl, -, -, hword, -⟩ := h
  exact fun hnil => hword.ne_nil (List.append_eq_nil_iff.mp (List.append_eq_nil_iff.mp hnil).2).1

theorem letter_of_mem_slice (h : IsUppercaseWord cs start stop) :
    ∀ c ∈ slice cs start stop, 'A' ≤ c ∧ c ≤ 'Z' := by
  obtain ⟨before, word, after, rfl, rfl, rfl, -, -, hletters⟩ := h
  rwa [slice_append]

theorem unitLength_slice (h : IsUppercaseWord cs start stop) :
    unitLength (slice cs start stop) = (slice cs start stop).length :=
  unitLength_eq_length fun c hc => units_of_letter (h.letter_of_mem_slice c hc)

theorem lt_of_breakEndsAt (h : IsUppercaseWord cs start stop) {k : Nat} (hk : BreakEndsAt cs k)
    (hlt : start < k) : stop < k := by
  obtain ⟨before, word, after, rfl, rfl, rfl, -, -, hletters⟩ := h
  by_contra hle
  obtain ⟨c, hc, hbreak⟩ := hk.exists_mem hlt (Nat.le_of_not_lt hle)
  exact not_break_of_letter (hletters c hc) hbreak

theorem onLine_stop (h : IsUppercaseWord cs start stop) : (LineIndex.ofChars cs).OnLine stop
    ((LineIndex.ofChars cs).lineAt start) ((LineIndex.ofChars cs).lineStartAt start) :=
  (LineIndex.onLine_lineAt h.ne_nil start).of_unbroken h.start_le_stop
    fun _ hk hlt => h.lt_of_breakEndsAt hk hlt

variable {text : String}

theorem line_positionAt (h : IsUppercaseWord text.toList start stop)
    (hshort : byteLength text.toList < 2 ^ 32) :
    ((LineIndex.ofText text).positionAt text start).line =
      ((LineIndex.ofText text).positionAt text stop).line := by
  have hline : (LineIndex.ofText text).lineAt stop = (LineIndex.ofText text).lineAt start :=
    h.onLine_stop.lineAt_eq
  rw [← UInt32.toNat_inj, LineIndex.line_positionAt hshort, LineIndex.line_positionAt hshort,
    h.isBoundary_start.snap_eq, h.isBoundary_stop.snap_eq, hline]

theorem character_positionAt (h : IsUppercaseWord text.toList start stop)
    (hshort : byteLength text.toList < 2 ^ 32) :
    ((LineIndex.ofText text).positionAt text stop).character.toNat =
      ((LineIndex.ofText text).positionAt text start).character.toNat +
        (slice text.toList start stop).length := by
  have hfrom : (LineIndex.ofText text).lineStartAt stop = (LineIndex.ofText text).lineStartAt start :=
    h.onLine_stop.lineStartAt_eq
  rw [LineIndex.character_positionAt hshort, LineIndex.character_positionAt hshort,
    h.isBoundary_start.snap_eq, h.isBoundary_stop.snap_eq, hfrom, ← h.unitLength_slice]
  exact (unitLength_slice_add (LineIndex.isBoundary_lineStartAt _ _) h.isBoundary_start
    h.isBoundary_stop (LineIndex.lineStartAt_le _ _) h.start_le_stop).symm

end IsUppercaseWord

namespace Diagnostic

structure MarksWord (document : TextDocument) (diagnostic : Diagnostic) : Prop where
  isUppercaseWord : IsUppercaseWord document.text.toList
    (document.offsetAt diagnostic.range.start) (document.offsetAt diagnostic.range.stop)
  message_eq : .ofList (slice document.text.toList (document.offsetAt diagnostic.range.start)
    (document.offsetAt diagnostic.range.stop)) ++ " is all uppercase." = diagnostic.message
  line_eq : diagnostic.range.start.line = diagnostic.range.stop.line
  character_eq : diagnostic.range.stop.character.toNat =
    diagnostic.range.start.character.toNat + (slice document.text.toList
      (document.offsetAt diagnostic.range.start) (document.offsetAt diagnostic.range.stop)).length

section Uppercase

variable {document : TextDocument} {finding later : Finding}
  (hindex : document.IndexCurrent) (hshort : byteLength document.text.toList < 2 ^ 32)
include hindex hshort

theorem offsetAt_range_ofFinding (related : Bool)
    (hfinding : finding ∈ Rule.uppercase.check document.text) :
    document.offsetAt (ofFinding document related finding).range.start = finding.start ∧
      document.offsetAt (ofFinding document related finding).range.stop = finding.stop := by
  obtain ⟨hword, -⟩ := Rule.mem_map_report_iff.mp hfinding
  have hstands := standsFor_ofFinding hindex hshort related finding
  constructor
  · exact hstands.offsetAt_start.trans hword.isBoundary_start.snap_eq
  · exact hstands.offsetAt_stop.trans hword.isBoundary_stop.snap_eq

theorem marksWord_ofFinding (related : Bool)
    (hfinding : finding ∈ Rule.uppercase.check document.text) :
    MarksWord document (ofFinding document related finding) := by
  obtain ⟨hstart, hstop⟩ := offsetAt_range_ofFinding hindex hshort related hfinding
  obtain ⟨hword, hmessage⟩ := Rule.mem_map_report_iff.mp hfinding
  refine ⟨?_, ?_, ?_, ?_⟩
  · rwa [hstart, hstop]
  · rw [hstart, hstop]
    exact hmessage.symm
  · simp only [ofFinding, hindex.positionAt_eq]
    exact hword.line_positionAt hshort
  · rw [hstart, hstop]
    simp only [ofFinding, hindex.positionAt_eq]
    exact hword.character_positionAt hshort

theorem range_lt_range (related : Bool) (hfinding : finding ∈ Rule.uppercase.check document.text)
    (hlater : later ∈ Rule.uppercase.check document.text) (hlt : finding.stop < later.start) :
    (ofFinding document related finding).range.stop <
      (ofFinding document related later).range.start := by
  have hstop := (Rule.mem_map_report_iff.mp hfinding).1.isBoundary_stop
  have hstart := (Rule.mem_map_report_iff.mp hlater).1.isBoundary_start
  simp only [ofFinding, hindex.positionAt_eq]
  exact LineIndex.positionAt_lt_positionAt hshort hstop hstart hlt

end Uppercase

/-- The diagnostics for upper case stand for the first findings of the rule. Each marks the word that
it names, and one ends before the next one starts. A line index that the document remembers has to be
that of its text, as it is in every document that is in use. -/
theorem compute_uppercase (document : TextDocument) (hindex : document.IndexCurrent)
    (hshort : byteLength document.text.toList < 2 ^ 32) (settings : Settings) (related : Bool) :
    (∀ diagnostic ∈ compute .uppercase document settings related,
      MarksWord document diagnostic) ∧
    ((compute .uppercase document settings related).Pairwise fun diagnostic later =>
      diagnostic.range.stop < later.range.start) ∧
    ((compute .uppercase document settings related).map fun diagnostic =>
        (document.offsetAt diagnostic.range.start, document.offsetAt diagnostic.range.stop)) =
      ((Rule.uppercase.check document.text).take settings.maxNumberOfProblems).map
        fun finding => (finding.start, finding.stop) := by
  refine ⟨?_, ?_, ?_⟩
  · intro diagnostic hdiagnostic
    obtain ⟨finding, hfinding, rfl⟩ := List.mem_map.mp hdiagnostic
    exact marksWord_ofFinding hindex hshort related (List.mem_of_mem_take hfinding)
  · have hpairwise : (Rule.uppercase.check document.text).Pairwise fun a b => a.stop < b.start :=
      List.pairwise_map.mpr (Rule.pairwise_shouted document.text.toList)
    apply List.pairwise_map.mpr
    apply (hpairwise.sublist (List.take_sublist settings.maxNumberOfProblems _)).imp_of_mem
    intro finding later hfinding hlater hlt
    exact range_lt_range hindex hshort related (List.mem_of_mem_take hfinding)
      (List.mem_of_mem_take hlater) hlt
  · rw [compute, List.map_map]
    apply List.map_congr_left
    intro finding hfinding
    obtain ⟨hstart, hstop⟩ :=
      offsetAt_range_ofFinding hindex hshort related (List.mem_of_mem_take hfinding)
    exact Prod.ext hstart hstop

/-- Words behind a character of two units, on two lines, and one that a letter of another script
makes longer. -/
def shouting : TextDocument :=
  (TextDocument.ofItem ⟨⟨"file:///a"⟩, "plaintext", 1, "😀 AB\r\nÉAB CD,"⟩).remember

theorem compute_uppercase_shouting :
    shouting.IndexCurrent ∧ byteLength shouting.text.toList < 2 ^ 32 ∧
      compute .uppercase shouting ⟨10⟩ false =
        [⟨⟨⟨0, 3⟩, ⟨0, 5⟩⟩, .warning, "ex", "AB is all uppercase.", none⟩,
          ⟨⟨⟨1, 4⟩, ⟨1, 6⟩⟩, .warning, "ex", "CD is all uppercase.", none⟩] ∧
      MarksWord shouting ⟨⟨⟨1, 4⟩, ⟨1, 6⟩⟩, .warning, "ex", "CD is all uppercase.", none⟩ := by
  have hindex : shouting.IndexCurrent := Or.inr rfl
  have hshort : byteLength shouting.text.toList < 2 ^ 32 := by decide
  have hcompute : compute .uppercase shouting ⟨10⟩ false =
      [⟨⟨⟨0, 3⟩, ⟨0, 5⟩⟩, .warning, "ex", "AB is all uppercase.", none⟩,
        ⟨⟨⟨1, 4⟩, ⟨1, 6⟩⟩, .warning, "ex", "CD is all uppercase.", none⟩] := by decide +kernel
  obtain ⟨hmarks, -⟩ := compute_uppercase shouting hindex hshort ⟨10⟩ false
  rw [hcompute] at hmarks
  exact ⟨hindex, hshort, hcompute, hmarks _ (List.mem_cons_of_mem _ List.mem_cons_self)⟩

end Diagnostic

end LanguageServer
