import LanguageServer.Proofs.Text.OffsetAt
import LanguageServer.Proofs.Text.PositionAt

/-!
# Conversions that check every step

The two conversions once more, with each walk and search taken step by step. A subtraction below
zero, an entry that the table does not have, entries out of order, and a cut that runs backwards,
splits a character or leaves the text end a conversion with a fault. Over the table of its own text
no conversion ends that way, and its result is the one of the conversion without checks.

This module does NOT treat documents.
-/

namespace LanguageServer.Checked

open Text

inductive Fault where
  | belowZero
  | noEntry (line : Nat)
  | outOfOrder
  | reversed (start stop : Nat)
  | notBoundary (offset : Nat)
deriving DecidableEq, Repr

def subtract (a b : Nat) : Except Fault Nat :=
  if b ≤ a then .ok (a - b) else .error .belowZero

/-- The characters between two offsets, which have to be boundaries in the right order. -/
def cut (cs : List Char) (start stop : Nat) : Except Fault (List Char) :=
  if ¬ IsBoundary cs start then .error (.notBoundary start)
  else if ¬ IsBoundary cs stop then .error (.notBoundary stop)
  else if stop < start then .error (.reversed start stop)
  else .ok (slice cs start stop)

def roundDown (cs : List Char) : Nat → Except Fault Nat
  | 0 => if IsBoundary cs 0 then .ok 0 else .error .belowZero
  | offset + 1 => if IsBoundary cs (offset + 1) then .ok (offset + 1) else roundDown cs offset

/-- Number of the entries within a bound, behind which no other one may be within it. -/
def partitionPoint (entries : List Nat) (bound : Nat) : Except Fault Nat :=
  if (entries.dropWhile (· ≤ bound)).all (bound < ·) then
    .ok (entries.takeWhile (· ≤ bound)).length
  else .error .outOfOrder

def entry (entries : List Nat) (line : Nat) : Except Fault Nat :=
  match entries[line]? with
  | some start => .ok start
  | none => .error (.noEntry line)

def positionAt (index : LineIndex) (text : String) (offset : Nat) : Except Fault Position := do
  let cs := text.toList
  let offset ← roundDown cs (min offset (byteLength cs))
  if index.starts.isEmpty then
    let part ← cut cs 0 offset
    return ⟨0, .ofNat (unitLength part)⟩
  else
    let point ← partitionPoint index.starts offset
    let line ← subtract point 1
    let start ← entry index.starts line
    let part ← cut cs start offset
    return ⟨.ofNat line, .ofNat (unitLength part)⟩

def walk (offset column : Nat) : List Char → Except Fault Nat
  | [] => return offset
  | c :: cs =>
    if column < units c then return offset
    else do
      let column ← subtract column (units c)
      walk (offset + c.utf8Size) column cs

def offsetAt (index : LineIndex) (text : String) (position : Position) : Except Fault Nat :=
  let cs := text.toList
  let line := position.line.toNat
  if index.lineCount ≤ line then return byteLength cs
  else do
    let start ← entry index.starts line
    let stop := index.starts[line + 1]?.getD (byteLength cs)
    let part ← cut cs start stop
    walk start position.character.toNat part

/-- Over a table that does not start at zero there is an offset without a line. -/
example : positionAt ⟨[2]⟩ "ab" 0 = .error .belowZero := by decide

/-- A line must not start inside a character. -/
example : offsetAt ⟨[0, 1]⟩ "é" ⟨1, 0⟩ = .error (.notBoundary 1) := by decide

theorem ok_bind {α β : Type} (a : α) (f : α → Except Fault β) : (Except.ok a >>= f) = f a := rfl

section Steps
variable {cs : List Char} {start stop : Nat}

theorem subtract_eq_ok {a b : Nat} (h : b ≤ a) : subtract a b = .ok (a - b) := if_pos h

theorem cut_eq_ok (hstart : IsBoundary cs start) (hstop : IsBoundary cs stop) (hle : start ≤ stop) :
    cut cs start stop = .ok (slice cs start stop) := by
  rw [cut, if_neg (not_not_intro hstart), if_neg (not_not_intro hstop), if_neg (Nat.not_lt.mpr hle)]

theorem entry_eq_ok {entries : List Nat} {line : Nat} (h : entries[line]? = some start) :
    entry entries line = .ok start := by
  rw [entry, h]

theorem roundDown_eq_ok (cs : List Char) (offset : Nat) :
    roundDown cs offset = .ok (snap cs offset) := by
  induction offset with
  | zero =>
    have hzero := isBoundary_zero cs
    rw [roundDown, if_pos hzero, hzero.snap_eq]
  | succ offset ih =>
    rw [roundDown]
    by_cases hnext : IsBoundary cs (offset + 1)
    · rw [if_pos hnext, hnext.snap_eq]
    · -- The greatest boundary is another one, so it is within the offset below as well.
      have hbelow : snap cs (offset + 1) ≤ offset := by
        have hle := snap_le cs (offset + 1)
        have hne : snap cs (offset + 1) ≠ offset + 1 := by
          intro heq
          exact hnext (heq ▸ isBoundary_snap cs (offset + 1))
        omega
      have hsame : snap cs offset = snap cs (offset + 1) := by
        apply Nat.le_antisymm
        · exact snap_le_snap cs (Nat.le_succ offset)
        · exact (isBoundary_snap cs (offset + 1)).le_snap hbelow
      rw [if_neg hnext, ih, hsame]

theorem lt_of_mem_dropWhile {entries : List Nat} {bound e : Nat} (h : entries.Pairwise (· < ·))
    (he : e ∈ entries.dropWhile (· ≤ bound)) : bound < e := by
  induction entries with
  | nil => cases he
  | cons a entries ih =>
    obtain ⟨ha, hrest⟩ := List.pairwise_cons.mp h
    rw [List.dropWhile_cons] at he
    split at he
    · exact ih hrest he
    · rename_i hbeyond
      have hlt : bound < a := by simpa using hbeyond
      rcases List.mem_cons.mp he with rfl | he
      · exact hlt
      · exact Nat.lt_trans hlt (ha e he)

theorem partitionPoint_eq_ok {entries : List Nat} (h : entries.Pairwise (· < ·)) (bound : Nat) :
    partitionPoint entries bound = .ok (entries.takeWhile (· ≤ bound)).length := by
  apply if_pos
  apply List.all_eq_true.mpr
  intro e he
  exact decide_eq_true (lt_of_mem_dropWhile h he)

theorem walk_eq_ok (offset column : Nat) (cs : List Char) :
    walk offset column cs = .ok (offset + byteLength (takeWidth units column cs)) := by
  induction cs generalizing offset column with
  | nil => rfl
  | cons c cs ih =>
    rw [walk, takeWidth]
    by_cases hfits : units c ≤ column
    · rw [if_neg (Nat.not_lt.mpr hfits), if_pos hfits, subtract_eq_ok hfits, ok_bind, ih,
        Nat.add_assoc]
      rfl
    · rw [if_pos (Nat.lt_of_not_le hfits), if_neg hfits]
      rfl

end Steps

section OwnTable

theorem ne_nil_of_starts_ne_nil {cs : List Char} (h : (LineIndex.ofChars cs).starts ≠ []) :
    cs ≠ [] := by
  rintro rfl
  exact h rfl

theorem exists_partitionPoint_eq_ok {cs : List Char} (h : (LineIndex.ofChars cs).starts ≠ [])
    (offset : Nat) : ∃ point, partitionPoint (LineIndex.ofChars cs).starts offset = .ok point ∧
      1 ≤ point ∧ point - 1 = (LineIndex.ofChars cs).lineAt offset := by
  refine ⟨_, partitionPoint_eq_ok (LineIndex.pairwise_starts cs) offset, ?_, rfl⟩
  rw [LineIndex.takeWhile_starts (ne_nil_of_starts_ne_nil h)]
  exact Nat.succ_pos _

theorem positionAt_eq_ok (text : String) (offset : Nat) :
    positionAt (.ofChars text.toList) text offset =
      .ok ((LineIndex.ofChars text.toList).positionAt text offset) := by
  have hsnap := isBoundary_snap text.toList offset
  rw [LineIndex.positionAt_eq]
  simp only [positionAt, roundDown_eq_ok, snap_min, ok_bind]
  by_cases hnone : (LineIndex.ofChars text.toList).starts = []
  · rw [if_pos (List.isEmpty_iff.mpr hnone), cut_eq_ok (isBoundary_zero _) hsnap (Nat.zero_le _),
      LineIndex.lineAt, LineIndex.lineStartAt, hnone]
    rfl
  · have hline := LineIndex.onLine_lineAt (ne_nil_of_starts_ne_nil hnone) (snap text.toList offset)
    have hfrom := LineIndex.isBoundary_lineStartAt text.toList (snap text.toList offset)
    obtain ⟨point, hpoint, hpos, hlast⟩ :=
      exists_partitionPoint_eq_ok hnone (snap text.toList offset)
    rw [if_neg (mt List.isEmpty_iff.mp hnone), hpoint, ok_bind, subtract_eq_ok hpos, ok_bind, hlast,
      entry_eq_ok hline.start_eq, ok_bind, cut_eq_ok hfrom hsnap hline.start_le]
    rfl

theorem offsetAt_eq_ok (text : String) (position : Position) :
    offsetAt (.ofChars text.toList) text position =
      .ok ((LineIndex.ofChars text.toList).offsetAt text position) := by
  simp only [offsetAt]
  by_cases hcount : (LineIndex.ofChars text.toList).lineCount ≤ position.line.toNat
  · have hend : (LineIndex.ofChars text.toList).offsetAt text position = byteLength text.toList :=
      LineIndex.offsetAt_of_lineCount_le hcount
    rw [if_pos hcount, hend]
    rfl
  · obtain ⟨start, hstart⟩ : ∃ start,
        (LineIndex.ofChars text.toList).starts[position.line.toNat]? = some start :=
      LineIndex.exists_start (Nat.lt_of_not_le hcount)
    have hline := LineIndex.isLine_of_getElem? hstart
    rw [if_neg hcount, entry_eq_ok hstart, ok_bind,
      cut_eq_ok hline.isBoundary_start hline.isBoundary_stop hline.start_le_stop, ok_bind,
      walk_eq_ok, LineIndex.offsetAt, hstart]

end OwnTable

end LanguageServer.Checked
