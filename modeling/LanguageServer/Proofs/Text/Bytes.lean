import LanguageServer.Proofs.Text.LineBreak

/-!
# The bytes of a text

A byte below 128 is a character of its own, and all bytes of any other character are 128 or more. So
line breaks show in the bytes as they do in the characters: an offset is the end of a break when a
`\n` stands before it, or a `\r` with no `\n` behind. One pass over the bytes finds the starts of
all lines; it carries along whether one starts at the next byte, and steps over `\r\n` at once.
-/

namespace LanguageServer

namespace Text

def encode (cs : List Char) : List UInt8 := cs.flatMap String.utf8EncodeChar

def utf8 (text : String) : List UInt8 := text.toUTF8.data.toList

/-- A line ends before the offset, as the bytes on both sides of it show. -/
def EndsLineAt (bytes : List UInt8) (offset : Nat) : Prop :=
  0 < offset ∧ offset ≤ bytes.length ∧
    (bytes[offset - 1]? = some 0x0A ∨
      bytes[offset - 1]? = some 0x0D ∧ bytes[offset]? ≠ some 0x0A)

def noted (starts : List Nat) (fresh : Bool) (offset : Nat) : List Nat :=
  if fresh then starts ++ [offset] else starts

/-- Goes over the bytes from an offset on. Where there are none at all, no line starts. -/
def collectStarts : List Nat → Bool → Nat → List UInt8 → List Nat
  | starts, fresh, offset, [] => noted starts (fresh && decide (0 < offset)) offset
  | starts, fresh, offset, 0x0D :: 0x0A :: rest =>
    collectStarts (noted starts fresh offset) true (offset + 2) rest
  | starts, fresh, offset, byte :: rest =>
    collectStarts (noted starts fresh offset) (byte == 0x0D || byte == 0x0A) (offset + 1) rest

theorem utf8_eq_encode (text : String) : utf8 text = encode text.toList := by
  rw [utf8, String.toUTF8_eq_toByteArray, ← String.utf8Encode_toList, List.utf8Encode,
    List.toList_data_toByteArray]
  rfl

theorem encode_cons (c : Char) (cs : List Char) :
    encode (c :: cs) = String.utf8EncodeChar c ++ encode cs := rfl

theorem encode_append (as bs : List Char) : encode (as ++ bs) = encode as ++ encode bs :=
  List.flatMap_append

theorem length_encode (cs : List Char) : (encode cs).length = byteLength cs := by
  induction cs with
  | nil => rfl
  | cons c cs ih =>
    rw [encode_cons, List.length_append, String.length_utf8EncodeChar, ih]
    rfl

theorem lineFeed_lt : '\n'.toNat < 128 := by decide

theorem return_lt : '\r'.toNat < 128 := by decide

section Characters
variable {c d : Char} {b : UInt8} {cs : List Char} {i offset : Nat}

theorem utf8EncodeChar_of_lt (h : c.toNat < 128) :
    String.utf8EncodeChar c = [.ofNat c.toNat] := by
  have hle : c.val.toNat ≤ 0x7F := Nat.le_of_lt_succ h
  simp only [String.utf8EncodeChar, if_pos hle]
  rfl

theorem le_toNat_of_mem_utf8EncodeChar (h : 128 ≤ c.toNat) (hb : b ∈ String.utf8EncodeChar c) :
    128 ≤ b.toNat := by
  have hlarge : ¬ c.val.toNat ≤ 0x7F := Nat.not_le.mpr h
  have hmax : c.val.toNat < 0x110000 := by
    rcases c.valid with h | ⟨-, h⟩ <;> omega
  simp only [String.utf8EncodeChar, if_neg hlarge] at hb
  split at hb
  · simp only [List.mem_cons, List.not_mem_nil, or_false] at hb
    rcases hb with rfl | rfl <;> rw [UInt8.toNat_ofNat'] <;> omega
  · split at hb
    · simp only [List.mem_cons, List.not_mem_nil, or_false] at hb
      rcases hb with rfl | rfl | rfl <;> rw [UInt8.toNat_ofNat'] <;> omega
    · simp only [List.mem_cons, List.not_mem_nil, or_false] at hb
      rcases hb with rfl | rfl | rfl | rfl <;> rw [UInt8.toNat_ofNat'] <;> omega

theorem eq_of_mem_utf8EncodeChar (hd : d.toNat < 128)
    (h : UInt8.ofNat d.toNat ∈ String.utf8EncodeChar c) : c = d := by
  have hbyte : (UInt8.ofNat d.toNat).toNat = d.toNat := by
    rw [UInt8.toNat_ofNat']
    omega
  have hc : c.toNat < 128 := by
    apply Nat.lt_of_not_le
    intro hlarge
    have hle := le_toNat_of_mem_utf8EncodeChar hlarge h
    omega
  rw [utf8EncodeChar_of_lt hc, List.mem_singleton, ← UInt8.toNat_inj, hbyte,
    UInt8.toNat_ofNat', Nat.mod_eq_of_lt (by omega)] at h
  exact Char.toNat_inj.mp h.symm

/-- A byte below 128 stands where the character that it is stands, and nowhere else. -/
theorem getElem?_encode_iff (hd : d.toNat < 128) :
    (encode cs)[i]? = some (.ofNat d.toNat) ↔
      ∃ before after, before ++ d :: after = cs ∧ byteLength before = i := by
  constructor
  · intro h
    induction cs generalizing i with
    | nil => cases h
    | cons c cs ih =>
      rw [encode_cons] at h
      -- The byte belongs to the first character, which is the one sought, or stands behind it.
      by_cases hi : i < (String.utf8EncodeChar c).length
      · rw [List.getElem?_append_left hi] at h
        obtain rfl := eq_of_mem_utf8EncodeChar hd (List.mem_of_getElem? h)
        rw [utf8EncodeChar_of_lt hd, List.length_singleton] at hi
        exact ⟨[], cs, rfl, (Nat.lt_one_iff.mp hi).symm⟩
      · have hle := Nat.not_lt.mp hi
        rw [List.getElem?_append_right hle] at h
        obtain ⟨before, after, rfl, hlength⟩ := ih h
        rw [String.length_utf8EncodeChar] at hle hlength
        refine ⟨c :: before, after, rfl, ?_⟩
        change c.utf8Size + byteLength before = i
        omega
  · rintro ⟨before, after, rfl, rfl⟩
    rw [encode_append, List.getElem?_append_right (Nat.le_of_eq (length_encode before)),
      length_encode, Nat.sub_self, encode_cons, utf8EncodeChar_of_lt hd]
    rfl

theorem byteLength_concat (hd : d.toNat < 128) (cs : List Char) :
    byteLength (cs ++ [d]) = byteLength cs + 1 := by
  have hsize := String.length_utf8EncodeChar d
  rw [utf8EncodeChar_of_lt hd] at hsize
  rw [byteLength_append, Nat.add_left_cancel_iff]
  exact hsize.symm

theorem getElem?_encode_before (hd : d.toNat < 128) {before : List Char}
    (hpos : 0 < byteLength before) (after : List Char) :
    (encode (before ++ after))[byteLength before - 1]? = some (.ofNat d.toNat) ↔
      before.getLast? = some d := by
  rw [getElem?_encode_iff hd, List.getLast?_eq_some_iff]
  constructor
  · rintro ⟨front, back, heq, hlength⟩
    rw [List.append_cons] at heq
    refine ⟨front, (eq_of_append_eq_append heq ?_).symm⟩
    rw [byteLength_concat hd]
    omega
  · rintro ⟨front, rfl⟩
    rw [byteLength_concat hd]
    exact ⟨front, after, List.append_cons _ _ _, rfl⟩

theorem getElem?_encode_after (hd : d.toNat < 128) (before after : List Char) :
    (encode (before ++ after))[byteLength before]? = some (.ofNat d.toNat) ↔
      after.head? = some d := by
  rw [getElem?_encode_iff hd, List.head?_eq_some_iff]
  constructor
  · rintro ⟨front, back, heq, hlength⟩
    obtain rfl := eq_of_append_eq_append heq hlength
    exact ⟨back, (List.append_cancel_left heq).symm⟩
  · rintro ⟨back, rfl⟩
    exact ⟨before, back, rfl, rfl⟩

theorem isBoundary_of_getElem?_encode (hd : d.toNat < 128) (hpos : 0 < offset)
    (h : (encode cs)[offset - 1]? = some (.ofNat d.toNat)) : IsBoundary cs offset := by
  obtain ⟨before, after, rfl, hlength⟩ := (getElem?_encode_iff hd).mp h
  refine ⟨before ++ [d], after, List.append_assoc _ _ _, ?_⟩
  rw [byteLength_concat hd]
  omega

theorem isBoundary_of_endsLineAt (h : EndsLineAt (encode cs) offset) : IsBoundary cs offset := by
  rcases h with ⟨hpos, -, hlast | ⟨hlast, -⟩⟩
  · exact isBoundary_of_getElem?_encode lineFeed_lt hpos hlast
  · exact isBoundary_of_getElem?_encode return_lt hpos hlast

theorem endsLineAt_iff_endsLine (before after : List Char) :
    EndsLineAt (encode (before ++ after)) (byteLength before) ↔ EndsLine before after := by
  by_cases hpos : 0 < byteLength before
  · have hfeed : (encode (before ++ after))[byteLength before - 1]? = some 0x0A ↔
        before.getLast? = some '\n' := getElem?_encode_before lineFeed_lt hpos after
    have hreturn : (encode (before ++ after))[byteLength before - 1]? = some 0x0D ↔
        before.getLast? = some '\r' := getElem?_encode_before return_lt hpos after
    have hnext : (encode (before ++ after))[byteLength before]? = some 0x0A ↔
        after.head? = some '\n' := getElem?_encode_after lineFeed_lt before after
    have hbound : byteLength before ≤ (encode (before ++ after)).length := by
      rw [length_encode, byteLength_append]
      omega
    rw [EndsLineAt, EndsLine, hfeed, hreturn, ne_eq, hnext]
    exact ⟨fun h => h.2.2, fun h => ⟨hpos, hbound, h⟩⟩
  · -- Nothing stands before the start of the text.
    obtain rfl := byteLength_eq_zero_iff.mp (Nat.eq_zero_of_not_pos hpos)
    exact iff_of_false (fun h => hpos h.1) (not_endsLine_nil after)

theorem breakEndsAt_iff_endsLineAt : BreakEndsAt cs offset ↔ EndsLineAt (encode cs) offset := by
  rw [breakEndsAt_iff]
  constructor
  · rintro ⟨before, after, rfl, hends, rfl⟩
    exact (endsLineAt_iff_endsLine before after).mpr hends
  · intro h
    obtain ⟨before, after, rfl, rfl⟩ := isBoundary_of_endsLineAt h
    exact ⟨before, after, rfl, (endsLineAt_iff_endsLine before after).mp h, rfl⟩

end Characters

section Pass
variable {starts : List Nat} {fresh : Bool} {offset : Nat} {byte : UInt8} {rest : List UInt8}

theorem collectStarts_cons (h : byte = 0x0D → rest.head? ≠ some 0x0A) :
    collectStarts starts fresh offset (byte :: rest) =
      collectStarts (noted starts fresh offset) (byte == 0x0D || byte == 0x0A) (offset + 1)
        rest := by
  rw [collectStarts]
  rintro tail rfl rfl
  exact h rfl rfl

/-- Over bytes without a break the pass comes to where it would have started behind them. -/
theorem collectStarts_append {plain : List UInt8} (hne : plain ≠ [])
    (h : ∀ byte ∈ plain, byte ≠ 0x0D ∧ byte ≠ 0x0A) :
    collectStarts starts fresh offset (plain ++ rest) =
      collectStarts (noted starts fresh offset) false (offset + plain.length) rest := by
  induction plain generalizing starts fresh offset with
  | nil => exact absurd rfl hne
  | cons byte plain ih =>
    obtain ⟨⟨hreturn, hfeed⟩, hplain⟩ := List.forall_mem_cons.mp h
    have hstale : (byte == 0x0D || byte == 0x0A) = false := by simp [hreturn, hfeed]
    rw [List.cons_append, collectStarts_cons (fun hbyte => absurd hbyte hreturn), hstale]
    by_cases hnil : plain = []
    · rw [hnil]
      rfl
    · rw [ih hnil hplain, List.length_cons, Nat.add_assoc, Nat.add_comm 1]
      rfl

end Pass

theorem not_break_of_mem_utf8EncodeChar {c : Char} (hc : ¬ (c = '\n' ∨ c = '\r')) :
    ∀ byte ∈ String.utf8EncodeChar c, byte ≠ 0x0D ∧ byte ≠ 0x0A := by
  intro byte hbyte
  constructor
  · rintro rfl
    exact hc (Or.inr (eq_of_mem_utf8EncodeChar return_lt hbyte))
  · rintro rfl
    exact hc (Or.inl (eq_of_mem_utf8EncodeChar lineFeed_lt hbyte))

/-- From any offset on, the pass over the bytes finds what the walk over the characters does. -/
theorem collectStarts_encode {cs : List Char} {offset : Nat} (h : 0 < offset ∨ cs ≠ [])
    (starts : List Nat) (fresh : Bool) :
    collectStarts starts fresh offset (encode cs) =
      noted starts fresh offset ++ breakEnds offset cs := by
  fun_induction breakEnds offset cs generalizing starts fresh with
  | case1 offset =>
    have hpos : 0 < offset := h.resolve_right (not_not_intro rfl)
    change noted starts (fresh && decide (0 < offset)) offset = _
    rw [decide_eq_true hpos, Bool.and_true, List.append_nil]
  | case2 offset cs ih =>
    change collectStarts (noted starts fresh offset) true (offset + 2) (encode cs) = _
    rw [ih (Or.inl (Nat.succ_pos _))]
    exact List.append_assoc _ _ _
  | case3 offset c cs hpair hc ih =>
    have hnext : c = '\r' → (encode cs).head? ≠ some 0x0A := by
      intro hreturn hhead
      rw [List.head?_eq_getElem?] at hhead
      have hfeed := (getElem?_encode_after lineFeed_lt [] cs).mp hhead
      obtain ⟨rest, hrest⟩ := List.head?_eq_some_iff.mp hfeed
      exact hpair rest hreturn hrest
    have hrest := ih (Or.inl (Nat.succ_pos _)) (noted starts fresh offset) true
    rcases hc with rfl | rfl
    · have hfeed : (0x0A : UInt8) = 0x0D → (encode cs).head? ≠ some 0x0A := by
        intro hbyte
        exact absurd hbyte (by decide)
      change collectStarts starts fresh offset (0x0A :: encode cs) = _
      rw [collectStarts_cons hfeed]
      exact hrest.trans (List.append_assoc _ _ _)
    · change collectStarts starts fresh offset (0x0D :: encode cs) = _
      rw [collectStarts_cons fun _ => hnext rfl]
      exact hrest.trans (List.append_assoc _ _ _)
  | case4 offset c cs hpair hc ih =>
    have hlength := String.length_utf8EncodeChar c
    have hpos := c.utf8Size_pos
    rw [encode_cons, collectStarts_append (List.ne_nil_of_length_pos (by omega))
      (not_break_of_mem_utf8EncodeChar hc), hlength, ih (Or.inl (by omega))]
    rfl

end Text

end LanguageServer
