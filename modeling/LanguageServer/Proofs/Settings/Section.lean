import LanguageServer.Settings.Basic
import Mathlib.Data.String.Basic

/-!
# The section that settings are read from

A section gives a number as a field of an object or as the only item of an array, and one that gives
none stands for the default. Nothing else of a section counts, and of a whole configuration nothing
but the section.

`ofSection` looks the field up. `take?` goes over the fields as they come and gives up at the first
fault. The two agree on values in which no name occurs twice, and a value in normal form is one.
-/

namespace LanguageServer

namespace Json

def DistinctNames : Json → Prop
  | object fields => (fields.map Prod.fst).Nodup
  | _ => True

variable {name other : String} {value : Json} {fields : List (String × Json)}

theorem mem_names_addField :
    other ∈ (addField name value fields).map Prod.fst ↔
      other = name ∨ other ∈ fields.map Prod.fst := by
  fun_induction addField name value fields with
  | case1 => simp
  | case2 => simp
  | case3 => simp
  | case4 first old fields _ _ ih =>
    simp only [List.map_cons, List.mem_cons, ih]
    exact or_left_comm

theorem pairwise_names_addField (h : (fields.map Prod.fst).Pairwise (· < ·)) :
    ((addField name value fields).map Prod.fst).Pairwise (· < ·) := by
  fun_induction addField name value fields with
  | case1 => exact List.pairwise_singleton _ _
  | case2 first old fields hlt =>
    refine List.pairwise_cons.mpr ⟨?_, h⟩
    intro other hother
    rcases List.mem_cons.mp hother with rfl | hother
    · exact hlt
    · exact String.lt_trans hlt ((List.pairwise_cons.mp h).1 other hother)
  | case3 => exact h
  | case4 first old fields hlt hne ih =>
    obtain ⟨hfirst, hrest⟩ := List.pairwise_cons.mp h
    refine List.pairwise_cons.mpr ⟨?_, ih hrest⟩
    intro other hother
    rcases mem_names_addField.mp hother with rfl | hother
    · exact lt_of_le_of_ne (String.not_lt.mp hlt) (Ne.symm hne)
    · exact hfirst other hother

theorem pairwise_names_normalizeFields (fields : List (String × Json)) :
    ((normalizeFields fields).map Prod.fst).Pairwise (· < ·) := by
  induction fields with
  | nil => exact .nil
  | cons field fields ih => exact pairwise_names_addField ih

theorem distinctNames_normalize (value : Json) : (normalize value).DistinctNames := by
  cases value with
  | object fields => exact (pairwise_names_normalizeFields fields).imp ne_of_lt
  | null | bool | int | float | string | array => trivial

end Json

namespace Settings

inductive Gives : Json → Nat → Prop where
  | field {fields : List (String × Json)} {n : Nat} :
      fields.lookup "maxNumberOfProblems" = some (.int n) → n < 2 ^ 64 → Gives (.object fields) n
  | item {n : Nat} : n < 2 ^ 64 → Gives (.array [.int n]) n

/-- Goes over fields and keeps what the one that counts has given. That it gives no number, or comes
a second time, is a fault. -/
def takeFields (taken? : Option Settings) : List (String × Json) → Option (Option Settings)
  | [] => some taken?
  | (name, value) :: fields =>
    if name = "maxNumberOfProblems" then
      if taken?.isSome then none
      else (ofCount? value).bind fun settings => takeFields (some settings) fields
    else takeFields taken? fields

/-- The first item is the number. There may be none, but an item that is left over is a fault. -/
def takeItems : List Json → Option Settings
  | [] => some default
  | item :: items =>
    (ofCount? item).bind fun settings => if items.isEmpty then some settings else none

def take? : Json → Option Settings
  | .object fields => (takeFields none fields).map (·.getD default)
  | .array items => takeItems items
  | _ => none

variable {settings : Settings} {value : Json} {fields fields' : List (String × Json)} {n : Nat}

theorem ofCount?_eq_some_iff :
    ofCount? value = some settings ↔ ∃ n : Nat, value = .int n ∧ n < 2 ^ 64 ∧ settings = ⟨n⟩ := by
  constructor
  · intro h
    cases value with
    | int k =>
      by_cases hk : 0 ≤ k ∧ k ≤ Json.integerMax
      · rw [ofCount?, if_pos hk] at h
        obtain ⟨n, rfl⟩ := Int.eq_ofNat_of_zero_le hk.1
        have hn := hk.2
        rw [Json.integerMax] at hn
        exact ⟨n, rfl, by omega, (Option.some.inj h).symm⟩
      · rw [ofCount?, if_neg hk] at h
        cases h
    | null | bool | float | string | array | object => cases h
  · rintro ⟨n, rfl, hn, rfl⟩
    refine if_pos ⟨Int.natCast_nonneg n, ?_⟩
    rw [Json.integerMax]
    omega

theorem ofSection?_eq_some_iff :
    ofSection? value = some settings ↔ ∃ n, Gives value n ∧ settings = ⟨n⟩ := by
  constructor
  · intro h
    unfold ofSection? at h
    split at h
    · obtain ⟨count, hlookup, hcount⟩ := Option.bind_eq_some_iff.mp h
      obtain ⟨n, rfl, hn, rfl⟩ := ofCount?_eq_some_iff.mp hcount
      exact ⟨n, .field hlookup hn, rfl⟩
    · obtain ⟨n, rfl, hn, rfl⟩ := ofCount?_eq_some_iff.mp h
      exact ⟨n, .item hn, rfl⟩
    · cases h
  · rintro ⟨n, hgives, rfl⟩
    cases hgives with
    | field hlookup hn =>
      rw [ofSection?, hlookup]
      exact ofCount?_eq_some_iff.mpr ⟨n, rfl, hn, rfl⟩
    | item hn => exact ofCount?_eq_some_iff.mpr ⟨n, rfl, hn, rfl⟩

theorem ofSection_of_gives (h : Gives value n) : ofSection value = ⟨n⟩ := by
  rw [ofSection, ofSection?_eq_some_iff.mpr ⟨n, h, rfl⟩]
  rfl

theorem ofSection_of_not_gives (h : ∀ n, ¬ Gives value n) : ofSection value = default := by
  cases hsome : ofSection? value with
  | none => rw [ofSection, hsome, Option.getD_none]
  | some settings =>
    obtain ⟨n, hgives, -⟩ := ofSection?_eq_some_iff.mp hsome
    exact absurd hgives (h n)

theorem takeFields_of_not_mem (taken? : Option Settings)
    (h : "maxNumberOfProblems" ∉ fields.map Prod.fst) : takeFields taken? fields = some taken? := by
  induction fields with
  | nil => rfl
  | cons field fields ih =>
    rw [List.map_cons, List.mem_cons, not_or] at h
    rw [takeFields, if_neg (Ne.symm h.1), ih h.2]

/-- Where no name comes back, going over the fields finds what looking the name up does. -/
theorem takeFields_none (h : (fields.map Prod.fst).Nodup) :
    takeFields none fields =
      (fields.lookup "maxNumberOfProblems").elim (some none) fun value =>
        (ofCount? value).map some := by
  induction fields with
  | nil => rfl
  | cons field fields ih =>
    obtain ⟨name, value⟩ := field
    obtain ⟨hfresh, hrest⟩ := List.nodup_cons.mp h
    by_cases hname : name = "maxNumberOfProblems"
    · subst hname
      rw [takeFields, if_pos rfl, List.lookup_cons_self]
      cases hcount : ofCount? value with
      | none => simp [hcount]
      | some settings => simp [hcount, takeFields_of_not_mem _ hfresh]
    · have hother : ("maxNumberOfProblems" == name) = false :=
        beq_eq_false_iff_ne.mpr (Ne.symm hname)
      rw [takeFields, if_neg hname, ih hrest, List.lookup_cons, hother]

theorem take?_getD (h : value.DistinctNames) : (take? value).getD default = ofSection value := by
  cases value with
  | object fields =>
    rw [take?, takeFields_none h, ofSection, ofSection?]
    cases fields.lookup "maxNumberOfProblems" with
    | none => rfl
    | some value => cases hcount : ofCount? value <;> simp [hcount]
  | array items =>
    match items with
    | [] => rfl
    | [item] =>
      rw [take?, takeItems, ofSection, ofSection?]
      cases hcount : ofCount? item <;> rfl
    | item :: second :: items =>
      cases hcount : ofCount? item <;> simp [take?, takeItems, ofSection, ofSection?, hcount]
  | null | bool | int | float | string => rfl

theorem ofPayload_of_section {payload : Json}
    (h : payload.field? "languageServerExample" = some value) :
    ofPayload payload = ofSection value := by
  rw [ofPayload, sectionName, h]
  rfl

theorem ofSection_object_congr
    (h : fields.lookup "maxNumberOfProblems" = fields'.lookup "maxNumberOfProblems") :
    ofSection (.object fields) = ofSection (.object fields') := by
  rw [ofSection, ofSection, ofSection?, ofSection?, h]

/-- A section stands for the number that it gives, and for the default where it gives none; taking
it step by step comes to the same. A configuration stands for what its section does, so nothing else
in it and nothing else in its section makes a difference. -/
theorem read_off_section :
    (∀ value n, Gives value n → ofSection value = ⟨n⟩) ∧
    (∀ value, (∀ n, ¬ Gives value n) → ofSection value = ⟨1000⟩) ∧
    (∀ value : Json, value.DistinctNames → ofSection value = (take? value).getD ⟨1000⟩) ∧
    (∀ value : Json, value.normalize.DistinctNames) ∧
    (∀ payload value, payload.field? "languageServerExample" = some value →
      ofPayload payload = ofSection value) ∧
    (∀ payload, payload.field? "languageServerExample" = none → ofPayload payload = ⟨1000⟩) ∧
    (∀ payload payload' : Json,
      payload.field? "languageServerExample" = payload'.field? "languageServerExample" →
      ofPayload payload = ofPayload payload') ∧
    ∀ (payload payload' : Json) (fields fields' : List (String × Json)),
      payload.field? "languageServerExample" = some (.object fields) →
      payload'.field? "languageServerExample" = some (.object fields') →
      fields.lookup "maxNumberOfProblems" = fields'.lookup "maxNumberOfProblems" →
      ofPayload payload = ofPayload payload' := by
  refine ⟨fun _ _ => ofSection_of_gives, fun _ => ofSection_of_not_gives, ?_,
    Json.distinctNames_normalize, ?_, ?_, ?_, ?_⟩
  · intro value hdistinct
    exact (take?_getD hdistinct).symm
  · intro payload value hvalue
    exact ofPayload_of_section hvalue
  · intro payload hnone
    rw [ofPayload, sectionName, hnone]
    rfl
  · intro payload payload' hsame
    rw [ofPayload, ofPayload, sectionName, hsame]
  · intro payload payload' fields fields' hfields hfields' hsame
    rw [ofPayload_of_section hfields, ofPayload_of_section hfields']
    exact ofSection_object_congr hsame

/-- The greatest number that counts. -/
def greatest : Json :=
  .object [("maxNumberOfProblems", .int 0xFFFFFFFFFFFFFFFF), ("trace", .bool true)]

def tooGreat : Json := .object [("maxNumberOfProblems", .int 0x10000000000000000)]

/-- The section under a name behind others. -/
def amongOthers : Json :=
  .object [("editor", .null), ("languageServerExample", greatest), ("trace", .bool false)]

def alone : Json :=
  .object [("languageServerExample", .object [("maxNumberOfProblems", .int 0xFFFFFFFFFFFFFFFF)])]

theorem read_off_section_greatest :
    Gives greatest (2 ^ 64 - 1) ∧ ofSection greatest = ⟨2 ^ 64 - 1⟩ ∧
    (∀ n, ¬ Gives tooGreat n) ∧ ofSection tooGreat = ⟨1000⟩ ∧
    greatest.DistinctNames ∧ ofSection greatest = (take? greatest).getD ⟨1000⟩ ∧
    amongOthers.field? "languageServerExample" = some greatest ∧
    ofPayload amongOthers = ofSection greatest ∧
    (Json.array [amongOthers]).field? "languageServerExample" = none ∧
    ofPayload (.array [amongOthers]) = ⟨1000⟩ ∧
    ofPayload amongOthers = ofPayload alone := by
  obtain ⟨hgives, hdefault, htaken, -, hsection, hnone, -, hpath⟩ := read_off_section
  have hgreatest : Gives greatest (2 ^ 64 - 1) := .field rfl (by decide)
  have hdistinct : greatest.DistinctNames := by
    change ["maxNumberOfProblems", "trace"].Nodup
    decide
  have htooGreat : ∀ n, ¬ Gives tooGreat n := by
    intro n h
    cases h with
    | field hlookup hn =>
      have heq : (0x10000000000000000 : Int) = n := Json.int.inj (Option.some.inj hlookup)
      omega
  exact ⟨hgreatest, hgives _ _ hgreatest, htooGreat, hdefault _ htooGreat, hdistinct,
    htaken _ hdistinct, rfl, hsection _ _ rfl, rfl, hnone _ rfl, hpath _ _ _ _ rfl rfl rfl⟩

/-- Less than zero, written with a point, as a text and not at all: none of these is a number. -/
example : ([.int (-1), .float 5, .string "5", .null].map fun count : Json =>
    ofSection (.array [count])) = List.replicate 4 ⟨1000⟩ := rfl

end Settings

end LanguageServer
