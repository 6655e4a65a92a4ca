/-
What an open enumeration keeps of a code: the number or the name that it came
with, whether a known code has it or not.

`number?_ofNumber`, `name?_ofName`: a code has the number or the name that it was
found by, and a known one the other as well (`paired_codes`).
`Genuine.ofNumber_eq`, `Genuine.ofName_eq`: a code that was read is found again by
either. `toJson_eq_some`, `text_eq_some`: every code has at least one of the two,
so there is always something to write.
-/
import CloudData.Proofs.Wire.Code
import CloudData.Wire.Batch
import Mathlib.Algebra.Group.Int.Defs

namespace CloudData.Wire

open Json

theorem int32_range_iff (n : Int) :
    Int32.minValue.toInt ≤ n ∧ n ≤ Int32.maxValue.toInt ↔ -2 ^ 31 ≤ n ∧ n < 2 ^ 31 := by
  rw [Int32.toInt_minValue, Int32.toInt_maxValue]
  omega

namespace OpenCode

variable {κ : Type} [CodeSet κ]

/-! ## Numbers and names -/

theorem number?_ofNumber (n : Int32) : (ofNumber n : OpenCode κ).number? = some n := by
  rcases ofNumber_cases (κ := κ) n with ⟨k, rfl, h⟩ | ⟨-, h⟩ <;> rw [h] <;> rfl

theorem name?_ofName (s : String) : (ofName s : OpenCode κ).name? = some s := by
  rcases ofName_cases (κ := κ) s with ⟨k, rfl, h⟩ | ⟨-, h⟩ <;> rw [h] <;> rfl

/-- A number has the name of the code it is the number of. -/
theorem name?_ofNumber_eq_some {n : Int32} {s : String} :
    (ofNumber n : OpenCode κ).name? = some s ↔
      ∃ k : κ, CodeSet.number k = n ∧ CodeSet.name k = s := by
  rcases ofNumber_cases (κ := κ) n with ⟨k, rfl, h⟩ | ⟨hn, h⟩ <;> rw [h]
  · constructor
    · intro hs
      exact ⟨k, rfl, Option.some.inj hs⟩
    · rintro ⟨l, hl, rfl⟩
      rw [CodeSet.number_injective l k hl]
      rfl
  · exact ⟨nofun, fun ⟨k, hk, _⟩ => absurd hk (hn k)⟩

/-- And the other way round. -/
theorem number?_ofName_eq_some {n : Int32} {s : String} :
    (ofName s : OpenCode κ).number? = some n ↔
      ∃ k : κ, CodeSet.number k = n ∧ CodeSet.name k = s := by
  rcases ofName_cases (κ := κ) s with ⟨k, rfl, h⟩ | ⟨hs, h⟩ <;> rw [h]
  · constructor
    · intro hn
      exact ⟨k, Option.some.inj hn, rfl⟩
    · rintro ⟨l, rfl, hl⟩
      rw [CodeSet.name_injective l k hl]
      rfl
  · exact ⟨nofun, fun ⟨k, _, hk⟩ => absurd hk (hs k)⟩

theorem Genuine.ofNumber_eq {c : OpenCode κ} (hc : c.Genuine) {n : Int32} (h : c.number? = some n) :
    ofNumber n = c := by
  cases c with
  | known k =>
    cases h
    exact ofNumber_number k
  | unknown u =>
    cases u with
    | number m =>
      cases h
      exact ofNumber_of_forall_ne hc
    | name s => cases h

theorem Genuine.ofName_eq {c : OpenCode κ} (hc : c.Genuine) {s : String} (h : c.name? = some s) :
    ofName s = c := by
  cases c with
  | known k =>
    cases h
    exact ofName_name k
  | unknown u =>
    cases u with
    | number n => cases h
    | name t =>
      cases h
      exact ofName_of_forall_ne hc

/-! ## Writing -/

/-- What is written is the name, or the number where there is no name; one of them there is. -/
theorem toJson_eq_some (c : OpenCode κ) :
    (c.name?.map Json.str).or (c.number?.map ofInt32) = some c.toJson := by
  cases c with
  | known k => rfl
  | unknown u => cases u <;> rfl

theorem toJson_ofName (s : String) : (ofName s : OpenCode κ).toJson = .str s := by
  have h := toJson_eq_some (ofName s : OpenCode κ)
  rw [name?_ofName] at h
  exact (Option.some.inj h).symm

theorem text_eq_some (c : OpenCode κ) :
    c.name?.or (c.number?.map fun n => intText n.toInt) = some c.text := by
  cases c with
  | known k => rfl
  | unknown u => cases u <;> rfl

/-! ## Reading -/

theorem ofJson_int (n : Int) :
    (ofJson (.int n) : Read (OpenCode κ)) =
      if -2 ^ 31 ≤ n ∧ n < 2 ^ 31 then .ok (ofNumber (Int32.ofInt n))
      else .error (.codeRange n (CodeSet.enumeration κ)) := by
  rw [ofJson]
  simp only [int32_range_iff]

theorem ofJson_ofInt32 (n : Int32) : (ofJson (ofInt32 n) : Read (OpenCode κ)) = .ok (ofNumber n) := by
  have hn : -2 ^ 31 ≤ n.toInt ∧ n.toInt < 2 ^ 31 :=
    (int32_range_iff _).1 ⟨n.minValue_le_toInt, n.toInt_le⟩
  rw [ofInt32, ofJson_int, if_pos hn, Int32.ofInt_toInt]

theorem number?_of_ofJson_int {n : Int} {c : OpenCode κ} (h : ofJson (.int n) = .ok c) :
    c.number?.map Int32.toInt = some n := by
  rw [ofJson_int] at h
  split at h
  · rename_i hn
    cases h
    rw [number?_ofNumber, Option.map_some, Int32.toInt_ofInt_of_le hn.1 hn.2]
  · cases h

theorem ofJson_toJson_of_ofJson {j : Json} {c : OpenCode κ} (h : ofJson j = .ok c) :
    ofJson c.toJson = .ok c := by
  obtain ⟨d, hd, he⟩ := ofJson_toJson c
  rw [hd, he (genuine_of_ofJson h)]

end OpenCode

/-! ## What is kept -/

open OpenCode in
/-- Of the codes of an enumeration, read from numbers and from names, nothing is lost. -/
structure CodesKept (κ : Type) [CodeSet κ] : Prop where
  /-- Of the whole numbers, those of 32 bits are read. -/
  number_read_iff : ∀ n : Int, (∃ c : OpenCode κ, ofJson (.int n) = .ok c) ↔ -2 ^ 31 ≤ n ∧ n < 2 ^ 31
  /-- A code that was read from a number has that number. -/
  number_kept : ∀ (n : Int) (c : OpenCode κ), ofJson (.int n) = .ok c →
    c.number?.map Int32.toInt = some n
  /-- Every name is read, as a code that has it. -/
  name_kept : ∀ s, ∃ c : OpenCode κ, ofJson (.str s) = .ok c ∧ c.name? = some s
  /-- The number and the name of a code that was read, so far as it has them, lead back to it. -/
  found_again : ∀ (j : Json) (c : OpenCode κ), ofJson j = .ok c →
    (∀ n, c.number? = some n → ofNumber n = c) ∧ ∀ s, c.name? = some s → ofName s = c
  /-- Any code is written as its name or else as its number, and has one of them. -/
  written : ∀ c : OpenCode κ, (c.name?.map Json.str).or (c.number?.map ofInt32) = some c.toJson
  /-- The same of its text. -/
  shown : ∀ c : OpenCode κ, c.name?.or (c.number?.map fun n => intText n.toInt) = some c.text
  /-- A code that was read is read again from what it is written as. -/
  reread : ∀ (j : Json) (c : OpenCode κ), ofJson j = .ok c → ofJson c.toJson = .ok c
  /-- A known number is rewritten as the name of its code. -/
  known_rewritten : ∀ k : κ,
    (ofJson (ofInt32 (CodeSet.number k)) : Read (OpenCode κ)).map toJson = .ok (.str (CodeSet.name k))
  /-- Any other number stays, and so does every name. -/
  unknown_rewritten : ∀ n : Int32, (∀ k : κ, CodeSet.number k ≠ n) →
    (ofJson (ofInt32 n) : Read (OpenCode κ)).map toJson = .ok (ofInt32 n)
  name_rewritten : ∀ s, (ofJson (.str s) : Read (OpenCode κ)).map toJson = .ok (.str s)

open OpenCode in
theorem codesKept (κ : Type) [CodeSet κ] : CodesKept κ where
  number_read_iff n := by
    rw [ofJson_int]
    split
    · rename_i hn
      exact ⟨fun _ => hn, fun _ => ⟨_, rfl⟩⟩
    · rename_i hn
      exact ⟨nofun, fun h => absurd h hn⟩
  number_kept _ _ := number?_of_ofJson_int
  name_kept s := ⟨ofName s, rfl, name?_ofName s⟩
  found_again _ _ h :=
    ⟨fun _ => (genuine_of_ofJson h).ofNumber_eq, fun _ => (genuine_of_ofJson h).ofName_eq⟩
  written := toJson_eq_some
  shown := text_eq_some
  reread _ _ := ofJson_toJson_of_ofJson
  known_rewritten k := by
    rw [ofJson_ofInt32, ofNumber_number]
    rfl
  unknown_rewritten n hn := by
    rw [ofJson_ofInt32, ofNumber_of_forall_ne hn]
    rfl
  name_rewritten s := congrArg Except.ok (toJson_ofName s)

/-- The numbers and the names that go together, whichever of them is looked up. -/
structure Paired (κ : Type) [CodeSet κ] (table : List (Int32 × String)) : Prop where
  name?_ofNumber_iff : ∀ n s, (OpenCode.ofNumber n : OpenCode κ).name? = some s ↔ (n, s) ∈ table
  number?_ofName_iff : ∀ n s, (OpenCode.ofName s : OpenCode κ).number? = some n ↔ (n, s) ∈ table

theorem paired_codes (κ : Type) [CodeSet κ] :
    Paired κ ((CodeSet.codes : List κ).map fun k => (CodeSet.number k, CodeSet.name k)) := by
  have hmem (n : Int32) (s : String) :
      (∃ k : κ, CodeSet.number k = n ∧ CodeSet.name k = s) ↔
        (n, s) ∈ (CodeSet.codes : List κ).map fun k => (CodeSet.number k, CodeSet.name k) := by
    simp [CodeSet.mem_codes]
  constructor
  · intro n s
    rw [OpenCode.name?_ofNumber_eq_some, hmem]
  · intro n s
    rw [OpenCode.number?_ofName_eq_some, hmem]

/-- **No code is lost**, neither of what the entities of a batch hold nor of whether more follow. Any
number of 32 bits and any name is read, and the code has it. Both lead back to a code that was read,
and so does what it is written as: its name, or its number where it has no name. The numbers and
names of the known codes are these; those of the second kind are not in order. -/
theorem codesKept_batch :
    CodesKept ResultCode ∧ CodesKept MoreCode ∧
    Paired ResultCode
      [(0, "RESULT_TYPE_UNSPECIFIED"), (1, "FULL"), (2, "PROJECTION"), (3, "KEY_ONLY")] ∧
    Paired MoreCode
      [(0, "MORE_RESULTS_TYPE_UNSPECIFIED"), (1, "NOT_FINISHED"), (2, "MORE_RESULTS_AFTER_LIMIT"),
        (4, "MORE_RESULTS_AFTER_CURSOR"), (3, "NO_MORE_RESULTS")] :=
  ⟨codesKept ResultCode, codesKept MoreCode, paired_codes ResultCode, paired_codes MoreCode⟩

end CloudData.Wire
