/-
Codes of enumerations, read and written. A number or a name finds the known code
that has it, and only what no known code has is kept as unknown; such unknown
codes are the genuine ones, and reading gives no others.
-/
import CloudData.Wire.Code

namespace CloudData.Wire

/-! ## Looking up -/

section

variable {κ α : Type} [BEq α] [LawfulBEq α] {codes : List κ} {f : κ → α}

/-- Of codes that do not share what they are looked up by, the one meant is found. -/
theorem find?_beq_of_injective (hf : ∀ k l, f k = f l → k = l) {k : κ} (hk : k ∈ codes) :
    codes.find? (fun l => f l == f k) = some k := by
  cases h : codes.find? (fun l => f l == f k) with
  | none => exact absurd (beq_self_eq_true (f k)) (List.find?_eq_none.1 h k hk)
  | some l =>
    have hl := List.find?_some h
    rw [hf l k (eq_of_beq hl)]

theorem find?_beq_of_forall_ne {a : α} (h : ∀ k, f k ≠ a) :
    codes.find? (fun k => f k == a) = none := by
  refine List.find?_eq_none.2 fun k _ hk => ?_
  exact h k (eq_of_beq hk)

end

/-! ## Open enumerations -/

namespace OpenCode

variable {κ : Type} [CodeSet κ]

/-- A code that is not known is none of the known ones in disguise. -/
def Genuine : OpenCode κ → Prop
  | .known _ => True
  | .unknown (.number n) => ∀ k : κ, CodeSet.number k ≠ n
  | .unknown (.name s) => ∀ k : κ, CodeSet.name k ≠ s

theorem ofNumber_number (k : κ) : ofNumber (CodeSet.number k) = OpenCode.known k := by
  rw [ofNumber, find?_beq_of_injective CodeSet.number_injective (CodeSet.mem_codes k)]

theorem ofNumber_of_forall_ne {n : Int32} (h : ∀ k : κ, CodeSet.number k ≠ n) :
    ofNumber n = (.unknown (.number n) : OpenCode κ) := by
  rw [ofNumber, find?_beq_of_forall_ne h]

theorem ofName_name (k : κ) : ofName (CodeSet.name k) = OpenCode.known k := by
  rw [ofName, find?_beq_of_injective CodeSet.name_injective (CodeSet.mem_codes k)]

theorem ofName_of_forall_ne {s : String} (h : ∀ k : κ, CodeSet.name k ≠ s) :
    ofName s = (.unknown (.name s) : OpenCode κ) := by
  rw [ofName, find?_beq_of_forall_ne h]

/-- A number is that of a known code, or the code with it is not known. -/
theorem ofNumber_cases (n : Int32) :
    (∃ k : κ, CodeSet.number k = n ∧ ofNumber n = OpenCode.known k) ∨
    (∀ k : κ, CodeSet.number k ≠ n) ∧ ofNumber n = (.unknown (.number n) : OpenCode κ) := by
  by_cases h : ∃ k : κ, CodeSet.number k = n
  · obtain ⟨k, rfl⟩ := h
    exact .inl ⟨k, rfl, ofNumber_number k⟩
  · have hn : ∀ k : κ, CodeSet.number k ≠ n := fun k hk => h ⟨k, hk⟩
    exact .inr ⟨hn, ofNumber_of_forall_ne hn⟩

/-- A name is that of a known code, or the code with it is not known. -/
theorem ofName_cases (s : String) :
    (∃ k : κ, CodeSet.name k = s ∧ ofName s = OpenCode.known k) ∨
    (∀ k : κ, CodeSet.name k ≠ s) ∧ ofName s = (.unknown (.name s) : OpenCode κ) := by
  by_cases h : ∃ k : κ, CodeSet.name k = s
  · obtain ⟨k, rfl⟩ := h
    exact .inl ⟨k, rfl, ofName_name k⟩
  · have hs : ∀ k : κ, CodeSet.name k ≠ s := fun k hk => h ⟨k, hk⟩
    exact .inr ⟨hs, ofName_of_forall_ne hs⟩

theorem genuine_ofNumber (n : Int32) : (ofNumber n : OpenCode κ).Genuine := by
  rcases ofNumber_cases (κ := κ) n with ⟨k, -, h⟩ | ⟨hn, h⟩ <;> rw [h]
  · trivial
  · exact hn

theorem genuine_ofName (s : String) : (ofName s : OpenCode κ).Genuine := by
  rcases ofName_cases (κ := κ) s with ⟨k, -, h⟩ | ⟨hs, h⟩ <;> rw [h]
  · trivial
  · exact hs

/-- What is read from JSON is genuine. -/
theorem genuine_of_ofJson {j : Json} {c : OpenCode κ} (h : ofJson j = .ok c) : c.Genuine := by
  cases j with
  | str s =>
    cases h
    exact genuine_ofName s
  | int n =>
    rw [ofJson] at h
    split at h
    · cases h
      exact genuine_ofNumber _
    · cases h
  | _ => cases h

/-- A code reads back as the known one whose number or name it has, if there is one. -/
theorem ofJson_toJson (c : OpenCode κ) :
    ∃ d, ofJson c.toJson = .ok d ∧ (c.Genuine → d = c) := by
  cases c with
  | known k => exact ⟨.known k, by rw [toJson, ofJson, ofName_name], fun _ => rfl⟩
  | unknown u =>
    cases u with
    | number n =>
      refine ⟨ofNumber n, ?_, ofNumber_of_forall_ne⟩
      have hn : Int32.minValue.toInt ≤ n.toInt ∧ n.toInt ≤ Int32.maxValue.toInt :=
        ⟨n.minValue_le_toInt, n.toInt_le⟩
      rw [toJson, Json.ofInt32, ofJson, if_pos hn, Int32.ofInt_toInt]
    | name s => exact ⟨ofName s, rfl, ofName_of_forall_ne⟩

end OpenCode

/-! ## Closed enumerations -/

namespace NameSet

variable {κ : Type} [NameSet κ]

theorem ofJson_toJson (k : κ) : ofJson (toJson k) = .ok k := by
  rw [toJson, ofJson, ofName?, find?_beq_of_injective name_injective (mem_codes k)]

end NameSet

end CloudData.Wire
