/-
Whole numbers that were written in decimal are read back.
-/
import CloudData.Text.Digits

namespace CloudData

namespace Digits

theorem readNat?_toDigits (n : Nat) : readNat? (Nat.toDigits 10 n) = some n := by
  have hd : ∀ c ∈ Nat.toDigits 10 n, c.isDigit = true := fun c hc =>
    Nat.isDigit_of_mem_toDigits (by decide) (by decide) hc
  have hn : ¬ ((Nat.toDigits 10 n).isEmpty = true ∨
      (Nat.toDigits 10 n).any (fun c => !c.isDigit) = true) := by
    rintro (h | h)
    · exact Nat.toDigits_ne_nil (List.isEmpty_iff.1 h)
    · obtain ⟨c, hc, h⟩ := List.any_eq_true.1 h
      rw [hd c hc] at h
      cases h
  rw [readNat?, if_neg hn, Nat.ofDigitChars_ten_toDigits]

/-- Text that starts with a digit has no sign. -/
theorem readInt?_of_isDigit {c : Char} (h : c.isDigit = true) (cs : List Char) :
    readInt? (c :: cs) = (readNat? (c :: cs)).map Int.ofNat := by
  unfold readInt?
  split
  · rename_i he
    cases he
    exact absurd h (by decide)
  · rename_i he
    cases he
    exact absurd h (by decide)
  · rfl

theorem readInt?_write (n : Int) : readInt? (write n) = some n := by
  cases n with
  | ofNat n =>
    obtain ⟨c, cs, hc⟩ := List.exists_cons_of_ne_nil (Nat.toDigits_ne_nil (n := n) (b := 10))
    have hd : c.isDigit = true :=
      Nat.isDigit_of_mem_toDigits (by decide) (by decide) (hc ▸ List.mem_cons_self : c ∈ Nat.toDigits 10 n)
    rw [write, hc, readInt?_of_isDigit hd, ← hc, readNat?_toDigits]
    rfl
  | negSucc n =>
    rw [write, readInt?, readNat?_toDigits]
    rfl

end Digits

/-- A whole number of 64 bits is read back from its text. -/
theorem int64OfText?_intText (n : Int64) : int64OfText? (intText n.toInt) = some n := by
  have hn : Int64.minValue.toInt ≤ n.toInt ∧ n.toInt ≤ Int64.maxValue.toInt :=
    ⟨n.minValue_le_toInt, n.toInt_le⟩
  rw [int64OfText?, intText, String.toList_ofList, Digits.readInt?_write]
  simp only [if_pos hn, Int64.ofInt_toInt]

end CloudData
