/-
Which texts are cursors: those that cursors are saved as, and no others. This holds
with every encoder and every decoder that do what is asked of them in base 64.

`ofUrlSafe_eq_ok_iff`: a text is taken back as what the decoder reads.
`ofUrlSafe_eq_error_iff`: a text that is refused is an argument that is not valid, and
the cause is the fault that the decoder finds.
-/
import CloudData.Proofs.Text.Base64
import CloudData.Query.Cursor

namespace CloudData.Cursor

variable {encode : Bytes → String} {decode : String → Except Base64.Fault Bytes} {s : String}

theorem ofUrlSafe_eq_ok_iff {c : Cursor} : ofUrlSafe s decode = .ok c ↔ decode s = .ok c.bytes := by
  obtain ⟨bs⟩ := c
  unfold ofUrlSafe
  cases decode s with
  | ok cs => simp
  | error fault => simp

theorem ofUrlSafe_eq_error_iff {f : Failure} : ofUrlSafe s decode = .error f ↔
    ∃ fault, decode s = .error fault ∧ f = ⟨.invalidArgument, .cursor fault⟩ := by
  unfold ofUrlSafe
  cases decode s with
  | ok cs => simp
  | error fault => simp [eq_comm]

/-- **Saved cursors are taken back, and nothing else is.** A text is the cursor of these bytes exactly
if the cursor of these bytes is saved as it. A text that no cursor is saved as is refused: the failure
is that of an argument, and its cause is what the decoder finds wrong with the text. Of the encoder and
the decoder nothing is assumed but the alphabet, the padding and the zeros of texts in base 64. -/
theorem taken_back_iff_saved (hw : Base64.Writes .urlSafe true encode)
    (hr : Base64.Reads .urlSafe decode) (s : String) :
    (∀ bs, ofUrlSafe s decode = .ok ⟨bs⟩ ↔ s = toUrlSafe ⟨bs⟩ encode) ∧
    ((∃ fault, decode s = .error fault ∧
        ofUrlSafe s decode = .error ⟨.invalidArgument, .cursor fault⟩) ↔
      ∀ bs, s ≠ toUrlSafe ⟨bs⟩ encode) := by
  have hok : ∀ bs, ofUrlSafe s decode = .ok ⟨bs⟩ ↔ s = toUrlSafe ⟨bs⟩ encode :=
    fun bs => ofUrlSafe_eq_ok_iff.trans (hr.eq_ok_iff hw)
  refine ⟨hok, fun ⟨fault, _, hf⟩ bs hs => ?_, fun hs => ?_⟩
  · rw [(hok bs).2 hs] at hf
    cases hf
  · cases h : ofUrlSafe s decode with
    | ok c => exact absurd ((hok c.bytes).1 h) (hs c.bytes)
    | error f =>
      obtain ⟨fault, hd, rfl⟩ := ofUrlSafe_eq_error_iff.1 h
      exact ⟨fault, hd, rfl⟩

/-- Bits that are not used must be zero: 8 and 9 differ in such a bit only, and no cursor is saved
with the 9. -/
theorem taken_back_iff_saved_unused_bit :
    Base64.Writes .urlSafe true (Base64.padded .urlSafe) ∧
    Base64.Reads .urlSafe (Base64.decodeText .urlSafe .required) ∧
    ofUrlSafe "-_8=" = .ok ⟨[0xfb, 0xff]⟩ ∧
    ofUrlSafe "-_9=" = .error ⟨.invalidArgument, .cursor (.lastSymbol 57 2)⟩ ∧
    ∀ bs, "-_9=" ≠ toUrlSafe ⟨bs⟩ := by
  have hw := Base64.writes_padded .urlSafe
  have hr := Base64.reads_decodeText .urlSafe
  have hd : Base64.decodeText .urlSafe .required "-_9=" = .error (.lastSymbol 57 2) := by rfl
  have hf : ofUrlSafe "-_9=" = .error ⟨.invalidArgument, .cursor (.lastSymbol 57 2)⟩ :=
    ofUrlSafe_eq_error_iff.2 ⟨_, hd, rfl⟩
  exact ⟨hw, hr, ((taken_back_iff_saved hw hr "-_8=").1 _).2 rfl, hf,
    (taken_back_iff_saved hw hr "-_9=").2.1 ⟨_, hd, hf⟩⟩

end CloudData.Cursor
