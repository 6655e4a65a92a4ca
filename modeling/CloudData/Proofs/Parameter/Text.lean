/-
Bytes as the text of a parameter, next to the text of a cursor of the same bytes:
one is the other without its padding. This holds with every two encoders of one
alphabet that differ in padding only, and every decoder that does what is asked of it.
-/
import CloudData.Parameter.Text
import CloudData.Proofs.Query.Cursor

namespace CloudData

namespace RequestParameter

/-- **Bytes as a parameter and as a cursor have one text up to padding.** The text of a parameter is
made of letters, digits, `-` and `_`; filled up with the signs that are missing, it is the text of
the cursor of these bytes, and is read as that. No other bytes have this text. As it stands, it can be
read as a cursor just where nothing is missing, which is where the bytes come in threes. -/
theorem format_bytes_filled_up {padded unpadded : Bytes → String}
    {decode : String → Except Base64.Fault Bytes} (hp : Base64.Writes .urlSafe true padded)
    (hu : Base64.Writes .urlSafe false unpadded) (hr : Base64.Reads .urlSafe decode) (bs : Bytes) :
    ∃ t, (ofEncoder unpadded).format bs = .ok t ∧
      (∀ c ∈ t.toList, c.isAlphanum = true ∨ c = '-' ∨ c = '_') ∧
      (let filled := t ++ String.ofList (List.replicate ((3 - bs.length % 3) % 3) '=')
       filled = Cursor.toUrlSafe ⟨bs⟩ padded ∧ Cursor.ofUrlSafe filled decode = .ok ⟨bs⟩) ∧
      (∀ cs : Bytes, (ofEncoder unpadded).format cs = .ok t ↔ cs = bs) ∧
      ((∃ c, Cursor.ofUrlSafe t decode = .ok c) ↔ 3 ∣ bs.length) := by
  have hfilled := (hu bs).fill
  refine ⟨unpadded bs, rfl, fun c => (hu bs).urlSafe_chars,
    ⟨hp.spells_iff.1 hfilled, Cursor.ofUrlSafe_eq_ok_iff.2 ((hr _ bs).2 hfilled)⟩,
    fun cs => ⟨fun h => ?_, ?_⟩, ?_⟩
  · have hc := hu cs
    rw [Except.ok.inj h] at hc
    exact hc.bytes_unique (hu bs)
  · rintro rfl
    rfl
  · rw [← (hu bs).whole_iff]
    constructor
    · rintro ⟨c, h⟩
      exact ⟨c.bytes, (hr _ c.bytes).1 (Cursor.ofUrlSafe_eq_ok_iff.1 h)⟩
    · rintro ⟨cs, h⟩
      exact ⟨⟨cs⟩, Cursor.ofUrlSafe_eq_ok_iff.2 ((hr _ cs).2 h)⟩

/-- Two bytes lack one sign, and their text is no cursor; three bytes lack none. -/
theorem format_bytes_filled_up_two :
    Base64.Writes .urlSafe true (Base64.padded .urlSafe) ∧
    Base64.Writes .urlSafe false (Base64.unpadded .urlSafe) ∧
    Base64.Reads .urlSafe (Base64.decodeText .urlSafe .required) ∧
    format ([0xfb, 0xff] : Bytes) = .ok "-_8" ∧
    (∀ c ∈ "-_8".toList, c.isAlphanum = true ∨ c = '-' ∨ c = '_') ∧
    "-_8=" = Cursor.toUrlSafe ⟨[0xfb, 0xff]⟩ ∧
    Cursor.ofUrlSafe "-_8=" = .ok ⟨[0xfb, 0xff]⟩ ∧
    (∀ cs : Bytes, format cs = .ok "-_8" ↔ cs = [0xfb, 0xff]) ∧
    (¬ ∃ c, Cursor.ofUrlSafe "-_8" = .ok c) ∧
    ∃ c, Cursor.ofUrlSafe "-_-_" = .ok c := by
  have hp := Base64.writes_padded .urlSafe
  have hu := Base64.writes_unpadded .urlSafe
  have hr := Base64.reads_decodeText .urlSafe
  have htwo : format ([0xfb, 0xff] : Bytes) = .ok "-_8" := by rfl
  have hthree : format ([0xfb, 0xff, 0xbf] : Bytes) = .ok "-_-_" := by rfl
  obtain ⟨t, ht, hchars, ⟨hsaved, hread⟩, hone, hbare⟩ := format_bytes_filled_up hp hu hr [0xfb, 0xff]
  obtain ⟨u, hu', -, -, -, hwhole⟩ := format_bytes_filled_up hp hu hr [0xfb, 0xff, 0xbf]
  obtain rfl : "-_8" = t := Except.ok.inj (htwo.symm.trans ht)
  obtain rfl : "-_-_" = u := Except.ok.inj (hthree.symm.trans hu')
  exact ⟨hp, hu, hr, ht, hchars, hsaved, hread, hone, fun h => absurd (hbare.1 h) (by decide),
    hwhole.2 (by decide)⟩

end RequestParameter

end CloudData
