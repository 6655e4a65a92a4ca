/-
Bytes that were written in base 64 are read back, and where padding is required
nothing else is read: this codec does what is asked of one.

The text of bytes is that of their sextets: six bits of them at a time, the last
ones filled up with zeros. `decodeFrom_groups`: groups of four symbols give the bytes
back, and so does a last group that is filled up. `decodeText_padded`: so does a whole
text. `decodeLast_sound`, `decodeFrom_sound`: the other way round, symbols and padding
that are read as some bytes are those of these bytes. `bits_sextets`: sextets carry
the bits of the bytes. `writes_padded`, `writes_unpadded`, `reads_decodeText`: what is
written and read is what texts spell.
-/
import CloudData.Proofs.Text.Spelling

namespace CloudData.Base64

/-! ## Sextets -/

/-- The bits of bytes, six at a time. -/
def sextets : Bytes → List Nat
  | [] => []
  | [x] => [x.toNat / 4, x.toNat % 4 * 16]
  | [x, y] => [x.toNat / 4, x.toNat % 4 * 16 + y.toNat / 16, y.toNat % 16 * 4]
  | x :: y :: z :: rest =>
    x.toNat / 4 :: (x.toNat % 4 * 16 + y.toNat / 16) :: (y.toNat % 16 * 4 + z.toNat / 64) ::
      z.toNat % 64 :: sextets rest

theorem encodeUnpadded_eq_map (a : Alphabet) (bs : Bytes) :
    encodeUnpadded a bs = (sextets bs).map a.symbol := by
  induction bs using sextets.induct with
  | case1 => rfl
  | case2 x => rfl
  | case3 x y => rfl
  | case4 x y z rest ih => rw [encodeUnpadded, sextets, ih]; rfl

theorem lt_of_mem_sextets {bs : Bytes} {v : Nat} (h : v ∈ sextets bs) : v < 64 := by
  induction bs using sextets.induct with
  | case1 => cases h
  | case2 x =>
    have := x.toNat_lt
    simp only [sextets, List.mem_cons, List.not_mem_nil, or_false] at h
    omega
  | case3 x y =>
    have := x.toNat_lt
    have := y.toNat_lt
    simp only [sextets, List.mem_cons, List.not_mem_nil, or_false] at h
    omega
  | case4 x y z rest ih =>
    have := x.toNat_lt
    have := y.toNat_lt
    have := z.toNat_lt
    simp only [sextets, List.mem_cons] at h
    rcases h with h | h | h | h | h
    · omega
    · omega
    · omega
    · omega
    · exact ih h

/-- Sextets and padding make whole groups of four. -/
theorem length_sextets (bs : Bytes) : ((sextets bs).length + padCount bs.length) % 4 = 0 := by
  induction bs using sextets.induct with
  | case1 => rfl
  | case2 x => simp [sextets, padCount]
  | case3 x y => simp [sextets, padCount]
  | case4 x y z rest ih =>
    unfold padCount at ih ⊢
    simp only [sextets, List.length_cons]
    omega

/-- Three bytes more need no other padding. -/
theorem padCount_add_three (n : Nat) : padCount (n + 3) = padCount n := by
  unfold padCount
  omega

/-! ## Symbols -/

theorem exists_symbol_of_mem {a : Alphabet} {bs : Bytes} {c : Char} (h : c ∈ encodeUnpadded a bs) :
    ∃ v < 64, a.symbol v = c := by
  rw [encodeUnpadded_eq_map] at h
  obtain ⟨v, hv, rfl⟩ := List.mem_map.1 h
  exact ⟨v, lt_of_mem_sextets hv, rfl⟩

/-- Text of ASCII signs has one byte for each. -/
theorem toUTF8_ofList {cs : List Char} (h : ∀ c ∈ cs, c.val ≤ 127) :
    (String.ofList cs).toUTF8.data.toList = cs.map fun c => c.val.toUInt8 := by
  rw [String.toUTF8_eq_toByteArray, String.toByteArray_ofList]
  induction cs with
  | nil => rfl
  | cons c cs ih =>
    rw [List.forall_mem_cons] at h
    have hc : String.utf8EncodeChar c = [c.val.toUInt8] :=
      String.utf8EncodeChar_eq_singleton (Char.utf8Size_eq_one_iff.2 h.1)
    rw [List.utf8Encode_cons, List.utf8Encode_singleton, hc, ByteArray.toList_data_append, ih h.2]
    rfl

/-- The bytes of symbols, and then `n` signs for padding. -/
def groups (a : Alphabet) (vs : List Nat) (n : Nat) : Bytes :=
  vs.map a.symbolByte ++ List.replicate n padByte

theorem toUTF8_padded (a : Alphabet) (bs : Bytes) :
    (padded a bs).toUTF8.data.toList = groups a (sextets bs) (padCount bs.length) := by
  rw [padded, toUTF8_ofList, encodeUnpadded_eq_map, List.map_append, List.map_map,
    List.map_replicate]
  · rfl
  · intro c hc
    rcases List.mem_append.1 hc with hc | hc
    · obtain ⟨v, hv, rfl⟩ := exists_symbol_of_mem hc
      exact (symbol_spec a hv).1
    · rw [List.eq_of_mem_replicate hc]
      decide

/-! ## Reading -/

theorem readSymbol_symbolByte (a : Alphabet) (offset : Nat) {v : Nat} (h : v < 64) :
    readSymbol a offset (a.symbolByte v) = .ok v := by
  rw [readSymbol, (symbol_spec a h).2.2]

/-- The last group is scanned up to its padding, which starts after two symbols or more. -/
theorem scanLast_groups (a : Alphabet) (start : Nat) (seen : List Nat) {vs : List Nat} {n : Nat}
    (hv : ∀ v ∈ vs, v < 64) (hn : n = 0 ∨ 2 ≤ seen.length + vs.length) :
    scanLast a start seen (groups a vs n) = .ok (seen ++ vs, n) := by
  induction vs generalizing seen with
  | nil =>
    cases n with
    | zero => simp [groups, scanLast]
    | succ n =>
      have hs : ¬ seen.length < 2 := by
        rcases hn with hn | hn
        · cases hn
        · rw [List.length_nil] at hn
          omega
      simp [groups, List.replicate_succ, scanLast, hs]
  | cons v vs ih =>
    rw [List.forall_mem_cons] at hv
    have hp : a.symbolByte v ≠ padByte := (symbol_spec a hv.1).2.1
    have ih := ih (seen ++ [v]) hv.2 (by simp only [List.length_append, List.length_cons] at hn ⊢; omega)
    rw [groups, List.map_cons, List.cons_append, scanLast, if_neg hp, readSymbol_symbolByte a _ hv.1]
    refine Eq.trans ih ?_
    rw [List.append_assoc, List.singleton_append]

theorem ofNat_eq_of_eq {x : UInt8} {n : Nat} (h : n = x.toNat) : UInt8.ofNat n = x := by
  rw [h, UInt8.ofNat_toNat]

/-- Four sextets are those of three bytes. -/
theorem bytes_of_four (x y z : UInt8) :
    UInt8.ofNat (x.toNat / 4 * 4 + (x.toNat % 4 * 16 + y.toNat / 16) / 16) = x ∧
    UInt8.ofNat ((x.toNat % 4 * 16 + y.toNat / 16) % 16 * 16 +
      (y.toNat % 16 * 4 + z.toNat / 64) / 4) = y ∧
    UInt8.ofNat ((y.toNat % 16 * 4 + z.toNat / 64) % 4 * 64 + z.toNat % 64) = z := by
  have hx := x.toNat_lt
  have hy := y.toNat_lt
  have hz := z.toNat_lt
  exact ⟨ofNat_eq_of_eq (by omega), ofNat_eq_of_eq (by omega), ofNat_eq_of_eq (by omega)⟩

/-- The last group, filled up to four, gives the bytes back, of which there are at most three. -/
theorem decodeLast_groups (a : Alphabet) (p : Padding) (start : Nat) (bs : Bytes)
    (h : bs.length ≤ 3) :
    decodeLast a p start (groups a (sextets bs) (padCount bs.length)) = .ok bs := by
  have hn : padCount bs.length = 0 ∨ 2 ≤ (sextets bs).length := by
    match bs with
    | [] => exact .inl rfl
    | [_] | [_, _] | [_, _, _] => exact .inr (by simp [sextets])
  have hs := scanLast_groups a start [] (fun _ => lt_of_mem_sextets) (by simpa using hn)
  rw [decodeLast, hs]
  match bs with
  | [] => simp [bind, Except.bind, pure, Except.pure, padCount, sextets, groups]
  | [x] =>
    have hx := x.toNat_lt
    have h₁ : UInt8.ofNat (x.toNat / 4 * 4 + x.toNat % 4) = x := ofNat_eq_of_eq (by omega)
    simpa [bind, Except.bind, pure, Except.pure, padCount, sextets] using h₁
  | [x, y] =>
    have hx := x.toNat_lt
    have hy := y.toNat_lt
    have h₁ : UInt8.ofNat (x.toNat / 4 * 4 + (x.toNat % 4 * 16 + y.toNat / 16) / 16) = x :=
      ofNat_eq_of_eq (by omega)
    have h₂ : UInt8.ofNat ((x.toNat % 4 * 16 + y.toNat / 16) % 16 * 16 + y.toNat % 16) = y :=
      ofNat_eq_of_eq (by omega)
    simpa [bind, Except.bind, pure, Except.pure, padCount, sextets] using And.intro h₁ h₂
  | [x, y, z] =>
    simpa [bind, Except.bind, pure, Except.pure, padCount, sextets] using bytes_of_four x y z

/-- A group that is not the last gives three bytes, and reading goes on after it. -/
theorem decodeFrom_four (a : Alphabet) (p : Padding) {start v w x y : Nat} {rest bs : Bytes}
    (hv : v < 64) (hw : w < 64) (hx : x < 64) (hy : y < 64) (hr : rest ≠ [])
    (h : decodeFrom a p (start + 4) rest = .ok bs) :
    decodeFrom a p start
        (a.symbolByte v :: a.symbolByte w :: a.symbolByte x :: a.symbolByte y :: rest) =
      .ok (UInt8.ofNat (v * 4 + w / 16) :: UInt8.ofNat (w % 16 * 16 + x / 4) ::
        UInt8.ofNat (x % 4 * 64 + y) :: bs) := by
  cases rest with
  | nil => exact absurd rfl hr
  | cons b rest =>
    rw [decodeFrom, readSymbol_symbolByte a _ hv, readSymbol_symbolByte a _ hw,
      readSymbol_symbolByte a _ hx, readSymbol_symbolByte a _ hy, h]
    rfl

/-- The symbols of bytes, filled up to whole groups of four, give the bytes back. -/
theorem decodeFrom_groups (a : Alphabet) (p : Padding) (start : Nat) (bs : Bytes) :
    decodeFrom a p start (groups a (sextets bs) (padCount bs.length)) = .ok bs := by
  induction bs using sextets.induct generalizing start with
  | case1 => exact decodeLast_groups a p start [] (by decide)
  | case2 x => exact decodeLast_groups a p start [x] (Nat.le_add_left 1 2)
  | case3 x y => exact decodeLast_groups a p start [x, y] (Nat.le_add_left 2 1)
  | case4 x y z rest ih =>
    -- four symbols at the very end are a last group, and are read as one
    cases rest with
    | nil =>
      have h := decodeLast_groups a p start [x, y, z] (Nat.le_refl 3)
      have hp : padCount [x, y, z].length = 0 := by simp [padCount]
      rw [hp, sextets, sextets] at h ⊢
      exact h
    | cons b rest =>
      have hv : ∀ v ∈ sextets (x :: y :: z :: b :: rest), v < 64 := fun _ => lt_of_mem_sextets
      have hp : padCount (x :: y :: z :: b :: rest).length = padCount (b :: rest).length :=
        padCount_add_three (b :: rest).length
      have hr : groups a (sextets (b :: rest)) (padCount (b :: rest).length) ≠ [] := by
        rcases rest with _ | ⟨c, _ | ⟨d, rest⟩⟩ <;> simp [groups, sextets]
      obtain ⟨h₁, h₂, h₃⟩ := bytes_of_four x y z
      simp only [sextets, List.forall_mem_cons] at hv
      obtain ⟨hv₁, hv₂, hv₃, hv₄, -⟩ := hv
      rw [hp, sextets]
      refine (decodeFrom_four a p hv₁ hv₂ hv₃ hv₄ hr (ih (start + 4))).trans ?_
      rw [h₁, h₂, h₃]

/-- **Bytes in base 64 are read back**, in either alphabet, whether padding is required or not. -/
theorem decodeText_padded (a : Alphabet) (p : Padding) (bs : Bytes) :
    decodeText a p (padded a bs) = .ok bs := by
  have hl : ¬ (groups a (sextets bs) (padCount bs.length)).length % 4 = 1 := by
    have := length_sextets bs
    simp only [groups, List.length_append, List.length_map, List.length_replicate]
    omega
  have hs : strayLast? a (groups a (sextets bs) (padCount bs.length)) = none := by
    unfold strayLast?
    split
    · rw [if_neg fun h => hl h.1]
    · rfl
  rw [decodeText, toUTF8_padded, decode, hs]
  exact decodeFrom_groups a p 0 bs

/-! ## Only what was written is read -/

section
variable {ε α β : Type}

theorem bind_eq_ok {x : Except ε α} {f : α → Except ε β} {b : β} :
    (x >>= f) = .ok b ↔ ∃ a, x = .ok a ∧ f a = .ok b := by
  cases x <;> simp [bind, Except.bind]

/-- What passes a check has not failed it. -/
theorem check_eq_ok {p : Prop} [Decidable p] {e : ε} {f : α → Except ε β} {x : Except ε β} {b : β} :
    (if p then throw e >>= f else x) = .ok b ↔ ¬ p ∧ x = .ok b := by
  by_cases h : p
  · simp [h, throw, throwThe, MonadExceptOf.throw, bind, Except.bind]
  · simp [h]

end

/-- A byte with a value is the symbol of that value. -/
theorem symbolByte_of_value? {a : Alphabet} {b : UInt8} {v : Nat} (h : a.value? b = some v) :
    v < 64 ∧ a.symbolByte v = b := by
  have hall : ∀ n : Fin 256, ∀ w ∈ a.value? (UInt8.ofNat n),
      w < 64 ∧ a.symbolByte w = UInt8.ofNat n := by
    cases a <;> decide +kernel
  have hb := hall ⟨b.toNat, b.toNat_lt⟩ v
  rw [UInt8.ofNat_toNat] at hb
  exact hb h

theorem symbolByte_of_readSymbol {a : Alphabet} {offset : Nat} {b : UInt8} {v : Nat}
    (h : readSymbol a offset b = .ok v) : v < 64 ∧ a.symbolByte v = b := by
  unfold readSymbol at h
  split at h
  · rename_i w hw
    cases h
    exact symbolByte_of_value? hw
  · cases h

/-- A last group that is scanned consists of the symbols of what was found and of its padding. -/
theorem scanLast_sound {a : Alphabet} {start pads : Nat} {seen vs : List Nat} {group : Bytes}
    (h : scanLast a start seen group = .ok (vs, pads)) :
    ∃ ws, vs = seen ++ ws ∧ group = groups a ws pads ∧ ∀ w ∈ ws, w < 64 := by
  induction group generalizing seen with
  | nil =>
    rw [scanLast] at h
    cases h
    exact ⟨[], by simp, rfl, by simp⟩
  | cons b rest ih =>
    rw [scanLast] at h
    split at h
    · rename_i hb
      split at h
      · cases h
      · rename_i hn
        cases h
        have hr : ∀ c ∈ rest, c = padByte := by
          intro c hc
          simp only [not_or, List.any_eq_true, not_exists, not_and] at hn
          simpa using hn.2 c hc
        have hg : b :: rest = List.replicate (rest.length + 1) padByte := by
          rw [hb, List.replicate_succ, ← List.eq_replicate_of_mem hr]
        exact ⟨[], by simp, hg, by simp⟩
    · obtain ⟨v, hr, h⟩ := bind_eq_ok.1 h
      obtain ⟨ws, hvs, hg, hw⟩ := ih h
      obtain ⟨hv, hb⟩ := symbolByte_of_readSymbol hr
      refine ⟨v :: ws, ?_, ?_, List.forall_mem_cons.2 ⟨hv, hw⟩⟩
      · rw [hvs, List.append_assoc, List.singleton_append]
      · rw [hg, ← hb]
        rfl

/-- Two sextets of which the second ends in four zeros are those of one byte. -/
theorem sextets_of_two {v w : Nat} (hv : v < 64) (hw : w < 64) (h : w % 16 = 0) :
    sextets [UInt8.ofNat (v * 4 + w / 16)] = [v, w] := by
  have hx : (UInt8.ofNat (v * 4 + w / 16)).toNat = v * 4 + w / 16 :=
    UInt8.toNat_ofNat_of_lt' (show _ < 256 by omega)
  simp only [sextets, hx, List.cons.injEq, and_true]
  omega

/-- Three sextets of which the third ends in two zeros are those of two bytes. -/
theorem sextets_of_three {v w x : Nat} (hv : v < 64) (hw : w < 64) (hx : x < 64) (h : x % 4 = 0) :
    sextets [UInt8.ofNat (v * 4 + w / 16), UInt8.ofNat (w % 16 * 16 + x / 4)] = [v, w, x] := by
  have h₁ : (UInt8.ofNat (v * 4 + w / 16)).toNat = v * 4 + w / 16 :=
    UInt8.toNat_ofNat_of_lt' (show _ < 256 by omega)
  have h₂ : (UInt8.ofNat (w % 16 * 16 + x / 4)).toNat = w % 16 * 16 + x / 4 :=
    UInt8.toNat_ofNat_of_lt' (show _ < 256 by omega)
  simp only [sextets, h₁, h₂, List.cons.injEq, and_true]
  omega

/-- Four sextets are those of three bytes. -/
theorem sextets_of_four {v w x y : Nat} (hv : v < 64) (hw : w < 64) (hx : x < 64) (hy : y < 64)
    (rest : Bytes) :
    sextets (UInt8.ofNat (v * 4 + w / 16) :: UInt8.ofNat (w % 16 * 16 + x / 4) ::
      UInt8.ofNat (x % 4 * 64 + y) :: rest) = v :: w :: x :: y :: sextets rest := by
  have h₁ : (UInt8.ofNat (v * 4 + w / 16)).toNat = v * 4 + w / 16 :=
    UInt8.toNat_ofNat_of_lt' (show _ < 256 by omega)
  have h₂ : (UInt8.ofNat (w % 16 * 16 + x / 4)).toNat = w % 16 * 16 + x / 4 :=
    UInt8.toNat_ofNat_of_lt' (show _ < 256 by omega)
  have h₃ : (UInt8.ofNat (x % 4 * 64 + y)).toNat = x % 4 * 64 + y :=
    UInt8.toNat_ofNat_of_lt' (show _ < 256 by omega)
  simp only [sextets, h₁, h₂, h₃, List.cons.injEq, and_true]
  omega

/-- What is read from a last group was written as that group: the length of the padding and the bits
that are not used leave no choice. -/
theorem decodeLast_sound {a : Alphabet} {start : Nat} {group bs : Bytes} (hl : group.length ≤ 4)
    (h : decodeLast a .required start group = .ok bs) :
    group = groups a (sextets bs) (padCount bs.length) := by
  simp only [decodeLast, bind_eq_ok, check_eq_ok] at h
  obtain ⟨⟨vs, pads⟩, hs, hshort, hpad, h⟩ := h
  obtain ⟨_, rfl, rfl, hv⟩ := scanLast_sound hs
  have hn : vs.length + pads ≤ 4 := by simpa [groups] using hl
  have hp : (vs.length + pads) % 4 = 0 := by simpa using hpad
  rcases vs with _ | ⟨v, _ | ⟨w, _ | ⟨x, _ | ⟨y, _ | ⟨z, vs⟩⟩⟩⟩⟩ <;>
    simp only [List.length_cons, List.length_nil] at hp hn
  · cases h
    have hpads : pads = 0 := by simpa [groups] using hshort
    rw [hpads]
    rfl
  · exact absurd hshort (by simp [groups])
  · obtain ⟨hz, h⟩ := check_eq_ok.1 h
    cases h
    have hpads : pads = 2 := by omega
    rw [sextets_of_two (hv v (by simp)) (hv w (by simp)) (by simpa using hz), hpads]
    rfl
  · obtain ⟨hz, h⟩ := check_eq_ok.1 h
    cases h
    have hpads : pads = 1 := by omega
    rw [sextets_of_three (hv v (by simp)) (hv w (by simp)) (hv x (by simp)) (by simpa using hz),
      hpads]
    rfl
  · cases h
    have hpads : pads = 0 := by omega
    rw [sextets_of_four (hv v (by simp)) (hv w (by simp)) (hv x (by simp)) (hv y (by simp)), hpads]
    simp [sextets, padCount]
  · omega

/-- Whatever is read was written. -/
theorem decodeFrom_sound {a : Alphabet} {start : Nat} {text bs : Bytes}
    (h : decodeFrom a .required start text = .ok bs) :
    text = groups a (sextets bs) (padCount bs.length) := by
  induction start, text using decodeFrom.induct generalizing bs with
  | case1 start b₀ b₁ b₂ b₃ b₄ rest ih =>
    simp only [decodeFrom, bind_eq_ok] at h
    obtain ⟨v, h₀, w, h₁, x, h₂, y, h₃, bytes, hr, h⟩ := h
    cases h
    obtain ⟨hv, rfl⟩ := symbolByte_of_readSymbol h₀
    obtain ⟨hw, rfl⟩ := symbolByte_of_readSymbol h₁
    obtain ⟨hx, rfl⟩ := symbolByte_of_readSymbol h₂
    obtain ⟨hy, rfl⟩ := symbolByte_of_readSymbol h₃
    rw [sextets_of_four hv hw hx hy, ih hr]
    simp only [List.length_cons, padCount_add_three]
    rfl
  | case2 start group hg =>
    have hd : decodeFrom a .required start group = decodeLast a .required start group := by
      unfold decodeFrom
      split
      · exact absurd rfl (hg _ _ _ _ _ _)
      · rfl
    have hl : group.length ≤ 4 := by
      rcases group with _ | ⟨b₀, _ | ⟨b₁, _ | ⟨b₂, _ | ⟨b₃, _ | ⟨b₄, rest⟩⟩⟩⟩⟩
      case cons.cons.cons.cons.cons => exact absurd rfl (hg b₀ b₁ b₂ b₃ b₄ rest)
      all_goals simp
    exact decodeLast_sound hl (hd ▸ h)

/-- **A text is read exactly if it was written**, where padding is required, and then as the bytes
that it was written for. -/
theorem decodeText_eq_ok_iff (a : Alphabet) (s : String) (bs : Bytes) :
    decodeText a .required s = .ok bs ↔ s = padded a bs := by
  constructor
  · intro h
    have ht : s.toUTF8.data.toList = groups a (sextets bs) (padCount bs.length) := by
      unfold decodeText decode at h
      split at h
      · cases h
      · exact decodeFrom_sound h
    rw [← toUTF8_padded] at ht
    have hd : s.toUTF8 = (padded a bs).toUTF8 := ByteArray.ext (Array.toList_inj.1 ht)
    rwa [String.toUTF8_eq_toByteArray, String.toUTF8_eq_toByteArray, String.toByteArray_inj] at hd
  · rintro rfl
    exact decodeText_padded a .required bs

/-! ## What is written and read is what texts spell -/

/-- Four sextets carry the bits of three bytes. -/
theorem bits_of_three {x y z : Nat} (hy : y < 256) (hz : z < 256) :
    bits 6 (x / 4) ++ (bits 6 (x % 4 * 16 + y / 16) ++ (bits 6 (y % 16 * 4 + z / 64) ++
      bits 6 (z % 64))) = bits 8 x ++ (bits 8 y ++ bits 8 z) := by
  simp only [bits, Nat.testBit_eq_decide_div_mod_eq, Nat.reducePow, List.cons_append,
    List.nil_append, List.cons.injEq, decide_eq_decide, and_true]
  omega

/-- Three sextets carry the bits of two bytes and two zeros: a third byte would start there. -/
theorem bits_of_two {x y : Nat} (hy : y < 256) :
    bits 6 (x / 4) ++ (bits 6 (x % 4 * 16 + y / 16) ++ bits 6 (y % 16 * 4)) =
      bits 8 x ++ (bits 8 y ++ List.replicate 2 false) := by
  have h := @bits_of_three x y 0 hy (Nat.zero_lt_succ 255)
  have hsplit : bits 8 0 = List.replicate 2 false ++ bits 6 (0 % 64) := rfl
  simp only [hsplit, ← List.append_assoc] at h
  simpa only [Nat.zero_div, Nat.add_zero, List.append_assoc] using List.append_cancel_right h

/-- Two sextets carry the bits of one byte and four zeros. -/
theorem bits_of_one {x : Nat} :
    bits 6 (x / 4) ++ bits 6 (x % 4 * 16) = bits 8 x ++ List.replicate 4 false := by
  have h := @bits_of_two x 0 (Nat.zero_lt_succ 255)
  have hsplit : bits 8 0 ++ List.replicate 2 false = List.replicate 4 false ++ bits 6 (0 % 16 * 4) := rfl
  rw [hsplit] at h
  simp only [← List.append_assoc] at h
  simpa only [Nat.zero_div, Nat.add_zero] using List.append_cancel_right h

/-- Sextets carry the bits of bytes, and two zeros for each sign of padding. -/
theorem bits_sextets (bs : Bytes) :
    (sextets bs).flatMap (bits 6) = byteBits bs ++ List.replicate (2 * padCount bs.length) false := by
  induction bs using sextets.induct with
  | case1 => rfl
  | case2 x => simpa [sextets, byteBits, padCount] using bits_of_one
  | case3 x y => simpa [sextets, byteBits, padCount] using bits_of_two y.toNat_lt
  | case4 x y z rest ih =>
    have hlen : (x :: y :: z :: rest).length = rest.length + 3 := rfl
    have h := congrArg (· ++ (sextets rest).flatMap (bits 6))
      (@bits_of_three x.toNat y.toNat z.toNat y.toNat_lt z.toNat_lt)
    simp only [ih, List.append_assoc] at h
    simpa only [sextets, byteBits, List.flatMap_cons, List.append_assoc, hlen, padCount_add_three,
      ih] using h

theorem padCount_lt (n : Nat) : padCount n < 3 := Nat.mod_lt _ (Nat.zero_lt_succ 2)

/-- The encoder that fills up writes what spells the bytes. -/
theorem writes_padded (a : Alphabet) : Writes a true (padded a) := by
  intro bs
  have hn := padCount_lt bs.length
  refine ⟨sextets bs, padCount bs.length, ?_, fun _ => lt_of_mem_sextets,
    ⟨by omega, length_sextets bs⟩, 2 * padCount bs.length, by omega, bits_sextets bs⟩
  rw [padded, String.toList_ofList, encodeUnpadded_eq_map]

/-- The encoder that does not fill up writes what spells the bytes. -/
theorem writes_unpadded (a : Alphabet) : Writes a false (unpadded a) := by
  intro bs
  have hn := padCount_lt bs.length
  refine ⟨sextets bs, 0, ?_, fun _ => lt_of_mem_sextets, rfl, 2 * padCount bs.length, by omega,
    bits_sextets bs⟩
  rw [unpadded, String.toList_ofList, encodeUnpadded_eq_map, List.replicate_zero, List.append_nil]

/-- The decoder that requires padding reads what spells bytes, and nothing else. -/
theorem reads_decodeText (a : Alphabet) : Reads a (decodeText a .required) := fun s bs =>
  (decodeText_eq_ok_iff a s bs).trans (writes_padded a).spells_iff.symm

end CloudData.Base64
