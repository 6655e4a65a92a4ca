/-
What a text in base 64 is, whoever writes or reads it: symbols of an alphabet and
then canonical padding. The symbols hold the bits of the bytes, and then zeros.

`Spells`: a text spells bytes, filled up or not. `Writes`, `Reads`: what is asked of
an encoder and of a decoder. `Spells.text_unique`, `Spells.bytes_unique`: bytes have
one text, and a text is that of one string of bytes. `Spells.fill`: a text that is
filled up spells the same bytes. `Spells.whole_iff`: nothing is missing just where the
bytes come in threes. `Reads.eq_ok_iff`: a decoder reads what an encoder writes, and
nothing else.
-/
import CloudData.Text.Base64

namespace CloudData.Base64

/-! ## Texts and their bytes -/

/-- The lowest `w` bits of a number, the highest of them first. -/
def bits : Nat → Nat → List Bool
  | 0, _ => []
  | w + 1, v => v.testBit w :: bits w v

/-- The bits of bytes, byte after byte. -/
def byteBits (bs : Bytes) : List Bool := bs.flatMap fun b => bits 8 b.toNat

/-- How many signs of padding follow so many symbols: in a text that is filled up, as many as make
whole groups of four; in any other, none. -/
def CanonicalPadding : Bool → Nat → Nat → Prop
  | true, symbols, pads => pads < 4 ∧ (symbols + pads) % 4 = 0
  | false, _, pads => pads = 0

/-- A text spells bytes with the symbols of these values and so many signs of padding. -/
structure Spelling (a : Alphabet) (filled : Bool) (s : String) (bs : Bytes) (values : List Nat)
    (pads : Nat) : Prop where
  text : s.toList = values.map a.symbol ++ List.replicate pads '='
  alphabet : ∀ v ∈ values, v < 64
  padding : CanonicalPadding filled values.length pads
  /-- Six bits to a symbol; those of the last one that are not used are zero. -/
  carried : ∃ unused < 6, values.flatMap (bits 6) = byteBits bs ++ List.replicate unused false

/-- A text spells bytes. -/
def Spells (a : Alphabet) (filled : Bool) (s : String) (bs : Bytes) : Prop :=
  ∃ values pads, Spelling a filled s bs values pads

/-- An encoder spells the bytes that it is given. -/
def Writes (a : Alphabet) (filled : Bool) (encode : Bytes → String) : Prop :=
  ∀ bs, Spells a filled (encode bs) bs

/-- A decoder reads the texts that are filled up and spell bytes, as these bytes, and no others. -/
def Reads (a : Alphabet) (decode : String → Except Fault Bytes) : Prop :=
  ∀ s bs, decode s = .ok bs ↔ Spells a true s bs

/-! ## Bits -/

@[simp] theorem length_bits (w v : Nat) : (bits w v).length = w := by
  induction w with
  | zero => rfl
  | succ w ih => rw [bits, List.length_cons, ih]

theorem testBit_of_bits_eq {w v u i : Nat} (h : bits w v = bits w u) (hi : i < w) :
    v.testBit i = u.testBit i := by
  induction w with
  | zero => cases hi
  | succ w ih =>
    obtain ⟨hw, h⟩ := List.cons.inj h
    rcases Nat.lt_succ_iff_lt_or_eq.1 hi with hi | rfl
    · exact ih h hi
    · exact hw

/-- A number of `w` bits is told by them. -/
theorem bits_inj {w v u : Nat} (hv : v < 1 <<< w) (hu : u < 1 <<< w) (h : bits w v = bits w u) :
    v = u := by
  rw [Nat.one_shiftLeft] at hv hu
  refine Nat.eq_of_testBit_eq fun i => ?_
  by_cases hi : i < w
  · exact testBit_of_bits_eq h hi
  · have hw := Nat.pow_le_pow_right Nat.two_pos (Nat.le_of_not_lt hi)
    rw [Nat.testBit_lt_two_pow (Nat.lt_of_lt_of_le hv hw),
      Nat.testBit_lt_two_pow (Nat.lt_of_lt_of_le hu hw)]

section
variable {α β : Type} {f : α → List β} {w : Nat}

theorem length_flatMap_fixed (hf : ∀ x, (f x).length = w) (xs : List α) :
    (xs.flatMap f).length = w * xs.length := by
  induction xs with
  | nil => rfl
  | cons x xs ih =>
    rw [List.flatMap_cons, List.length_append, hf, ih, List.length_cons, Nat.mul_succ, Nat.add_comm]

/-- Pieces of one width are told by what they make together. -/
theorem eq_of_flatMap_eq (hw : 0 < w) (hf : ∀ x, (f x).length = w) {xs ys : List α}
    (hinj : ∀ x ∈ xs, ∀ y ∈ ys, f x = f y → x = y) (h : xs.flatMap f = ys.flatMap f) : xs = ys := by
  have hlen : xs.length = ys.length := by
    have := congrArg List.length h
    rw [length_flatMap_fixed hf, length_flatMap_fixed hf] at this
    exact Nat.eq_of_mul_eq_mul_left hw this
  induction xs generalizing ys with
  | nil => exact (List.length_eq_zero_iff.1 hlen.symm).symm
  | cons x xs ih =>
    cases ys with
    | nil => cases hlen
    | cons y ys =>
      rw [List.flatMap_cons, List.flatMap_cons] at h
      obtain ⟨hxy, h⟩ := List.append_inj h ((hf x).trans (hf y).symm)
      have hx := hinj x List.mem_cons_self y List.mem_cons_self hxy
      have hi := fun x' hx' y' hy' => hinj x' (List.mem_cons_of_mem x hx') y' (List.mem_cons_of_mem y hy')
      rw [hx, ih hi h (Nat.succ.inj hlen)]

end

theorem length_byteBits (bs : Bytes) : (byteBits bs).length = 8 * bs.length :=
  length_flatMap_fixed (fun _ => length_bits 8 _) bs

theorem byteBits_inj {bs cs : Bytes} (h : byteBits bs = byteBits cs) : bs = cs :=
  eq_of_flatMap_eq (Nat.zero_lt_succ 7) (fun _ => length_bits 8 _)
    (fun x _ y _ hxy => UInt8.toNat_inj.1 (bits_inj x.toNat_lt y.toNat_lt hxy)) h

/-! ## Symbols -/

/-- The byte of a symbol. -/
def Alphabet.symbolByte (a : Alphabet) (v : Nat) : UInt8 := (a.symbol v).val.toUInt8

/-- A symbol is an ASCII sign, is not the one for padding, and has the value it stands for. -/
theorem symbol_spec (a : Alphabet) {v : Nat} (h : v < 64) :
    (a.symbol v).val ≤ 127 ∧ a.symbolByte v ≠ padByte ∧ a.value? (a.symbolByte v) = some v := by
  have hall : ∀ w : Fin 64, (a.symbol w).val ≤ 127 ∧ a.symbolByte w ≠ padByte ∧
      a.value? (a.symbolByte w) = some w.1 := by
    cases a <;> decide +kernel
  exact hall ⟨v, h⟩

theorem symbol_inj {a : Alphabet} {v u : Nat} (hv : v < 64) (hu : u < 64)
    (h : a.symbol v = a.symbol u) : v = u := by
  have hvalue := (symbol_spec a hv).2.2
  rw [Alphabet.symbolByte, h] at hvalue
  exact Option.some.inj (hvalue.symm.trans (symbol_spec a hu).2.2)

theorem symbol_ne_pad (a : Alphabet) {v : Nat} (hv : v < 64) : a.symbol v ≠ '=' := by
  intro h
  refine (symbol_spec a hv).2.1 ?_
  rw [Alphabet.symbolByte, h]
  rfl

/-- Letters, digits and two signs that stand for themselves in an address. -/
theorem urlSafe_symbol {v : Nat} (hv : v < 64) : (Alphabet.urlSafe.symbol v).isAlphanum = true ∨
    Alphabet.urlSafe.symbol v = '-' ∨ Alphabet.urlSafe.symbol v = '_' := by
  have hall : ∀ w : Fin 64, (Alphabet.urlSafe.symbol w).isAlphanum = true ∨
      Alphabet.urlSafe.symbol w = '-' ∨ Alphabet.urlSafe.symbol w = '_' := by
    decide +kernel
  exact hall ⟨v, hv⟩

/-- Symbols end where padding starts. -/
theorem symbols_unique {a : Alphabet} {vs us : List Nat} {n m : Nat} (hv : ∀ v ∈ vs, v < 64)
    (hu : ∀ u ∈ us, u < 64)
    (h : vs.map a.symbol ++ List.replicate n '=' = us.map a.symbol ++ List.replicate m '=') :
    vs = us ∧ n = m := by
  induction vs generalizing us with
  | nil =>
    cases us with
    | nil => exact ⟨rfl, by simpa using congrArg List.length h⟩
    | cons u us =>
      have hmem : a.symbol u ∈ List.replicate n '=' := by
        rw [List.map_nil, List.nil_append] at h
        rw [h]
        exact List.mem_cons_self
      exact absurd (List.eq_of_mem_replicate hmem) (symbol_ne_pad a (hu u List.mem_cons_self))
  | cons v vs ih =>
    rw [List.forall_mem_cons] at hv
    cases us with
    | nil =>
      have hmem : a.symbol v ∈ List.replicate m '=' := by
        rw [List.map_nil, List.nil_append] at h
        rw [← h]
        exact List.mem_cons_self
      exact absurd (List.eq_of_mem_replicate hmem) (symbol_ne_pad a hv.1)
    | cons u us =>
      rw [List.forall_mem_cons] at hu
      obtain ⟨hvu, h⟩ := List.cons.inj h
      obtain ⟨rfl, hn⟩ := ih hv.2 hu.2 h
      exact ⟨by rw [symbol_inj hv.1 hu.1 hvu], hn⟩

/-! ## One text for bytes, and one reading of a text -/

section
variable {a : Alphabet} {filled : Bool} {s t : String} {bs cs : Bytes} {vs us : List Nat} {n m : Nat}

theorem CanonicalPadding.unique {symbols : Nat} (hn : CanonicalPadding filled symbols n)
    (hm : CanonicalPadding filled symbols m) : n = m := by
  cases filled <;> simp only [CanonicalPadding] at hn hm <;> omega

/-- There are as few symbols as hold the bytes. -/
theorem Spelling.length (h : Spelling a filled s bs vs n) :
    ∃ unused < 6, 6 * vs.length = 8 * bs.length + unused := by
  obtain ⟨unused, hlt, hc⟩ := h.carried
  have hlen := congrArg List.length hc
  rw [length_flatMap_fixed (length_bits 6), List.length_append, length_byteBits,
    List.length_replicate] at hlen
  exact ⟨unused, hlt, hlen⟩

theorem Spelling.values_unique (h : Spelling a filled s bs vs n) (h' : Spelling a filled t bs us m) :
    vs = us := by
  obtain ⟨x, hx, hvs⟩ := h.carried
  obtain ⟨y, hy, hus⟩ := h'.carried
  have hlen := congrArg List.length hvs
  have hlen' := congrArg List.length hus
  rw [length_flatMap_fixed (length_bits 6), List.length_append, List.length_replicate] at hlen hlen'
  obtain rfl : x = y := by omega
  exact eq_of_flatMap_eq (Nat.zero_lt_succ 5) (length_bits 6)
    (fun v hv u hu => bits_inj (h.alphabet v hv) (h'.alphabet u hu)) (hvs.trans hus.symm)

theorem Spelling.bytes_unique (h : Spelling a filled s bs vs n) (h' : Spelling a filled t cs vs m) :
    bs = cs := by
  obtain ⟨x, hx, hvs⟩ := h.carried
  obtain ⟨y, hy, hvs'⟩ := h'.carried
  have heq := hvs.symm.trans hvs'
  have hlen := congrArg List.length heq
  simp only [List.length_append, length_byteBits, List.length_replicate] at hlen
  exact byteBits_inj (List.append_inj_left heq (by rw [length_byteBits, length_byteBits]; omega))

/-- Bytes have one text. -/
theorem Spells.text_unique (hs : Spells a filled s bs) (ht : Spells a filled t bs) : s = t := by
  obtain ⟨vs, n, hs⟩ := hs
  obtain ⟨us, m, ht⟩ := ht
  obtain rfl := hs.values_unique ht
  obtain rfl := hs.padding.unique ht.padding
  exact String.toList_inj.1 (hs.text.trans ht.text.symm)

/-- A text spells one string of bytes. -/
theorem Spells.bytes_unique (hb : Spells a filled s bs) (hc : Spells a filled s cs) : bs = cs := by
  obtain ⟨vs, n, hb⟩ := hb
  obtain ⟨us, m, hc⟩ := hc
  obtain ⟨rfl, -⟩ := symbols_unique hb.alphabet hc.alphabet (hb.text.symm.trans hc.text)
  exact hb.bytes_unique hc

/-- A text that is filled up spells what it spelled before. -/
theorem Spells.fill (h : Spells a false s bs) :
    Spells a true (s ++ String.ofList (List.replicate ((3 - bs.length % 3) % 3) '=')) bs := by
  obtain ⟨vs, n, h⟩ := h
  obtain ⟨unused, hlt, hlen⟩ := h.length
  have hn : n = 0 := h.padding
  have hwhole : (vs.length + (3 - bs.length % 3) % 3) % 4 = 0 := by
    have hr : bs.length % 3 = 0 ∨ bs.length % 3 = 1 ∨ bs.length % 3 = 2 := by omega
    rcases hr with hr | hr | hr <;> rw [hr] <;> omega
  refine ⟨vs, (3 - bs.length % 3) % 3, ?_, h.alphabet, ⟨by omega, hwhole⟩, h.carried⟩
  rw [String.toList_append, String.toList_ofList, h.text, hn, List.replicate_zero, List.append_nil]

/-- Nothing is missing in a text just where the bytes come in threes. -/
theorem Spells.whole_iff (h : Spells a false s bs) : (∃ cs, Spells a true s cs) ↔ 3 ∣ bs.length := by
  obtain ⟨vs, n, h⟩ := h
  obtain ⟨unused, hlt, hlen⟩ := h.length
  have hn : n = 0 := h.padding
  constructor
  · rintro ⟨cs, us, m, hc⟩
    obtain ⟨rfl, rfl⟩ := symbols_unique h.alphabet hc.alphabet (h.text.symm.trans hc.text)
    have hm := hc.padding.2
    omega
  · intro hb
    exact ⟨bs, vs, n, h.text, h.alphabet, ⟨by omega, by omega⟩, h.carried⟩

/-- What spells bytes is what an encoder writes. -/
theorem Writes.spells_iff {encode : Bytes → String} (hw : Writes a filled encode) :
    Spells a filled s bs ↔ s = encode bs := by
  constructor
  · intro h
    exact h.text_unique (hw bs)
  · rintro rfl
    exact hw bs

/-- A decoder reads what an encoder writes, and nothing else. -/
theorem Reads.eq_ok_iff {encode : Bytes → String} {decode : String → Except Fault Bytes}
    (hr : Reads a decode) (hw : Writes a true encode) : decode s = .ok bs ↔ s = encode bs :=
  (hr s bs).trans hw.spells_iff

theorem Spells.urlSafe_chars (h : Spells .urlSafe false s bs) {c : Char} (hc : c ∈ s.toList) :
    c.isAlphanum = true ∨ c = '-' ∨ c = '_' := by
  obtain ⟨vs, n, h⟩ := h
  have hn : n = 0 := h.padding
  rw [h.text, hn, List.replicate_zero, List.append_nil] at hc
  obtain ⟨v, hv, rfl⟩ := List.mem_map.1 hc
  exact urlSafe_symbol (h.alphabet v hv)

end

end CloudData.Base64
