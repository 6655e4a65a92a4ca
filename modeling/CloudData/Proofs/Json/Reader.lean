/-
What was written as JSON is read back, part by part.

`Lossless`: a way to write and to read that gives back everything as it was.
`Restored`: what is read is there, and is the original under a condition; this
passes from parts to optional ones, lists and maps. `Reads`: the members of an
object read one after the other, put together from the lemmas of single fields.
`readRecord_invariant`: what every field keeps, a whole record has.
-/
import CloudData.Json.Reader
import CloudData.Proofs.Text.Base64
import CloudData.Proofs.Text.Digits

namespace CloudData.Json

variable {α β : Type}

/-! ## Leaves -/

/-- What is written is something, and is read back as it was. -/
structure Lossless (write : α → Json) (read : Json → Read α) : Prop where
  ne_null : ∀ x, write x ≠ .null
  read_write : ∀ x, read (write x) = .ok x

theorem lossless_string : Lossless .str readString := ⟨nofun, fun _ => rfl⟩

theorem lossless_bool : Lossless .bool readBool := ⟨nofun, fun _ => rfl⟩

theorem lossless_int32 : Lossless ofInt32 readInt32 where
  ne_null := nofun
  read_write n := by
    have hn : Int32.minValue.toInt ≤ n.toInt ∧ n.toInt ≤ Int32.maxValue.toInt :=
      ⟨n.minValue_le_toInt, n.toInt_le⟩
    rw [ofInt32, readInt32, if_pos hn, Int32.ofInt_toInt]

theorem lossless_int64 : Lossless ofInt64 readInt64 where
  ne_null := nofun
  read_write n := by rw [ofInt64, readInt64, int64OfText?_intText]

theorem lossless_bytes : Lossless ofBytes readBytes where
  ne_null := nofun
  read_write bs := by rw [ofBytes, readBytes, Base64.decodeText_padded]

/-! ## Parts that are written and read -/

/-- Reading gives something, and gives `x` if the condition holds. -/
def Restored (r : Read α) (condition : Prop) (x : α) : Prop :=
  ∃ y, r = .ok y ∧ (condition → y = x)

/-- A field that may be absent, written and read. -/
def reread (write : α → Json) (read : Json → Read α) : Option α → Read (Option α)
  | none => .ok none
  | some x => (write x).readOption fun y _ => read y

theorem readOption_of_ne_null {j : Json} (hj : j ≠ .null) (read : Json → Read α) :
    j.readOption (fun y _ => read y) = some <$> read j := by
  cases j with
  | null => exact absurd rfl hj
  | _ => rfl

theorem readList_arr (xs : List Json) (read : Json → Read α) :
    (Json.arr xs).readList (fun y _ => read y) = xs.mapM read := by
  rw [readList, List.mapM_subtype fun _ _ => rfl, List.unattach_attach]

theorem readMap_obj (ms : List (String × Json)) (read : Json → Read α) :
    (Json.obj ms).readMap (fun y _ => read y) =
      NameMap.ofList <$> ms.mapM fun m => (m.1, ·) <$> read m.2 := by
  rw [readMap, List.mapM_subtype (g := fun m => (m.1, ·) <$> read m.2) fun _ _ => rfl,
    List.unattach_attach]

theorem readRecord_obj (ms : List (String × Json)) (names : List String) (start : α)
    (step : String → Json → α → Read α) :
    (Json.obj ms).readRecord names start (fun n x _ a => step n x a) =
      ms.foldlM (fun a m => step m.1 m.2 a) start := by
  rw [readRecord, List.foldlM_subtype (g := fun a m => step m.1 m.2 a) fun _ _ _ => rfl,
    List.unattach_attach]

theorem Lossless.reread {write : α → Json} {read : Json → Read α} (h : Lossless write read)
    (o : Option α) : Json.reread write read o = .ok o := by
  cases o with
  | none => rfl
  | some x => rw [Json.reread, readOption_of_ne_null (h.ne_null x), h.read_write]; rfl

theorem Restored.reread {write : α → Json} {read : Json → Read α} {p : α → Prop} {o : Option α}
    (hn : ∀ x, write x ≠ .null) (h : ∀ x ∈ o, Restored (read (write x)) (p x) x) :
    Restored (Json.reread write read o) (∀ x ∈ o, p x) o := by
  cases o with
  | none => exact ⟨none, rfl, fun _ => rfl⟩
  | some x =>
    obtain ⟨y, hy, he⟩ := h x rfl
    refine ⟨some y, ?_, fun hp => congrArg some (he (hp x rfl))⟩
    rw [Json.reread, readOption_of_ne_null (hn x), hy]
    rfl

/-- A double that is not finite is written as null, and read as absent. -/
theorem restored_double (o : Option Binary64) :
    Restored (Json.reread ofDouble readDouble o) (∀ d ∈ o, d.isFinite = true) o := by
  cases o with
  | none => exact ⟨none, rfl, fun _ => rfl⟩
  | some d =>
    by_cases hd : d.isFinite = true
    · refine ⟨some d, ?_, fun _ => rfl⟩
      rw [Json.reread, ofDouble, if_pos hd, readOption, readDouble, finite, if_pos hd]
      · rfl
      · nofun
    · refine ⟨none, ?_, fun h => absurd (h d rfl) hd⟩
      rw [Json.reread, ofDouble, if_neg hd, readOption]

theorem restored_mapM {f : α → Read α} {p : α → Prop} {xs : List α}
    (h : ∀ x ∈ xs, Restored (f x) (p x) x) : Restored (xs.mapM f) (∀ x ∈ xs, p x) xs := by
  induction xs with
  | nil => exact ⟨[], rfl, fun _ => rfl⟩
  | cons x xs ih =>
    rw [List.forall_mem_cons] at h
    obtain ⟨y, hy, he⟩ := h.1
    obtain ⟨ys, hys, hes⟩ := ih h.2
    refine ⟨y :: ys, ?_, fun hp => ?_⟩
    · rw [List.mapM_cons, hy, hys]
      rfl
    · rw [List.forall_mem_cons] at hp
      rw [he hp.1, hes hp.2]

theorem Restored.list {write : α → Json} {read : Json → Read α} {p : α → Prop} {xs : List α}
    (h : ∀ x ∈ xs, Restored (read (write x)) (p x) x) :
    Restored ((Json.arr (xs.map write)).readList fun y _ => read y) (∀ x ∈ xs, p x) xs := by
  rw [readList_arr, List.mapM_map]
  exact restored_mapM h

theorem Lossless.list {write : α → Json} {read : Json → Read α} (h : Lossless write read)
    (xs : List α) : ((Json.arr (xs.map write)).readList fun y _ => read y) = .ok xs := by
  have hr : ∀ x ∈ xs, Restored (read (write x)) True x := fun x _ =>
    ⟨x, h.read_write x, fun _ => rfl⟩
  obtain ⟨ys, hys, he⟩ := Restored.list hr
  rw [hys, he fun _ _ => trivial]

theorem Restored.map {write : α → Json} {read : Json → Read α} {p : α → Prop} {m : NameMap α}
    (h : ∀ e ∈ m.entries, Restored (read (write e.2)) (p e.2) e.2) :
    Restored ((Json.obj (m.mapValues write).entries).readMap fun y _ => read y)
      (m.Ascending ∧ ∀ e ∈ m.entries, p e.2) m := by
  have hr : ∀ e ∈ m.entries, Restored ((e.1, ·) <$> read (write e.2)) (p e.2) e := by
    intro e he
    obtain ⟨y, hy, hp⟩ := h e he
    exact ⟨(e.1, y), by rw [hy]; rfl, fun hc => by rw [hp hc]⟩
  obtain ⟨es, hes, he⟩ := restored_mapM hr
  refine ⟨NameMap.ofList es, ?_, fun ⟨ha, hp⟩ => ?_⟩
  · rw [readMap_obj, NameMap.mapValues, List.mapM_map]
    exact congrArg (NameMap.ofList <$> ·) hes
  · rw [he hp, NameMap.ofList_entries ha]

theorem fst_of_mem_optional {name : String} {write : α → Json} {o : Option α} {m : String × Json}
    (h : m ∈ Json.optional name write o) : m.1 = name := by
  cases o with
  | none => exact absurd h List.not_mem_nil
  | some x => rw [List.mem_singleton.1 h]

/-! ## Records that are written and read -/

/-- From `a` the members are read one after the other into `b`. -/
def Reads (step : String → Json → β → Read β) (ms : List (String × Json)) (a b : β) : Prop :=
  ms.foldlM (fun a m => step m.1 m.2 a) a = .ok b

theorem readRecord_of_reads {step : String → Json → β → Read β} {ms : List (String × Json)}
    {names : List String} {start b c : β} (h : Reads step ms start c) (hc : c = b) :
    (Json.obj ms).readRecord names start (fun n x _ a => step n x a) = .ok b :=
  hc ▸ (readRecord_obj ms names start step).trans h

theorem readWholeRecord_of_reads {step : String → Json → β → Read β} {ms : List (String × Json)}
    {names : List String} {start b c : β} (h : Reads step ms start c) (hc : c = b) :
    (Json.obj ms).readWholeRecord names start step = .ok b :=
  hc ▸ (readRecord_obj ms names start step).trans h

namespace Reads

variable {step : String → Json → β → Read β} {ms ns : List (String × Json)} {name : String}
  {a b c : β}

theorem nil : Reads step [] a a := rfl

theorem single {x : Json} (h : step name x a = .ok b) : Reads step [(name, x)] a b := by
  unfold Reads
  rw [List.foldlM_cons, h]
  rfl

theorem append (h : Reads step ms a b) (h' : Reads step ns b c) : Reads step (ms ++ ns) a c := by
  unfold Reads at h ⊢
  rw [List.foldlM_append, h]
  exact h'

/-- A field that is read from one member. -/
theorem member {x : Json} {y : α} {read : Json → Read α} {set : α → β} (h : read x = .ok y)
    (hs : ∀ x, step name x a = do return set (← read x)) : Reads step [(name, x)] a (set y) :=
  single (by rw [hs, h]; rfl)

/-- A run whose outcome is known in another form. -/
theorem trans_eq (h : Reads step ms a c) (hc : c = b) : Reads step ms a b := hc ▸ h

theorem cons {x : Json} (h : Reads step [(name, x)] a b) (h' : Reads step ms b c) :
    Reads step ((name, x) :: ms) a c :=
  append h h'

/-- A field that may be absent. -/
theorem optional {write : α → Json} {read : Json → Read α} {o o' : Option α} {set : Option α → β}
    (h : reread write read o = .ok o')
    (hs : ∀ x, step name x a = do return set (← x.readOption fun y _ => read y))
    (hn : set none = a) : Reads step (Json.optional name write o) a (set o') := by
  cases o with
  | none =>
    cases h
    rw [hn]
    exact nil
  | some x => exact member h hs

/-- A list that is always there. -/
theorem list {write : α → Json} {read : Json → Read α} {xs ys : List α} {set : List α → β}
    (h : ((Json.arr (xs.map write)).readList fun y _ => read y) = .ok ys)
    (hs : ∀ x, step name x a = do return set (← x.readList fun y _ => read y)) :
    Reads step [(name, .arr (xs.map write))] a (set ys) :=
  member h hs

/-- A list that is left out when empty. -/
theorem unlessEmpty {write : α → Json} {read : Json → Read α} {xs ys : List α} {set : List α → β}
    (h : ((Json.arr (xs.map write)).readList fun y _ => read y) = .ok ys)
    (hs : ∀ x, step name x a = do return set (← x.readList fun y _ => read y))
    (hn : set [] = a) : Reads step (Json.unlessEmpty name write xs) a (set ys) := by
  cases xs with
  | nil =>
    obtain rfl : ys = [] := (Except.ok.inj h).symm
    rw [hn]
    exact nil
  | cons x xs => exact member h hs

/-- A map that is left out when empty. -/
theorem unlessEmptyMap {write : α → Json} {read : Json → Read α} {m m' : NameMap α}
    {set : NameMap α → β}
    (h : ((Json.obj (m.mapValues write).entries).readMap fun y _ => read y) = .ok m')
    (hs : ∀ x, step name x a = do return set (← x.readMap fun y _ => read y))
    (hn : set {} = a) :
    Reads step (if m.isEmpty then [] else [(name, .obj (m.mapValues write).entries)]) a (set m') := by
  obtain ⟨es⟩ := m
  cases es with
  | nil =>
    obtain rfl : m' = {} := (Except.ok.inj h).symm
    rw [hn]
    exact nil
  | cons e es => exact member h hs

/-- Names that one step does not know are read the same way by another step, which reads them into
a part of a record. -/
theorem lift {step' : String → Json → α → Read α} (h : Reads step ms a b) (g : β → α)
    (hs : ∀ m ∈ ms, ∀ a b, step m.1 m.2 a = .ok b → step' m.1 m.2 (g a) = .ok (g b)) :
    Reads step' ms (g a) (g b) := by
  induction ms generalizing a with
  | nil => cases h; exact nil
  | cons m ms ih =>
    unfold Reads at h ih ⊢
    rw [List.forall_mem_cons] at hs
    rw [List.foldlM_cons] at h ⊢
    cases hm : step m.1 m.2 a with
    | error e => rw [hm] at h; cases h
    | ok c =>
      rw [hm] at h
      rw [hs.1 a c hm]
      exact ih h hs.2

end Reads

namespace Lossless

variable {write : α → Json} {read : Json → Read α} {step : String → Json → β → Read β}
  {name : String} {a : β}

theorem member (h : Lossless write read) {x : α} {set : α → β}
    (hs : ∀ x, step name x a = do return set (← read x)) : Reads step [(name, write x)] a (set x) :=
  Reads.member (h.read_write x) hs

theorem optional (h : Lossless write read) {o : Option α} {set : Option α → β}
    (hs : ∀ x, step name x a = do return set (← x.readOption fun y _ => read y))
    (hn : set none = a) : Reads step (Json.optional name write o) a (set o) :=
  Reads.optional (h.reread o) hs hn

theorem unlessEmpty (h : Lossless write read) {xs : List α} {set : List α → β}
    (hs : ∀ x, step name x a = do return set (← x.readList fun y _ => read y))
    (hn : set [] = a) : Reads step (Json.unlessEmpty name write xs) a (set xs) :=
  Reads.unlessEmpty (h.list xs) hs hn

end Lossless

/-! ## What was read -/

theorem of_map_ok {r : Read α} {f : α → β} {b : β} (h : (do return f (← r)) = Except.ok b) :
    ∃ x, r = .ok x ∧ f x = b := by
  cases r with
  | ok x => exact ⟨x, rfl, Except.ok.inj h⟩
  | error e => cases h

theorem isFinite_of_readDouble {j : Json} {d : Binary64} (h : j.readDouble = .ok d) :
    d.isFinite = true := by
  have hf : ∀ c : Binary64, finite c = .ok d → d.isFinite = true := by
    intro c hc
    unfold finite at hc
    split at hc
    · cases hc
      assumption
    · cases hc
  cases j with
  | int n => exact hf _ h
  | float c => exact hf c h
  | _ => cases h

theorem of_readOption {j : Json} {read : (x : Json) → sizeOf x ≤ sizeOf j → Read α} {o : Option α}
    (h : j.readOption read = .ok o) : ∀ y ∈ o, read j (Nat.le_refl _) = .ok y := by
  rintro y rfl
  cases j with
  | null => cases h
  | _ =>
    obtain ⟨x, hx, he⟩ := of_map_ok (f := some) h
    cases he
    exact hx

theorem of_mapM {γ : Type} {f : γ → Read α} {xs : List γ} {ys : List α}
    (h : xs.mapM f = .ok ys) : ∀ y ∈ ys, ∃ x ∈ xs, f x = .ok y := by
  induction xs generalizing ys with
  | nil =>
    obtain rfl : ys = [] := (Except.ok.inj h).symm
    simp
  | cons x xs ih =>
    rw [List.mapM_cons] at h
    cases hx : f x with
    | error e => rw [hx] at h; cases h
    | ok z =>
      rw [hx] at h
      obtain ⟨zs, hzs, rfl⟩ := of_map_ok (f := (z :: ·)) h
      rw [List.forall_mem_cons]
      refine ⟨⟨x, by simp, hx⟩, fun y hy => ?_⟩
      obtain ⟨w, hw, he⟩ := ih hzs y hy
      exact ⟨w, by simp [hw], he⟩

theorem of_readList {j : Json} {read : (x : Json) → sizeOf x < sizeOf j → Read α} {ys : List α}
    (h : j.readList read = .ok ys) : ∀ y ∈ ys, ∃ x hx, read x hx = .ok y := by
  intro y hy
  cases j with
  | arr xs =>
    obtain ⟨x, -, hx⟩ := of_mapM h y hy
    exact ⟨x.1, _, hx⟩
  | _ => cases h

theorem of_readMap {j : Json} {read : (x : Json) → sizeOf x < sizeOf j → Read α} {m : NameMap α}
    (h : j.readMap read = .ok m) :
    m.Ascending ∧ ∀ e ∈ m.entries, ∃ x hx, read x hx = .ok e.2 := by
  cases j with
  | obj ms =>
    obtain ⟨es, hes, rfl⟩ := of_map_ok (f := NameMap.ofList) h
    refine ⟨NameMap.ascending_ofList es, fun e he => ?_⟩
    obtain ⟨x, -, hx⟩ := of_mapM hes e (NameMap.mem_of_mem_ofList he)
    obtain ⟨y, hy, rfl⟩ := of_map_ok (f := (x.1.1, ·)) hx
    exact ⟨x.1.2, _, hy⟩
  | _ => cases h

theorem foldlM_invariant {γ : Type} {P : β → Prop} {f : β → γ → Read β}
    (hf : ∀ x a b, P a → f a x = .ok b → P b) {xs : List γ} {a b : β} (ha : P a)
    (h : xs.foldlM f a = .ok b) : P b := by
  induction xs generalizing a with
  | nil => cases h; exact ha
  | cons x xs ih =>
    rw [List.foldlM_cons] at h
    cases hx : f a x with
    | error e => rw [hx] at h; cases h
    | ok c =>
      rw [hx] at h
      exact ih (hf x a c ha hx) h

/-- What holds of the start and is kept by every field holds of a record, in either form. -/
theorem readRecord_invariant {P : β → Prop} {j : Json} {names : List String} {start b : β}
    {step : String → (x : Json) → sizeOf x < sizeOf j → β → Read β} (hs : P start)
    (hf : ∀ n x hx a b, P a → step n x hx a = .ok b → P b)
    (h : j.readRecord names start step = .ok b) : P b := by
  cases j with
  | obj ms => exact foldlM_invariant (fun m a b => hf m.1.1 m.1.2 _ a b) hs h
  | arr xs =>
    rw [readRecord] at h
    cases hr : (names.zip xs.attach).foldlM
        (fun a p => step p.1 p.2.1 (sizeOf_lt_arr p.2.2) a) start with
    | error e => rw [hr] at h; cases h
    | ok a =>
      have ha : P a := foldlM_invariant (fun p a b => hf p.1 p.2.1 _ a b) hs hr
      rw [hr] at h
      -- an array that goes on after its last field is refused
      by_cases hl : names.length < xs.length
      · exact absurd (h.symm.trans (if_pos hl)) nofun
      · obtain rfl : a = b := Except.ok.inj ((if_neg hl).symm.trans h)
        exact ha
  | _ => cases h

end CloudData.Json
