/-
Bags of options and the parameters that are made of them, whatever order the
options are in.

`OptionBag.ofList_of_nodup`: options of different kinds make a bag.
`OptionBag.same_iff`, `OptionBag.same_iff_of_perm`: which bags are equal, and when bags
of the same options are. `OptionBag.same_iff_perm`: equal bags have the same options in
some order, where values are alike only if they are the same.
`OptionBag.formatAll_eq_ok`, `OptionBag.formatAll_eq_error`: the parameters of a
list of options, or that it fails. `OptionBag.sortByName_eq_of_perm`: parameters of
different names have one order.
-/
import CloudData.Parameter.Family
import Mathlib.Data.List.Perm.Subperm

namespace CloudData

variable {κ ν : Type}

/-! ## One option -/

namespace RequestOption

variable [RequestParameter ν]

/-- The value is there and has no form in requests. -/
def Formless (o : RequestOption κ ν) : Prop :=
  ∃ v fault, o.value = some v ∧ RequestParameter.format v = .error fault

/-- The parameter that the option is, if it has a value and the value a form. -/
def parameter? [OptionKind κ] (o : RequestOption κ ν) : Option (String × String) :=
  o.value.bind fun v => (RequestParameter.format v).toOption.map (OptionKind.name o.kind, ·)

theorem fst_of_parameter? [OptionKind κ] {o : RequestOption κ ν} {p : String × String}
    (h : o.parameter? = some p) : p.1 = OptionKind.name o.kind := by
  obtain ⟨v, -, hp⟩ := Option.bind_eq_some_iff.1 h
  obtain ⟨text, -, rfl⟩ := Option.map_eq_some_iff.1 hp
  rfl

end RequestOption

namespace OptionBag

/-! ## Filling a bag -/

section
variable [DecidableEq κ] [OptionKind κ]

theorem add_of_not_mem {b : OptionBag κ ν} {o : RequestOption κ ν}
    (h : o.kind ∉ b.options.map (·.kind)) :
    ∃ c, b.add o = .ok c ∧ c.options = b.options ++ [o] := by
  rw [add, dif_neg h]
  exact ⟨_, rfl, rfl⟩

theorem foldlM_add {os : List (RequestOption κ ν)} {b : OptionBag κ ν}
    (h : ((b.options ++ os).map (·.kind)).Nodup) :
    ∃ c, os.foldlM add b = .ok c ∧ c.options = b.options ++ os := by
  induction os generalizing b with
  | nil => exact ⟨b, rfl, (List.append_nil _).symm⟩
  | cons o os ih =>
    have ho : o.kind ∉ b.options.map (·.kind) := by
      rw [List.map_append, List.map_cons, List.nodup_append] at h
      exact fun hm => h.2.2 _ hm _ List.mem_cons_self rfl
    obtain ⟨c, hc, hoptions⟩ := add_of_not_mem ho
    have hnodup : ((c.options ++ os).map (·.kind)).Nodup := by
      rwa [hoptions, List.append_assoc, List.singleton_append]
    obtain ⟨d, hd, hd'⟩ := ih hnodup
    refine ⟨d, ?_, by rw [hd', hoptions, List.append_assoc, List.singleton_append]⟩
    rw [List.foldlM_cons, hc]
    exact hd

theorem ofList_of_nodup {os : List (RequestOption κ ν)} (h : (os.map (·.kind)).Nodup) :
    ∃ b, ofList os = .ok b ∧ b.options = os :=
  foldlM_add h

end

/-! ## Equal bags -/

section
variable [DecidableEq κ]

theorem find?_eq_some_iff {b : OptionBag κ ν} {k : κ} {o : RequestOption κ ν} :
    b.find? k = some o ↔ o ∈ b.options ∧ o.kind = k := by
  obtain ⟨os, h⟩ := b
  show os.find? (·.kind == k) = some o ↔ o ∈ os ∧ o.kind = k
  induction os with
  | nil => simp
  | cons p os ih =>
    rw [List.map_cons, List.nodup_cons] at h
    rw [List.find?_cons, List.mem_cons]
    by_cases hp : p.kind = k
    · -- no other option has the kind of the first
      have hne : o ∈ os → o.kind ≠ k := fun ho he => h.1 (hp ▸ he ▸ List.mem_map_of_mem ho)
      simp only [hp, BEq.rfl, Option.some.injEq]
      constructor
      · rintro rfl
        exact ⟨.inl rfl, hp⟩
      · rintro ⟨rfl | ho, he⟩
        · rfl
        · exact absurd he (hne ho)
    · rw [beq_false_of_ne hp, ih h.2]
      constructor
      · exact fun ⟨ho, he⟩ => ⟨.inr ho, he⟩
      · rintro ⟨rfl | ho, he⟩
        · exact absurd he hp
        · exact ⟨ho, he⟩

theorem alike_option_iff [Comparable ν] {x y : Option ν} :
    Comparable.alike x y = true ↔ Option.Rel (fun v w : ν => Comparable.alike v w = true) x y := by
  cases x <;> cases y <;> simp [Comparable.alike]

/-- Bags are equal if they have as many options, and each of the one meets one of its kind in the
other, where both values are absent or both are there and alike. -/
theorem same_iff [Comparable ν] {a b : OptionBag κ ν} :
    a.same b = true ↔ a.options.length = b.options.length ∧
      ∀ o ∈ a.options, ∃ p ∈ b.options, p.kind = o.kind ∧
        Option.Rel (fun v w : ν => Comparable.alike v w = true) o.value p.value := by
  simp only [same, size, Bool.and_eq_true, beq_iff_eq, List.all_eq_true, Option.any_eq_true,
    find?_eq_some_iff, and_assoc, alike_option_iff]

/-- Two bags of the same options are equal unless a value in them is not alike to itself. -/
theorem same_iff_of_perm [Comparable ν] {a b : OptionBag κ ν} (h : a.options.Perm b.options) :
    a.same b = true ↔ ∀ o ∈ a.options, ∀ v ∈ o.value, Comparable.alike v v = true := by
  rw [same_iff, and_iff_right h.length_eq]
  refine forall₂_congr fun o ho => ⟨?_, fun ha => ⟨o, h.mem_iff.1 ho, rfl, ?_⟩⟩
  · rintro ⟨p, hp, hk, ha⟩ v hv
    -- the option of the kind of `o` is `o` itself
    have hpo : some p = some o :=
      (find?_eq_some_iff.2 ⟨hp, hk⟩).symm.trans (find?_eq_some_iff.2 ⟨h.mem_iff.1 ho, rfl⟩)
    rw [Option.some.inj hpo, Option.mem_def.1 hv] at ha
    cases ha
    assumption
  · cases hv : o.value with
    | none => exact .none
    | some v => exact .some (ha v hv)

/-- Where values are alike only if they are the same, equal bags have the same options in some order. -/
theorem same_iff_perm [DecidableEq ν] (a b : OptionBag κ ν) :
    a.same b = true ↔ a.options.Perm b.options := by
  constructor
  · intro h
    obtain ⟨hl, hm⟩ := same_iff.1 h
    have hsub : ∀ o ∈ a.options, o ∈ b.options := by
      rintro ⟨k, v⟩ ho
      obtain ⟨⟨l, w⟩, hp, rfl, hv⟩ := hm _ ho
      have hvw : v = w := by
        cases hv with
        | none => rfl
        | some hv => exact congrArg some (beq_iff_eq.1 hv)
      rwa [hvw]
    have hnodup : a.options.Nodup :=
      List.Pairwise.of_map _ (fun _ _ hne he => hne (congrArg _ he)) a.distinct
    exact (List.subperm_of_subset hnodup hsub).perm_of_length_le (Nat.le_of_eq hl.symm)
  · intro h
    exact (same_iff_of_perm h).2 fun _ _ v _ => beq_self_eq_true v

end

/-! ## Parameters -/

section
variable [OptionKind κ] [RequestParameter ν] {os : List (RequestOption κ ν)}

theorem formatAll_eq_ok (h : ∀ o ∈ os, ¬ o.Formless) :
    formatAll os = .ok (os.filterMap RequestOption.parameter?) := by
  induction os with
  | nil => rfl
  | cons o os ih =>
    obtain ⟨ho, hos⟩ := List.forall_mem_cons.1 h
    obtain ⟨k, _ | v⟩ := o
    · exact ih hos
    · cases hv : RequestParameter.format v with
      | ok text => simp [formatAll, RequestOption.parameter?, hv, ih hos, Except.toOption]
      | error fault => exact absurd ⟨v, fault, rfl, hv⟩ ho

/-- One value without a form is enough, and then it does not matter which is met first. -/
theorem formatAll_eq_error (h : ∃ o ∈ os, o.Formless) :
    ∃ fault, formatAll os = .error ⟨.serialization, .format fault⟩ := by
  induction os with
  | nil => simp at h
  | cons o os ih =>
    obtain ⟨k, _ | v⟩ := o
    · refine ih ?_
      simpa [RequestOption.Formless] using h
    · cases hv : RequestParameter.format v with
      | error fault => exact ⟨fault, by rw [formatAll, hv]⟩
      | ok text =>
        have hos : ∃ o ∈ os, o.Formless := by simpa [RequestOption.Formless, hv] using h
        obtain ⟨fault, hf⟩ := ih hos
        exact ⟨fault, by rw [formatAll, hv, hf]; rfl⟩

theorem nodup_names_filterMap (h : (os.map fun o => OptionKind.name o.kind).Nodup) :
    ((os.filterMap RequestOption.parameter?).map (·.1)).Nodup := by
  rw [List.Nodup, List.pairwise_map] at h ⊢
  rw [List.pairwise_filterMap]
  refine h.imp fun hne p hp q hq => ?_
  rwa [RequestOption.fst_of_parameter? hp, RequestOption.fst_of_parameter? hq]

end

section
variable {α : Type} {ps qs : List (String × α)}

theorem sortByName_perm (ps : List (String × α)) : (sortByName ps).Perm ps := List.mergeSort_perm ps _

theorem pairwise_sortByName (h : (ps.map (·.1)).Nodup) :
    (sortByName ps).Pairwise (·.1 < ·.1) := by
  have hle : (sortByName ps).Pairwise fun p q => decide (p.1 ≤ q.1) = true :=
    List.pairwise_mergeSort (fun p q r hpq hqr => by simp at *; exact String.le_trans hpq hqr)
      (fun p q => by simpa using String.le_total p.1 q.1) ps
  have hne : (sortByName ps).Pairwise fun p q => p.1 ≠ q.1 := by
    rw [← List.pairwise_map, ← List.Nodup]
    exact ((sortByName_perm ps).map _).nodup_iff.2 h
  refine (hle.and hne).imp fun {p q} hpq => ?_
  exact Std.lt_of_le_of_ne (of_decide_eq_true hpq.1) hpq.2

theorem sortByName_eq_of_perm (hp : ps.Perm qs) (h : (ps.map (·.1)).Nodup) :
    sortByName ps = sortByName qs := by
  have hq : (qs.map (·.1)).Nodup := (hp.map _).nodup_iff.1 h
  refine List.Perm.eq_of_pairwise (fun p q _ _ hpq hqp => ?_) (pairwise_sortByName h)
    (pairwise_sortByName hq) ?_
  · exact absurd hqp (String.lt_asymm hpq)
  · exact (sortByName_perm ps).trans (hp.trans (sortByName_perm qs).symm)

end

/-! ## No order counts -/

section
variable [DecidableEq κ] [Comparable ν] [OptionKind κ] [RequestParameter ν]

/-- **The parameters of a bag do not depend on any order.** Options that are parameters of different
names, and so of different kinds, make a bag of these options, in whatever order they are given. A bag
is equal to such a bag exactly if it has as many options, and each has the kind of one of these and a
value that is alike; so any two such bags are equal, unless there is a value among the options that is
not alike to itself. Either some value among them has no form, and then every bag of these options
fails, in whatever order it goes through them; or every such bag gives the same parameters in ascending
order of name, one for each option with a value and no others. -/
theorem format_any_order {os : List (RequestOption κ ν)}
    (hn : (os.map fun o => OptionKind.name o.kind).Nodup) :
    (∀ os', os'.Perm os → ∃ c, ofList os' = .ok c ∧ c.options.Perm os) ∧
      (∀ b c : OptionBag κ ν, c.options.Perm os → (b.same c = true ↔
        b.options.length = os.length ∧ ∀ o ∈ b.options,
          ∃ p ∈ os, p.kind = o.kind ∧
            Option.Rel (fun v w : ν => Comparable.alike v w = true) o.value p.value)) ∧
      (∀ b c : OptionBag κ ν, b.options.Perm os → c.options.Perm os →
        (b.same c = true ↔ ∀ o ∈ os, ∀ v ∈ o.value, Comparable.alike v v = true)) ∧
      ((∃ o ∈ os, o.Formless) → ∀ c : OptionBag κ ν, c.options.Perm os →
        ∃ fault, c.format = .error ⟨.serialization, .format fault⟩) ∧
      ((∀ o ∈ os, ¬ o.Formless) → ∃ ps : List (String × String),
        ps.Pairwise (·.1 < ·.1) ∧ ps.Perm (os.filterMap RequestOption.parameter?) ∧
        ∀ c : OptionBag κ ν, c.options.Perm os → c.format = .ok ps) := by
  have hk : (os.map (·.kind)).Nodup := by
    rw [List.Nodup, List.pairwise_map] at hn ⊢
    exact hn.imp fun hne he => hne (congrArg OptionKind.name he)
  refine ⟨fun os' hp => ?_, fun b c hc => ?_, fun b c hb hc => ?_, fun hf c hp => ?_, fun hf => ?_⟩
  · obtain ⟨c, hc, rfl⟩ := ofList_of_nodup ((hp.map (·.kind)).nodup_iff.2 hk)
    exact ⟨c, hc, hp⟩
  · simp only [same_iff, hc.length_eq, hc.mem_iff]
  · simp only [same_iff_of_perm (hb.trans hc.symm), hb.mem_iff]
  · obtain ⟨o, ho, hformless⟩ := hf
    obtain ⟨fault, he⟩ := formatAll_eq_error ⟨o, hp.mem_iff.2 ho, hformless⟩
    exact ⟨fault, by rw [format, he]; rfl⟩
  · have hnames := nodup_names_filterMap hn
    refine ⟨sortByName (os.filterMap RequestOption.parameter?), pairwise_sortByName hnames,
      sortByName_perm _, fun c hp => ?_⟩
    have hsort : sortByName (os.filterMap RequestOption.parameter?) =
        sortByName (c.options.filterMap RequestOption.parameter?) :=
      sortByName_eq_of_perm (hp.symm.filterMap _) hnames
    rw [format, formatAll_eq_ok fun o ho => hf o (hp.mem_iff.1 ho), hsort]
    rfl

end

/-- A page size and a page token. With a double that is no number, a bag of them is not even equal to
itself, and fails; with texts the bags are equal in either order, and give the same parameters. -/
theorem format_any_order_page :
    let doubles : List (RequestOption ListParameter Binary64) :=
      [⟨.pageToken, some (.zero true)⟩, ⟨.pageSize, some ⟨0x7ff8000000000000⟩⟩]
    let texts : List (RequestOption ListParameter String) :=
      [⟨.pageToken, some "abc"⟩, ⟨.pageSize, none⟩]
    (∃ b, ofList doubles = .ok b ∧ b.options.Perm doubles ∧ b.same b = false ∧
      ∃ fault, b.format = .error ⟨.serialization, .format fault⟩) ∧
    ∃ b c, ofList texts = .ok b ∧ ofList texts.reverse = .ok c ∧ c.same b = true ∧
      c.format = b.format := by
  intro doubles texts
  refine ⟨?_, ?_⟩
  · have hn : (doubles.map fun o => OptionKind.name o.kind).Nodup := by decide
    obtain ⟨hmake, -, hequal, hfail, -⟩ := format_any_order hn
    obtain ⟨b, hb, hperm⟩ := hmake doubles (List.Perm.refl _)
    let o : RequestOption ListParameter Binary64 := ⟨.pageSize, some ⟨0x7ff8000000000000⟩⟩
    have ho : o ∈ doubles := List.mem_cons_of_mem _ List.mem_cons_self
    refine ⟨b, hb, hperm, Bool.eq_false_iff.2 fun h => ?_, hfail ⟨o, ho, _, _, rfl, rfl⟩ b hperm⟩
    exact absurd ((hequal b b hperm hperm).1 h o ho _ rfl) (by decide)
  · have hn : (texts.map fun o => OptionKind.name o.kind).Nodup := by decide
    obtain ⟨hmake, -, hequal, -, hgive⟩ := format_any_order hn
    obtain ⟨b, hb, hbp⟩ := hmake texts (List.Perm.refl _)
    obtain ⟨c, hc, hcp⟩ := hmake texts.reverse (List.reverse_perm texts)
    have hself : ∀ o ∈ texts, ∀ v ∈ o.value, Comparable.alike v v = true :=
      fun _ _ _ _ => beq_self_eq_true _
    have hf : ∀ o ∈ texts, ¬ o.Formless := by
      rintro o - ⟨v, fault, -, h⟩
      cases h
    obtain ⟨ps, -, -, hps⟩ := hgive hf
    exact ⟨b, c, hb, hc, (hequal c b hcp hbp).2 hself, (hps c hcp).trans (hps b hbp).symm⟩

end OptionBag

end CloudData
