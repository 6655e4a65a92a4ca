/-
Filling a bag with a list of options: it succeeds if no kind comes twice, and then
the bag has just the options of the list; otherwise it fails at the first option
whose kind was there before.

`OptionBag.holds_of_ofList`: what a bag has after it was filled.
`OptionBag.ofList_of_firstRepeated`: where filling it fails.
-/
import CloudData.Proofs.Parameter.Bag
import Mathlib.Data.List.Induction
import Mathlib.Data.List.Nodup

namespace CloudData

variable {κ ν : Type}

/-- The option is the first in the list whose kind is that of an earlier one. -/
def RequestOption.FirstRepeated (o : RequestOption κ ν) (os : List (RequestOption κ ν)) : Prop :=
  ∃ before after, os = before ++ o :: after ∧ (before.map (·.kind)).Nodup ∧
    o.kind ∈ before.map (·.kind)

/-- Where the kinds are not all different, some option is the first to repeat one. -/
theorem RequestOption.exists_firstRepeated {os : List (RequestOption κ ν)}
    (h : ¬ (os.map (·.kind)).Nodup) : ∃ o : RequestOption κ ν, o.FirstRepeated os := by
  induction os using List.reverseRecOn with
  | nil => exact absurd List.nodup_nil h
  | append_singleton os o ih =>
    by_cases hn : (os.map (·.kind)).Nodup
    · have hm : o.kind ∈ os.map (·.kind) := by
        by_contra hm
        have hc : ((os.map (·.kind)).concat o.kind).Nodup := List.Nodup.concat hm hn
        rw [List.concat_eq_append] at hc
        exact h (by simpa using hc)
      exact ⟨o, os, [], rfl, hn, hm⟩
    · obtain ⟨p, before, after, rfl, hb, hm⟩ := ih hn
      exact ⟨p, before, after ++ [o], by simp, hb, hm⟩

namespace OptionValue

theorem asInt?_eq_some_iff (v : OptionValue) (n : Int64) : v.asInt? = some n ↔ v = .int n := by
  cases v <;> simp [asInt?]

theorem asStr?_eq_some_iff (v : OptionValue) (s : String) : v.asStr? = some s ↔ v = .str s := by
  cases v <;> simp [asStr?]

theorem asBool?_eq_some_iff (v : OptionValue) (x : Bool) : v.asBool? = some x ↔ v = .bool x := by
  cases v <;> simp [asBool?]

end OptionValue

namespace OptionBag

/-! ## What a bag has -/

section
variable [DecidableEq κ] {b : OptionBag κ ν} {k : κ}

theorem contains_iff : b.contains k = true ↔ ∃ o ∈ b.options, o.kind = k := by
  simp [contains, Option.isSome_iff_exists, find?_eq_some_iff]

theorem get?_eq_some_iff {v : ν} : b.get? k = some v ↔ ⟨k, some v⟩ ∈ b.options := by
  rw [get?, Option.bind_eq_some_iff]
  constructor
  · rintro ⟨⟨k', v'⟩, ho, hv⟩
    obtain ⟨hm, hk⟩ := find?_eq_some_iff.1 ho
    cases hk
    cases hv
    exact hm
  · exact fun hm => ⟨_, find?_eq_some_iff.2 ⟨hm, rfl⟩, rfl⟩

/-- The bag has the options of the list and no others: as many, of the same kinds, with the same
values or none, and each of them once. -/
structure Holds (b : OptionBag κ ν) (os : List (RequestOption κ ν)) : Prop where
  size : b.size = os.length
  contains : ∀ k, b.contains k = true ↔ ∃ o ∈ os, o.kind = k
  value : ∀ k v, b.get? k = some v ↔ ⟨k, some v⟩ ∈ os
  each_once : b.options.Perm os

theorem holds_options (b : OptionBag κ ν) : b.Holds b.options :=
  ⟨rfl, fun _ => contains_iff, fun _ _ => get?_eq_some_iff, .refl _⟩

end

/-- What is looked for in one form is found if it was given in that form. -/
theorem Holds.get?_bind_eq_some_iff [DecidableEq κ] {b : OptionBag κ ν}
    {os : List (RequestOption κ ν)} (h : b.Holds os) {α : Type} {read : ν → Option α} {make : α → ν}
    (hread : ∀ v a, read v = some a ↔ v = make a) {k : κ} {a : α} :
    (b.get? k).bind read = some a ↔ ⟨k, some (make a)⟩ ∈ os := by
  rw [← h.value, Option.bind_eq_some_iff]
  simp [hread]

/-! ## Filling a bag -/

/-- The failure that a kind of option comes twice. -/
def duplicate [OptionKind κ] (k : κ) : Failure :=
  ⟨.invalidArgument, .text ("duplicate option " ++ OptionKind.label k)⟩

section
variable [DecidableEq κ] [OptionKind κ] {os : List (RequestOption κ ν)}

theorem add_of_mem {b : OptionBag κ ν} {o : RequestOption κ ν}
    (h : o.kind ∈ b.options.map (·.kind)) : b.add o = .error (duplicate o.kind) :=
  dif_pos h

theorem ofList_of_firstRepeated {o : RequestOption κ ν} (h : o.FirstRepeated os) :
    ofList os = .error (duplicate o.kind) := by
  obtain ⟨before, after, rfl, hn, hm⟩ := h
  -- the options before the first repetition make a bag, to which this one cannot be added
  obtain ⟨b, hb, rfl⟩ := ofList_of_nodup hn
  rw [ofList] at hb
  rw [ofList, List.foldlM_append, hb]
  show (o :: after).foldlM add b = _
  rw [List.foldlM_cons, add_of_mem hm]
  rfl

theorem exists_ofList_eq_ok_iff : (∃ b, ofList os = .ok b) ↔ (os.map (·.kind)).Nodup := by
  constructor
  · rintro ⟨b, hb⟩
    by_contra hn
    obtain ⟨o, ho⟩ := RequestOption.exists_firstRepeated hn
    rw [ofList_of_firstRepeated ho] at hb
    cases hb
  · intro hn
    obtain ⟨b, hb, -⟩ := ofList_of_nodup hn
    exact ⟨b, hb⟩

theorem holds_of_ofList {b : OptionBag κ ν} (h : ofList os = .ok b) : b.Holds os := by
  obtain ⟨c, hc, hoptions⟩ := ofList_of_nodup (exists_ofList_eq_ok_iff.1 ⟨b, h⟩)
  rw [hc] at h
  cases h
  rw [← hoptions]
  exact b.holds_options

end

/-- **A bag holds each kind once and loses nothing.** A list of options makes a bag exactly if their
kinds are all different. The bag has all of them, with their values or without, each once, and no
others; and what is asked for as a whole number, a string or a boolean is found only if it was given
as one. Of a list in which kinds come again, the failure names the one that comes again first,
whatever the values are. -/
theorem ofList_each_kind_once [DecidableEq κ] [OptionKind κ] :
    (∀ os : List (RequestOption κ ν),
      ((∃ b, ofList os = .ok b) ↔ (os.map (·.kind)).Nodup) ∧
      (∀ b, ofList os = .ok b → b.Holds os) ∧
      (¬ (os.map (·.kind)).Nodup → ∃ o : RequestOption κ ν, o.FirstRepeated os) ∧
      ∀ o : RequestOption κ ν, o.FirstRepeated os → ofList os = .error (duplicate o.kind)) ∧
    ∀ (os : List (RequestOption κ OptionValue)) (b : OptionBag κ OptionValue), ofList os = .ok b →
      ∀ k, (∀ n, b.getInt? k = some n ↔ ⟨k, some (.int n)⟩ ∈ os) ∧
        (∀ s, b.getStr? k = some s ↔ ⟨k, some (.str s)⟩ ∈ os) ∧
        ∀ x, b.getBool? k = some x ↔ ⟨k, some (.bool x)⟩ ∈ os := by
  refine ⟨fun os => ⟨exists_ofList_eq_ok_iff, fun _ => holds_of_ofList,
    RequestOption.exists_firstRepeated, fun _ => ofList_of_firstRepeated⟩, fun os b hb k => ?_⟩
  have h : b.Holds os := holds_of_ofList hb
  exact ⟨fun _ => h.get?_bind_eq_some_iff OptionValue.asInt?_eq_some_iff,
    fun _ => h.get?_bind_eq_some_iff OptionValue.asStr?_eq_some_iff,
    fun _ => h.get?_bind_eq_some_iff OptionValue.asBool?_eq_some_iff⟩

/-- Two kinds that come again, of which the one that came last comes again first; and two different
kinds, one without a value. -/
theorem ofList_each_kind_once_page :
    let again : List ListOption :=
      [⟨.pageToken, none⟩, ListOption.pageSize 5, ⟨.pageSize, none⟩, ListOption.pageToken "a"]
    let different : List ListOption := [⟨.pageToken, none⟩, ListOption.pageSize 5]
    ofList again = .error (duplicate ListParameter.pageSize) ∧
    ∃ b, ofList different = .ok b ∧ b.Holds different ∧
      b.getInt? .pageSize = some 5 ∧ b.getBool? .pageSize ≠ some true := by
  intro again different
  obtain ⟨hany, htyped⟩ := @ofList_each_kind_once ListParameter OptionValue _ _
  obtain ⟨-, -, -, hfail⟩ := hany again
  obtain ⟨hok, hholds, -, -⟩ := hany different
  have hfirst : RequestOption.FirstRepeated ⟨.pageSize, none⟩ again :=
    ⟨[⟨.pageToken, none⟩, ListOption.pageSize 5], [ListOption.pageToken "a"], rfl, by decide,
      by decide⟩
  have hn : (different.map (·.kind)).Nodup := by decide
  obtain ⟨b, hb⟩ := hok.2 hn
  obtain ⟨hint, -, hbool⟩ := htyped different b hb .pageSize
  have hfive : (⟨.pageSize, some (.int 5)⟩ : ListOption) ∈ different := by decide
  have htrue : (⟨.pageSize, some (.bool true)⟩ : ListOption) ∉ different := by decide
  exact ⟨hfail _ hfirst, b, hb, hholds b hb, (hint 5).2 hfive, fun h => htrue ((hbool true).1 h)⟩

end OptionBag

end CloudData
