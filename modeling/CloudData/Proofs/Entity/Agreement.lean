/-
Runs of updates that end the same way, whatever their order: of the key, of the
value of each name and of the settings of each name the last update counts.

`NoEmptySettings.apply`: no update leaves empty settings behind. So what is kept
under a name tells what was set last, empty settings being as good as none, and
`applyAll_empty_eq_iff` and `alike_applyAll_empty_iff` follow part by part.
-/
import CloudData.Proofs.Entity.Alike
import CloudData.Proofs.Entity.Update

namespace CloudData

/-! ## No empty settings -/

theorem Settings.of_mem_put {m : NameMap Settings} {n : String} {s : Settings}
    {p : String × Settings} (h : p ∈ (Settings.put m n s).entries) :
    p = (n, s) ∧ s ≠ {} ∨ p ∈ m.entries := by
  unfold Settings.put at h
  split at h
  next => exact .inr (List.mem_filter.1 h).1
  next hs =>
    refine (NameMap.mem_insertEntry h).imp_left fun hp => ⟨hp, fun he => ?_⟩
    exact hs ((Settings.isEmpty_iff s).2 he)

theorem Settings.ne_empty_of_mem_ofProperties {ps : List (String × Wire.Value)} :
    ∀ p ∈ (Settings.ofProperties ps).entries, p.2 ≠ {} := by
  induction ps with
  | nil => simp [Settings.ofProperties]
  | cons e ps ih =>
    intro p hp
    rcases Settings.of_mem_put hp with ⟨rfl, hs⟩ | hp
    · exact hs
    · exact ih p hp

namespace Entity

/-- There are no empty settings under any name. -/
def NoEmptySettings (e : Entity) : Prop := ∀ p ∈ e.settings.entries, p.2 ≠ {}

/-- An entity that comes from nothing, from a key or from a message, by updates. -/
inductive Made : Entity → Prop
  | empty : Made {}
  | ofKey (k : Key) : Made (ofKey k)
  | ofWire (w : Wire.Entity) : Made (ofWire w)
  | apply {e : Entity} (u : Update) : Made e → Made (e.apply u)

theorem noEmptySettings_empty : NoEmptySettings {} := nofun

theorem noEmptySettings_ofWire (w : Wire.Entity) : (ofWire w).NoEmptySettings := by
  rw [ofWire_eq]
  exact Settings.ne_empty_of_mem_ofProperties

theorem NoEmptySettings.apply {e : Entity} (h : e.NoEmptySettings) (u : Update) :
    (e.apply u).NoEmptySettings := by
  cases u with
  | settings n s =>
    intro p hp
    rcases Settings.of_mem_put hp with ⟨rfl, hs⟩ | hp
    · exact hs
    · exact h p hp
  | _ => exact h

theorem Made.noEmptySettings {e : Entity} (h : e.Made) : e.NoEmptySettings := by
  induction h with
  | empty => exact noEmptySettings_empty
  | ofKey k => exact noEmptySettings_empty.apply (.key k)
  | ofWire w => exact noEmptySettings_ofWire w
  | apply u _ ih => exact ih.apply u

theorem Made.applyAll {e : Entity} (h : e.Made) (us : List Update) : (e.applyAll us).Made := by
  induction us generalizing e with
  | nil => exact h
  | cons u us ih => exact ih (h.apply u)

theorem NoEmptySettings.settings?_ne {e : Entity} (h : e.NoEmptySettings) (n : String) :
    e.settings? n ≠ some {} :=
  fun hs => h (n, {}) (NameMap.mem_of_find? hs) rfl

/-- Where no settings are empty, having none can be told from having empty ones. -/
theorem NoEmptySettings.settings?_eq_iff {e f : Entity} (he : e.NoEmptySettings)
    (hf : f.NoEmptySettings) (n : String) :
    e.settings? n = f.settings? n ↔ (e.settings? n).getD {} = (f.settings? n).getD {} := by
  have hs := he.settings?_ne n
  have ht := hf.settings?_ne n
  generalize e.settings? n = s, f.settings? n = t at hs ht ⊢
  cases s with
  | none =>
    cases t with
    | none => simp
    | some t => simpa [eq_comm] using ht
  | some s =>
    cases t with
    | none => simpa using hs
    | some t => simp

/-! ## Runs that end the same way -/

/-- Two runs set the same key last, last values under each name that are related, and the same
settings last under each name, where empty ones are as good as none. -/
structure Update.Agree (r : Value → Value → Prop) (us vs : List Update) : Prop where
  key : lastSet? key? us = lastSet? key? vs
  value : ∀ n, Option.Rel r (lastSet? (value? n) us) (lastSet? (value? n) vs)
  settings : ∀ n, (lastSet? (settings? n) us).getD {} = (lastSet? (settings? n) vs).getD {}

variable {us vs : List Update}

theorem key_applyAll_empty (us : List Update) :
    (({} : Entity).applyAll us).key = lastSet? Update.key? us := by
  rw [key_applyAll, Option.or_none]

theorem get?_applyAll_empty (us : List Update) (n : String) :
    (({} : Entity).applyAll us).get? n = lastSet? (Update.value? n) us := by
  rw [get?_applyAll]
  exact Option.or_none

theorem settings?_applyAll_empty (us : List Update) (n : String) :
    ((({} : Entity).applyAll us).settings? n).getD {} =
      (lastSet? (Update.settings? n) us).getD {} :=
  settings?_applyAll n {} us

theorem mapsAscend_applyAll_empty (us : List Update) : (({} : Entity).applyAll us).MapsAscend :=
  ((throughout_iff _).1 ordered_empty).1.applyAll us

theorem settings_applyAll_empty_eq_iff :
    (({} : Entity).applyAll us).settings = (({} : Entity).applyAll vs).settings ↔
      ∀ n, (lastSet? (Update.settings? n) us).getD {} =
        (lastSet? (Update.settings? n) vs).getD {} := by
  have hmade (us : List Update) := (Made.empty.applyAll us).noEmptySettings
  have hn (n : String) : (({} : Entity).applyAll us).settings? n =
        (({} : Entity).applyAll vs).settings? n ↔
      (lastSet? (Update.settings? n) us).getD {} =
        (lastSet? (Update.settings? n) vs).getD {} := by
    rw [(hmade us).settings?_eq_iff (hmade vs), settings?_applyAll_empty, settings?_applyAll_empty]
  constructor
  · intro h n
    exact (hn n).1 (congrArg (NameMap.find? · n) h)
  · intro h
    exact (mapsAscend_applyAll_empty us).settings.ext (mapsAscend_applyAll_empty vs).settings
      fun n => (hn n).2 (h n)

theorem forall₂_properties_applyAll_empty_iff {r : Value → Value → Prop} :
    List.Forall₂ (NameMap.EntryRel r) (({} : Entity).applyAll us).properties.entries
        (({} : Entity).applyAll vs).properties.entries ↔
      ∀ n, Option.Rel r (lastSet? (Update.value? n) us) (lastSet? (Update.value? n) vs) := by
  rw [(mapsAscend_applyAll_empty us).properties.forall₂_iff
    (mapsAscend_applyAll_empty vs).properties]
  refine forall_congr' fun n => ?_
  rw [← get?_applyAll_empty, ← get?_applyAll_empty]
  rfl

/-- Runs agree exactly if the entities they give do, part by part. -/
theorem agree_iff_parts {r : Value → Value → Prop} :
    Update.Agree r us vs ↔
      (({} : Entity).applyAll us).key = (({} : Entity).applyAll vs).key ∧
      List.Forall₂ (NameMap.EntryRel r) (({} : Entity).applyAll us).properties.entries
        (({} : Entity).applyAll vs).properties.entries ∧
      (({} : Entity).applyAll us).settings = (({} : Entity).applyAll vs).settings := by
  rw [key_applyAll_empty, key_applyAll_empty, forall₂_properties_applyAll_empty_iff,
    settings_applyAll_empty_eq_iff]
  exact ⟨fun ⟨hk, hv, hs⟩ => ⟨hk, hv, hs⟩, fun ⟨hk, hv, hs⟩ => ⟨hk, hv, hs⟩⟩

theorem eq_iff_forall₂ {e f : Entity} :
    e = f ↔ e.key = f.key ∧
      List.Forall₂ (NameMap.EntryRel (· = ·)) e.properties.entries f.properties.entries ∧
      e.settings = f.settings := by
  have hrel : NameMap.EntryRel (· = · : Value → Value → Prop) = (· = ·) := by
    funext p q
    exact propext Prod.ext_iff.symm
  rw [hrel, List.forall₂_eq_eq_eq]
  obtain ⟨k, ⟨ps⟩, ss⟩ := e
  obtain ⟨l, ⟨qs⟩, ts⟩ := f
  simp

theorem applyAll_empty_eq_iff :
    ({} : Entity).applyAll us = ({} : Entity).applyAll vs ↔ Update.Agree (· = ·) us vs :=
  eq_iff_forall₂.trans agree_iff_parts.symm

theorem alike_applyAll_empty_iff :
    (({} : Entity).applyAll us).alike (({} : Entity).applyAll vs) = true ↔
      Update.Agree Value.Alike us vs :=
  alike_iff.trans agree_iff_parts.symm

/-- **Of updates on different concerns the order does not matter.** Runs from nothing give equal
entities, and so equal messages, exactly if they set the same last of each concern; if they set what
is numerically equal, so are the entities and the messages. And no entity that is made with updates
has empty settings under a name. -/
theorem updates_in_any_order :
    (∀ e, Made e → e.NoEmptySettings) ∧
    ∀ us vs : List Update,
      let e := ({} : Entity).applyAll us
      let f := ({} : Entity).applyAll vs
      (e = f ↔ Update.Agree (· = ·) us vs) ∧
      (Update.Agree (· = ·) us vs → e.toWire = f.toWire) ∧
      (e.alike f = true ↔ Update.Agree Value.Alike us vs) ∧
      (Update.Agree Value.Alike us vs → e.toWire.alike f.toWire = true) := by
  refine ⟨fun e he => he.noEmptySettings, fun us vs => ⟨applyAll_empty_eq_iff, fun h => ?_,
    alike_applyAll_empty_iff, fun h => ?_⟩⟩
  · exact congrArg toWire (applyAll_empty_eq_iff.2 h)
  · exact alike_toWire (alike_applyAll_empty_iff.2 h)

/-- A run that sets settings, the property they are for and then empty settings ends like one that
sets a key and the property twice and no settings. -/
theorem updates_in_any_order_cleared :
    let us : List Update := [.settings "a" { meaning := some 9 }, .property "a" .null, .key {},
      .settings "a" {}]
    let vs : List Update := [.property "a" (.boolean true), .key { projectId := "p" },
      .property "a" .null, .key {}]
    Update.Agree (· = ·) us vs ∧ ({} : Entity).applyAll us = ({} : Entity).applyAll vs ∧
      (({} : Entity).applyAll us).toWire = (({} : Entity).applyAll vs).toWire ∧
      (({} : Entity).applyAll us).NoEmptySettings := by
  intro us vs
  have hagree : Update.Agree (· = ·) us vs := by
    refine ⟨rfl, fun n => ?_, fun n => ?_⟩
    · by_cases hn : "a" = n
      · subst hn
        exact .some rfl
      · simp [us, vs, lastSet?, List.findSome?, Update.value?, hn]
    · by_cases hn : "a" = n <;> simp [us, vs, lastSet?, List.findSome?, Update.settings?, hn]
  obtain ⟨hmade, hruns⟩ := updates_in_any_order
  obtain ⟨heq, hwire, -, -⟩ := hruns us vs
  exact ⟨hagree, heq.2 hagree, hwire hagree, hmade _ (Made.empty.applyAll us)⟩

end Entity

end CloudData
