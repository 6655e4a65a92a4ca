/-
Runs of changes: what is left of one part of a state after changes that were made
one after the other.

`foldl_getD`, `foldl_or`: of a part that each change sets or leaves alone, what the
last change set that set it. `foldl_append`: of a part that changes append to,
everything in order. `foldl_cleared`: of a part that some changes clear, what the
changes after the last of these make of nothing.
-/
import Mathlib.Data.List.DropRight

namespace CloudData

variable {σ β α : Type}

/-- What the last of the changes sets that set anything of that sort. -/
def lastSet? (sets : β → Option α) (changes : List β) : Option α := changes.reverse.findSome? sets

theorem lastSet?_cons (sets : β → Option α) (b : β) (changes : List β) :
    lastSet? sets (b :: changes) = (lastSet? sets changes).or (sets b) := by
  simp [lastSet?]

theorem lastSet?_eq_none_iff {sets : β → Option α} {changes : List β} :
    lastSet? sets changes = none ↔ ∀ b ∈ changes, sets b = none := by
  simp [lastSet?]

/-- Where just the changes of one form set anything, something is set if one of them was made. -/
theorem isSome_lastSet?_iff {sets : β → Option α} {make : α → β}
    (hsets : ∀ b, (sets b).isSome ↔ ∃ a, b = make a) (changes : List β) :
    (lastSet? sets changes).isSome ↔ ∃ a, make a ∈ changes := by
  rw [lastSet?, List.findSome?_isSome_iff]
  constructor
  · rintro ⟨b, hb, ha⟩
    obtain ⟨a, rfl⟩ := (hsets b).1 ha
    exact ⟨a, List.mem_reverse.1 hb⟩
  · rintro ⟨a, ha⟩
    exact ⟨_, List.mem_reverse.2 ha, (hsets _).2 ⟨a, rfl⟩⟩

/-- What no change changes is as it was. -/
theorem foldl_unchanged {apply : σ → β → σ} {g : σ → α} (step : ∀ s b, g (apply s b) = g s) (s : σ)
    (changes : List β) : g (changes.foldl apply s) = g s := by
  induction changes generalizing s with
  | nil => rfl
  | cons b changes ih => rw [List.foldl_cons, ih, step]

theorem foldl_getD {apply : σ → β → σ} {g : σ → α} {sets : β → Option α}
    (step : ∀ s b, g (apply s b) = (sets b).getD (g s)) (s : σ) (changes : List β) :
    g (changes.foldl apply s) = (lastSet? sets changes).getD (g s) := by
  induction changes generalizing s with
  | nil => rfl
  | cons b changes ih =>
    rw [List.foldl_cons, ih, step, lastSet?_cons]
    cases lastSet? sets changes <;> rfl

theorem foldl_or {apply : σ → β → σ} {g : σ → Option α} {sets : β → Option α}
    (step : ∀ s b, g (apply s b) = (sets b).or (g s)) (s : σ) (changes : List β) :
    g (changes.foldl apply s) = (lastSet? sets changes).or (g s) := by
  induction changes generalizing s with
  | nil => rfl
  | cons b changes ih => rw [List.foldl_cons, ih, step, lastSet?_cons, Option.or_assoc]

theorem foldl_append {apply : σ → β → σ} {g : σ → List α} {adds : β → Option α}
    (step : ∀ s b, g (apply s b) = g s ++ (adds b).toList) (s : σ) (changes : List β) :
    g (changes.foldl apply s) = g s ++ changes.filterMap adds := by
  induction changes generalizing s with
  | nil => exact (List.append_nil _).symm
  | cons b changes ih =>
    rw [List.foldl_cons, ih, step, List.append_assoc, List.filterMap_cons]
    cases adds b <;> rfl

/-- A part that some changes clear is `z` once it is cleared, and depends on what came after that
alone. -/
theorem foldl_cleared {apply : σ → β → σ} {g : σ → α} {clears : β → Bool} {f : α → β → α} {z : α}
    (step : ∀ s b, g (apply s b) = if clears b then z else f (g s) b) {s : σ} (hs : g s = z)
    (changes : List β) :
    g (changes.foldl apply s) = (changes.rtakeWhile (!clears ·)).foldl f z := by
  induction changes using List.reverseRecOn with
  | nil => exact hs
  | append_singleton changes b ih =>
    rw [List.foldl_concat, step, List.rtakeWhile_concat]
    cases clears b with
    | true => rfl
    | false => simp [ih]

end CloudData
