/-
Reading the text of a grantee and writing it again: the text comes back, except
where a user is given one of the two names that stand for many users. Such a text
is read as the grant to many, so it is written without the word for users.

`recognize?_eq_some_iff`: the grammar of these texts, and `denotes_iff`: all texts that
have it. `ofWire_toWire_iff`: the other way round, which grantees come back from their
texts. `ofWire_toWire_ofWire`: those that were read do.
-/
import CloudData.Access.Grantee

namespace CloudData.Access

theorem Team.ofName?_eq_some {s : String} {t : Team} (h : Team.ofName? s = some t) : t.name = s := by
  simpa using List.find?_some h

namespace Grantee

/-! ## Parts of a text -/

theorem after?_eq_some_iff (start text rest : List Char) :
    after? start text = some rest ↔ text = start ++ rest := by
  induction start generalizing text with
  | nil => simp [after?]
  | cons s start ih =>
    cases text with
    | nil => simp [after?]
    | cons c text =>
      rw [after?, List.cons_append, List.cons.injEq]
      split
      · rename_i h
        rw [ih]
        simp [h]
      · rename_i h
        simp [Ne.symm h]

theorem stripStart?_eq_some_iff (start text rest : String) :
    stripStart? start text = some rest ↔ text = start ++ rest := by
  rw [stripStart?, Option.map_eq_some_iff]
  constructor
  · rintro ⟨cs, h, rfl⟩
    rw [after?_eq_some_iff] at h
    rw [← String.toList_inj, h]
    simp
  · rintro rfl
    exact ⟨rest.toList, (after?_eq_some_iff _ _ _).2 (by simp), by simp⟩

/-- A split text is its two parts with the dash between them. -/
theorem splitDash?_eq_some {text before rest : String} (h : splitDash? text = some (before, rest)) :
    text = before ++ "-" ++ rest := by
  unfold splitDash? at h
  split at h
  · rename_i c cs hd
    have hc := List.head?_dropWhile_not (fun d : Char => decide (d ≠ '-')) text.toList
    rw [hd] at hc
    have hc : c = '-' := by simpa using hc
    have hp := List.takeWhile_append_dropWhile (p := fun d : Char => decide (d ≠ '-')) (l := text.toList)
    rw [hd, hc] at hp
    cases h
    refine String.toList_inj.1 (hp.symm.trans ?_)
    simp
  · cases h

/-! ## What a text denotes -/

/-- A text denotes a grantee: a special name, or a word, a dash and the rest. For a team of a project
the name of the team and another dash stand before the project. -/
inductive Denotes : String → Grantee → Prop
  | special {s} (h : isSpecial s = true) : Denotes s (.user s)
  | user (e) : Denotes ("user-" ++ e) (.user e)
  | group (e) : Denotes ("group-" ++ e) (.group e)
  | domain (d) : Denotes ("domain-" ++ d) (.domain d)
  | project (t : Team) (p) : Denotes ("project-" ++ (t.name ++ "-" ++ p)) (.project t p)

theorem isSpecial_iff (s : String) :
    isSpecial s = true ↔ s = allUsersName ∨ s = allAuthenticatedUsersName := by
  simp [isSpecial]

theorem isSpecial_eq_false {s : String} (h : s.toList.head? ≠ some 'a') : isSpecial s = false := by
  rw [← Bool.not_eq_true, isSpecial_iff]
  rintro (rfl | rfl) <;> exact h rfl

theorem stripStart?_append (start rest : String) : stripStart? start (start ++ rest) = some rest :=
  (stripStart?_eq_some_iff start _ rest).2 rfl

theorem stripStart?_eq_none {start text : String} {c : Char} (hs : start.toList.head? = some c)
    (ht : text.toList.head? ≠ some c) : stripStart? start text = none := by
  cases h : stripStart? start text with
  | none => rfl
  | some rest =>
    have he : text = start ++ rest := (stripStart?_eq_some_iff start text rest).1 h
    rw [he, String.toList_append, List.head?_append, hs] at ht
    exact absurd rfl ht

theorem ofProjectText?_eq_some_iff {rest : String} {g : Grantee} :
    ofProjectText? rest = some g ↔ ∃ t p, rest = Team.name t ++ "-" ++ p ∧ g = .project t p := by
  constructor
  · intro h
    simp only [ofProjectText?, Option.bind_eq_bind, Option.bind_eq_some_iff, Option.pure_def,
      Option.some.injEq] at h
    obtain ⟨⟨team, project⟩, hs, t, ht, rfl⟩ := h
    have ht : t.name = team := Team.ofName?_eq_some ht
    exact ⟨t, project, by rw [splitDash?_eq_some hs, ht], rfl⟩
  · rintro ⟨t, p, rfl, rfl⟩
    have hs : splitDash? (t.name ++ "-" ++ p) = some (t.name, p) := by
      cases t <;> simp [splitDash?, Team.name]
    have ht : Team.ofName? t.name = some t := by cases t <;> decide
    simp [ofProjectText?, hs, ht]

theorem denotes_of_recognize? {s : String} {g : Grantee} (h : recognize? s = some g) :
    Denotes s g := by
  unfold recognize? at h
  split at h
  · rename_i hs
    cases h
    exact .special hs
  split at h
  · rename_i e he
    rw [stripStart?_eq_some_iff] at he
    cases h
    exact he ▸ .user e
  split at h
  · rename_i e he
    rw [stripStart?_eq_some_iff] at he
    cases h
    exact he ▸ .group e
  split at h
  · rename_i d hd
    rw [stripStart?_eq_some_iff] at hd
    cases h
    exact hd ▸ .domain d
  · obtain ⟨rest, hr, hg⟩ := Option.bind_eq_some_iff.1 h
    obtain ⟨t, p, rfl, rfl⟩ := ofProjectText?_eq_some_iff.1 hg
    rw [(stripStart?_eq_some_iff _ _ _).1 hr]
    exact .project t p

/-- A text is recognized as what it denotes: the words and the special names begin with different
letters, so that no form that is tried earlier fits where a later one does. -/
theorem recognize?_eq_some_iff (s : String) (g : Grantee) : recognize? s = some g ↔ Denotes s g := by
  refine ⟨denotes_of_recognize?, fun h => ?_⟩
  unfold recognize?
  cases h with
  | special h => rw [if_pos h]
  | user e =>
    rw [isSpecial_eq_false (by simp), stripStart?_append]
    rfl
  | group e =>
    rw [isSpecial_eq_false (by simp), stripStart?_eq_none (c := 'u') rfl (by simp),
      stripStart?_append]
    rfl
  | domain d =>
    rw [isSpecial_eq_false (by simp), stripStart?_eq_none (c := 'u') rfl (by simp),
      stripStart?_eq_none (c := 'g') rfl (by simp), stripStart?_append]
    rfl
  | project t p =>
    rw [isSpecial_eq_false (by simp), stripStart?_eq_none (c := 'u') rfl (by simp),
      stripStart?_eq_none (c := 'g') rfl (by simp), stripStart?_eq_none (c := 'd') rfl (by simp),
      stripStart?_append]
    exact ofProjectText?_eq_some_iff.2 ⟨t, p, rfl, rfl⟩

/-! ## Reading and writing again -/

/-- A user is written bare or after the word for users, by name. -/
theorem toWire_user (e : String) :
    toWire (.user e) = if isSpecial e then e else "user-" ++ e := rfl

/-- A text that is recognized comes back, or is the grant of a special name to a user. -/
theorem toWire_of_recognize? {s : String} {g : Grantee} (h : recognize? s = some g) :
    g.toWire = s ∨ ∃ e, isSpecial e = true ∧ s = "user-" ++ e ∧ g = .user e := by
  cases denotes_of_recognize? h with
  | special hs => exact .inl (by rw [toWire_user, if_pos hs])
  | user e =>
    by_cases he : isSpecial e = true
    · exact .inr ⟨e, he, rfl, rfl⟩
    · exact .inl (by rw [toWire_user, if_neg he])
  | group e => exact .inl rfl
  | domain d => exact .inl rfl
  | project t p => exact .inl (by simp only [toWire, String.append_assoc])

theorem toWire_ofWire_cases (s : String) :
    (ofWire s).toWire = s ∨ ∃ e, isSpecial e = true ∧ s = "user-" ++ e ∧ ofWire s = .user e := by
  unfold ofWire
  cases h : recognize? s with
  | none => exact .inl rfl
  | some g => exact toWire_of_recognize? h

/-- A user is read from the name alone where it is special, and from the name after the word for
users. -/
theorem ofWire_eq_user {s e : String} (h : ofWire s = .user e) :
    (s = e ∧ isSpecial e = true) ∨ s = "user-" ++ e := by
  rcases toWire_ofWire_cases s with hs | ⟨f, -, hs, hf⟩
  · rw [h, toWire_user] at hs
    split at hs
    · rename_i he
      exact .inl ⟨hs.symm, he⟩
    · exact .inr hs.symm
  · rw [h] at hf
    cases hf
    exact .inr hs

/-- **Which texts come back, and who is granted what.** A text comes back unless it gives a user one
of the two special names; and besides the special name itself, that text is the only one that is read
as the grant to everyone, or to everyone who is signed in. -/
theorem text_kept_iff (s : String) :
    ((ofWire s).toWire = s ↔ s ≠ "user-allUsers" ∧ s ≠ "user-allAuthenticatedUsers") ∧
    (ofWire s = allUsers ↔ s = "allUsers" ∨ s = "user-allUsers") ∧
    (ofWire s = allAuthenticatedUsers ↔
      s = "allAuthenticatedUsers" ∨ s = "user-allAuthenticatedUsers") := by
  refine ⟨⟨fun h => ⟨?_, ?_⟩, fun ⟨h₁, h₂⟩ => ?_⟩, ⟨fun h => ?_, ?_⟩, ⟨fun h => ?_, ?_⟩⟩
  · rintro rfl
    exact absurd h (by decide)
  · rintro rfl
    exact absurd h (by decide)
  · rcases toWire_ofWire_cases s with h | ⟨e, he, hs, -⟩
    · exact h
    · rcases (isSpecial_iff e).1 he with rfl | rfl
      · exact absurd hs h₁
      · exact absurd hs h₂
  · exact (ofWire_eq_user h).imp And.left id
  · rintro (rfl | rfl) <;> decide
  · exact (ofWire_eq_user h).imp And.left id
  · rintro (rfl | rfl) <;> decide

/-- The grant to a user of that name is read as the grant to everyone, and does not come back. -/
theorem user_allUsers_not_kept :
    (ofWire "user-allUsers").toWire ≠ "user-allUsers" ∧ ofWire "user-allUsers" = allUsers := by
  decide

/-! ## Writing and reading again -/

theorem denotes_toWire {g : Grantee} (h : ∀ s, g ≠ .raw s) : Denotes g.toWire g := by
  cases g with
  | domain d => exact .domain d
  | group e => exact .group e
  | user e =>
    rw [toWire_user]
    split
    · rename_i he
      exact .special he
    · exact .user e
  | project t p =>
    have ht : toWire (.project t p) = "project-" ++ (t.name ++ "-" ++ p) := by
      simp only [toWire, String.append_assoc]
    rw [ht]
    exact .project t p
  | raw s => exact absurd rfl (h s)

/-- A grantee comes back from its text unless it is a raw text that denotes another. -/
theorem ofWire_toWire_iff (g : Grantee) :
    ofWire g.toWire = g ↔ ∀ s, g = .raw s → ∀ g', ¬ Denotes s g' := by
  constructor
  · rintro h s rfl g' hd
    have hg : ofWire s = g' := by rw [ofWire, (recognize?_eq_some_iff s g').2 hd, Option.getD_some]
    -- what a text denotes is never raw
    rw [← hg, show ofWire s = .raw s from h] at hd
    cases hd
  · intro h
    by_cases hr : ∃ s, g = .raw s
    · obtain ⟨s, rfl⟩ := hr
      have hn : recognize? s = none :=
        Option.eq_none_iff_forall_ne_some.2 fun g' hg => h s rfl g' (denotes_of_recognize? hg)
      rw [toWire, ofWire, hn, Option.getD_none]
    · have hd : Denotes g.toWire g := denotes_toWire fun s hs => hr ⟨s, hs⟩
      rw [ofWire, (recognize?_eq_some_iff _ g).2 hd, Option.getD_some]

/-- What is denoted is recovered: only a raw grantee can be lost on the way. -/
theorem ofWire_toWire_of_ne_raw {g : Grantee} (h : ∀ s, g ≠ .raw s) : ofWire g.toWire = g :=
  (ofWire_toWire_iff g).2 fun s hs => absurd hs (h s)

/-- A raw grantee that was read is a text that denotes nothing. -/
theorem not_denotes_of_ofWire_eq_raw {s v : String} (h : ofWire s = .raw v) (g : Grantee) :
    ¬ Denotes v g := by
  intro hd
  cases hr : recognize? s with
  | none =>
    have hv : s = v := by simpa [ofWire, hr] using h
    have hg : recognize? s = some g := (recognize?_eq_some_iff s g).2 (hv ▸ hd)
    rw [hr] at hg
    cases hg
  | some g' =>
    have hg : g' = .raw v := by simpa [ofWire, hr] using h
    have hd' : Denotes s (.raw v) := hg ▸ denotes_of_recognize? hr
    cases hd'

/-- A grantee that was read comes back. -/
theorem ofWire_toWire_ofWire (s : String) : ofWire (ofWire s).toWire = ofWire s :=
  (ofWire_toWire_iff _).2 fun _ hv => not_denotes_of_ofWire_eq_raw hv

/-- The texts that denote a grantee: the special names, and what begins with one of the words. -/
theorem denotes_iff (s : String) :
    (∃ g, Denotes s g) ↔ s = "allUsers" ∨ s = "allAuthenticatedUsers" ∨
      (∃ x, s = "user-" ++ x) ∨ (∃ x, s = "group-" ++ x) ∨ (∃ x, s = "domain-" ++ x) ∨
      ∃ team ∈ ["owners", "editors", "viewers"], ∃ x, s = "project-" ++ team ++ "-" ++ x := by
  constructor
  · rintro ⟨g, hd⟩
    cases hd with
    | special hs =>
      rcases (isSpecial_iff s).1 hs with h | h
      · exact .inl h
      · exact .inr (.inl h)
    | user e => exact .inr (.inr (.inl ⟨e, rfl⟩))
    | group e => exact .inr (.inr (.inr (.inl ⟨e, rfl⟩)))
    | domain d => exact .inr (.inr (.inr (.inr (.inl ⟨d, rfl⟩))))
    | project t p =>
      have ht : t.name ∈ ["owners", "editors", "viewers"] := by cases t <;> simp [Team.name]
      refine .inr (.inr (.inr (.inr (.inr ⟨t.name, ht, p, ?_⟩))))
      simp only [String.append_assoc]
  · rintro (rfl | rfl | ⟨x, rfl⟩ | ⟨x, rfl⟩ | ⟨x, rfl⟩ | ⟨team, ht, x, rfl⟩)
    · exact ⟨_, .special rfl⟩
    · exact ⟨_, .special rfl⟩
    · exact ⟨_, .user x⟩
    · exact ⟨_, .group x⟩
    · exact ⟨_, .domain x⟩
    · have hn : ∃ t : Team, t.name = team := by
        simp only [List.mem_cons, List.not_mem_nil, or_false] at ht
        rcases ht with rfl | rfl | rfl
        · exact ⟨.owners, rfl⟩
        · exact ⟨.editors, rfl⟩
        · exact ⟨.viewers, rfl⟩
      obtain ⟨t, rfl⟩ := hn
      refine ⟨.project t x, ?_⟩
      have hd := Denotes.project t x
      simpa only [String.append_assoc] using hd

/-- **Grantees come back from their texts, but for raw ones in disguise.** Whatever their names are,
domains, groups, users and teams come back. A raw grantee comes back exactly if its text has none of
the forms of the others. So two texts are read as one grantee exactly if what is read from them is
written alike. -/
theorem recovered_unless_disguised :
    (∀ d, ofWire (toWire (.domain d)) = .domain d) ∧
    (∀ e, ofWire (toWire (.group e)) = .group e) ∧
    (∀ e, ofWire (toWire (.user e)) = .user e) ∧
    (∀ t p, ofWire (toWire (.project t p)) = .project t p) ∧
    (∀ v, ofWire (toWire (.raw v)) = .raw v ↔
      v ≠ "allUsers" ∧ v ≠ "allAuthenticatedUsers" ∧
      (∀ x, v ≠ "user-" ++ x) ∧ (∀ x, v ≠ "group-" ++ x) ∧ (∀ x, v ≠ "domain-" ++ x) ∧
      ∀ team ∈ ["owners", "editors", "viewers"], ∀ x, v ≠ "project-" ++ team ++ "-" ++ x) ∧
    ∀ s t, (ofWire s).toWire = (ofWire t).toWire ↔ ofWire s = ofWire t := by
  refine ⟨fun _ => ofWire_toWire_of_ne_raw nofun, fun _ => ofWire_toWire_of_ne_raw nofun,
    fun _ => ofWire_toWire_of_ne_raw nofun, fun _ _ => ofWire_toWire_of_ne_raw nofun,
    fun v => ?_, fun s t => ⟨fun h => ?_, fun h => ?_⟩⟩
  · have hv : ofWire (toWire (.raw v)) = .raw v ↔ ¬ ∃ g, Denotes v g := by
      rw [ofWire_toWire_iff, not_exists]
      exact ⟨fun h => h v rfl, fun h s hs => by cases hs; exact h⟩
    rw [hv, denotes_iff]
    simp only [not_or, not_exists, not_and, ne_eq]
  · have hs : ofWire (ofWire s).toWire = ofWire (ofWire t).toWire := congrArg ofWire h
    rwa [ofWire_toWire_ofWire, ofWire_toWire_ofWire] at hs
  · rw [h]

end Grantee

end CloudData.Access
