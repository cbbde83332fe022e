import DataSource.Proofs.Text.Search

/-!
# Where a pattern occurs

The first index of a pattern is the least position at which it occurs (`firstIndex?_eq_some_iff`), the
last index the greatest one (`lastIndex?_eq_some_iff`).
-/

namespace DataSource.Text

/-- The pattern stands at position `i` of the text. -/
def OccursAt (pattern text : List Char) (i : Nat) : Prop :=
  ∃ before after, text = before ++ (pattern ++ after) ∧ before.length = i

theorem occursAt_zero {pattern text : List Char} :
    OccursAt pattern text 0 ↔ pattern.isPrefixOf text = true := by
  rw [List.isPrefixOf_iff_prefix]
  constructor
  · rintro ⟨before, after, rfl, hbefore⟩
    rw [List.eq_nil_of_length_eq_zero hbefore]
    exact ⟨after, rfl⟩
  · rintro ⟨after, rfl⟩
    exact ⟨[], after, rfl, rfl⟩

theorem occursAt_cons_succ {pattern rest : List Char} {c : Char} {i : Nat} :
    OccursAt pattern (c :: rest) (i + 1) ↔ OccursAt pattern rest i := by
  constructor
  · rintro ⟨before, after, htext, hbefore⟩
    obtain ⟨d, before, rfl⟩ := List.exists_cons_of_length_eq_add_one hbefore
    rw [List.cons_append] at htext
    obtain ⟨-, rfl⟩ := List.cons.inj htext
    exact ⟨before, after, rfl, Nat.succ.inj hbefore⟩
  · rintro ⟨before, after, rfl, rfl⟩
    exact ⟨c :: before, after, rfl, rfl⟩

theorem firstIndex?_eq_some_iff {pattern text : List Char} {i : Nat} :
    firstIndex? pattern text = some i ↔
      OccursAt pattern text i ∧ ∀ j < i, ¬OccursAt pattern text j := by
  constructor
  · intro h
    refine ⟨exists_of_firstIndex? h, fun j hj hoccurs => ?_⟩
    obtain ⟨before, after, rfl, rfl⟩ := hoccurs
    obtain ⟨k, hk, hfirst⟩ := exists_firstIndex?_le before pattern after
    rw [h] at hfirst
    cases hfirst
    omega
  · rintro ⟨⟨before, after, rfl, rfl⟩, hmin⟩
    obtain ⟨k, hk, hfirst⟩ := exists_firstIndex?_le before pattern after
    have hge : ¬k < before.length := fun hlt => hmin k hlt (exists_of_firstIndex? hfirst)
    rw [hfirst, Nat.le_antisymm hk (Nat.not_lt.1 hge)]

theorem firstIndex?_eq_none_iff {pattern text : List Char} :
    firstIndex? pattern text = none ↔ ∀ i, ¬OccursAt pattern text i := by
  constructor
  · rintro h i ⟨before, after, rfl, rfl⟩
    obtain ⟨k, -, hfirst⟩ := exists_firstIndex?_le before pattern after
    rw [h] at hfirst
    cases hfirst
  · intro h
    cases hfirst : firstIndex? pattern text with
    | none => rfl
    | some i => exact absurd (exists_of_firstIndex? hfirst) (h i)

theorem occursAt_of_lastIndex? {pattern text : List Char} {i : Nat}
    (h : lastIndex? pattern text = some i) : OccursAt pattern text i := by
  induction text generalizing i with
  | nil =>
    rw [lastIndex?] at h
    split at h
    · rename_i hpattern
      cases h
      exact ⟨[], [], by simpa using hpattern.symm, rfl⟩
    · cases h
  | cons c rest ih =>
    rw [lastIndex?] at h
    split at h
    · rename_i j hj
      cases h
      exact occursAt_cons_succ.2 (ih hj)
    · split at h
      · rename_i hbegins
        cases h
        exact occursAt_zero.2 hbegins
      · cases h

theorem exists_le_lastIndex? {pattern text : List Char} {i : Nat} (h : OccursAt pattern text i) :
    ∃ j, i ≤ j ∧ lastIndex? pattern text = some j := by
  induction text generalizing i with
  | nil =>
    obtain ⟨before, after, htext, rfl⟩ := h
    obtain ⟨rfl, hrest⟩ := List.append_eq_nil_iff.1 htext.symm
    obtain ⟨rfl, rfl⟩ := List.append_eq_nil_iff.1 hrest
    exact ⟨0, Nat.le_refl 0, rfl⟩
  | cons c rest ih =>
    rw [lastIndex?]
    cases i with
    | succ i =>
      obtain ⟨j, hle, hj⟩ := ih (occursAt_cons_succ.1 h)
      exact ⟨j + 1, Nat.succ_le_succ hle, by rw [hj]⟩
    | zero =>
      cases lastIndex? pattern rest with
      | some j => exact ⟨j + 1, Nat.zero_le _, rfl⟩
      | none => exact ⟨0, Nat.le_refl 0, if_pos (occursAt_zero.1 h)⟩

theorem lastIndex?_eq_some_iff {pattern text : List Char} {i : Nat} :
    lastIndex? pattern text = some i ↔
      OccursAt pattern text i ∧ ∀ j, i < j → ¬OccursAt pattern text j := by
  constructor
  · intro h
    refine ⟨occursAt_of_lastIndex? h, fun j hj hoccurs => ?_⟩
    obtain ⟨k, hk, hlast⟩ := exists_le_lastIndex? hoccurs
    rw [h] at hlast
    cases hlast
    omega
  · rintro ⟨hoccurs, hmax⟩
    obtain ⟨k, hk, hlast⟩ := exists_le_lastIndex? hoccurs
    have hge : ¬i < k := fun hlt => hmax k hlt (occursAt_of_lastIndex? hlast)
    rw [hlast, Nat.le_antisymm (Nat.not_lt.1 hge) hk]

theorem lastIndex?_eq_none_iff {pattern text : List Char} :
    lastIndex? pattern text = none ↔ ∀ i, ¬OccursAt pattern text i := by
  constructor
  · intro h i hoccurs
    obtain ⟨k, -, hlast⟩ := exists_le_lastIndex? hoccurs
    rw [h] at hlast
    cases hlast
  · intro h
    cases hlast : lastIndex? pattern text with
    | none => rfl
    | some i => exact absurd (occursAt_of_lastIndex? hlast) (h i)

end DataSource.Text
