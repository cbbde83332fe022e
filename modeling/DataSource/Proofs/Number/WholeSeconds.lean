import DataSource.Duration
import DataSource.Proofs.Number.Truncation

/-!
# Whole seconds

The seconds of a duration pass through a binary number on their way into a query. A duration has fewer
than `2 ^ 47` seconds, so at least six bits are left behind the point, and the number of seconds is the
exact one or, of a duration that ends just before a second, one more (`wholeSeconds_eq`). A duration of whole
seconds has exactly its seconds (`wholeSeconds_mul`), and only of the longest durations are the seconds too
many for a duration (`secondsFit_iff`).
-/

namespace DataSource

namespace Duration

/-- Whether a duration is a whole number of seconds. -/
def IsWhole (d : Duration) : Prop := 1000000 ∣ d.micros

instance (d : Duration) : Decidable d.IsWhole := inferInstanceAs (Decidable (1000000 ∣ d.micros))

/-- Whether the seconds of a duration are rounded to the next whole number, away from zero: the rest of its
last second is no longer than half a step between binary numbers of the size of its seconds. -/
def RoundsUp (d : Duration) : Prop :=
  2 ^ 53 * (1000000 - d.micros.natAbs % 1000000) ≤ 1000000 * 2 ^ (d.micros.natAbs / 1000000).log2

instance (d : Duration) : Decidable d.RoundsUp := inferInstanceAs (Decidable (_ ≤ _))

/-- The seconds of a duration are its exact ones, or one more if they are rounded up. -/
theorem wholeSeconds_eq (d : Duration) :
    d.wholeSeconds = Integer.signed (d.micros < 0)
      (d.micros.natAbs / 1000000 + if d.RoundsUp then 1 else 0) := by
  have hrange := d.inRange
  have hbits : d.micros.natAbs / 1000000 < 2 ^ 52 := by omega
  rw [wholeSeconds, seconds, Binary64.truncate_ofQuotient _ _ (by decide) (by decide) hbits]
  rfl

theorem two_pow_log2_le {n k : Nat} (h : n < 2 ^ (k + 1)) : 2 ^ n.log2 ≤ 2 ^ k := by
  refine Nat.pow_le_pow_right two_pos ?_
  rcases Nat.eq_zero_or_pos n with rfl | hpos
  · rw [Nat.log2_zero]
    exact Nat.zero_le k
  · exact Nat.le_of_lt_succ ((Nat.log2_lt hpos.ne').2 h)

/-- Seconds are rounded up in the last 7812 microseconds of a second only. -/
theorem RoundsUp.late {d : Duration} (h : d.RoundsUp) : 992188 ≤ d.micros.natAbs % 1000000 := by
  have hrange := d.inRange
  have hstep : 2 ^ (d.micros.natAbs / 1000000).log2 ≤ 2 ^ 46 := two_pow_log2_le (by omega)
  rw [RoundsUp] at h
  omega

theorem tdiv_micros (d : Duration) :
    d.micros.tdiv 1000000 = Integer.signed (d.micros < 0) (d.micros.natAbs / 1000000) := by
  cases d.micros with
  | ofNat n => rfl
  | negSucc n =>
    have hnegative : decide (Int.negSucc n < 0) = true := decide_eq_true (Int.negSucc_lt_zero n)
    rw [hnegative]
    rfl

theorem wholeSeconds_eq_tdiv_iff (d : Duration) :
    d.wholeSeconds = d.micros.tdiv 1000000 ↔ ¬d.RoundsUp := by
  rw [wholeSeconds_eq, tdiv_micros, Integer.signed, Integer.signed]
  split <;> split <;> simp_all

example : (⟨17179869184999999, by decide⟩ : Duration).RoundsUp := by decide

theorem wholeSeconds_mul {d : Duration} (h : d.IsWhole) : d.wholeSeconds * 1000000 = d.micros := by
  have hexact : ¬d.RoundsUp := fun hup => by
    have hlate := hup.late
    rw [IsWhole] at h
    omega
  rw [(wholeSeconds_eq_tdiv_iff d).2 hexact]
  exact Int.tdiv_mul_cancel h

theorem ofSeconds?_wholeSeconds {d : Duration} (h : d.IsWhole) :
    ofSeconds? d.wholeSeconds = some d := by
  rw [ofSeconds?, wholeSeconds_mul h, ofMicros?_micros]

theorem wholeSeconds_bounds (d : Duration) :
    -2 ^ 63 ≤ d.wholeSeconds ∧ d.wholeSeconds ≤ 2 ^ 63 - 1 := by
  have hrange := d.inRange
  rw [wholeSeconds_eq, Integer.signed]
  split <;> split <;> omega

theorem IsWhole.exists_seconds {d : Duration} (h : d.IsWhole) :
    ∃ seconds : Int, d.micros = seconds * 1000000 ∧
      -86399999913600 ≤ seconds ∧ seconds ≤ 86399999999999 := by
  obtain ⟨seconds, hseconds⟩ := h
  have hrange := d.inRange
  refine ⟨seconds, ?_, ?_, ?_⟩ <;> omega

theorem isWhole_of_ofSeconds? {n : Int} {d : Duration} (h : ofSeconds? n = some d) : d.IsWhole := by
  rw [IsWhole, micros_of_ofMicros? h]
  exact Int.dvd_mul_left n 1000000

theorem exists_ofSeconds?_iff {n : Int} :
    (∃ d, ofSeconds? n = some d) ↔ -86399999913600 ≤ n ∧ n ≤ 86399999999999 := by
  rw [ofSeconds?, ofMicros?]
  constructor
  · rintro ⟨d, hd⟩
    split at hd
    · omega
    · cases hd
  · intro hn
    rw [dif_pos (by omega)]
    exact ⟨_, rfl⟩

/-- Whether the whole seconds of a duration make a duration again. They are rounded, so those of the
longest durations may be too many. -/
def SecondsFit (d : Duration) : Prop :=
  -86399999913600 ≤ d.wholeSeconds ∧ d.wholeSeconds ≤ 86399999999999

instance (d : Duration) : Decidable d.SecondsFit :=
  inferInstanceAs (Decidable (_ ∧ _))

/-- The seconds of a duration are too many for a duration if they are rounded up from its very last one. -/
theorem secondsFit_iff (d : Duration) : d.SecondsFit ↔ d.micros ≤ 86399999999999992187 := by
  have hrange := d.inRange
  simp only [SecondsFit, wholeSeconds_eq, Integer.signed, decide_eq_true_eq]
  by_cases hlast : d.micros.natAbs / 1000000 = 86399999999999 ∧ 0 ≤ d.micros
  · have hup : d.RoundsUp ↔ 992188 ≤ d.micros.natAbs % 1000000 := by
      have hlog : (86399999999999 : Nat).log2 = 46 := by decide +kernel
      rw [RoundsUp, hlast.1, hlog]
      omega
    simp only [hup, hlast.1]
    rw [if_neg (by omega)]
    split <;> omega
  · by_cases hup : d.RoundsUp
    · have hlate := hup.late
      rw [if_pos hup]
      split <;> omega
    · rw [if_neg hup]
      split <;> omega

end Duration

end DataSource
