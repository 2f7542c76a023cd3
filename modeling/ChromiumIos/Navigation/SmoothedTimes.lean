import ChromiumIos.Lib.WaterMarks
import ChromiumIos.Navigation.TimeSmoother
import Mathlib

/-!
# Smoothed times

`TimeSmoother` for times that do not go backwards.

- `smoothedTimes`: one call after the other.
- `smoothedTimes_spec`: the smoothed times rise up to the last time there is, and a time after all
  that were returned stays as it is.
-/

namespace ChromiumIos

open Lib List WaterMarks

namespace Time

theorem addMicrosecond_of_lt {t : Time} (h : t.1 + 1 < 9223372036854775808) :
    t.addMicrosecond.1 = t.1 + 1 := by
  rw [addMicrosecond, dif_pos h]

theorem isMax_of_not_lt {t : Time} (h : ¬t.1 + 1 < 9223372036854775808) : IsMax t := by
  intro other _
  have hother := other.2.2
  exact Subtype.coe_le_coe.1 (by omega)

theorem le_addMicrosecond (t : Time) : t ≤ t.addMicrosecond := by
  by_cases h : t.1 + 1 < 9223372036854775808
  · rw [← Subtype.coe_le_coe, addMicrosecond_of_lt h]
    omega
  · rw [addMicrosecond, dif_neg h]

theorem isMax_of_addMicrosecond_le {t : Time} (hle : t.addMicrosecond ≤ t) : IsMax t := by
  refine isMax_of_not_lt fun h => ?_
  rw [← Subtype.coe_le_coe, addMicrosecond_of_lt h] at hle
  omega

theorem addMicrosecond_le_of_lt {t other : Time} (hlt : t < other) :
    t.addMicrosecond ≤ other := by
  have hlt : t.1 < other.1 := hlt
  have hother := other.2.2
  rw [← Subtype.coe_le_coe, addMicrosecond_of_lt (by omega)]
  omega

instance : SuccOrder Time :=
  ⟨addMicrosecond, le_addMicrosecond, isMax_of_addMicrosecond_le, addMicrosecond_le_of_lt⟩

end Time

namespace TimeSmoother

/-- What `GetSmoothedTime` returns for one time after the other. -/
def smoothedTimes (times : List Time) : List Time :=
  WaterMarks.smoothAll ⟨.null, .null⟩ times

/-- It is called with the water marks that the call before left. -/
theorem smoothAll_cons (smoother : TimeSmoother) (t : Time) (times : List Time) :
    WaterMarks.smoothAll ⟨smoother.lowWaterMark, smoother.highWaterMark⟩ (t :: times) =
      (smoother.getSmoothedTime t).1 ::
        WaterMarks.smoothAll ⟨(smoother.getSmoothedTime t).2.lowWaterMark,
          (smoother.getSmoothedTime t).2.highWaterMark⟩ times := by
  rw [smoothAll, smooth, getSmoothedTime]
  split <;> rfl

/-- The smoothed times are distinct and in order, none is early, and none is changed without
need. -/
structure Smoothed (times smoothed : List Time) : Prop where
  increasing : smoothed.Pairwise (· < ·)
  notEarly : Forall₂ (· ≤ ·) times smoothed
  kept : ∀ (i : Nat) (t : Time), times[i]? = some t →
    (∀ earlier ∈ smoothed.take i, earlier < t) → smoothed[i]? = some t

/-- The null time is where both water marks start. -/
theorem smooth_of_ne_null {t : Time} (h : t ≠ .null) :
    ((⟨.null, .null⟩ : WaterMarks Time).smooth t).1 = t := by
  rw [smooth, if_neg]
  exact fun hbetween => h (le_antisymm hbetween.2 hbetween.1)

/-- Two smoothed times are the same only where both are the last time there is. A time that is later
than all that were returned is returned, but for a null time that comes first. -/
theorem smoothedTimes_spec (times : List Time) (htimes : times.Pairwise (· ≤ ·)) :
    (smoothedTimes times).Pairwise Rises ∧ Forall₂ (· ≤ ·) times (smoothedTimes times) ∧
      ∀ (i : Nat) (t : Time), times[i]? = some t → (i = 0 → t ≠ .null) →
        (∀ earlier ∈ (smoothedTimes times).take i, earlier < t) →
          (smoothedTimes times)[i]? = some t := by
  refine ⟨pairwise_smoothAll htimes _, forall₂_smoothAll _ times, ?_⟩
  intro i t ht hnull hlater
  exact getElem?_smoothAll _ ht (fun hi => smooth_of_ne_null (hnull hi)) hlater

/-- The clock stands still, and goes on within the run. -/
def stillClock : List Time := [⟨7, by decide⟩, ⟨7, by decide⟩, ⟨8, by decide⟩, ⟨12, by decide⟩]

theorem smoothedTimes_stillClock :
    (smoothedTimes stillClock).Pairwise Rises ∧
      Forall₂ (· ≤ ·) stillClock (smoothedTimes stillClock) ∧
      ∀ (i : Nat) (t : Time), stillClock[i]? = some t → (i = 0 → t ≠ .null) →
        (∀ earlier ∈ (smoothedTimes stillClock).take i, earlier < t) →
          (smoothedTimes stillClock)[i]? = some t :=
  smoothedTimes_spec stillClock (by decide)

/-- A null time is moved, and the last time there is stays where it is. -/
theorem null_and_max_not_smoothed :
    ¬Smoothed [.null] (smoothedTimes [.null]) ∧
      ¬Smoothed [.max, .max] (smoothedTimes [.max, .max]) := by
  constructor
  · intro h
    have hkept := h.kept 0 .null rfl (by simp)
    exact absurd hkept (by decide)
  · intro h
    exact absurd h.increasing (by decide)

end TimeSmoother

end ChromiumIos
