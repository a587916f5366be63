import AIStreams.Base.ReplayRequest

/-!
# Times and durations as messages

What `ToProtoOffsetConfig` and `ToProtoDuration` of `aistreams/base/packet_receiver.cc` make of a
time and of a duration, for every one that `absl` can represent.

* `toProtoDuration_eq`: `ToProtoDuration` in terms of the division of durations.
* `conversions_floor`: both round down to nanoseconds, before the epoch as well, and every other
  offset is carried as it is.
-/

namespace AIStreams

/-- A finite `absl::Duration`: its whole seconds are an `int64_t`. -/
structure FiniteDuration where
  ticks : ℤ
  le : -2 ^ 63 ≤ ticks / 4000000000
  lt : ticks / 4000000000 < 2 ^ 63

/-- A finite `absl::Time`, as the duration since the epoch. -/
abbrev FiniteTime := FiniteDuration

namespace Duration

/-- `absl::Nanoseconds(n)`. -/
def nanoseconds (n : ℤ) : Duration := .ticks (4 * n)

/-- `d / d'` of finite durations: truncated, and cut off at the ends of `int64_t`. -/
def quot (n m : ℤ) : Int64 := Int64.ofIntClamp (n.tdiv m)

end Duration

/-- A quotient that fits is the true one. -/
theorem Duration.toInt_quot {n m : ℤ} (hle : -2 ^ 63 ≤ n.tdiv m) (hlt : n.tdiv m < 2 ^ 63) :
    (Duration.quot n m).toInt = n.tdiv m :=
  Int64.toInt_ofIntClamp hle (by rw [Int64.toInt_maxValue]; omega)

theorem toInt_quot_seconds (d : FiniteDuration) :
    (Duration.quot d.ticks 4000000000).toInt = d.ticks.tdiv 4000000000 := by
  have hle := d.le
  have hlt := d.lt
  rcases le_total 0 d.ticks with hsign | hsign
  · have h := Int.tdiv_eq_ediv_of_nonneg hsign (b := 4000000000)
    exact Duration.toInt_quot (by omega) (by omega)
  · have h := Int.neg_tdiv d.ticks 4000000000
    rw [Int.tdiv_eq_ediv_of_nonneg (show 0 ≤ -d.ticks by omega)] at h
    exact Duration.toInt_quot (by omega) (by omega)

/-- **`ToProtoDuration`**: `d / absl::Seconds(1)`, and what is left by `absl::Nanoseconds(1)`. -/
theorem toProtoDuration_eq (d : FiniteDuration) : toProtoDuration d.ticks =
    ⟨Duration.quot d.ticks 4000000000, (Duration.quot
      (d.ticks - 4000000000 * (Duration.quot d.ticks 4000000000).toInt) 4).toInt32⟩ := by
  have hrest : d.ticks - 4000000000 * (Duration.quot d.ticks 4000000000).toInt =
      d.ticks.tmod 4000000000 := by
    rw [toInt_quot_seconds, Int.tmod_def]
  have hbound : (d.ticks.tmod 4000000000).natAbs < 4000000000 := by
    rw [Int.natAbs_tmod]
    exact Nat.mod_lt _ (by decide)
  have hquot := Int.natAbs_tdiv_le_natAbs (d.ticks.tmod 4000000000) 4
  have hnanos : (Duration.quot (d.ticks.tmod 4000000000) 4).toInt =
      (d.ticks.tmod 4000000000).tdiv 4 := by
    exact Duration.toInt_quot (by omega) (by omega)
  rw [hrest, toProtoDuration, Duration.quot, ProtoDuration.mk.injEq]
  refine ⟨rfl, Int32.toInt_inj.mp ?_⟩
  rw [Int64.toInt_toInt32, hnanos, Int32.toInt_ofInt]

/-- A positive duration is rounded down. -/
theorem toProtoDuration_floor {d : FiniteDuration} (hd : 0 < d.ticks) :
    0 ≤ (toProtoDuration d.ticks).nanos.toInt ∧
      (toProtoDuration d.ticks).nanos.toInt < 1000000000 ∧
      (toProtoDuration d.ticks).seconds.toInt * 1000000000 +
        (toProtoDuration d.ticks).nanos.toInt = d.ticks / 4 := by
  have hseconds : (toProtoDuration d.ticks).seconds.toInt = d.ticks / 4000000000 := by
    rw [← Int.tdiv_eq_ediv_of_nonneg hd.le, ← toInt_quot_seconds]
    rfl
  have hrest : (d.ticks.tmod 4000000000).tdiv 4 = d.ticks % 4000000000 / 4 := by
    rw [Int.tmod_eq_emod_of_nonneg hd.le, Int.tdiv_eq_ediv_of_nonneg (by omega)]
  have hnanos : (toProtoDuration d.ticks).nanos.toInt = d.ticks % 4000000000 / 4 := by
    show (Int32.ofInt ((d.ticks.tmod 4000000000).tdiv 4)).toInt = _
    rw [hrest]
    exact Int32.toInt_ofInt_of_le (by omega) (by omega)
  rw [hseconds, hnanos]
  omega

/-- A time is rounded down, before the epoch as well. -/
theorem seekTime_floor (t : FiniteTime) : ∃ ts,
    toProtoOffsetConfig (.time (.ticks t.ticks)) = .seekTime ts ∧ 0 ≤ ts.nanos.toInt ∧
      ts.nanos.toInt < 1000000000 ∧ ts.nanoseconds = t.ticks / 4 := by
  obtain ⟨hnonneg, hlt, hle, hbelow⟩ := Time.isFloorOf_toUnixSeconds ⟨t.le, t.lt⟩
  refine ⟨_, rfl, hnonneg, hlt, ?_⟩
  omega

/-- **Offsets and timeouts survive the conversion**: times and positive durations are rounded down
to nanoseconds, and every other offset is what it was. -/
theorem conversions_floor (t : FiniteTime) (offset : Int64) (d : FiniteDuration)
    (hd : 0 < d.ticks) :
    (∃ ts, toProtoOffsetConfig (.time (.ticks t.ticks)) = .seekTime ts ∧ 0 ≤ ts.nanos.toInt ∧
        ts.nanos.toInt < 1000000000 ∧ ts.nanoseconds = t.ticks / 4) ∧
      toProtoOffsetConfig (.int64 offset) = .seekPosition offset ∧
      toProtoOffsetConfig (.specialOffset .kOffsetBeginning) = .specialOffset .offsetBeginning ∧
      toProtoOffsetConfig (.specialOffset .kOffsetEnd) = .specialOffset .offsetEnd ∧
      0 ≤ (toProtoDuration d.ticks).nanos.toInt ∧
      (toProtoDuration d.ticks).nanos.toInt < 1000000000 ∧
      (toProtoDuration d.ticks).seconds.toInt * 1000000000 +
        (toProtoDuration d.ticks).nanos.toInt = d.ticks / 4 :=
  ⟨seekTime_floor t, rfl, rfl, rfl, toProtoDuration_floor hd⟩

/-- A quarter of a nanosecond before the epoch, and one and three quarters of a nanosecond. -/
theorem conversions_floor_quarters :
    (∃ ts, toProtoOffsetConfig (.time (.ticks (-1))) = .seekTime ts ∧ 0 ≤ ts.nanos.toInt ∧
        ts.nanos.toInt < 1000000000 ∧ ts.nanoseconds = -1) ∧
      toProtoOffsetConfig (.int64 5) = .seekPosition 5 ∧
      toProtoOffsetConfig (.specialOffset .kOffsetBeginning) = .specialOffset .offsetBeginning ∧
      toProtoOffsetConfig (.specialOffset .kOffsetEnd) = .specialOffset .offsetEnd ∧
      0 ≤ (toProtoDuration 7).nanos.toInt ∧
      (toProtoDuration 7).nanos.toInt < 1000000000 ∧
      (toProtoDuration 7).seconds.toInt * 1000000000 + (toProtoDuration 7).nanos.toInt = 1 :=
  conversions_floor ⟨-1, by decide, by decide⟩ 5 ⟨7, by decide, by decide⟩ (by decide)

end AIStreams
