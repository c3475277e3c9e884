import CronHeatMap.Axis
import CronHeatMap.Proofs.Text.Numeral
import Mathlib.Data.List.Rotate

/-!
# Labels under a constant offset

If the clocks of the zone keep the same offset all through the day that is laid out, they read on
each axis what the tick says, shifted by the whole hours or minutes of the offset and counted around
the clock (`reading_eq`). So the labels of the hours are those of universal time, rotated, and the
labels of the minutes still go in steps of five (`labels_rotate`).
-/

namespace CronHeatMap

namespace Axes

variable {a : Axes} {axis : Axis} {offset : Int} {tick : Nat}

/-! ### What the clock reads -/

/-- All through the universal day of the reference date, the clocks of the zone are ahead of
universal time by the same number of seconds. -/
def OffBy (a : Axes) (offset : Int) : Prop :=
  ∀ instant, a.reference.midnight ≤ instant → instant < a.reference.midnight + 86400 →
    a.zone.offsetAt instant = offset

lemma offBy_utc (reference : Date) : OffBy { reference, zone := .utc } 0 :=
  fun _ _ _ => rfl

/-- A clock reads the tick, shifted by the whole units of the offset and counted around the
clock. -/
lemma reading_eq (h : a.OffBy offset) (htick : axis.unit * tick < 86400) :
    a.reading axis tick = ((tick + offset / axis.unit) % axis.cycle).toNat := by
  have hstart : 0 ≤ axis.unit * (tick : Int) := by
    cases axis <;> simp only [Axis.unit] <;> omega
  have hoffset : a.zone.offsetAt (a.reference.midnight + axis.unit * tick) = offset :=
    h _ (by omega) (by omega)
  rw [reading, Zone.clockAt, hoffset, Axis.reading, Date.midnight]
  -- A day is a number of turns of the clock, so that midnight does not show.
  cases axis with
  | minute =>
    simp only [Axis.unit, Axis.cycle]
    omega
  | hour =>
    simp only [Axis.unit, Axis.cycle]
    omega

/-! ### The labels of the hours -/

/-- The texts that label an axis, in order. -/
def labelTexts (a : Axes) (axis : Axis) : List String := (a.labels axis).map Tick.label

lemma labelTexts_eq_map (a : Axes) (axis : Axis) :
    a.labelTexts axis = axis.ticks.map (a.label axis) := by
  rw [labelTexts, labels, List.map_map]
  rfl

lemma label_hour (h : a.OffBy offset) (htick : tick < 24) :
    a.label .hour tick = Text.twoDigits ((tick + offset / 3600) % 24).toNat := by
  rw [label, reading_eq h (by simp only [Axis.unit]; omega)]
  rfl

lemma labelTexts_hour (h : a.OffBy offset) :
    a.labelTexts .hour =
      ((List.range 24).map Text.twoDigits).rotate (offset / 3600 % 24).toNat := by
  rw [labelTexts_eq_map]
  apply List.ext_getElem
  · simp [Axis.ticks, hoursPerDay]
  · intro hour hhour _
    have hlt : hour < 24 := by simpa [Axis.ticks, hoursPerDay] using hhour
    rw [List.getElem_rotate, List.getElem_map, List.getElem_map, List.getElem_range]
    simp only [Axis.ticks, List.getElem_range, List.length_map, List.length_range]
    rw [label_hour h hlt]
    congr 1
    omega

lemma count_labelTexts_hour (h : a.OffBy offset) {n : Nat} (hn : n < 24) :
    (a.labelTexts .hour).count (Text.twoDigits n) = 1 := by
  have hnodup : ((List.range 24).map Text.twoDigits).Nodup := by
    refine List.Nodup.map_on ?_ List.nodup_range
    intro i hi j hj hij
    rw [List.mem_range] at hi hj
    exact (Text.twoDigits_inj (by omega) (by omega)).1 hij
  rw [labelTexts_hour h, (List.rotate_perm _ _).count_eq]
  exact List.count_eq_one_of_mem hnodup (List.mem_map_of_mem (List.mem_range.2 hn))

/-! ### The labels of the minutes -/

lemma label_minute (h : a.OffBy offset) (htick : tick < 60) :
    a.label .minute tick = Text.twoDigits ((60 * tick + offset) / 60 % 60).toNat := by
  rw [label, reading_eq h (by simp only [Axis.unit]; omega)]
  simp only [Axis.unit, Axis.cycle]
  congr 2
  omega

lemma getElem?_labelTexts_minute (h : a.OffBy offset) {i : Nat} (hi : i < 12) :
    (a.labelTexts .minute)[i]? = some (Text.twoDigits ((5 * i + offset / 60) % 60).toNat) := by
  have hlt : i < minutesPerHour / Axis.minuteStep := hi
  rw [labelTexts_eq_map, Axis.ticks, List.map_map, List.getElem?_map, List.getElem?_range hlt,
    Option.map_some, Function.comp_apply, Axis.minuteStep, label_minute h (by omega)]
  congr 3
  omega

lemma exists_labelTexts_minute_succ (h : a.OffBy offset) {i : Nat} (hi : i + 1 < 12) :
    ∃ n < 60, (a.labelTexts .minute)[i]? = some (Text.twoDigits n) ∧
      (a.labelTexts .minute)[i + 1]? = some (Text.twoDigits ((n + 5) % 60)) := by
  refine ⟨((5 * i + offset / 60) % 60).toNat, by omega, ?_, ?_⟩
  · exact getElem?_labelTexts_minute h (by omega)
  · rw [getElem?_labelTexts_minute h hi]
    congr 2
    omega

/-! ### Both axes -/

lemma lt_cycle_of_mem_ticks (htick : tick ∈ axis.ticks) : (tick : Int) < axis.cycle := by
  cases axis with
  | minute => exact (by decide : ∀ tick ∈ Axis.minute.ticks, (tick : Int) < 60) tick htick
  | hour => exact (by decide : ∀ tick ∈ Axis.hour.ticks, (tick : Int) < 24) tick htick

/-- Without an offset, a label is the tick itself. -/
lemma label_eq_value_of_mem_labels (h : a.OffBy 0) {t : Tick} (ht : t ∈ a.labels axis) :
    t.label = Text.twoDigits t.value := by
  rw [labels, List.mem_map] at ht
  obtain ⟨tick, htick, rfl⟩ := ht
  have hlt := lt_cycle_of_mem_ticks htick
  have hday : axis.unit * tick < 86400 := by
    cases axis <;> simp only [Axis.unit, Axis.cycle] at hlt ⊢ <;> omega
  rw [label, reading_eq h hday, Int.zero_ediv, Int.add_zero,
    Int.emod_eq_of_lt (Int.natCast_nonneg tick) hlt, Int.toNat_natCast]

/-- Under a constant offset, which may be negative and need not be a whole number of minutes, the
labels are the ticks shifted by the whole hours or minutes of the offset. The labels of the hours
are those from 00 to 23, rotated, with each of them once; from one label of the minutes to the next
there are five minutes around the clock. In universal time the labels are the ticks. -/
theorem labels_rotate (h : a.OffBy offset) :
    (∀ hour < 24, a.label .hour hour = Text.twoDigits ((hour + offset / 3600) % 24).toNat) ∧
    (∀ minute < 60,
      a.label .minute minute = Text.twoDigits ((60 * minute + offset) / 60 % 60).toNat) ∧
    a.labelTexts .hour =
      ((List.range 24).map Text.twoDigits).rotate (offset / 3600 % 24).toNat ∧
    (∀ n < 24, (a.labelTexts .hour).count (Text.twoDigits n) = 1) ∧
    (∀ i, i + 1 < 12 → ∃ n < 60, (a.labelTexts .minute)[i]? = some (Text.twoDigits n) ∧
      (a.labelTexts .minute)[i + 1]? = some (Text.twoDigits ((n + 5) % 60))) ∧
    ∀ reference axis, ∀ t ∈ labels { reference, zone := .utc } axis,
      t.label = Text.twoDigits t.value := by
  refine ⟨?_, ?_, labelTexts_hour h, ?_, ?_, ?_⟩
  · exact fun hour hhour => label_hour h hhour
  · exact fun minute hminute => label_minute h hminute
  · exact fun n hn => count_labelTexts_hour h hn
  · exact fun i hi => exists_labelTexts_minute_succ h hi
  · exact fun reference axis t ht => label_eq_value_of_mem_labels (offBy_utc reference) ht

/-- Local mean time, 25 minutes and 21 seconds behind universal time, between two other offsets that
are in force up to the day before and from the day after. -/
theorem labels_rotate_behind :
    let zone : Zone := { name := "Europe/Dublin", initial := 3600,
                         transitions := [⟨-10, -1521⟩, ⟨86400, 0⟩] }
    let a : Axes := { reference := .unixEpoch, zone }
    a.OffBy (-1521) ∧ a.label .hour 0 = "23" ∧ a.label .minute 25 = "59" ∧
      a.labelTexts .hour = ((List.range 24).map Text.twoDigits).rotate 23 := by
  intro zone a
  have hoff : a.OffBy (-1521) := by
    intro instant hstart hend
    have hmidnight : a.reference.midnight = 0 := by decide
    have hbefore : -10 ≤ instant := by omega
    have hafter : ¬ 86400 ≤ instant := by omega
    simp [a, zone, Zone.offsetAt, hbefore, hafter]
  obtain ⟨hhour, hminute, hrotate, -⟩ := labels_rotate hoff
  refine ⟨hoff, ?_, ?_, hrotate⟩
  · rw [hhour 0 (by decide)]
    decide +kernel
  · rw [hminute 25 (by decide)]
    decide +kernel

end Axes

end CronHeatMap
