import CronHeatMap.Color.Scale
import Mathlib.Algebra.Order.Round
import Mathlib.Data.List.GetD
import Mathlib.Data.Rat.Floor
import Mathlib.Tactic.FieldSimp

/-!
# The ramp never gets lighter

Read on exact rationals, the ramp goes from its light end to its dark end, and no channel rises on
the way (`never_lighter`).

A stretch of the spline weighs four control points in a row. Written with the falls from each of
them to the next one, it has weights that fall themselves (`stretch_eq`), and so it falls along
falling control points. Stretches in a row meet (`arc_one`), so that they join to one curve over all
distances from the start (`curve`), and the values at the joints fall as well. The spline is this
curve along the given values, continued in a straight line beyond both ends (`spline_eq_curve`).
Because of these lines it starts in the first value and ends in the last one, although it need not
pass the others. Between these two values nothing has to be cut off to get a byte.
-/

namespace CronHeatMap

/-- The channels of a colour. -/
def Rgb.channels : List (Rgb → UInt8) := [Rgb.red, Rgb.green, Rgb.blue]

/-- The channels tell colours apart. -/
lemma Rgb.eq_of_channels {c d : Rgb} (h : ∀ pick ∈ Rgb.channels, pick c = pick d) : c = d := by
  cases c
  cases d
  simpa [Rgb.channels] using h

/-- No channel of a colour is greater than the same one of another colour. -/
def Rgb.NoLighterThan (c d : Rgb) : Prop := ∀ pick ∈ Rgb.channels, pick c ≤ pick d

namespace Ramp

variable {u w t v0 v1 v2 v3 : ℚ} {c : ℕ → ℚ} {values : List ℕ} {pick : Rgb → UInt8}

/-! ### Exact scalars -/

@[simp] lemma ofNat_rat (n : ℕ) : (Scalar.ofNat n : ℚ) = n := rfl

@[simp] lemma less_rat (x y : ℚ) : Scalar.less x y = decide (x < y) := rfl

@[simp] lemma floor_rat (x : ℚ) : Scalar.floor x = ⌊x⌋₊ := rfl

lemma round_le_round {x y : ℚ} (hxy : x ≤ y) : round x ≤ round y := by
  rw [round_eq, round_eq]
  gcongr

lemma toNat_nearestByte (x : ℚ) : (Scalar.nearestByte x).toNat = min 255 (round x).toNat := by
  rw [round_eq]
  show (UInt8.ofNat (min 255 (x + 1 / 2).floor.toNat)).toNat = _
  rw [UInt8.toNat_ofNat']
  exact Nat.mod_eq_of_lt (by omega)

lemma nearestByte_natCast (b : UInt8) : Scalar.nearestByte (b.toNat : ℚ) = b := by
  have hb := b.toNat_lt
  rw [← UInt8.toNat_inj, toNat_nearestByte, round_natCast]
  omega

lemma nearestByte_le_nearestByte {x y : ℚ} (hxy : x ≤ y) :
    Scalar.nearestByte x ≤ Scalar.nearestByte y := by
  have hround := round_le_round hxy
  rw [UInt8.le_iff_toNat_le, toNat_nearestByte, toNat_nearestByte]
  omega

/-- From 0 to 255 a number is rounded without being cut off. -/
lemma toNat_nearestByte_eq_round {x : ℚ} (h0 : 0 ≤ x) (h255 : x ≤ 255) :
    ((Scalar.nearestByte x).toNat : ℤ) = round x := by
  have hlow := round_le_round h0
  have hhigh := round_le_round h255
  rw [round_zero] at hlow
  rw [round_ofNat] at hhigh
  rw [toNat_nearestByte]
  omega

/-! ### Stretches -/

/-- A stretch as the last of its control points, with a share of each fall before it. -/
lemma stretch_eq (v0 v1 v2 v3 u : ℚ) :
    stretch v0 v1 v2 v3 u =
      v3 + ((1 - u) ^ 3 * (v0 - v1) + (5 - 3 * u - 3 * u ^ 2 + 2 * u ^ 3) * (v1 - v2)
        + (6 - u ^ 3) * (v2 - v3)) / 6 := by
  simp only [stretch, ofNat_rat]
  push_cast
  ring

lemma middle_weight_le (hu : 0 ≤ u) (huw : u ≤ w) (hw : w ≤ 1) :
    5 - 3 * w - 3 * w ^ 2 + 2 * w ^ 3 ≤ 5 - 3 * u - 3 * u ^ 2 + 2 * u ^ 3 := by
  have huu : u ^ 2 ≤ u := pow_le_of_le_one hu (huw.trans hw) two_ne_zero
  have hprod : u * w ≤ u := mul_le_of_le_one_right hu hw
  have hww : w ^ 2 ≤ w := pow_le_of_le_one (hu.trans huw) hw two_ne_zero
  have hslope : 0 ≤ 3 + 3 * (u + w) - 2 * (u ^ 2 + u * w + w ^ 2) := by linarith
  have hfall : 5 - 3 * u - 3 * u ^ 2 + 2 * u ^ 3 - (5 - 3 * w - 3 * w ^ 2 + 2 * w ^ 3) =
      (w - u) * (3 + 3 * (u + w) - 2 * (u ^ 2 + u * w + w ^ 2)) := by
    ring
  rw [← sub_nonneg, hfall]
  exact mul_nonneg (sub_nonneg.2 huw) hslope

/-- A stretch falls along falling control points. -/
lemma stretch_le_stretch (h01 : v1 ≤ v0) (h12 : v2 ≤ v1) (h23 : v3 ≤ v2) (hu : 0 ≤ u) (huw : u ≤ w)
    (hw : w ≤ 1) : stretch v0 v1 v2 v3 w ≤ stretch v0 v1 v2 v3 u := by
  have hfirst : (1 - w) ^ 3 ≤ (1 - u) ^ 3 := pow_le_pow_left₀ (by linarith) (by linarith) 3
  have hmiddle := middle_weight_le hu huw hw
  have hlast : 6 - w ^ 3 ≤ 6 - u ^ 3 := by gcongr
  rw [stretch_eq, stretch_eq]
  gcongr

/-! ### The curve along endless control points -/

/-- The stretch of a curve with a number. -/
def arc (c : ℕ → ℚ) (i : ℕ) (u : ℚ) : ℚ := stretch (c i) (c (i + 1)) (c (i + 2)) (c (i + 3)) u

/-- All stretches of a curve in a row, each of them as long as 1. -/
def curve (c : ℕ → ℚ) (x : ℚ) : ℚ := arc c ⌊x⌋₊ (x - ⌊x⌋₊)

lemma arc_zero (c : ℕ → ℚ) (i : ℕ) : arc c i 0 = (c i + 4 * c (i + 1) + c (i + 2)) / 6 := by
  rw [arc, stretch_eq]
  ring

/-- A stretch ends where the next one starts. -/
lemma arc_one (c : ℕ → ℚ) (i : ℕ) : arc c i 1 = arc c (i + 1) 0 := by
  rw [arc_zero, arc, stretch_eq]
  ring

lemma curve_natCast (c : ℕ → ℚ) (i : ℕ) : curve c i = arc c i 0 := by
  rw [curve, Nat.floor_natCast, sub_self]

lemma curve_zero (c : ℕ → ℚ) : curve c 0 = arc c 0 0 := curve_natCast c 0

lemma arc_le_arc (hc : Antitone c) (i : ℕ) (hu : 0 ≤ u) (huw : u ≤ w) (hw : w ≤ 1) :
    arc c i w ≤ arc c i u :=
  stretch_le_stretch (hc (by omega)) (hc (by omega)) (hc (by omega)) hu huw hw

lemma antitone_arc_zero (hc : Antitone c) : Antitone fun i => arc c i 0 := by
  intro i j hij
  simp only [arc_zero]
  gcongr
  · exact hc hij
  · exact hc (by omega)
  · exact hc (by omega)

/-- A curve falls along falling control points. -/
lemma antitoneOn_curve (hc : Antitone c) : AntitoneOn (curve c) (Set.Ici 0) := by
  intro x hx y hy hxy
  rw [Set.mem_Ici] at hx hy
  have hx0 := Nat.floor_le hx
  have hx1 := Nat.lt_floor_add_one x
  have hy0 := Nat.floor_le hy
  have hy1 := Nat.lt_floor_add_one y
  rcases (Nat.floor_mono hxy).eq_or_lt with hsame | hlater
  · rw [curve, curve, ← hsame]
    rw [← hsame] at hy1
    exact arc_le_arc hc _ (by linarith) (by linarith) (by linarith)
  -- The joint after `x` and the one before `y` lie between them and fall as well.
  · calc curve c y
      _ ≤ arc c ⌊y⌋₊ 0 := arc_le_arc hc _ le_rfl (by linarith) (by linarith)
      _ ≤ arc c (⌊x⌋₊ + 1) 0 := antitone_arc_zero hc hlater
      _ = arc c ⌊x⌋₊ 1 := (arc_one c _).symm
      _ ≤ curve c x := arc_le_arc hc _ (by linarith) (by linarith) le_rfl

/-! ### The spline as a curve -/

/-- The values as control points from number 1 on, with one more before them and endlessly many
after them, which continue the line through the two at the end. -/
def control (values : List ℕ) : ℕ → ℚ
  | 0 => 2 * values.getD 0 0 - values.getD 1 0
  | k + 1 =>
    if k < values.length then values.getD k 0
    else 2 * values.getD (values.length - 1) 0 - values.getD (values.length - 2) 0

lemma control_succ {k : ℕ} (hk : k < values.length) :
    control values (k + 1) = values.getD k 0 := by
  rw [control, if_pos hk]

lemma control_beyond {k : ℕ} (hk : values.length ≤ k) :
    control values (k + 1) =
      2 * values.getD (values.length - 1) 0 - values.getD (values.length - 2) 0 := by
  rw [control, if_neg (Nat.not_lt.2 hk)]

/-- Falling values stay as they are or fall to 0 where there are no more of them. -/
lemma antitone_getD (hvalues : values.Pairwise (· ≥ ·)) : Antitone fun k => values.getD k 0 := by
  intro j k hjk
  rcases hjk.eq_or_lt with rfl | hlt
  · exact le_rfl
  · rcases Nat.lt_or_ge k values.length with hk | hk
    · simp only [List.getD_eq_getElem _ _ hk, List.getD_eq_getElem _ _ (hlt.trans hk)]
      exact List.pairwise_iff_getElem.1 hvalues j k _ _ hlt
    · simp only [List.getD_eq_default _ _ hk]
      exact Nat.zero_le _

lemma antitone_control (hlen : 2 ≤ values.length) (hvalues : values.Pairwise (· ≥ ·)) :
    Antitone (control values) := by
  have hfall (j k : ℕ) (hjk : j ≤ k) : (values.getD k 0 : ℚ) ≤ values.getD j 0 :=
    Nat.cast_le.2 (antitone_getD hvalues hjk)
  refine antitone_nat_of_succ_le fun k => ?_
  rcases Nat.eq_zero_or_pos k with rfl | hpos
  · rw [control_succ (by omega), control]
    linarith [hfall 0 1 (by omega)]
  obtain ⟨k, rfl⟩ := Nat.exists_eq_add_of_le' hpos
  rcases lt_trichotomy (k + 1) values.length with hlt | hend | hgt
  · rw [control_succ hlt, control_succ (by omega)]
    exact hfall k (k + 1) (by omega)
  · have hlast : values.length - 1 = k := by omega
    rw [control_beyond hend.ge, control_succ (by omega), hlast]
    linarith [hfall (values.length - 2) k (by omega)]
  · rw [control_beyond (by omega), control_beyond (by omega)]

lemma point_eq_control {i : ℕ} (hi : i < values.length) :
    point values i = control values (i + 1) := by
  rw [point, ofNat_rat, control_succ hi]

/-- What stands in for a missing control point before the first value is on the line through the
first two. -/
lemma before_eq_control {i : ℕ} (hi : i < values.length) :
    (if 0 < i then point values (i - 1) else 2 * point values i - point values (i + 1) : ℚ) =
      control values i := by
  cases i with
  | zero => rfl
  | succ i => exact point_eq_control (by omega)

/-- What stands in for a missing control point after the last value is on the line through the last
two. -/
lemma after_eq_control {i : ℕ} (hi : i + 1 < values.length) :
    (if i + 1 < values.length - 1 then point values (i + 2)
      else 2 * point values (i + 1) - point values i : ℚ) = control values (i + 3) := by
  split_ifs with hnext
  · exact point_eq_control (by omega)
  · have hlast : values.length - 1 = i + 1 := by omega
    have hbut : values.length - 2 = i := by omega
    rw [control_beyond (by omega), hlast, hbut]
    rfl

lemma splineIn_eq_arc {i : ℕ} (hi : i + 1 < values.length) (t : ℚ) :
    splineIn values i t = arc (control values) i (t * (values.length - 1 : ℕ) - i) := by
  have hn : ((values.length - 1 : ℕ) : ℚ) ≠ 0 := Nat.cast_ne_zero.2 (by omega)
  have hreach : (t - i / (values.length - 1 : ℕ)) * (values.length - 1 : ℕ) =
      t * (values.length - 1 : ℕ) - i := by
    field_simp
  rw [arc, ← before_eq_control (by omega), ← after_eq_control hi, ← point_eq_control (by omega),
    ← point_eq_control hi, ← hreach]
  rfl

/-- The spline is the curve along its values, and each share is as far along this curve. -/
lemma spline_eq_curve (hlen : 2 ≤ values.length) (t : ℚ) :
    spline values t = curve (control values) (max 0 (min t 1) * (values.length - 1 : ℕ)) := by
  have hn : (0 : ℚ) < (values.length - 1 : ℕ) := Nat.cast_pos.2 (by omega)
  simp only [spline, less_rat, ofNat_rat, floor_rat, decide_eq_true_eq, Nat.cast_zero, Nat.cast_one]
  split_ifs with h0 h1
  -- The stretch that is chosen runs between two of the values.
  · have hfloor : ⌊t * (values.length - 1 : ℕ)⌋₊ < values.length - 1 :=
      (Nat.floor_lt (by positivity)).2 (mul_lt_of_lt_one_left hn h1)
    rw [min_eq_left h1.le, max_eq_right h0.le, splineIn_eq_arc (by omega), curve]
  · have hend : (1 * (values.length - 1 : ℕ) - (values.length - 1 - 1 : ℕ) : ℚ) = 1 := by
      have hcut : ((values.length - 1 - 1 : ℕ) : ℚ) = (values.length - 1 : ℕ) - 1 :=
        Nat.cast_pred (by omega)
      rw [hcut]
      ring
    rw [min_eq_right (not_lt.1 h1), max_eq_right zero_le_one, splineIn_eq_arc (by omega), hend,
      arc_one, one_mul, curve_natCast, Nat.sub_add_cancel (by omega)]
  · rw [max_eq_left (min_le_of_left_le (not_lt.1 h0)), splineIn_eq_arc (by omega), zero_mul,
      curve_zero, Nat.cast_zero, sub_zero]

section Falling

variable (hlen : 2 ≤ values.length)
include hlen

/-- The spline starts in the first value. -/
lemma spline_of_nonpos (ht : t ≤ 0) : spline values t = (values.getD 0 0 : ℚ) := by
  rw [spline_eq_curve hlen, max_eq_left (min_le_of_left_le ht), zero_mul, curve_zero, arc_zero,
    control_succ (by omega), control_succ (by omega), control]
  ring

/-- The spline ends in the last value. -/
lemma spline_of_one_le (ht : 1 ≤ t) :
    spline values t = (values.getD (values.length - 1) 0 : ℚ) := by
  have hbut : control values (values.length - 1) = values.getD (values.length - 2) 0 := by
    have hsucc : values.length - 1 = values.length - 2 + 1 := by omega
    rw [hsucc, control_succ (by omega)]
  rw [spline_eq_curve hlen, min_eq_right ht, max_eq_right zero_le_one, one_mul, curve_natCast,
    arc_zero, hbut, control_succ (by omega), control_beyond (k := values.length - 1 + 1) (by omega)]
  ring

variable (hvalues : values.Pairwise (· ≥ ·))
include hvalues

/-- The spline falls along falling values. -/
lemma antitone_spline : Antitone (spline values : ℚ → ℚ) := by
  intro t t' ht
  rw [spline_eq_curve hlen, spline_eq_curve hlen]
  apply antitoneOn_curve (antitone_control hlen hvalues)
  · exact Set.mem_Ici.2 (by positivity)
  · exact Set.mem_Ici.2 (by positivity)
  · gcongr

/-- The spline stays between the last and the first of falling values. -/
lemma spline_mem_Icc (t : ℚ) :
    spline values t ∈ Set.Icc (values.getD (values.length - 1) 0 : ℚ) (values.getD 0 0 : ℚ) := by
  have hfall := antitone_spline hlen hvalues
  constructor
  · rw [← spline_of_one_le hlen (le_max_right t 1)]
    exact hfall (le_max_left t 1)
  · rw [← spline_of_nonpos hlen (min_le_right t 0)]
    exact hfall (min_le_left t 0)

end Falling

/-! ### The colours -/

/-- What one channel has along Reds. -/
def shades (pick : Rgb → UInt8) : List ℕ := Scheme.reds.map fun c => (pick c).toNat

lemma two_le_length_shades (pick : Rgb → UInt8) : 2 ≤ (shades pick).length := by
  rw [shades, List.length_map]
  decide

lemma first_shade (pick : Rgb → UInt8) :
    (shades pick).getD 0 0 = (pick (Rgb.ofNat 0xfff5f0)).toNat := rfl

lemma last_shade (pick : Rgb → UInt8) :
    (shades pick).getD ((shades pick).length - 1) 0 = (pick (Rgb.ofNat 0x67000d)).toNat := rfl

/-- Each channel falls along Reds. -/
lemma pairwise_shades : ∀ pick ∈ Rgb.channels, (shades pick).Pairwise (· ≥ ·) := by decide

lemma antitone_spline_shades (hpick : pick ∈ Rgb.channels) :
    Antitone (spline (shades pick) : ℚ → ℚ) :=
  antitone_spline (two_le_length_shades pick) (pairwise_shades pick hpick)

/-- Along the shades the spline needs no cutting off to become a byte. -/
lemma spline_shades_mem_Icc (hpick : pick ∈ Rgb.channels) (t : ℚ) :
    spline (shades pick) t ∈ Set.Icc (0 : ℚ) 255 := by
  have hbyte : (pick (Rgb.ofNat 0xfff5f0)).toNat ≤ 255 := Nat.le_of_lt_succ (UInt8.toNat_lt _)
  obtain ⟨hlast, hfirst⟩ :=
    spline_mem_Icc (two_le_length_shades pick) (pairwise_shades pick hpick) t
  rw [first_shade] at hfirst
  exact ⟨(Nat.cast_nonneg _).trans hlast, hfirst.trans (by exact_mod_cast hbyte)⟩

lemma pick_color (hpick : pick ∈ Rgb.channels) (t : ℚ) :
    pick (color t) = Scalar.nearestByte (spline (shades pick) t) := by
  simp only [Rgb.channels, List.mem_cons, List.not_mem_nil, or_false] at hpick
  rcases hpick with rfl | rfl | rfl <;> rfl

lemma color_eq_of_spline_eq {c : Rgb}
    (h : ∀ pick ∈ Rgb.channels, spline (shades pick) t = ((pick c).toNat : ℚ)) : color t = c := by
  apply Rgb.eq_of_channels
  intro pick hpick
  rw [pick_color hpick, h pick hpick, nearestByte_natCast]

lemma color_of_nonpos (ht : t ≤ 0) : color t = Rgb.ofNat 0xfff5f0 := by
  apply color_eq_of_spline_eq
  intro pick _
  rw [spline_of_nonpos (two_le_length_shades pick) ht, first_shade]

lemma color_of_one_le (ht : 1 ≤ t) : color t = Rgb.ofNat 0x67000d := by
  apply color_eq_of_spline_eq
  intro pick _
  rw [spline_of_one_le (two_le_length_shades pick) ht, last_shade]

lemma color_noLighterThan {t t' : ℚ} (ht : t ≤ t') : (color t').NoLighterThan (color t) := by
  intro pick hpick
  rw [pick_color hpick, pick_color hpick]
  exact nearestByte_le_nearestByte (antitone_spline_shades hpick ht)

/-! ### Counts -/

lemma share_eq {low high : ℕ} (hends : low < high) (count : ℕ) :
    (Scale.share low high count : ℚ) = (count - low) / (high - low) := by
  rw [Scale.share, if_neg hends.ne]
  rfl

/-- Greater counts are further along a sequential scale. -/
lemma monotone_share {low high : ℕ} (hends : low < high) :
    Monotone (Scale.share low high : ℕ → ℚ) := by
  intro count count' hcounts
  have hspan : (0 : ℚ) ≤ high - low := sub_nonneg.2 (Nat.cast_le.2 hends.le)
  rw [share_eq hends, share_eq hends]
  gcongr

/-- Computed exactly, the ramp never gets lighter. The spline keeps to the range of a byte, so that
a channel is just its value rounded. The ramp starts and ends in the end colours of Reds, which it
keeps outside the interval, and a greater count of a sequential scale is in no channel lighter than
a smaller one. -/
theorem never_lighter :
    (∀ t t' : ℚ, t ≤ t' → (color t').NoLighterThan (color t)) ∧
    (∀ t : ℚ, ∀ pick ∈ Rgb.channels,
      spline (shades pick) t ∈ Set.Icc (0 : ℚ) 255 ∧
      ((pick (color t)).toNat : ℤ) = round (spline (shades pick) t)) ∧
    (∀ t : ℚ, t ≤ 0 → color t = Rgb.ofNat 0xfff5f0) ∧
    (∀ t : ℚ, 1 ≤ t → color t = Rgb.ofNat 0x67000d) ∧
    ∀ low high : ℕ, low < high → ∀ count count' : ℕ, count ≤ count' →
      (Scale.colorIn ℚ (.sequential low high) count').NoLighterThan
        (Scale.colorIn ℚ (.sequential low high) count) := by
  refine ⟨fun _ _ => color_noLighterThan, fun t pick hpick => ?_, fun _ => color_of_nonpos,
    fun _ => color_of_one_le, fun low high hends count count' hcounts => ?_⟩
  · obtain ⟨hlow, hhigh⟩ := spline_shades_mem_Icc hpick t
    rw [pick_color hpick]
    exact ⟨⟨hlow, hhigh⟩, toNat_nearestByte_eq_round hlow hhigh⟩
  · exact color_noLighterThan (monotone_share hends hcounts)

/-- On both sides of the last joint, after which the spline leans on a control point below 0. -/
theorem never_lighter_around_joint :
    let before : ℚ := 7 / 8 - 1 / 20
    let after : ℚ := 7 / 8 + 1 / 20
    before ≤ after ∧ color before = Rgb.ofNat 0xb31318 ∧ color after = Rgb.ofNat 0x8b0912 ∧
      (color after).NoLighterThan (color before) ∧
      Rgb.green ∈ Rgb.channels ∧ control (shades Rgb.green) 10 < 0 ∧
      spline (shades Rgb.green) after ∈ Set.Icc (0 : ℚ) 255 ∧
      round (spline (shades Rgb.green) after) = 9 ∧
      (-1 : ℚ) ≤ 0 ∧ color (-1 : ℚ) = Rgb.ofNat 0xfff5f0 ∧
      (1 : ℚ) ≤ 3 / 2 ∧ color (3 / 2 : ℚ) = Rgb.ofNat 0x67000d ∧
      3 < 12 ∧ 2 ≤ 11 ∧
      (Scale.colorIn ℚ (.sequential 3 12) 11).NoLighterThan
        (Scale.colorIn ℚ (.sequential 3 12) 2) := by
  intro before after
  obtain ⟨hfall, hspline, hlight, hdark, hcounts⟩ := never_lighter
  have hle : before ≤ after := by decide +kernel
  have hafter : color after = Rgb.ofNat 0x8b0912 := by decide +kernel
  have hgreen : Rgb.green ∈ Rgb.channels := by simp [Rgb.channels]
  have hnegative : (-1 : ℚ) ≤ 0 := by decide
  have hbeyond : (1 : ℚ) ≤ 3 / 2 := by decide +kernel
  obtain ⟨hmem, hround⟩ := hspline after Rgb.green hgreen
  rw [hafter] at hround
  exact ⟨hle, by decide +kernel, hafter, hfall before after hle, hgreen, by decide +kernel, hmem,
    hround.symm, hnegative, hlight (-1) hnegative, hbeyond, hdark (3 / 2) hbeyond, by decide,
    by decide, hcounts 3 12 (by decide) 2 11 (by decide)⟩

end Ramp

end CronHeatMap
