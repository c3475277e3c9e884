import CronHeatMap.Console.Picture
import CronHeatMap.Proofs.Console.Screen
import CronHeatMap.Proofs.Scene
import CronHeatMap.Proofs.Text.Numeral

/-!
# What the grid shows

The grid shows each place in the line of its hour and in the column of its minute (`shownAt?_grid`).
What is painted there is the last element of the place, which is the first one exactly if there are
no others (`paintedAt?_eq_at?_iff`).
-/

namespace CronHeatMap

/-- The first and the last that satisfy `p` are the same exactly if no others do. -/
lemma find?_reverse_eq_find?_iff {α : Type} {p : α → Bool} {l : List α} (hnodup : l.Nodup) :
    l.reverse.find? p = l.find? p ↔ ∀ a ∈ l, ∀ b ∈ l, p a = true → p b = true → a = b := by
  induction l with
  | nil => simp
  | cons first l ih =>
    rw [List.nodup_cons] at hnodup
    rw [List.reverse_cons, List.find?_append]
    cases hp : p first with
    | false => simp [hp, ih hnodup.2]
    | true =>
      rw [List.find?_cons_of_pos hp, List.find?_cons_of_pos hp]
      cases hlast : l.reverse.find? p with
      | none =>
        have hfirst : ∀ a ∈ first :: l, p a = true → a = first := by
          intro a ha hpa
          rcases List.mem_cons.1 ha with rfl | ha
          · rfl
          · exact absurd hpa (List.find?_eq_none.1 hlast a (List.mem_reverse.2 ha))
        refine iff_of_true rfl fun a ha b hb hpa hpb => ?_
        rw [hfirst a ha hpa, hfirst b hb hpb]
      | some last =>
        have hmem : last ∈ l := List.mem_reverse.1 (List.mem_of_find?_eq_some hlast)
        have hne : first ≠ last := fun heq => hnodup.1 (heq ▸ hmem)
        constructor
        · intro heq
          exact absurd (Option.some.inj heq).symm hne
        · intro hunique
          exact absurd (hunique first List.mem_cons_self last (List.mem_cons_of_mem first hmem) hp
            (List.find?_some hlast)) hne

namespace Scene

variable {s : Scene} {seat : Seat}

/-- At most one element shows a firing of a certain time. -/
def AtMostOneAt (s : Scene) (seat : Seat) : Prop :=
  ∀ e ∈ s.elements, ∀ e' ∈ s.elements, e.firing.seat = seat → e'.firing.seat = seat → e = e'

instance (s : Scene) (seat : Seat) : Decidable (s.AtMostOneAt seat) :=
  inferInstanceAs (Decidable (∀ _ ∈ _, _))

@[simp] lemma at?_mark (s : Scene) (f : Element → Marks) (seat : Seat) :
    (s.mark f).at? seat = (s.at? seat).map fun e => { e with marks := f e } := by
  rw [at?, elements_mark, List.find?_map]
  rfl

/-- Marks do not matter. -/
@[simp] lemma atMostOneAt_mark {f : Element → Marks} :
    (s.mark f).AtMostOneAt seat ↔ s.AtMostOneAt seat := by
  simp only [AtMostOneAt, elements_mark, List.forall_mem_map]
  constructor
  · intro h e he e' he' hseat hseat'
    have hid : e.id = e'.id := by simpa using congrArg Element.id (h e he e' he' hseat hseat')
    exact List.inj_on_of_nodup_map s.ids_nodup he he' hid
  · intro h e he e' he' hseat hseat'
    rw [h e he e' he' hseat hseat']

end Scene

namespace Picture

variable {s : Scene} {seat : Seat} {h : HeatMap}

/-! ### The element that is painted -/

/-- Something is painted where something is found. -/
lemma isSome_paintedAt? (s : Scene) (seat : Seat) :
    (paintedAt? s seat).isSome = (s.at? seat).isSome := by
  rw [Bool.eq_iff_iff, paintedAt?, Scene.at?, List.find?_isSome, List.find?_isSome]
  simp only [List.mem_reverse]

/-- What is painted is what is found exactly if nothing else is there. -/
lemma paintedAt?_eq_at?_iff : paintedAt? s seat = s.at? seat ↔ s.AtMostOneAt seat := by
  rw [paintedAt?, Scene.at?, find?_reverse_eq_find?_iff s.ids_nodup.of_map]
  simp only [decide_eq_true_eq, Scene.AtMostOneAt]

lemma glyph_ne_newline (e : Option Element) : glyph e ≠ '\n' := by
  cases e with
  | none => decide
  | some x =>
    rw [glyph]
    split_ifs <;> decide

/-- Only a locked element shows as one. -/
lemma glyph_eq_lockedGlyph_iff {e : Option Element} :
    glyph e = lockedGlyph ↔ ∃ x, e = some x ∧ x.marks.locked = true := by
  cases e with
  | none => simp [glyph, emptyGlyph, lockedGlyph]
  | some x =>
    simp only [glyph, Option.some_inj, exists_eq_left']
    split_ifs with hlocked hhighlighted
    · simp [hlocked]
    · simpa [highlightedGlyph, lockedGlyph] using hlocked
    · simpa [cellGlyph, lockedGlyph] using hlocked

/-- Only a place without a cell shows as one. -/
lemma glyph_eq_emptyGlyph_iff {e : Option Element} : glyph e = emptyGlyph ↔ e = none := by
  cases e with
  | none => simp [glyph]
  | some x =>
    simp only [glyph, reduceCtorEq, iff_false]
    split_ifs <;> decide

/-! ### Where it is painted -/

/-- The labels are two digits each. -/
lemma toList_label (a : Axes) (axis : Axis) (tick : Nat) :
    (a.label axis tick).toList = Text.figures 2 (a.reading axis tick) := by
  apply Text.toList_twoDigits
  cases axis
  all_goals
    simp only [Axes.reading, Axis.reading, Axis.cycle]
    omega

lemma length_label (a : Axes) (axis : Axis) (tick : Nat) :
    (a.label axis tick).toList.length = 2 := by
  rw [toList_label, Text.length_figures]

lemma newline_notMem_label (a : Axes) (axis : Axis) (tick : Nat) :
    '\n' ∉ (a.label axis tick).toList := by
  intro hc
  rw [toList_label] at hc
  obtain ⟨d, hd, hdigit⟩ := Text.exists_of_mem_figures hc
  exact Text.digitChar_ne hd (by decide) hdigit.symm

/-- The character of a place. -/
def placeGlyph (e : Option Element) : Glyph := { char := glyph e, ink := ink e }

/-- The characters in the line of an hour. -/
def hourGlyphs (s : Scene) (tick : Tick) : List Glyph :=
  (Text.padRight ' ' gutter tick.label.toList).map (fun char => { char, ink := some .axis }) ++
    (List.range minutesPerHour).map fun minute =>
      placeGlyph (paintedAt? s { hour := tick.value, minute })

lemma inkAfter_hourLine (s : Scene) (tick : Tick) :
    Screen.inkAfter none (hourLine s tick) = none := by
  rw [hourLine, Screen.inkAfter_append]
  rfl

lemma glyphs_hourLine (s : Scene) (tick : Tick) :
    Screen.glyphs none (hourLine s tick) = hourGlyphs s tick ++ [{ char := '\n' }] := by
  rw [hourLine, Screen.glyphs_append, Screen.glyphs_append, hourCells, Screen.glyphs_flatMap_ink]
  simp [Screen.glyphs, Stroke.glyphs, Stroke.inkAfter, hourGlyphs, placeGlyph]

/-- What is written over a line leaves it a line. -/
lemma newline_notMem_overwrite {line text : List Char} {column : Nat} (hline : '\n' ∉ line)
    (htext : '\n' ∉ text) : '\n' ∉ overwrite line column text := by
  intro hc
  rw [overwrite] at hc
  rcases List.mem_append.1 (List.mem_of_mem_take hc) with hc | hc
  · rcases List.mem_append.1 hc with hc | hc
    · exact hline (List.mem_of_mem_take hc)
    · exact htext hc
  · exact hline (List.mem_of_mem_drop hc)

/-- However many labels are written over a line, it stays one. -/
lemma newline_notMem_foldl_overwrite {ticks : List Tick}
    (hticks : ∀ tick ∈ ticks, '\n' ∉ tick.label.toList) {line : List Char} (hline : '\n' ∉ line) :
    '\n' ∉ ticks.foldl (fun line tick => overwrite line tick.value tick.label.toList) line := by
  induction ticks generalizing line with
  | nil => exact hline
  | cons tick ticks ih =>
    rw [List.forall_mem_cons] at hticks
    exact ih hticks.2 (newline_notMem_overwrite hline hticks.1)

lemma newline_notMem_minuteLine (a : Axes) : '\n' ∉ (minuteLine (a.labels .minute)).toList := by
  have hlabels : ∀ tick ∈ a.labels .minute, '\n' ∉ tick.label.toList := by
    rw [Axes.labels, List.forall_mem_map]
    exact fun tick _ => newline_notMem_label a .minute tick
  have hblank : '\n' ∉ List.replicate (minutesPerHour + 1) ' ' := by decide
  intro hc
  rw [minuteLine, String.toList_ofList, List.mem_append] at hc
  rcases hc with hc | hc
  · exact absurd (List.eq_of_mem_replicate hc) (by decide)
  · have hmem := (List.dropWhile_sublist Text.isBlank).subset (List.mem_reverse.1 hc)
    exact newline_notMem_foldl_overwrite hlabels hblank (List.mem_reverse.1 hmem)

/-- The tick of an hour. -/
def hourTick (a : Axes) (hour : Nat) : Tick := { value := hour, label := a.label .hour hour }

lemma inLine_hourGlyphs (s : Scene) (a : Axes) (hour : Nat) :
    Glyph.InLine (hourGlyphs s (hourTick a hour)) := by
  intro g hg
  rw [hourGlyphs, Text.padRight, List.map_append, List.mem_append, List.mem_append] at hg
  rcases hg with (hlabel | hpad) | hcell
  · obtain ⟨c, hc, rfl⟩ := List.mem_map.1 hlabel
    exact fun hnewline => newline_notMem_label a .hour hour (hnewline ▸ hc)
  · obtain ⟨c, hc, rfl⟩ := List.mem_map.1 hpad
    rw [List.eq_of_mem_replicate hc]
    decide
  · obtain ⟨minute, -, rfl⟩ := List.mem_map.1 hcell
    exact glyph_ne_newline _

/-- The place of a minute comes after the label of its hour. -/
lemma getElem?_hourGlyphs (s : Scene) (a : Axes) (hour : Nat) {minute : Nat}
    (hminute : minute < minutesPerHour) :
    (hourGlyphs s (hourTick a hour))[gutter + minute]? =
      some (placeGlyph (paintedAt? s { hour, minute })) := by
  have hlength : (Text.padRight ' ' gutter (hourTick a hour).label.toList).length = gutter := by
    rw [Text.padRight, List.length_append, List.length_replicate, hourTick, length_label]
    rfl
  rw [hourGlyphs, List.getElem?_append_right (by simp [hlength]), List.length_map, hlength,
    Nat.add_sub_cancel_left, List.getElem?_map, List.getElem?_range hminute]
  rfl

/-- The lines of the hours stand below the line of the minutes. -/
lemma glyphs_grid (h : HeatMap) (rest : Screen) :
    Screen.glyphs none (grid h ++ rest) =
      (minuteLine (h.axes.labels .minute)).toList.map (fun char => { char, ink := some .axis }) ++
        { char := '\n', ink := some .axis } ::
          (((List.range hoursPerDay).map fun hour =>
              hourGlyphs h.scene (hourTick h.axes hour)).flatMap (· ++ [{ char := '\n' }]) ++
            Screen.glyphs none rest) := by
  have hhours : (h.axes.labels .hour).flatMap (hourLine h.scene) =
      (List.range hoursPerDay).flatMap fun hour => hourLine h.scene (hourTick h.axes hour) :=
    List.flatMap_map ..
  have hink := fun hour => inkAfter_hourLine h.scene (hourTick h.axes hour)
  rw [grid, hhours, List.append_assoc, Screen.glyphs_append, Screen.glyphs_append,
    Screen.inkAfter_line, Screen.glyphs_line, Screen.inkAfter_flatMap hink,
    Screen.glyphs_flatMap hink, List.flatMap_map, List.append_assoc, List.singleton_append]
  simp only [glyphs_hourLine]

/-- What a screen shows at a place, if there is a grid at its top: places stand below the labels of
the minutes and to the right of those of the hours. -/
def shownAt? (screen : Screen) (seat : Seat) : Option Glyph :=
  screen.glyphAt? (seat.hour + 1) (gutter + seat.minute)

/-- Each place of the grid is shown in the line of its hour and in the column of its minute. -/
lemma shownAt?_grid (h : HeatMap) (rest : Screen) (hhour : seat.hour < hoursPerDay)
    (hminute : seat.minute < minutesPerHour) :
    shownAt? (grid h ++ rest) seat = some (placeGlyph (paintedAt? h.scene seat)) := by
  have hheading : Glyph.InLine ((minuteLine (h.axes.labels .minute)).toList.map fun char =>
      { char, ink := some .axis }) := by
    intro g hg
    obtain ⟨c, hc, rfl⟩ := List.mem_map.1 hg
    exact fun hnewline => newline_notMem_minuteLine h.axes (hnewline ▸ hc)
  have hlines : ∀ gs ∈ (List.range hoursPerDay).map fun hour =>
      hourGlyphs h.scene (hourTick h.axes hour), Glyph.InLine gs := by
    rw [List.forall_mem_map]
    exact fun hour _ => inLine_hourGlyphs h.scene h.axes hour
  rw [shownAt?, Screen.glyphAt?, glyphs_grid, Glyph.find?_newline hheading rfl]
  exact Glyph.find?_lines hlines rfl (by simp [hhour])
    (getElem?_hourGlyphs h.scene h.axes seat.hour hminute) _

end Picture

end CronHeatMap
