import CronHeatMap.Proofs.HeatMap.Highlight
import CronHeatMap.Proofs.HeatMap.Run
import CronHeatMap.Query

/-!
# Labels that are kept

What the axes are labelled with can be computed whenever it is shown, or be kept on the heat map and
computed anew by the two operations that work on the axes. Kept labels are never out of date: they
are the labels for the reference date and the zone that were set last, whatever was drawn, pointed at
or picked out before or in between (`labels_by_last_axes`).
-/

namespace CronHeatMap

/-- The labels of both axes. -/
structure AxisLabels where
  minutes : List Tick
  hours : List Tick
deriving Repr, DecidableEq

/-- The labels that axes have. -/
def AxisLabels.ofAxes (a : Axes) : AxisLabels :=
  { minutes := a.labels .minute, hours := a.labels .hour }

namespace HeatMap

/-! ### The axes -/

namespace Operation

variable {α : Type*} {set? : Operation → Option α} {ops : List Operation}

/-- The zone that an operation sets. -/
def zone? : Operation → Option Zone
  | setZone zone => some zone
  | _ => none

/-- The reference date that an operation sets. -/
def reference? : Operation → Option Date
  | setReferenceDate text today => some (.ofText text today)
  | _ => none

/-- The operation sets the zone or the reference date. -/
def OnAxes (op : Operation) : Prop := op.zone?.isSome = true ∨ op.reference?.isSome = true

/-- What operations have set last, or `a` if they have set nothing. -/
def last (set? : Operation → Option α) (a : α) (ops : List Operation) : α :=
  (ops.filterMap set?).getLast?.getD a

lemma last_concat (a : α) (ops : List Operation) (op : Operation) :
    last set? a (ops ++ [op]) = (set? op).getD (last set? a ops) := by
  rw [last, List.filterMap_append]
  cases hop : set? op with
  | none => simp [hop, last]
  | some b => simp [hop]

lemma last_of_forall_none (a : α) (hnone : ∀ op ∈ ops, set? op = none) : last set? a ops = a := by
  rw [last, List.filterMap_eq_nil_iff.2 hnone]
  rfl

/-- The axes after some operations. -/
def lastAxes (a : Axes) (ops : List Operation) : Axes :=
  { reference := last reference? a.reference ops, zone := last zone? a.zone ops }

lemma lastAxes_of_forall_not_onAxes (a : Axes) (hops : ∀ op ∈ ops, ¬ op.OnAxes) :
    lastAxes a ops = a := by
  have hnone : ∀ op ∈ ops, op.zone? = none ∧ op.reference? = none := by
    simpa [OnAxes] using hops
  rw [lastAxes, last_of_forall_none _ fun op hop => (hnone op hop).1,
    last_of_forall_none _ fun op hop => (hnone op hop).2]

end Operation

open Operation

lemma axes_hover (h : HeatMap) (cell : ElementId) : (h.hover cell).2.axes = h.axes := by
  simp only [hover]
  split
  · rfl
  · split_ifs <;> rfl

lemma axes_leave (h : HeatMap) (cell : ElementId) : (h.leave cell).axes = h.axes := by
  rw [leave]
  split_ifs <;> rfl

lemma axes_click (h : HeatMap) (cell : ElementId) : (h.click cell).2.axes = h.axes := by
  rw [click]
  split_ifs <;> rfl

lemma axes_toggleHighlight (h : HeatMap) (i : Nat) : (h.toggleHighlight i).2.axes = h.axes := by
  rcases h.toggle_cases i with hi | hi | ⟨entry, hentry, hi⟩
  · rw [toggleHighlight_of_length_le hi]
  · rw [toggleHighlight_of_picked hi]
    rfl
  · rw [toggleHighlight_of_not_picked hentry hi]
    rfl

/-- Each operation leaves of the axes what it does not set. -/
lemma axes_act (h : HeatMap) (op : Operation) :
    (h.act op).axes =
      { reference := op.reference?.getD h.axes.reference, zone := op.zone?.getD h.axes.zone } := by
  cases op with
  | draw firings => exact axes_draw h firings
  | hover cell => exact axes_hover h cell
  | leave cell => exact axes_leave h cell
  | click cell => exact axes_click h cell
  | unfreeze => exact axes_unfreeze h
  | setListing expressions => rfl
  | toggleHighlight i => exact axes_toggleHighlight h i
  | clearHighlight => rfl
  | setZone zone => rfl
  | setReferenceDate text today => rfl

lemma axes_after (h : HeatMap) (ops : List Operation) :
    (h.after ops).axes = lastAxes h.axes ops := by
  induction ops using List.reverseRecOn with
  | nil => rfl
  | append_singleton ops op ih =>
    rw [after_concat, axes_act, ih, lastAxes, lastAxes, last_concat, last_concat]

/-- An operation that sets the zone or the reference date changes the axes only. -/
lemma act_of_onAxes {op : Operation} (hop : op.OnAxes) (h : HeatMap) :
    ∃ axes, h.act op = { h with axes } := by
  cases op with
  | setZone zone => exact ⟨_, rfl⟩
  | setReferenceDate text today => exact ⟨_, rfl⟩
  | _ => simp [OnAxes, zone?, reference?] at hop

lemma after_of_onAxes {ops : List Operation} (hops : ∀ op ∈ ops, op.OnAxes) (h : HeatMap) :
    ∃ axes, h.after ops = { h with axes } := by
  induction ops generalizing h with
  | nil => exact ⟨h.axes, rfl⟩
  | cons op ops ih =>
    obtain ⟨hop, hops⟩ := List.forall_mem_cons.1 hops
    obtain ⟨a, hact⟩ := act_of_onAxes hop h
    obtain ⟨b, hafter⟩ := ih hops (h.act op)
    refine ⟨b, ?_⟩
    rw [hact] at hafter
    rw [after, List.foldl_cons, hact]
    exact hafter

/-! ### The labels -/

/-- A heat map with the labels that are kept for it. -/
structure Labelled where
  view : HeatMap
  labels : AxisLabels

namespace Labelled

variable {l : Labelled} {ops : List Operation}

/-- The heat map with labels computed for it. -/
def fresh (h : HeatMap) : Labelled := { view := h, labels := .ofAxes h.axes }

/-- An empty heat map has the labels for a form that says `today`. -/
def blank (today : Date) (zone : Zone) : Labelled :=
  fresh { HeatMap.blank today zone with axes := .ofDateText Query.today today zone }

/-- The labelled heat map after an operation. The labels are computed anew where the axes are set,
and there only. -/
def act (l : Labelled) : Operation → Labelled
  | .setZone zone => fresh (l.view.setZone zone)
  | .setReferenceDate text today => fresh (l.view.setReferenceDate text today)
  | op => { l with view := l.view.act op }

/-- The labelled heat map after some operations, one after the other. -/
def after (l : Labelled) (ops : List Operation) : Labelled := ops.foldl act l

/-- The labels are those that the axes have. -/
def UpToDate (l : Labelled) : Prop := l.labels = .ofAxes l.view.axes

lemma view_blank (today : Date) (zone : Zone) :
    (blank today zone).view = HeatMap.blank today zone := by
  have hdate : Date.ofText Query.today today = today := rfl
  rw [blank, fresh, Axes.ofDateText, hdate]
  rfl

lemma view_act (l : Labelled) (op : Operation) : (l.act op).view = l.view.act op := by
  cases op <;> rfl

lemma view_after (l : Labelled) (ops : List Operation) :
    (l.after ops).view = l.view.after ops := by
  induction ops generalizing l with
  | nil => rfl
  | cons op ops ih =>
    have hrest := ih (l.act op)
    rw [view_act] at hrest
    exact hrest

/-- Where the labels are not computed anew, the axes are as before. -/
lemma UpToDate.act (hl : l.UpToDate) (op : Operation) : (l.act op).UpToDate := by
  cases op with
  | setZone zone => rfl
  | setReferenceDate text today => rfl
  | _ =>
    rw [UpToDate, view_act, axes_act]
    exact hl

lemma UpToDate.after (hl : l.UpToDate) (ops : List Operation) : (l.after ops).UpToDate := by
  induction ops generalizing l with
  | nil => exact hl
  | cons op ops ih => exact ih (hl.act op)

/-- Labels that are up to date stay so: they are those for what was set last. -/
lemma UpToDate.labels_after (hl : l.UpToDate) (ops : List Operation) :
    (l.after ops).labels = .ofAxes (lastAxes l.view.axes ops) := by
  rw [hl.after ops, view_after, axes_after]

lemma upToDate_after_blank (today : Date) (zone : Zone) (ops : List Operation) :
    ((blank today zone).after ops).UpToDate :=
  UpToDate.after (l := blank today zone) rfl ops

/-- Whatever was done to a blank heat map, its labels are those for the reference date and the zone
that were set last. From there on, operations on the axes change nothing but the axes, the labels are
as before once the zone is, if no other reference date was set meanwhile, and without operations on
the axes they do not change at all. -/
theorem labels_by_last_axes (today : Date) (zone : Zone) (ops : List Operation) :
    let l := (blank today zone).after ops
    l.view = (HeatMap.blank today zone).after ops ∧
      l.labels = .ofAxes { reference := last reference? today ops, zone := last zone? zone ops } ∧
      (∀ ops', (∀ op ∈ ops', op.OnAxes) →
        (l.after ops').view = { l.view with axes := (l.after ops').view.axes }) ∧
      (∀ ops', (∀ op ∈ ops', op.reference? = none) →
        last zone? l.view.axes.zone ops' = l.view.axes.zone →
          (l.after ops').labels = l.labels) ∧
      ∀ ops', (∀ op ∈ ops', ¬ op.OnAxes) →
        (l.after ops').view.axes = l.view.axes ∧ (l.after ops').labels = l.labels := by
  intro l
  have hfresh : l.UpToDate := upToDate_after_blank today zone ops
  have hview : l.view = (HeatMap.blank today zone).after ops := by
    rw [view_after, view_blank]
  have haxes : l.view.axes =
      { reference := last reference? today ops, zone := last zone? zone ops } := by
    rw [hview, axes_after]
    rfl
  refine ⟨hview, ?_, ?_, ?_, ?_⟩
  · rw [hfresh, haxes]
  · intro ops' hops'
    obtain ⟨a, hafter⟩ := after_of_onAxes hops' l.view
    rw [view_after, hafter]
  · intro ops' hops' hzone
    rw [hfresh.labels_after, hfresh, lastAxes, last_of_forall_none _ hops', hzone]
  · intro ops' hops'
    rw [view_after, axes_after, hfresh.labels_after, hfresh, lastAxes_of_forall_not_onAxes _ hops']
    exact ⟨rfl, rfl⟩

/-- A zone that is half an hour off on the minute axis. The labels change and come back, with a draw
and clicks before, in between and after. -/
theorem labels_by_last_axes_back_again :
    let india : Zone := { name := "Asia/Kolkata", initial := 19800 }
    let f : Firing := { (default : Firing) with key := "a" }
    let l := (blank .unixEpoch .utc).after [.setZone india, .draw [f], .click 0,
      .setReferenceDate " 2020-07-12" .unixEpoch, .setZone .utc, .hover 0]
    let away : List Operation := [.setListing ["x"], .setZone india, .click 0]
    let back : List Operation := away ++ [.setZone .utc, .draw []]
    l.view.lock = .frozen 0 ∧ l.view.axes.reference.day = 12 ∧
      l.labels.minutes.head? = some ⟨0, "00"⟩ ∧
      (l.after away).labels.minutes.head? = some ⟨0, "30"⟩ ∧
      (l.after back).labels = l.labels ∧ (l.after [.click 0, .unfreeze]).labels = l.labels ∧
      (l.after [.setZone india]).view =
        { l.view with axes := (l.after [.setZone india]).view.axes } := by
  intro india f l away back
  have hlock : l.view.lock = .frozen 0 := by decide +kernel
  have hset : l.view.axes = { reference := .ofText " 2020-07-12" .unixEpoch, zone := .utc } := by
    rw [view_after, view_blank, axes_after]
    rfl
  have haway : (l.after away).labels =
      .ofAxes { reference := .ofText " 2020-07-12" .unixEpoch, zone := india } := by
    rw [(upToDate_after_blank ..).labels_after, hset]
    rfl
  obtain ⟨-, hlabels, haxes, hback, hkept⟩ := labels_by_last_axes .unixEpoch .utc
    [.setZone india, .draw [f], .click 0, .setReferenceDate " 2020-07-12" .unixEpoch,
      .setZone .utc, .hover 0]
  refine ⟨hlock, ?_, ?_, ?_, ?_, ?_, ?_⟩
  · rw [hset]
    decide
  · rw [hlabels]
    decide +kernel
  · rw [haway]
    decide +kernel
  · refine hback back ?_ ?_
    · simp [back, away, reference?]
    · rw [hset]
      rfl
  · exact (hkept [.click 0, .unfreeze] (by simp [OnAxes, zone?, reference?])).2
  · exact haxes [.setZone india] (by simp [OnAxes, zone?])

end Labelled

end HeatMap

end CronHeatMap
