import CronHeatMap.Proofs.History

/-!
# The history as a tab

A tab of a browser is a current entry between two stacks, of the entries to go back to and of those to
go forward to. A history is such a tab with its entries one behind the other (`history_tab`,
`tab_history`), and it moves as the tab moves (`make_history`).

That the cursor stands on an entry is a part of every history. A trail has a cursor that may stand
anywhere, and a move on it fails if it looks up an entry where there is none. No trail that begins with
one entry ever gets there, since its moves are those of the history (`make?_trail`). What histories are
like after any moves is told by `acts_as_tab`.
-/

namespace CronHeatMap

namespace History

variable {h : History}

/-- The way back from a neighbouring entry. -/
def Direction.opposite : Direction → Direction
  | back => forward
  | forward => back

/-- There is an entry to go to in a direction. -/
def canGo (h : History) : Direction → Bool
  | .back => h.canGoBack
  | .forward => h.canGoForward

/-- A move in a history. -/
inductive Move where
  | push (e : Entry)
  | replace (state : Option Query)
  | go (d : Direction)

/-- Makes a move, which returns an entry if it goes to one. -/
def make (h : History) : Move → Option Entry × History
  | .push e => (none, h.push e)
  | .replace state => (none, h.replace state)
  | .go d => ((h.step? d).map current, h.move d)

/-- The history after some moves. -/
def after (h : History) (moves : List Move) : History := moves.foldl (fun h m => (h.make m).2) h

/-! ### Tabs -/

/-- A current entry between two stacks of entries. -/
structure Tab where
  /-- The entries to go back to, the nearest one first. -/
  past : List Entry
  current : Entry
  /-- The entries to go forward to, the nearest one first. -/
  future : List Entry
deriving DecidableEq

namespace Tab

/-- A tab that has just been opened. -/
def ofLocation (location : String) : Tab := { past := [], current := { location }, future := [] }

/-- Makes a move, which returns an entry if it goes to one. -/
def make (t : Tab) : Move → Option Entry × Tab
  | .push e => (none, { past := t.current :: t.past, current := e, future := [] })
  | .replace state => (none, { t with current := { t.current with state } })
  | .go .back =>
    match t.past with
    | [] => (none, t)
    | e :: past => (some e, { past, current := e, future := t.current :: t.future })
  | .go .forward =>
    match t.future with
    | [] => (none, t)
    | e :: future => (some e, { past := t.current :: t.past, current := e, future })

/-- The tab after some moves. -/
def after (t : Tab) (moves : List Move) : Tab := moves.foldl (fun t m => (t.make m).2) t

/-- The entries of a tab one behind the other. -/
def history (t : Tab) : History where
  log := t.past.reverse ++ t.current :: t.future
  cursor := t.past.length
  cursor_lt := by simp

@[simp] lemma current_history (t : Tab) : t.history.current = t.current := by
  simp [History.current, history]

@[simp] lemma size_history (t : Tab) :
    t.history.size = t.past.length + 1 + t.future.length := by
  simp only [size, history, List.length_append, List.length_reverse, List.length_cons]
  omega

lemma push_history (t : Tab) (e : Entry) :
    t.history.push e = (t.make (.push e)).2.history := by
  have hkept : t.past.reverse.take (t.past.length + 1) = t.past.reverse :=
    List.take_of_length_le (by simp)
  simp [push, history, make, List.take_append, hkept]

lemma replace_history (t : Tab) (state : Option Query) :
    t.history.replace state = (t.make (.replace state)).2.history := by
  simp [replace, history, make, History.current]

lemma step?_history (past : List Entry) (last e next : Entry) (future : List Entry) :
    (history ⟨last :: past, e, future⟩).step? .back = some (history ⟨past, last, e :: future⟩) ∧
      (history ⟨past, e, next :: future⟩).step? .forward =
        some (history ⟨e :: past, next, future⟩) := by
  simp [step?, back?, forward?, history]

/-- A history moves as the tab does. -/
lemma make_history (t : Tab) (m : Move) :
    t.history.make m = ((t.make m).1, (t.make m).2.history) := by
  obtain ⟨past, e, future⟩ := t
  cases m with
  | push new => rw [History.make, push_history, make]
  | replace state => rw [History.make, replace_history, make]
  | go d =>
    cases d with
    | back =>
      cases past with
      | nil => rfl
      | cons last past =>
        simp [History.make, move, (step?_history past last e e future).1, make]
    | forward =>
      cases future with
      | nil => simp [History.make, move, step?, forward?, history, make]
      | cons next future =>
        simp [History.make, move, (step?_history past e e next future).2, make]

/-- Going to an entry of one of the stacks and coming back, or finding the stack empty. -/
lemma make_go_cases (t : Tab) (d : Direction) :
    (∃ t', t.history.canGo d = true ∧ t.make (.go d) = (some t'.current, t') ∧
      t'.make (.go d.opposite) = (some t.current, t)) ∨
    (t.history.canGo d = false ∧ t.make (.go d) = (none, t)) := by
  obtain ⟨past, e, future⟩ := t
  cases d with
  | back =>
    cases past with
    | nil => exact Or.inr ⟨rfl, rfl⟩
    | cons last past =>
      exact Or.inl ⟨⟨past, last, e :: future⟩, by simp [canGo, canGoBack, history], rfl, rfl⟩
  | forward =>
    cases future with
    | nil => exact Or.inr ⟨by simp [canGo, canGoForward, history], rfl⟩
    | cons next future =>
      exact Or.inl ⟨⟨e :: past, next, future⟩, by simp [canGo, canGoForward, history], rfl, rfl⟩

end Tab

/-- A history as a tab. -/
def tab (h : History) : Tab where
  past := (h.log.take h.cursor).reverse
  current := h.current
  future := h.log.drop (h.cursor + 1)

lemma Tab.tab_history (t : Tab) : t.history.tab = t := by
  have hfuture : t.past.reverse.drop (t.past.length + 1) = [] :=
    List.drop_eq_nil_of_le (by simp)
  rw [tab, current_history]
  simp [history, List.drop_append, hfuture]

lemma history_tab (h : History) : h.tab.history = h := by
  have hlog : h.log.take h.cursor ++ h.current :: h.log.drop (h.cursor + 1) = h.log := by
    rw [← List.singleton_append, ← List.append_assoc, ← take_cursor_succ, List.take_append_drop]
  have hcursor : (h.log.take h.cursor).length = h.cursor :=
    List.length_take_of_le h.cursor_lt.le
  simp [tab, Tab.history, hlog, hcursor]

/-- A tab moves as the history does. -/
lemma make_tab (h : History) (m : Move) : h.tab.make m = ((h.make m).1, (h.make m).2.tab) := by
  have hmake := h.tab.make_history m
  rw [history_tab] at hmake
  rw [hmake, Tab.tab_history]

/-! ### Trails -/

/-- Entries with a cursor that may stand on one of them or not. -/
structure Trail where
  entries : List Entry
  cursor : Nat

namespace Trail

/-- A trail of one entry. -/
def ofLocation (location : String) : Trail := { entries := [{ location }], cursor := 0 }

/-- The entry at the cursor, if there is one. -/
def current? (t : Trail) : Option Entry := t.entries[t.cursor]?

/-- Returns the entry at the cursor, and fails if there is none. -/
def land? (t : Trail) : Option (Option Entry × Trail) := t.current?.map fun e => (some e, t)

/-- Makes a move, and fails if there is no entry at the cursor when it is needed. -/
def make? (t : Trail) : Move → Option (Option Entry × Trail)
  | .push e =>
    let entries := t.entries.take (t.cursor + 1) ++ [e]
    let t : Trail := { entries, cursor := entries.length - 1 }
    t.current?.map fun _ => (none, t)
  | .replace state => t.current?.map fun e =>
    (none, { t with entries := t.entries.set t.cursor { e with state } })
  | .go .back =>
    if t.cursor = 0 then some (none, t) else land? { t with cursor := t.cursor - 1 }
  | .go .forward =>
    if t.entries.length ≤ t.cursor + 1 then some (none, t)
    else land? { t with cursor := t.cursor + 1 }

/-- The trail after some moves, if none of them fails. -/
def after? (t : Trail) (moves : List Move) : Option Trail :=
  moves.foldlM (fun t m => (t.make? m).map Prod.snd) t

end Trail

/-- A history as a trail. -/
def trail (h : History) : Trail := { entries := h.log, cursor := h.cursor }

lemma current?_trail (h : History) : h.trail.current? = some h.current :=
  List.getElem?_eq_getElem h.cursor_lt

lemma land?_trail (h : History) : h.trail.land? = some (some h.current, h.trail) := by
  rw [Trail.land?, current?_trail]
  rfl

/-- The cursor of a history stands on an entry, so that its trail makes all moves. -/
lemma make?_trail (h : History) (m : Move) :
    h.trail.make? m = some ((h.make m).1, (h.make m).2.trail) := by
  cases m with
  | push e => simp [Trail.make?, Trail.current?, trail, make, push]
  | replace state =>
    rw [Trail.make?, current?_trail]
    rfl
  | go d =>
    rw [make, move]
    cases d with
    | back =>
      cases hstep : h.step? .back with
      | none =>
        have hzero : h.trail.cursor = 0 := back?_eq_none hstep
        rw [Trail.make?, if_pos hzero]
        rfl
      | some h' =>
        obtain ⟨hlog, hcursor⟩ := back?_eq_some hstep
        have htrail : h'.trail = { h.trail with cursor := h.trail.cursor - 1 } := by
          simp [trail, hlog, ← hcursor]
        have hne : h.trail.cursor ≠ 0 := by
          simp [trail, ← hcursor]
        rw [Trail.make?, if_neg hne, ← htrail, land?_trail]
        rfl
    | forward =>
      cases hstep : h.step? .forward with
      | none =>
        have hlast : h.trail.entries.length ≤ h.trail.cursor + 1 := (forward?_eq_none hstep).ge
        rw [Trail.make?, if_pos hlast]
        rfl
      | some h' =>
        obtain ⟨hlog, hcursor⟩ := forward?_eq_some hstep
        have htrail : h'.trail = { h.trail with cursor := h.trail.cursor + 1 } := by
          simp [trail, hlog, hcursor]
        have hlast : ¬ h.trail.entries.length ≤ h.trail.cursor + 1 := by
          have hlt := h'.cursor_lt
          rw [hlog, hcursor] at hlt
          exact Nat.not_le.2 hlt
        rw [Trail.make?, if_neg hlast, ← htrail, land?_trail]
        rfl

/-! ### Any moves -/

lemma tab_after (h : History) (moves : List Move) : (h.after moves).tab = h.tab.after moves := by
  induction moves generalizing h with
  | nil => rfl
  | cons m moves ih =>
    have hmake : (h.tab.make m).2 = (h.make m).2.tab := by rw [make_tab]
    calc ((h.make m).2.after moves).tab
        = (h.make m).2.tab.after moves := ih _
      _ = (h.tab.make m).2.after moves := by rw [hmake]

lemma after?_trail (h : History) (moves : List Move) :
    h.trail.after? moves = some (h.after moves).trail := by
  induction moves generalizing h with
  | nil => rfl
  | cons m moves ih =>
    rw [Trail.after?, List.foldlM_cons, make?_trail]
    exact ih (h.make m).2

/-- Going to a neighbouring entry returns it, and from there the way leads back to the same history.
Where there is none, nothing is returned and nothing changes. -/
lemma make_go (h : History) (d : Direction) :
    if h.canGo d then
      ∃ h', h.make (.go d) = (some h'.current, h') ∧
        h'.make (.go d.opposite) = (some h.current, h)
    else h.make (.go d) = (none, h) := by
  rw [← history_tab h]
  rcases h.tab.make_go_cases d with ⟨t', hcan, hgo, hback⟩ | ⟨hcan, hgo⟩
  · rw [if_pos hcan]
    refine ⟨t'.history, ?_, ?_⟩
    · rw [Tab.make_history, hgo, Tab.current_history]
    · rw [Tab.make_history, hback, Tab.current_history]
  · rw [if_neg (Bool.not_eq_true _ ▸ hcan), Tab.make_history, hgo]

/-- Whichever moves have been made from a location, none of them has looked for an entry where there
is none, and the history is the tab that they lead to. Its next move, whichever it is, is that of the
tab, and it goes back or forward exactly if there is an entry to go to. -/
theorem acts_as_tab (location : String) (moves : List Move) :
    let h := (ofLocation location).after moves
    (Trail.ofLocation location).after? moves = some h.trail ∧
      h.trail.current? = some h.current ∧
      h.tab = (Tab.ofLocation location).after moves ∧
      h.size = h.tab.past.length + 1 + h.tab.future.length ∧
      (∀ m, h.trail.make? m = some ((h.make m).1, (h.make m).2.trail) ∧
        h.tab.make m = ((h.make m).1, (h.make m).2.tab)) ∧
      ∀ d, if h.canGo d then
          ∃ h', h.make (.go d) = (some h'.current, h') ∧
            h'.make (.go d.opposite) = (some h.current, h)
        else h.make (.go d) = (none, h) := by
  intro h
  refine ⟨after?_trail (ofLocation location) moves, current?_trail h,
    tab_after (ofLocation location) moves, ?_,
    fun m => ⟨make?_trail h m, make_tab h m⟩, make_go h⟩
  rw [← Tab.size_history, history_tab]

end History

end CronHeatMap
