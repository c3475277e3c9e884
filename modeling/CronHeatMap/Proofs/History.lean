import CronHeatMap.History
import CronHeatMap.Proofs.Query
import Mathlib.Data.List.Chain

/-!
# Coherence of the history

In a coherent history, an entry with a query stands at a location of this query, only the first
entry may be without one, and neighbouring entries are for different queries, unless these have no
expressions. The histories with one entry are coherent, and so are those that pushing an entry of
the right kind leads to; moving the cursor leaves the log alone. Whatever is kept by that, sessions
keep (`Kept`).
-/

namespace CronHeatMap

/-- The second entry is not for the same query as the first one, unless the query has no
expressions. -/
def Entry.Differs (e e' : Entry) : Prop :=
  ∀ q, e.state = some q → e'.state = some q → q.isEmpty = true

namespace History

variable {h h' : History} {e : Entry}

/-! ### The log and the cursor -/

@[simp] lemma log_push (h : History) (e : Entry) :
    (h.push e).log = h.log.take (h.cursor + 1) ++ [e] := rfl

@[simp] lemma cursor_push (h : History) (e : Entry) : (h.push e).cursor = h.cursor + 1 := by
  have := h.cursor_lt
  simp only [push, List.length_take]
  omega

@[simp] lemma current_push (h : History) (e : Entry) : (h.push e).current = e := by
  simp [current, push]

@[simp] lemma log_ofLocation (location : String) :
    (ofLocation location).log = [{ location }] := rfl

@[simp] lemma log_replace_ofLocation (location : String) (state : Option Query) :
    ((ofLocation location).replace state).log = [{ state, location }] := rfl

lemma current_mem_log (h : History) : h.current ∈ h.log := List.get_mem ..

/-- A query that is submitted is the one of the current entry from then on. -/
@[simp] lemma state_current_visit (h : History) (q : Query) :
    (h.visit q).current.state = some q := by
  rw [visit]
  split_ifs with hsame
  · exact hsame
  · rw [current_push]

/-- The entries that a push keeps end with the current one. -/
lemma take_cursor_succ (h : History) :
    h.log.take (h.cursor + 1) = h.log.take h.cursor ++ [h.current] :=
  List.take_succ_eq_append_getElem h.cursor_lt

lemma back?_eq_some (hback : h.back? = some h') :
    h'.log = h.log ∧ h'.cursor + 1 = h.cursor := by
  simp only [back?] at hback
  split_ifs at hback with hzero
  cases hback
  exact ⟨rfl, Nat.succ_pred_eq_of_ne_zero hzero⟩

lemma back?_eq_none (hback : h.back? = none) : h.cursor = 0 := by
  simp only [back?] at hback
  split_ifs at hback with hzero
  exact hzero

lemma forward?_eq_some (hforward : h.forward? = some h') :
    h'.log = h.log ∧ h'.cursor = h.cursor + 1 := by
  simp only [forward?] at hforward
  split_ifs at hforward with hnext
  cases hforward
  exact ⟨rfl, rfl⟩

lemma forward?_eq_none (hforward : h.forward? = none) : h.cursor + 1 = h.log.length := by
  have := h.cursor_lt
  simp only [forward?] at hforward
  split_ifs at hforward with hnext
  omega

/-- Moving the cursor leaves the log alone. -/
lemma log_of_step?_eq_some {d : Direction} (hstep : h.step? d = some h') : h'.log = h.log := by
  cases d with
  | back => exact (back?_eq_some hstep).1
  | forward => exact (forward?_eq_some hstep).1

/-- The history after an attempt to go in a direction. -/
def move (h : History) (d : Direction) : History := (h.step? d).getD h

@[simp] lemma log_move (h : History) (d : Direction) : (h.move d).log = h.log := by
  rw [move]
  cases hstep : h.step? d with
  | none => rfl
  | some h' => exact log_of_step?_eq_some hstep

/-- Going back moves the cursor by one, unless it stands on the first entry. -/
lemma cursor_move_back (h : History) : (h.move .back).cursor = h.cursor - 1 := by
  rw [move]
  cases hstep : h.step? .back with
  | none => simp [back?_eq_none hstep]
  | some h' => exact Nat.eq_sub_of_add_eq (back?_eq_some hstep).2

/-- Going forward moves the cursor by one, unless it stands on the last entry. -/
lemma cursor_move_forward (h : History) :
    (h.move .forward).cursor = min (h.cursor + 1) (h.log.length - 1) := by
  have := h.cursor_lt
  rw [move]
  cases hstep : h.step? .forward with
  | none =>
    have := forward?_eq_none hstep
    simp only [Option.getD_none]
    omega
  | some h' =>
    obtain ⟨hlog, hcursor⟩ := forward?_eq_some hstep
    have := hlog ▸ h'.cursor_lt
    simp only [Option.getD_some]
    omega

/-! ### Coherence -/

/-- The entries of the log fit their locations and one another. -/
structure Coherent (h : History) : Prop where
  /-- Only the first entry may be without a query. -/
  recorded : ∀ e ∈ h.log.tail, e.state.isSome = true
  /-- The query of an entry is the one at its location. -/
  located : ∀ e ∈ h.log, ∀ q, e.state = some q → Query.ofLocation e.location = q
  /-- Neighbours are for different queries. -/
  differing : h.log.IsChain Entry.Differs

namespace Coherent

/-- Coherence depends on the log only. -/
lemma of_log_eq (hh : h.Coherent) (hlog : h'.log = h.log) : h'.Coherent where
  recorded := hlog ▸ hh.recorded
  located := hlog ▸ hh.located
  differing := hlog ▸ hh.differing

/-- The query of the current entry is the one at the current location. -/
lemma ofLocation_location (hh : h.Coherent) {q : Query} (hstate : h.current.state = some q) :
    Query.ofLocation h.location = q :=
  hh.located h.current h.current_mem_log q hstate

lemma root : root.Coherent where
  recorded := by simp [History.root]
  located := by simp [History.root]
  differing := by simp [History.root]

/-- A history that starts with the query of its location. -/
lemma loaded (location : String) :
    ((ofLocation location).replace (some (Query.ofLocation location))).Coherent where
  recorded := by simp
  located := by simp
  differing := by simp

/-- Pushing an entry at the location of its query, which differs from the current one. -/
lemma push (hh : h.Coherent) {q : Query} (hstate : e.state = some q)
    (hlocation : Query.ofLocation e.location = q) (hdiffers : h.current.Differs e) :
    (h.push e).Coherent where
  recorded := by
    intro e' he'
    have hne : h.log.take (h.cursor + 1) ≠ [] := by simp [take_cursor_succ]
    rw [log_push, List.tail_append_of_ne_nil hne] at he'
    rcases List.mem_append.1 he' with hmem | hmem
    · exact hh.recorded e' ((List.take_sublist ..).tail.subset hmem)
    · rw [List.mem_singleton.1 hmem, hstate]
      rfl
  located := by
    intro e' he' q' hq'
    rcases List.mem_append.1 he' with hmem | hmem
    · exact hh.located e' (List.mem_of_mem_take hmem) q' hq'
    · rw [List.mem_singleton.1 hmem] at hq' ⊢
      rw [hlocation]
      exact Option.some.inj (hstate.symm.trans hq')
  differing := by
    rw [log_push]
    refine (hh.differing.take _).append (List.isChain_singleton e) fun e' he' e'' he'' => ?_
    rw [take_cursor_succ] at he'
    simp only [List.getLast?_append, List.getLast?_singleton, List.head?_cons, Option.some_or,
      Option.mem_some_iff] at he' he''
    subst he' he''
    exact hdiffers

/-- Recording a query that is submitted. -/
lemma visit (hh : h.Coherent) (q : Query) : (h.visit q).Coherent := by
  simp only [History.visit]
  split_ifs with hsame
  · exact hh
  · refine hh.push rfl (Query.ofLocation_location q) fun q' hq' hq => ?_
    cases hq
    exact absurd hq' hsame

/-- Recording that nothing is submitted. -/
lemma visitRoot (hh : h.Coherent) : h.visitRoot.Coherent := by
  simp only [History.visitRoot]
  split_ifs with hsearch
  · exact hh
  · refine hh.push rfl (by decide) fun q _ hq => ?_
    cases hq
    rfl

end Coherent

/-! ### Properties that sessions keep -/

/-- The property is kept when a submission is recorded and when the cursor moves. -/
structure Kept (I : History → Prop) : Prop where
  visit : ∀ {h} q, I h → I (h.visit q)
  visitRoot : ∀ {h}, I h → I h.visitRoot
  of_log_eq : ∀ {h h'}, I h → h'.log = h.log → I h'

lemma kept_coherent : Kept Coherent where
  visit q hh := hh.visit q
  visitRoot := Coherent.visitRoot
  of_log_eq := Coherent.of_log_eq

/-- What the root and the locations of queries have in common, all entries keep having. -/
lemma kept_locations {P : String → Prop} (hlocation : ∀ q : Query, P q.location)
    (hroot : P rootLocation) : Kept fun h => ∀ e ∈ h.log, P e.location where
  visit {h} q hh := by
    simp only [History.visit]
    split_ifs
    · exact hh
    · rw [log_push, List.forall_mem_append, List.forall_mem_singleton]
      exact ⟨fun e he => hh e (List.mem_of_mem_take he), hlocation q⟩
  visitRoot {h} hh := by
    simp only [History.visitRoot]
    split_ifs
    · exact hh
    · rw [log_push, List.forall_mem_append, List.forall_mem_singleton]
      exact ⟨fun e he => hh e (List.mem_of_mem_take he), hroot⟩
  of_log_eq hh hlog := by
    rw [hlog]
    exact hh

end History

end CronHeatMap
