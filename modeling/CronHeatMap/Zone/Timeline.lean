import CronHeatMap.Zone
import CronHeatMap.Zone.Rule

/-!
# From eras to transitions

Lays out the history of a zone on the line of time. Within an era, each year applies its rules in
the order in which they take effect under the saving then in force. An era opens with the offset
that the rules before its start have left, and the saving it ends with says when its ending is on
the wall clock.
-/

namespace CronHeatMap.Zone

/-- What the rules of an era have brought about so far. -/
structure Playback where
  /-- The amount of daylight saving in force. -/
  saving : Int := 0
  /-- The offset with which the era opens. -/
  opening : Int
  /-- Some rule has confirmed the opening offset. -/
  confirmed : Bool := false
  /-- No transition opens the era yet. -/
  unopened : Bool
  /-- The transitions so far, latest first. -/
  transitions : List Transition := []

/-- The rule that takes effect first, with the instant at which it does. -/
def earliest? (year standard saving : Int) : List Rule → Option (Rule × Int)
  | [] => none
  | rule :: rules =>
    let instant := rule.moment.instant year standard saving
    match earliest? year standard saving rules with
    | none => some (rule, instant)
    | some (other, soonest) =>
      if instant ≤ soonest then some (rule, instant) else some (other, soonest)

/-- A rule takes effect in an era that starts at `start`. -/
def Playback.apply (p : Playback) (standard : Int) (start : Option Int) (rule : Rule)
    (instant : Int) : Playback :=
  let offset := standard + rule.saving
  let p := { p with saving := rule.saving,
                    unopened := p.unopened && start != some instant }
  if p.unopened && start.any (instant < ·) then { p with opening := offset, confirmed := true }
  else
    { p with confirmed := p.confirmed || (p.unopened && p.opening == offset),
             transitions := { instant, offset } :: p.transitions }

/-- Applies at most `n` of the rules of a year, in order of time, up to the ending of the era. -/
def Playback.playYear (era : Era) (start : Option Int) (year : Int) :
    Nat → List Rule → Playback → Playback
  | 0, _, p => p
  | n + 1, rules, p =>
    match earliest? year era.standard p.saving rules with
    | none => p
    | some (rule, instant) =>
      let ended := era.ending.any fun (endYear, moment) =>
        moment.instant endYear era.standard p.saving ≤ instant
      if ended then p
      else playYear era start year n (rules.erase rule) (p.apply era.standard start rule instant)

/-- The years in which rules may take effect in an era. -/
def activeYears (era : Era) (rules : List Rule) : List Int :=
  match rules.map Rule.firstYear with
  | [] => []
  | year :: years =>
    let first := years.foldl min year
    let last := match era.ending with
      | some (endYear, _) => min endYear horizon
      | none => horizon
    (List.range (last + 1 - first).toNat).map fun (i : Nat) => first + (i : Int)

/-- Applies the rules of an era year by year. -/
def play (era : Era) (start : Option Int) (rules : List Rule) : Playback :=
  (activeYears era rules).foldl (fun p year =>
      let active := rules.filter fun r => r.firstYear ≤ year && year ≤ r.lastYear
      p.playYear era start year active.length active)
    { opening := era.standard, unopened := start.isSome }

/-- The part of a history that has been laid out. -/
structure Timeline where
  initial : Int := 0
  /-- The transitions so far, not in order. -/
  transitions : List Transition := []
  /-- When the next era starts, if it is not the first. -/
  start : Option Int := none

/-- Lays out an era with a fixed amount of daylight saving. -/
def Timeline.addFixed (t : Timeline) (offset : Int) : Timeline :=
  match t.start with
  | none => { t with initial := offset }
  | some instant => { t with transitions := { instant, offset } :: t.transitions }

/-- Lays out an era whose rules have been applied. -/
def Timeline.addPlayed (t : Timeline) (p : Playback) : Timeline :=
  let opened : List Transition := match t.start with
    | some instant =>
      if p.unopened && p.confirmed then [{ instant, offset := p.opening }] else []
    | none => []
  { t with transitions := opened ++ p.transitions ++ t.transitions }

/-- Lays out one more era. -/
def Timeline.add (rulesOf : String → List Rule) (t : Timeline) (era : Era) : Timeline :=
  let startNext (t : Timeline) (saving : Int) : Timeline :=
    { t with start := era.ending.map fun (year, moment) =>
        moment.instant year era.standard saving }
  match era.saving with
  | .fixed amount => startNext (t.addFixed (era.standard + amount)) amount
  | .ruled name =>
    let p := play era t.start (rulesOf name)
    startNext (t.addPlayed p) p.saving

/-- Adds a transition to earlier ones, latest first. One that comes before the clocks have passed
what they read before the transition it follows takes the place of that one. -/
def settle (earlier : List Transition) (next : Transition) : List Transition :=
  match earlier with
  | last :: previous :: more =>
    if next.instant + last.offset ≤ last.instant + previous.offset then
      { last with offset := next.offset } :: previous :: more
    else next :: earlier
  | _ => next :: earlier

/-- The zone with a name and a history. -/
def ofEras (name : String) (rulesOf : String → List Rule) (eras : List Era) : Zone :=
  let t := eras.foldl (Timeline.add rulesOf) {}
  let ordered := t.transitions.mergeSort fun a b => a.instant ≤ b.instant
  { name, initial := t.initial, transitions := (ordered.foldl settle []).reverse }

end CronHeatMap.Zone
