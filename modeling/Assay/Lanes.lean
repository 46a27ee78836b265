import Assay.Retry

/-!
# Programs side by side

Several programs run side by side, of which a limited number is let in at a time. A program that
is let in has its turn when those before it have had theirs, keeps it until it pauses or is done,
and hands its place to the next one that waits when it is done. When all programs that are let in
pause, time passes until the first of them goes on. A stretch without a pause has a limited
number of turns; at its end the programs that wait for a turn swap their order, if the crowd is
large. `together` makes one program of all of them, whose value holds their values in order.
-/
namespace Assay

/-- One of several programs. -/
inductive Lane (I : Interface) (α : Type) where
  | running (program : Act I α)
  | finished (value : α)

namespace Lane

variable {I : Interface} {α : Type}

/-- The value of a program that is done. -/
def value? : Lane I α → Option α
  | .running _ => none
  | .finished value => some value

/-- A lane is one step further: an event is answered, or the program is done. -/
inductive Step : Lane I α → Lane I α → Prop
  | answered {event : I.Event} (next : I.Answer event → Act I α) (answer : I.Answer event) :
    Step (.running (next answer)) (.running (.perform event next))
  | done (value : α) : Step (.finished value) (.running (.done value))

/-- A finished program takes no further step. -/
theorem acc_finished (value : α) : Acc Step (Lane.finished (I := I) value) :=
  ⟨_, fun _ step => nomatch step⟩

/-- Programs are finite. -/
theorem acc (lane : Lane I α) : Acc Step lane := by
  cases lane with
  | finished value => exact acc_finished value
  | running program =>
    induction program with
    | done value =>
      refine ⟨_, fun _ step => ?_⟩
      cases step
      exact acc_finished value
    | perform event next ih =>
      refine ⟨_, fun _ step => ?_⟩
      cases step
      exact ih _

end Lane

/-- Several programs by their places. -/
structure Lanes (I : Interface) (α : Type) where
  lanes : List (Lane I α)

namespace Lanes

variable {I : Interface} {α : Type}

/-- One of several programs is one step further. -/
inductive Step : List (Lane I α) → List (Lane I α) → Prop
  | here {further lane : Lane I α} {others : List (Lane I α)} (step : Lane.Step further lane) :
    Step (further :: others) (lane :: others)
  | later {lane : Lane I α} {further others : List (Lane I α)} (step : Step further others) :
    Step (lane :: further) (lane :: others)

/-- One more program that is finite does not make a list of them endless. -/
theorem acc_cons {lane : Lane I α} {others : List (Lane I α)} (first : Acc Lane.Step lane)
    (rest : Acc Step others) : Acc Step (lane :: others) := by
  induction first generalizing others with
  | intro lane _ ihLane =>
    induction rest with
    | intro others finite ihOthers =>
      refine ⟨_, fun _ step => ?_⟩
      cases step with
      | here step => exact ihLane _ step ⟨_, finite⟩
      | later step => exact ihOthers _ step

/-- Several programs end. -/
theorem acc (lanes : List (Lane I α)) : Acc Step lanes := by
  induction lanes with
  | nil => exact ⟨_, fun _ step => nomatch step⟩
  | cons lane others ih => exact acc_cons lane.acc ih

instance : WellFoundedRelation (Lanes I α) :=
  ⟨fun further lanes => Step further.lanes lanes.lanes, InvImage.wf lanes ⟨acc⟩⟩

/-- Several programs with another lane at a place. -/
def set (lanes : Lanes I α) (place : Nat) (lane : Lane I α) : Lanes I α :=
  ⟨lanes.lanes.set place lane⟩

/-- A step at one place is a step of all. -/
theorem step_set {lanes : List (Lane I α)} {place : Nat} {lane further : Lane I α}
    (found : lanes[place]? = some lane) (step : Lane.Step further lane) :
    Step (lanes.set place further) lanes := by
  induction lanes generalizing place with
  | nil => simp at found
  | cons first others ih =>
    cases place with
    | zero =>
      obtain rfl : first = lane := by simpa using found
      exact .here step
    | succ place => exact .later (ih (by simpa using found))

/-- The values of the programs that are done, by their places. -/
def values (lanes : Lanes I α) : List α := lanes.lanes.filterMap Lane.value?

end Lanes

/-- Whose turn it is. Programs are named by their places. -/
structure Turns where
  /-- Programs that are not let in yet. -/
  outside : List Nat
  /-- Programs that wait for their turn. -/
  ready : List Nat
  /-- Programs that pause, with the time when they go on, the first one first. -/
  asleep : List (Duration × Nat)
  /-- The time since the start. -/
  now : Duration
  /-- How many turns are left in this stretch. -/
  left : Nat
  /-- Whether the order is swapped after a stretch. -/
  swapping : Bool

namespace Turns

/-- How many turns a stretch has. -/
def stretch : Nat := 128

/-- How many programs are no crowd yet. -/
def smallCrowd : Nat := 30

/-- The turns of a number of programs, of which no more than a limit are let in at a time. -/
def start (limit count : Nat) : Turns where
  outside := (List.range count).drop limit
  ready := (List.range count).take limit
  asleep := []
  now := ⟨0⟩
  left := stretch
  swapping := smallCrowd < count

/-- The next turn: how long to pause before it and whose it is. -/
def next? (turns : Turns) : Option (Option Duration × Nat × Turns) :=
  match turns.ready, turns.asleep with
  | place :: ready, _ =>
    if turns.left = 0 then
      match if turns.swapping then (place :: ready).reverse else place :: ready with
      | [] => none
      | place :: ready => some (none, place, { turns with ready, left := stretch - 1 })
    else some (none, place, { turns with ready, left := turns.left - 1 })
  | [], (due, place) :: later =>
    let same := later.takeWhile fun (time, _) => time = due
    some (some (due.since turns.now), place, { turns with
      ready := same.map Prod.snd
      asleep := later.drop same.length
      now := due
      left := stretch - 1 })
  | [], [] => none

/-- A program is done and its place goes to the next one outside. -/
def leave (turns : Turns) : Turns :=
  { turns with ready := turns.ready ++ turns.outside.take 1, outside := turns.outside.drop 1 }

/-- A program pauses. -/
def sleep (turns : Turns) (place : Nat) (span : Duration) : Turns :=
  let due := turns.now + span
  let earlier := turns.asleep.takeWhile fun (time, _) => time.nanoseconds ≤ due.nanoseconds
  { turns with asleep := earlier ++ (due, place) :: turns.asleep.drop earlier.length }

/-- The next turn after a program has paused. A pause of no length keeps the program in front of
all others. -/
def afterPause? (turns : Turns) (place : Nat) (span : Duration) :
    Option (Option Duration × Nat × Turns) :=
  if span.nanoseconds = 0 then
    let ahead := { turns with ready := place :: turns.ready }
    ahead.next?.map fun (_, place, turns) => (some span, place, turns)
  else (turns.sleep place span).next?

end Turns

/-- A program after a pause, if there is one. -/
def Act.after {α : Type} (pause : Option Duration) (program : Act calling α) : Act calling α :=
  match pause with
  | none => program
  | some span => .perform (.wait span) fun _ => program

namespace Lanes

variable {α : Type}

/-- Go on with programs where it is the turn of one of them. -/
def goOn (turns : Turns) (place : Nat) (lanes : Lanes calling α) : Act calling (List α) :=
  match _found : lanes.lanes[place]? with
  | some (.running (.perform (.call party question) next)) =>
    .perform (.call party question) fun reply =>
      goOn turns place (lanes.set place (.running (next reply)))
  | some (.running (.perform (.wait span) next)) =>
    match turns.afterPause? place span with
    | none => .done lanes.values
    | some (pause, upcoming, turns) =>
      .after pause (goOn turns upcoming (lanes.set place (.running (next ()))))
  | some (.running (.done value)) =>
    match turns.leave.next? with
    | none => .done (lanes.set place (.finished value)).values
    | some (pause, upcoming, turns) =>
      .after pause (goOn turns upcoming (lanes.set place (.finished value)))
  | some (.finished _) | none => .done lanes.values
termination_by lanes
decreasing_by
  · exact step_set _found (.answered next reply)
  · exact step_set _found (.answered next ())
  · exact step_set _found (.done value)

end Lanes

namespace Act

/-- Programs side by side, of which no more than a limit are let in at a time. -/
def together {α : Type} (limit : Nat) (programs : List (Act calling α)) : Act calling (List α) :=
  let lanes : Lanes calling α := ⟨programs.map .running⟩
  match (Turns.start limit programs.length).next? with
  | none => .done lanes.values
  | some (_, place, turns) => lanes.goOn turns place

end Act

namespace Turns

/-- The turns while one program is in and those at the places from `first` on are outside. -/
structure Alone (turns : Turns) (first count : Nat) : Prop where
  outside : turns.outside = List.range' first count
  ready : turns.ready = []
  asleep : turns.asleep = []

/-- A program that is alone goes on after its pause. -/
theorem Alone.afterPause {turns : Turns} {first count : Nat} (alone : turns.Alone first count)
    (place : Nat) (span : Duration) :
    ∃ later, turns.afterPause? place span = some (some span, place, later) ∧
      later.Alone first count := by
  obtain ⟨outside, ready, asleep⟩ := alone
  by_cases zero : span.nanoseconds = 0
  · by_cases spent : turns.left = 0
    · exact ⟨{ turns with left := stretch - 1 }, by
        simp [afterPause?, next?, zero, spent, ready], ⟨outside, ready, asleep⟩⟩
    · exact ⟨{ turns with left := turns.left - 1 }, by
        simp [afterPause?, next?, zero, spent, ready], ⟨outside, ready, asleep⟩⟩
  · refine ⟨{ turns with now := turns.now + span, left := stretch - 1 }, ?_,
      ⟨outside, ready, asleep⟩⟩
    simp [afterPause?, sleep, next?, zero, ready, asleep, Duration.since_add]

/-- After a program that was alone comes the first one outside. -/
theorem Alone.leave {turns : Turns} {first count : Nat} (alone : turns.Alone first (count + 1)) :
    ∃ later, turns.leave.next? = some (none, first, later) ∧ later.Alone (first + 1) count := by
  obtain ⟨outside, ready, asleep⟩ := alone
  by_cases spent : turns.left = 0
  · exact ⟨{ turns with outside := List.range' (first + 1) count, left := stretch - 1 }, by
      simp [Turns.leave, next?, spent, ready, outside, List.range'_succ], ⟨rfl, ready, asleep⟩⟩
  · exact ⟨{ turns with outside := List.range' (first + 1) count, left := turns.left - 1 }, by
      simp [Turns.leave, next?, spent, ready, outside, List.range'_succ], ⟨rfl, ready, asleep⟩⟩

/-- After a program that was alone comes none if none is outside. -/
theorem Alone.leave_last {turns : Turns} {first : Nat} (alone : turns.Alone first 0) :
    turns.leave.next? = none := by
  obtain ⟨outside, ready, asleep⟩ := alone
  simp [Turns.leave, next?, ready, asleep, outside]

/-- The first of programs of which one is let in at a time. -/
theorem start_one (count : Nat) :
    ∃ later, (start 1 (count + 1)).next? = some (none, 0, later) ∧ later.Alone 1 count :=
  ⟨⟨List.range' 1 count, [], [], ⟨0⟩, stretch - 1, smallCrowd < count + 1⟩, by
    simp [start, next?, stretch, List.range_eq_range', List.range'_succ], ⟨rfl, rfl, rfl⟩⟩

end Turns

namespace Lanes

variable {α : Type}

/-- A call of the program whose turn it is is a call of all. -/
theorem goOn_call {turns : Turns} {place : Nat} {lanes : Lanes calling α} {party : Party}
    {question : Question} {next : Generation → Act calling α}
    (found : lanes.lanes[place]? = some (.running (.perform (.call party question) next))) :
    goOn turns place lanes = .perform (.call party question) fun reply =>
      goOn turns place (lanes.set place (.running (next reply))) := by
  rw [goOn]
  split <;> simp_all

/-- A pause of the program whose turn it is hands the turn on. -/
theorem goOn_wait {turns later : Turns} {place upcoming : Nat} {lanes : Lanes calling α}
    {span : Duration} {pause : Option Duration} {next : Unit → Act calling α}
    (found : lanes.lanes[place]? = some (.running (.perform (.wait span) next)))
    (turn : turns.afterPause? place span = some (pause, upcoming, later)) :
    goOn turns place lanes =
      .after pause (goOn later upcoming (lanes.set place (.running (next ())))) := by
  rw [goOn]
  split <;> simp_all

/-- The end of the program whose turn it is hands the turn on. -/
theorem goOn_done {turns later : Turns} {place upcoming : Nat} {lanes : Lanes calling α}
    {value : α} {pause : Option Duration}
    (found : lanes.lanes[place]? = some (.running (.done value)))
    (turn : turns.leave.next? = some (pause, upcoming, later)) :
    goOn turns place lanes =
      .after pause (goOn later upcoming (lanes.set place (.finished value))) := by
  rw [goOn]
  split <;> simp_all

/-- The end of the last program is the end of all. -/
theorem goOn_last {turns : Turns} {place : Nat} {lanes : Lanes calling α} {value : α}
    (found : lanes.lanes[place]? = some (.running (.done value)))
    (turn : turns.leave.next? = none) :
    goOn turns place lanes = .done (lanes.set place (.finished value)).values := by
  rw [goOn]
  split <;> simp_all

/-- A pause after which it is nobody's turn is the end of all. -/
theorem goOn_wait_last {turns : Turns} {place : Nat} {lanes : Lanes calling α} {span : Duration}
    {next : Unit → Act calling α}
    (found : lanes.lanes[place]? = some (.running (.perform (.wait span) next)))
    (turn : turns.afterPause? place span = none) :
    goOn turns place lanes = .done lanes.values := by
  rw [goOn]
  split <;> simp_all

/-- The turn of a place at which nothing runs is the end of all. -/
theorem goOn_of_not_running {turns : Turns} {place : Nat} {lanes : Lanes calling α}
    (idle : ∀ program, lanes.lanes[place]? ≠ some (.running program)) :
    goOn turns place lanes = .done lanes.values := by
  rw [goOn]
  split <;> simp_all

/-- Programs of which the first ones are done, the next one is in and the others are outside. -/
def alone (values : List α) (program : Act calling α) (rest : List (Act calling α)) :
    Lanes calling α :=
  ⟨values.map .finished ++ .running program :: rest.map .running⟩

/-- The program that is in stands behind those that are done. -/
theorem getElem?_alone (values : List α) (program : Act calling α)
    (rest : List (Act calling α)) :
    (alone values program rest).lanes[values.length]? = some (.running program) := by
  simp [alone]

/-- The program that is in takes a step. -/
theorem set_alone (values : List α) (program further : Act calling α)
    (rest : List (Act calling α)) :
    (alone values program rest).set values.length (.running further) =
      alone values further rest := by
  simp [alone, set]

/-- The values of programs that are all done. -/
theorem values_finished (values : List α) :
    Lanes.values (I := calling) ⟨values.map .finished⟩ = values := by
  induction values with
  | nil => rfl
  | cons value values ih => simpa [Lanes.values, Lane.value?] using ih

/-- What holds of a program that is done holds of every program: alone it runs as if there were
no others. -/
theorem goOn_alone_of {values : List α} {rest : List (Act calling α)}
    (last : ∀ value (turns : Turns), turns.Alone (values.length + 1) rest.length →
      goOn turns values.length (alone values (.done value) rest) =
        (Act.inTurn rest).bind fun later => .done (values ++ value :: later))
    (program : Act calling α) {turns : Turns}
    (inside : turns.Alone (values.length + 1) rest.length) :
    goOn turns values.length (alone values program rest) =
      program.bind fun value =>
        (Act.inTurn rest).bind fun later => .done (values ++ value :: later) := by
  induction program generalizing turns with
  | done value => exact last value turns inside
  | perform event next ih =>
    cases event with
    | call party question =>
      rw [goOn_call (getElem?_alone ..)]
      simp only [set_alone, Act.bind]
      congr
      funext reply
      exact ih reply inside
    | wait span =>
      obtain ⟨later, turn, inside⟩ := inside.afterPause values.length span
      rw [goOn_wait (getElem?_alone ..) turn]
      simp only [set_alone, Act.bind, Act.after]
      congr
      funext reply
      exact ih reply inside

/-- Programs of which one is let in at a time run one after the other. -/
theorem goOn_alone (values : List α) (program : Act calling α) (rest : List (Act calling α))
    {turns : Turns} (inside : turns.Alone (values.length + 1) rest.length) :
    goOn turns values.length (alone values program rest) =
      program.bind fun value =>
        (Act.inTurn rest).bind fun later => .done (values ++ value :: later) := by
  induction rest generalizing values program turns with
  | nil =>
    refine goOn_alone_of (fun value turns inside => ?_) program inside
    rw [goOn_last (getElem?_alone ..) inside.leave_last]
    have finished := values_finished (values ++ [value])
    simpa [alone, set, Act.inTurn, Act.bind] using finished
  | cons upcoming rest ih =>
    refine goOn_alone_of (fun value turns inside => ?_) program inside
    obtain ⟨later, turn, inside⟩ := inside.leave
    rw [goOn_done (getElem?_alone ..) turn]
    have longer : later.Alone ((values ++ [value]).length + 1) rest.length := by
      simpa using inside
    have following := ih (values ++ [value]) upcoming longer
    simpa [alone, set, Act.inTurn, Act.bind, Act.after, Act.bind_assoc] using following

end Lanes

namespace Act

/-- Programs side by side of which one is let in at a time run one after the other. -/
theorem together_one {α : Type} (programs : List (Act calling α)) :
    together 1 programs = inTurn programs := by
  cases programs with
  | nil => rfl
  | cons program rest =>
    obtain ⟨later, turn, inside⟩ := Turns.start_one rest.length
    have alone := Lanes.goOn_alone [] program rest inside
    simp only [together, List.map_cons, List.length_cons, turn]
    simpa [Lanes.alone, inTurn, bind_assoc] using alone

end Act
end Assay
