import Assay.Proofs.Course
import Mathlib.Data.List.Forall2
import Mathlib.Data.List.Nodup

/-!
# Every program has its turn

Programs that run side by side are handed their turns by the places they have. No place is lost
and none is added when a turn is handed on: the programs that have a turn to come are those that
still run, each of them once. So when the turns are over all programs are done, and
`course_together_all` finds for each of them, in order, a course of its own among the calls of
all, whatever the parties replied.
-/
namespace Assay

/-! ## The places of programs with a turn to come -/

namespace Turns

/-- The places of the programs that have a turn to come. -/
def places (turns : Turns) : List Nat :=
  turns.ready ++ (turns.asleep.map Prod.snd ++ turns.outside)

/-- The programs that wait swap their order or keep it. -/
theorem perm_order (swapping : Bool) (ready : List Nat) :
    (if swapping then ready.reverse else ready).Perm ready := by
  cases swapping with
  | false => exact .refl _
  | true => exact ready.reverse_perm

/-- The first items that pass a test and those behind them are all items. -/
theorem takeWhile_append_drop {α : Type} (test : α → Bool) (items : List α) :
    items.takeWhile test ++ items.drop (items.takeWhile test).length = items :=
  List.prefix_iff_eq_append.1 (List.takeWhile_prefix test)

/-- The next turn is of one of the programs that have a turn to come. -/
theorem places_next? {turns later : Turns} {pause : Option Duration} {place : Nat}
    (turn : turns.next? = some (pause, place, later)) :
    (place :: later.places).Perm turns.places := by
  obtain ⟨outside, ready, asleep, now, left, swapping⟩ := turns
  cases ready with
  | cons first ready =>
    by_cases spent : left = 0
    · have order := perm_order swapping (first :: ready)
      simp only [next?, if_pos spent] at turn
      split at turn
      · contradiction
      · next swapped =>
        rw [swapped] at order
        obtain ⟨-, rfl, rfl⟩ := turn
        exact order.append_right _
    · simp only [next?, if_neg spent] at turn
      obtain ⟨-, rfl, rfl⟩ := turn
      exact .refl _
  | nil =>
    cases asleep with
    | nil => contradiction
    | cons sleeper asleep =>
      obtain ⟨due, first⟩ := sleeper
      obtain ⟨-, rfl, rfl⟩ := turn
      change (place :: (List.map Prod.snd _ ++ (List.map Prod.snd (List.drop _ asleep) ++
        outside))).Perm (place :: (asleep.map Prod.snd ++ outside))
      rw [← List.append_assoc, ← List.map_append, takeWhile_append_drop]

/-- It is nobody's turn only when no program waits or pauses. -/
theorem eq_nil_of_next?_eq_none {turns : Turns} (ended : turns.next? = none) :
    turns.ready = [] ∧ turns.asleep = [] := by
  obtain ⟨outside, ready, asleep, now, left, swapping⟩ := turns
  cases ready with
  | cons first ready =>
    have order := perm_order swapping (first :: ready)
    simp only [next?] at ended
    split at ended
    · split at ended
      · next swapped =>
        rw [swapped] at order
        exact absurd order.symm.eq_nil (List.cons_ne_nil _ _)
      · contradiction
    · contradiction
  | nil =>
    cases asleep with
    | nil => exact ⟨rfl, rfl⟩
    | cons sleeper asleep => contradiction

/-- A program that is done lets another one in. -/
theorem places_leave (turns : Turns) : turns.leave.places.Perm turns.places := by
  obtain ⟨outside, ready, asleep, now, left, swapping⟩ := turns
  change (ready ++ outside.take 1 ++ (asleep.map Prod.snd ++ outside.drop 1)).Perm
    (ready ++ (asleep.map Prod.snd ++ outside))
  rw [List.append_assoc]
  refine .append_left _ ?_
  calc
    List.Perm (outside.take 1 ++ (asleep.map Prod.snd ++ outside.drop 1))
        (asleep.map Prod.snd ++ (outside.take 1 ++ outside.drop 1)) :=
      List.perm_append_comm_assoc ..
    List.Perm _ (asleep.map Prod.snd ++ outside) := by rw [List.take_append_drop]

/-- A program that pauses has a turn to come. -/
theorem places_sleep (turns : Turns) (place : Nat) (span : Duration) :
    (turns.sleep place span).places.Perm (place :: turns.places) := by
  obtain ⟨outside, ready, asleep, now, left, swapping⟩ := turns
  have inserted : ∀ test, ((asleep.takeWhile test ++ (now + span, place) ::
      asleep.drop (asleep.takeWhile test).length).map Prod.snd).Perm
        (place :: asleep.map Prod.snd) := by
    intro test
    conv_rhs => rw [← takeWhile_append_drop test asleep]
    exact List.perm_middle.map Prod.snd
  exact (((inserted _).append_right outside).append_left ready).trans List.perm_middle

/-- After a pause the program that paused has a turn to come beside the others. -/
theorem places_afterPause? {turns later : Turns} {pause : Option Duration} {place upcoming : Nat}
    {span : Duration} (turn : turns.afterPause? place span = some (pause, upcoming, later)) :
    (upcoming :: later.places).Perm (place :: turns.places) := by
  rw [afterPause?] at turn
  split at turn
  · obtain ⟨⟨_, first, rest⟩, next, same⟩ := Option.map_eq_some_iff.1 turn
    obtain ⟨-, rfl, rfl⟩ := same
    exact places_next? next
  · exact (places_next? turn).trans (places_sleep turns place span)

/-- After a pause it is somebody's turn. -/
theorem afterPause?_ne_none (turns : Turns) (place : Nat) (span : Duration) :
    turns.afterPause? place span ≠ none := by
  intro ended
  rw [afterPause?] at ended
  split at ended
  · obtain ⟨ready, -⟩ := eq_nil_of_next?_eq_none (Option.map_eq_none_iff.1 ended)
    contradiction
  · obtain ⟨-, asleep⟩ := eq_nil_of_next?_eq_none ended
    simp [sleep] at asleep

/-- When it is nobody's turn after a program is done, no program has a turn to come. -/
theorem places_eq_nil_of_leave {turns : Turns} (ended : turns.leave.next? = none) :
    turns.places = [] := by
  obtain ⟨ready, asleep⟩ := eq_nil_of_next?_eq_none ended
  obtain ⟨ready, outside⟩ := List.append_eq_nil_iff.1 ready
  have outside : turns.outside = [] := by simpa using outside
  simp only [leave] at asleep
  rw [places, ready, asleep, outside]
  rfl

/-- At the start every program has a turn to come. -/
theorem places_start (limit count : Nat) : (start limit count).places = List.range count :=
  List.take_append_drop ..

end Turns

/-! ## The lanes at these places -/

namespace Lanes

variable {α : Type} {lanes : Lanes calling α} {places : List Nat} {place : Nat}
  {program further : Act calling α}

/-- Places are those of the programs that still run, each of them once. -/
structure Scheduled (lanes : Lanes calling α) (places : List Nat) : Prop where
  nodup : places.Nodup
  running : ∀ place, place ∈ places ↔
    ∃ program, lanes.lanes[place]? = some (.running program)

/-- The order of the places makes no difference. -/
theorem Scheduled.perm (scheduled : lanes.Scheduled places) {others : List Nat}
    (order : others.Perm places) : lanes.Scheduled others where
  nodup := order.nodup_iff.2 scheduled.nodup
  running place := order.mem_iff.trans (scheduled.running place)

/-- A program that takes a step still runs. -/
theorem Scheduled.set_running (scheduled : lanes.Scheduled places)
    (found : lanes.lanes[place]? = some (.running program)) :
    (lanes.set place (.running further)).Scheduled places where
  nodup := scheduled.nodup
  running other := by
    rw [scheduled.running, set, List.getElem?_set]
    by_cases same : place = other
    · subst same
      obtain ⟨inside, here⟩ := List.getElem?_eq_some_iff.1 found
      simp [inside, here]
    · rw [if_neg same]

/-- A program that is done runs no more. -/
theorem Scheduled.set_finished (scheduled : lanes.Scheduled (place :: places)) (value : α) :
    (lanes.set place (.finished value)).Scheduled places where
  nodup := (List.nodup_cons.1 scheduled.nodup).2
  running other := by
    rw [set, List.getElem?_set]
    by_cases same : place = other
    · subst same
      have gone := (List.nodup_cons.1 scheduled.nodup).1
      by_cases inside : place < lanes.lanes.length <;> simp [gone, inside]
    · rw [if_neg same, ← scheduled.running, List.mem_cons]
      exact ⟨.inr, fun among => among.resolve_left (Ne.symm same)⟩

/-- At the start all programs run. -/
theorem scheduled_start (programs : List (Act calling α)) :
    Scheduled ⟨programs.map .running⟩ (List.range programs.length) where
  nodup := List.nodup_range
  running place := by
    rw [List.mem_range, List.getElem?_map]
    constructor
    · intro inside
      exact ⟨programs[place], by rw [List.getElem?_eq_getElem inside]; rfl⟩
    · rintro ⟨program, found⟩
      obtain ⟨_, found, -⟩ := Option.map_eq_some_iff.1 found
      exact (List.getElem?_eq_some_iff.1 found).1

/-- Every lane comes to the value at its place by calls among the given ones. -/
def Courses (lanes : Lanes calling α) (calls : List Call) (values : List α) : Prop :=
  List.Forall₂ (fun lane value => ∃ own, List.Sublist own calls ∧ lane.Course own value)
    lanes.lanes values

end Lanes

/-- A relation that holds place by place of a list with another item at one place holds of the
list itself when that item is related to no more than the one that was there. -/
theorem forall₂_of_set {α β : Type} {first second : α → β → Prop} {items : List α}
    {values : List β} {place : Nat} {item other : α} (found : items[place]? = some item)
    (related : List.Forall₂ first (items.set place other) values)
    (weaker : ∀ x y, first x y → second x y) (here : ∀ y, first other y → second item y) :
    List.Forall₂ second items values := by
  induction items generalizing place values with
  | nil => contradiction
  | cons head rest ih =>
    cases place with
    | zero =>
      obtain rfl : head = item := by simpa using found
      cases related with
      | cons start later => exact .cons (here _ start) (later.imp weaker)
    | succ place =>
      cases related with
      | cons start later => exact .cons (weaker _ _ start) (ih (by simpa using found) later)

namespace Lanes

variable {α : Type} {lanes : Lanes calling α} {calls later : List Call} {values : List α}
  {place : Nat}

/-- Lanes come to values when they do with one of them a step further. -/
theorem Courses.of_set {lane further : Lane calling α}
    (courses : (lanes.set place further).Courses later values)
    (found : lanes.lanes[place]? = some lane) (more : later.Sublist calls)
    (reached : ∀ own value, own.Sublist later → further.Course own value →
      ∃ own, List.Sublist own calls ∧ lane.Course own value) : lanes.Courses calls values := by
  refine forall₂_of_set found courses ?_ ?_
  · rintro lane value ⟨own, few, course⟩
    exact ⟨own, few.trans more, course⟩
  · rintro value ⟨own, few, course⟩
    exact reached own value few course

/-- Lanes of which none runs have come to their values. -/
theorem courses_values (scheduled : lanes.Scheduled []) : lanes.Courses [] lanes.values := by
  obtain ⟨lanes⟩ := lanes
  have idle : ∀ lane ∈ lanes, ∀ program, lane ≠ .running program := by
    rintro _ among program rfl
    obtain ⟨place, found⟩ := List.mem_iff_getElem?.1 among
    exact List.not_mem_nil ((scheduled.running place).2 ⟨program, found⟩)
  clear scheduled
  induction lanes with
  | nil => exact .nil
  | cons lane lanes ih =>
    have rest := ih fun lane among => idle lane (List.mem_cons_of_mem _ among)
    cases lane with
    | running program => exact absurd rfl (idle _ List.mem_cons_self program)
    | finished value => exact .cons ⟨[], .refl _, rfl, rfl⟩ rest

/-- Programs that take turns all come to their values. -/
theorem courses_of_goOn {turns : Turns} (scheduled : lanes.Scheduled (place :: turns.places))
    (course : (goOn turns place lanes).Course calls values) : lanes.Courses calls values := by
  induction turns, place, lanes using goOn.induct generalizing calls with
  | case1 turns place lanes party question next found ih =>
    rw [goOn_call found] at course
    cases course with
    | call reply later =>
      refine (ih reply (scheduled.set_running found) later).of_set found (.cons _ (.refl _))
        fun own value few rest => ?_
      exact ⟨_, few.cons_cons _, .call reply rest⟩
  | case2 turns place lanes span next found none =>
    exact absurd none (turns.afterPause?_ne_none place span)
  | case3 turns place lanes span next found pause upcoming later turn ih =>
    rw [goOn_wait found turn] at course
    have order := Turns.places_afterPause? turn
    refine (ih ((scheduled.set_running found).perm order) course.of_after).of_set found (.refl _)
      fun own value few rest => ?_
    exact ⟨own, few, .wait rest⟩
  | case4 turns place lanes result found none =>
    rw [goOn_last found none] at course
    obtain ⟨rfl, rfl⟩ := course.of_done
    rw [Turns.places_eq_nil_of_leave none] at scheduled
    refine (courses_values (scheduled.set_finished result)).of_set found (.refl _)
      fun own value few rest => ?_
    obtain ⟨rfl, rfl⟩ := rest
    exact ⟨[], few, .done _⟩
  | case5 turns place lanes result found pause upcoming later turn ih =>
    rw [goOn_done found turn] at course
    have order := (Turns.places_next? turn).trans turns.places_leave
    refine (ih ((scheduled.set_finished result).perm order) course.of_after).of_set found
      (.refl _) fun own value few rest => ?_
    obtain ⟨rfl, rfl⟩ := rest
    exact ⟨[], few, .done _⟩
  | case6 turns place lanes result found =>
    obtain ⟨program, running⟩ := (scheduled.running place).1 List.mem_cons_self
    cases found.symm.trans running
  | case7 turns place lanes none =>
    obtain ⟨program, running⟩ := (scheduled.running place).1 List.mem_cons_self
    cases none.symm.trans running

end Lanes

/-- Programs side by side all come to their values, each by a course of its own among the calls
of all, when at least one of them is let in at a time. -/
theorem course_together_all {α : Type} {limit : Nat} (positive : 0 < limit)
    {programs : List (Act calling α)} {calls : List Call} {values : List α}
    (course : (Act.together limit programs).Course calls values) :
    List.Forall₂ (fun program value => ∃ own, List.Sublist own calls ∧
      program.Course own value) programs values := by
  have courses : Lanes.Courses ⟨programs.map .running⟩ calls values := by
    have start := Lanes.scheduled_start programs
    rw [Act.together] at course
    split at course
    · next ended =>
      obtain ⟨ready, -⟩ := Turns.eq_nil_of_next?_eq_none ended
      have none : List.range programs.length = [] :=
        (List.take_eq_nil_iff.1 ready).resolve_left positive.ne'
      rw [none] at start
      obtain ⟨rfl, rfl⟩ := course.of_done
      exact Lanes.courses_values start
    · next turn =>
      have order := Turns.places_next? turn
      rw [Turns.places_start] at order
      exact Lanes.courses_of_goOn (start.perm order) course
  exact List.forall₂_map_left_iff.1 courses

end Assay
