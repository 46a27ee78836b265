import Assay.Lanes
import Assay.Proofs.Asking

/-!
# Courses of programs

A course of a program is one way that it may take: the calls that it makes with their replies, in
order, and the value that it comes to. Running a program against a state takes one of its courses,
and so does every program that runs beside others: its own calls are among the calls of all. So
what holds of all courses of a program holds whatever the parties reply, and whoever else has a
turn in between.
-/
namespace Assay

/-- Calls that a program may make, with their replies, and the value that it comes to by them. -/
inductive Act.Course {α : Type} : Act calling α → List Call → α → Prop
  | done (value : α) : Course (.done value) [] value
  | call {party : Party} {question : Question} {next : Generation → Act calling α}
    {calls : List Call} {value : α} (reply : Generation) (later : Course (next reply) calls value) :
    Course (.perform (.call party question) next) (⟨party, question, reply⟩ :: calls) value
  | wait {span : Duration} {next : Unit → Act calling α} {calls : List Call} {value : α}
    (later : Course (next ()) calls value) : Course (.perform (.wait span) next) calls value

namespace Act.Course

variable {α β σ : Type} {calls : List Call}

/-- A run takes a course. -/
theorem of_run (answer : Handler calling σ) (state : σ) (program : Act calling α) :
    program.Course (program.calls answer state) (program.run answer state).1 := by
  induction program generalizing state with
  | done value => exact .done value
  | perform event next ih =>
    cases event with
    | call party question =>
      rw [run_perform, calls_call]
      exact .call _ (ih _ _)
    | wait span =>
      rw [run_perform, calls_wait]
      exact .wait (ih _ _)

/-- A course of programs that follow one another is a course of the first one and then one of
what follows. -/
theorem of_bind {program : Act calling α} {next : α → Act calling β} {value : β}
    (course : (program.bind next).Course calls value) :
    ∃ first middle second, calls = first ++ second ∧ program.Course first middle ∧
      (next middle).Course second value := by
  induction program generalizing calls with
  | done middle => exact ⟨[], middle, calls, rfl, .done middle, course⟩
  | perform event more ih =>
    cases event with
    | call party question =>
      rw [Act.bind] at course
      cases course with
      | call reply later =>
        obtain ⟨first, middle, second, rfl, before, after⟩ := ih reply later
        exact ⟨_ :: first, middle, second, rfl, .call reply before, after⟩
    | wait span =>
      rw [Act.bind] at course
      cases course with
      | wait later =>
        obtain ⟨first, middle, second, rfl, before, after⟩ := ih () later
        exact ⟨first, middle, second, rfl, .wait before, after⟩

/-- A program that is done makes no call. -/
theorem of_done {value result : α} (course : Course (.done value) calls result) :
    calls = [] ∧ result = value := by
  cases course with
  | done => exact ⟨rfl, rfl⟩

/-- A pause makes no call. -/
theorem of_after {pause : Option Duration} {program : Act calling α} {value : α}
    (course : (Act.after pause program).Course calls value) : program.Course calls value := by
  cases pause with
  | none => exact course
  | some span =>
    cases course with
    | wait later => exact later

end Act.Course

/-- The calls by which an inquiry is answered: they put one question to one party, and the reply
to the last one counts. -/
structure Round where
  inquiry : Inquiry
  earlier : List Generation
  final : Generation

namespace Round

/-- The calls of a round, in order. -/
def calls (round : Round) : List Call :=
  (round.earlier ++ [round.final]).map fun reply =>
    ⟨round.inquiry.party, round.inquiry.question, reply⟩

/-- The last call of a round. -/
theorem final_mem_calls (round : Round) :
    ⟨round.inquiry.party, round.inquiry.question, round.final⟩ ∈ round.calls := by
  simp [calls]

end Round

/-- A course of asking until an answer is final is a round, whose final reply decides. -/
theorem course_askAgain {profile : Profile} (inquiry : Inquiry) {left : Nat} {pause : Duration}
    {calls : List Call} {result : Except Error Generation}
    (course : (askAgain profile inquiry.party inquiry.question left pause).Course calls result) :
    ∃ round : Round, round.inquiry = inquiry ∧ calls = round.calls ∧
      result = profile.verdict round.final := by
  induction left generalizing pause calls with
  | zero =>
    rw [askAgain_zero] at course
    cases course with
    | call reply later =>
      obtain ⟨rfl, rfl⟩ := later.of_done
      exact ⟨⟨inquiry, [], reply⟩, rfl, rfl, rfl⟩
  | succ left ih =>
    rw [askAgain_succ] at course
    cases course with
    | call reply later =>
      by_cases conclusive : profile.Conclusive reply
      · simp only [if_pos conclusive] at later
        obtain ⟨rfl, rfl⟩ := later.of_done
        exact ⟨⟨inquiry, [], reply⟩, rfl, rfl, rfl⟩
      · simp only [if_neg conclusive] at later
        cases later with
        | wait later =>
          obtain ⟨round, same, made, decided⟩ := ih later
          refine ⟨⟨inquiry, reply :: round.earlier, round.final⟩, rfl, ?_, decided⟩
          rw [made, Round.calls, same]
          rfl

/-- The verdict on a reply that is no refusal is the reply. -/
theorem Profile.eq_of_verdict {profile : Profile} {reply generation : Generation}
    (admitted : profile.verdict reply = .ok generation) : reply = generation := by
  rw [verdict] at admitted
  split at admitted
  · exact Except.ok.inj admitted
  · split at admitted
    · contradiction
    · exact Except.ok.inj admitted

/-- A program that makes inquiries, where each of them is answered by calls. -/
abbrev RunSettings.answered (settings : RunSettings) (profiles : Party → Profile) {α : Type}
    (program : ExceptT Error (Act inquiring) α) : Act calling (Except Error α) :=
  program.run.interpret (settings.settle profiles)

section

variable {settings : RunSettings} {profiles : Party → Profile} {α β : Type} {calls : List Call}

/-- What follows a program goes on with its value, and an error is the end. -/
theorem answered_bind (program : ExceptT Error (Act inquiring) α)
    (next : α → ExceptT Error (Act inquiring) β) :
    settings.answered profiles (program >>= next) =
      (settings.answered profiles program).bind fun result =>
        match result with
        | .ok value => settings.answered profiles (next value)
        | .error error => .done (.error error) := by
  change (program.run.bind fun result => ExceptT.bindCont next result).interpret _ = _
  rw [Act.interpret_bind]
  refine congrArg _ (funext fun result => ?_)
  cases result with
  | ok value => rfl
  | error error => rfl

/-- A question to a party is answered by a round. -/
theorem course_ask {party : Party} {question : Question} {result : Except Error Generation}
    (course : (settings.answered profiles (party.ask question)).Course calls result) :
    ∃ round : Round, round.inquiry = ⟨party, question⟩ ∧ calls = round.calls ∧
      result = (profiles party).verdict round.final := by
  have asked : settings.answered profiles (party.ask question) =
      askAgain (profiles party) party question settings.maxRetries.toNat settings.initialPause :=
    Act.bind_done _
  rw [asked] at course
  exact course_askAgain ⟨party, question⟩ course

/-- A course to a value of programs that follow one another leads to a value of the first one and
from there to the value. -/
theorem course_bind_ok {program : ExceptT Error (Act inquiring) α}
    {next : α → ExceptT Error (Act inquiring) β} {value : β}
    (course : (settings.answered profiles (program >>= next)).Course calls (.ok value)) :
    ∃ first middle second, calls = first ++ second ∧
      (settings.answered profiles program).Course first (.ok middle) ∧
      (settings.answered profiles (next middle)).Course second (.ok value) := by
  rw [answered_bind] at course
  obtain ⟨first, result, second, rfl, before, after⟩ := course.of_bind
  cases result with
  | ok middle => exact ⟨first, middle, second, rfl, before, after⟩
  | error error =>
    obtain ⟨-, impossible⟩ := after.of_done
    contradiction

/-- A program without inquiries makes no call. -/
theorem course_pure {value : α} {result : Except Error α}
    (course : (settings.answered profiles (pure value)).Course calls result) :
    calls = [] ∧ result = .ok value :=
  Act.Course.of_done course

end

/-! ## Programs side by side -/

/-- Calls by which a lane comes to a value. -/
def Lane.Course {α : Type} (calls : List Call) (value : α) : Lane calling α → Prop
  | .running program => program.Course calls value
  | .finished result => calls = [] ∧ result = value

section

variable {α : Type} {calls : List Call} {values : List α}

/-- A value of lanes that end is that of a finished lane. -/
theorem Lanes.mem_values {lanes : Lanes calling α} {value : α} (member : value ∈ lanes.values) :
    .finished value ∈ lanes.lanes := by
  obtain ⟨lane, among, found⟩ := List.mem_filterMap.1 member
  cases lane with
  | running program => simp [Lane.value?] at found
  | finished result =>
    obtain rfl : result = value := Option.some.inj found
    exact among

/-- A value has come about when it is that of one of some lanes by calls among the given ones. -/
def Lanes.Yields (lanes : Lanes calling α) (calls : List Call) (value : α) : Prop :=
  ∃ lane ∈ lanes.lanes, ∃ own, List.Sublist own calls ∧ lane.Course own value

/-- A value that comes about with another lane at a place comes about without it, when what the
other lane comes to is reached from the lane that was there. -/
theorem Lanes.Yields.of_set {lanes : Lanes calling α} {place : Nat} {lane further : Lane calling α}
    {later : List Call} {value : α} (found : lanes.lanes[place]? = some lane)
    (yields : (lanes.set place further).Yields later value) (more : later.Sublist calls)
    (reached : ∀ own, own.Sublist later → further.Course own value →
      ∃ own, List.Sublist own calls ∧ lane.Course own value) : lanes.Yields calls value := by
  obtain ⟨other, among, own, few, course⟩ := yields
  rcases List.mem_or_eq_of_mem_set among with before | rfl
  · exact ⟨other, before, own, few.trans more, course⟩
  · obtain ⟨own, few, course⟩ := reached own few course
    exact ⟨lane, List.mem_of_getElem? found, own, few, course⟩

/-- Values of lanes at their end have come about without further calls. -/
theorem Lanes.yields_of_done {lanes : Lanes calling α}
    (course : Act.Course (.done lanes.values) calls values) :
    ∀ value ∈ values, lanes.Yields calls value := by
  obtain ⟨rfl, rfl⟩ := course.of_done
  intro value member
  exact ⟨_, mem_values member, [], .slnil, rfl, rfl⟩

/-- Every value of programs that take turns is that of one of them. -/
theorem Lanes.yields_of_goOn {turns : Turns} {place : Nat} {lanes : Lanes calling α}
    (course : (goOn turns place lanes).Course calls values) :
    ∀ value ∈ values, lanes.Yields calls value := by
  induction turns, place, lanes using goOn.induct generalizing calls with
  | case1 turns place lanes party question next found ih =>
    rw [goOn_call found] at course
    cases course with
    | call reply later =>
      intro value member
      refine (ih reply later value member).of_set found (.cons _ (.refl _)) fun own few rest => ?_
      exact ⟨_, few.cons_cons _, .call reply rest⟩
  | case2 turns place lanes span next found none =>
    rw [goOn_wait_last found none] at course
    exact yields_of_done course
  | case3 turns place lanes span next found pause upcoming later turn ih =>
    rw [goOn_wait found turn] at course
    intro value member
    refine (ih course.of_after value member).of_set found (.refl _) fun own few rest => ?_
    exact ⟨own, few, .wait rest⟩
  | case4 turns place lanes result found none =>
    rw [goOn_last found none] at course
    intro value member
    refine (yields_of_done course value member).of_set found (.refl _) fun own few rest => ?_
    obtain ⟨rfl, rfl⟩ := rest
    exact ⟨[], few, .done _⟩
  | case5 turns place lanes result found pause upcoming later turn ih =>
    rw [goOn_done found turn] at course
    intro value member
    refine (ih course.of_after value member).of_set found (.refl _) fun own few rest => ?_
    obtain ⟨rfl, rfl⟩ := rest
    exact ⟨[], few, .done _⟩
  | case6 turns place lanes result found =>
    rw [goOn_of_not_running (by simp [found])] at course
    exact yields_of_done course
  | case7 turns place lanes none =>
    rw [goOn_of_not_running (by simp [none])] at course
    exact yields_of_done course

/-- Every value of programs side by side is that of one of them, by calls among those of all. -/
theorem course_together {limit : Nat} {programs : List (Act calling α)}
    (course : (Act.together limit programs).Course calls values) :
    ∀ value ∈ values, ∃ program ∈ programs, ∃ own, List.Sublist own calls ∧
      program.Course own value := by
  intro value member
  have yields : Lanes.Yields ⟨programs.map .running⟩ calls value := by
    rw [Act.together] at course
    split at course
    · exact Lanes.yields_of_done course value member
    · exact Lanes.yields_of_goOn course value member
  obtain ⟨lane, among, own, few, rest⟩ := yields
  obtain ⟨program, running, rfl⟩ := List.mem_map.1 among
  exact ⟨program, running, own, few, rest⟩

end

end Assay
