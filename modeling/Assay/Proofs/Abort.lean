import Assay.Proofs.Refusal
import Assay.Proofs.Steps

/-!
# What ends a run

A run with one lane fails for two reasons only: no sample is selected, or a party refuses. In the
second case the refusal of the first trial that has one is the result, and no other failure of a
party is ever one. The trials after a refused trial take place nevertheless: a refusal is the end
of the calls exactly when no trial but the last has one.
-/
namespace Assay

/-- An error is what the first trial with a refusal was refused with. -/
def FirstRefusal (profiles : Party → Profile) (trials : List Trial) (error : Error) : Prop :=
  ∃ earlier trial later, trials = earlier ++ trial :: later ∧
    (∀ other ∈ earlier, Admitted profiles other.calls) ∧
    ∃ call ∈ trial.calls, call.refusal? profiles = some error

/-- A refusal is the end of a run: no call follows it, and it is the result. -/
def AbortsAtRefusal (profiles : Party → Profile) {α : Type} (calls : List Call)
    (result : Except Error α) : Prop :=
  ∀ earlier call later error, calls = earlier ++ call :: later →
    call.refusal? profiles = some error → later = [] ∧ result = .error error

section

variable {profiles : Party → Profile} {trial : Trial} {trials : List Trial}

/-- Without a trial there is no refusal. -/
theorem not_firstRefusal_nil (error : Error) : ¬FirstRefusal profiles [] error := by
  rintro ⟨earlier, trial, later, split, -⟩
  simp at split

/-- A trial without a refusal is passed over. -/
theorem firstRefusal_cons_of_admitted (admitted : Admitted profiles trial.calls) (error : Error) :
    FirstRefusal profiles (trial :: trials) error ↔ FirstRefusal profiles trials error := by
  constructor
  · rintro ⟨earlier, other, later, split, before, call, member, refused⟩
    cases earlier with
    | nil =>
      obtain ⟨rfl, rfl⟩ := List.cons.inj split
      have none := admitted call member
      rw [refused] at none
      contradiction
    | cons first earlier =>
      obtain ⟨rfl, rest⟩ := List.cons.inj split
      exact ⟨earlier, other, later, rest,
        fun trial among => before trial (List.mem_cons_of_mem _ among), call, member, refused⟩
  · rintro ⟨earlier, other, later, rfl, before, refusal⟩
    refine ⟨trial :: earlier, other, later, rfl, fun trial among => ?_, refusal⟩
    rcases List.mem_cons.1 among with rfl | among
    · exact admitted
    · exact before trial among

/-- A trial with a refusal decides. -/
theorem firstRefusal_cons_of_error {refusal : Error}
    (heeds : Heeds profiles trial.calls trial.outcome) (failed : trial.outcome = .error refusal)
    (error : Error) : FirstRefusal profiles (trial :: trials) error ↔ refusal = error := by
  constructor
  · rintro ⟨earlier, other, later, split, before, call, member, refused⟩
    cases earlier with
    | nil =>
      obtain ⟨rfl, rfl⟩ := List.cons.inj split
      have same := (heeds.eq_error_iff error).2 ⟨call, member, refused⟩
      rw [failed] at same
      exact Except.error.inj same
    | cons first earlier =>
      obtain ⟨rfl, -⟩ := List.cons.inj split
      obtain ⟨call, member, refused⟩ := (heeds.eq_error_iff refusal).1 failed
      have none := before trial (List.mem_cons_self ..) call member
      rw [refused] at none
      contradiction
  · rintro rfl
    exact ⟨[], trial, trials, rfl, by simp, (heeds.eq_error_iff refusal).1 failed⟩

/-- A value comes before those of the outcomes after it, if they have any. -/
theorem settled_cons_ok {ε α : Type} (value : α) (outcomes : List (Except ε α)) :
    Task.settled (.ok value :: outcomes) = (Task.settled outcomes).map (value :: ·) := by
  rw [Task.settled]
  cases Task.settled outcomes <;> rfl

/-- Outcomes are settled with an error when that is the first refusal of the trials. -/
theorem settled_eq_error_iff (heeds : ∀ trial ∈ trials, Heeds profiles trial.calls trial.outcome)
    (error : Error) :
    Task.settled (trials.map Trial.outcome) = .error error ↔
      FirstRefusal profiles trials error := by
  induction trials with
  | nil => simp [Task.settled, not_firstRefusal_nil]
  | cons trial trials ih =>
    have first := heeds trial (List.mem_cons_self ..)
    have later := ih fun other among => heeds other (List.mem_cons_of_mem _ among)
    cases outcome : trial.outcome with
    | error refusal =>
      rw [firstRefusal_cons_of_error first outcome, List.map_cons, outcome]
      exact Except.error.injEq refusal error ▸ Iff.rfl
    | ok value =>
      rw [outcome] at first
      rw [firstRefusal_cons_of_admitted first.admitted_of_ok, ← later, List.map_cons, outcome,
        settled_cons_ok, map_eq_error_iff]

/-- There is a first refusal exactly when a trial has one. -/
theorem exists_firstRefusal_iff :
    (∃ error, FirstRefusal profiles trials error) ↔
      ∃ trial ∈ trials, ∃ call ∈ trial.calls, call.refusal? profiles ≠ none := by
  constructor
  · rintro ⟨error, earlier, trial, later, rfl, -, call, member, refused⟩
    exact ⟨trial, by simp, call, member, by simp [refused]⟩
  · intro refused
    induction trials with
    | nil => simp at refused
    | cons trial trials ih =>
      by_cases admitted : Admitted profiles trial.calls
      · obtain ⟨other, among, call, member, some⟩ := refused
        rcases List.mem_cons.1 among with rfl | among
        · exact absurd (admitted call member) some
        · obtain ⟨error, first⟩ := ih ⟨other, among, call, member, some⟩
          exact ⟨error, (firstRefusal_cons_of_admitted admitted error).2 first⟩
      · simp only [Admitted, not_forall] at admitted
        obtain ⟨call, member, some⟩ := admitted
        obtain ⟨error, refusal⟩ := Option.ne_none_iff_exists'.1 some
        exact ⟨error, [], trial, trials, rfl, by simp, call, member, refusal⟩

end

namespace Task

variable (task : Task) (profiles : Party → Profile) (settings : RunSettings) (sampling : Sampling)
  (limit : Option Nat) (logging : Bool) {σ : Type} (answer : Handler calling σ) (state : σ)

/-- Every trial ends with its first refusal, and has no other error. -/
theorem heeds_trials (samples : List Sample) :
    ∀ trial ∈ task.trials profiles settings sampling answer state samples,
      Heeds profiles trial.calls trial.outcome := by
  exact task.forall_mem_trials profiles settings sampling answer
    (fun trial => Heeds profiles trial.calls trial.outcome)
    (fun sample state => heeding_evaluate task _ sampling sample σ answer state) state samples

/-- A run with one lane that has a sample fails with the first refusal of its trials, and with
nothing else. -/
theorem run_eq_error_iff (alone : settings.lanes = 1) (nonempty : task.selection limit ≠ [])
    (error : Error) :
    ((task.run profiles settings sampling limit logging).run answer state).1 = .error error ↔
      FirstRefusal profiles
        (task.trials profiles settings sampling answer state (task.selection limit)) error := by
  rw [run_run task profiles settings sampling limit logging answer alone nonempty,
    map_eq_error_iff, settled_eq_error_iff
      (task.heeds_trials profiles settings sampling answer state (task.selection limit))]

/-- The error of a call that was refused says whose refusal it is. -/
theorem refusal?_ne_noSamples (call : Call) (name : String) :
    call.refusal? profiles ≠ some (.noSamples name) := by
  rw [Call.refusal?]
  split
  · simp
  · split <;> simp

/-- A run with one lane that has a sample never lacks samples. -/
theorem run_ne_noSamples (alone : settings.lanes = 1) (nonempty : task.selection limit ≠ []) :
    ((task.run profiles settings sampling limit logging).run answer state).1 ≠
      .error (.noSamples task.name) := by
  intro failed
  rw [run_eq_error_iff task profiles settings sampling limit logging answer state alone
    nonempty] at failed
  obtain ⟨_, _, _, _, _, call, _, refused⟩ := failed
  exact refusal?_ne_noSamples profiles call task.name refused

/-- A run with one lane fails for lack of samples exactly when none is selected, and makes no call
then. Otherwise it fails exactly when a call in one of its trials is refused, and with the refusal
of the first trial that has one. -/
theorem run_fails_iff (alone : settings.lanes = 1) :
    let program := task.run profiles settings sampling limit logging
    let result := (program.run answer state).1
    let trials := task.trials profiles settings sampling answer state (task.selection limit)
    trials.map Trial.sample = task.selection limit ∧
    program.calls answer state = trials.flatMap Trial.calls ∧
    (result = .error (.noSamples task.name) ↔ task.selection limit = []) ∧
    (task.selection limit = [] → program.calls answer state = []) ∧
    (task.selection limit ≠ [] →
      ((∃ error, result = .error error) ↔
        ∃ trial ∈ trials, ∃ call ∈ trial.calls, call.refusal? profiles ≠ none) ∧
      ∀ error, result = .error error ↔ FirstRefusal profiles trials error) := by
  intro program result trials
  have fails := run_eq_error_iff task profiles settings sampling limit logging answer state alone
  refine ⟨map_sample_trials .., calls_run task profiles settings sampling limit logging answer
    alone state, ⟨fun failed => ?_, fun empty => ?_⟩, fun empty => ?_, fun nonempty => ⟨?_, ?_⟩⟩
  · by_contra nonempty
    exact run_ne_noSamples task profiles settings sampling limit logging answer state alone
      nonempty failed
  · change ((task.run profiles settings sampling limit logging).run answer state).1 = _
    rw [run_of_nil task profiles settings sampling limit logging empty]
    rfl
  · change (task.run profiles settings sampling limit logging).calls answer state = _
    rw [run_of_nil task profiles settings sampling limit logging empty]
    rfl
  · rw [← exists_firstRefusal_iff]
    exact exists_congr (fails nonempty)
  · exact fails nonempty

/-- A run whose second trial is refused fails with that refusal. -/
theorem run_fails_second :
    ((twoQuestions.run plainProfile { maxConnections := 1 } {} none true).run Scripts.answer
      fun _ => Stream'.cons answering (Stream'.const refusing)).1 =
        .error (.refused "connection" (.status 401 "no")) := by
  obtain ⟨_, _, _, _, fails⟩ := run_fails_iff twoQuestions plainProfile { maxConnections := 1 } {}
    none true Scripts.answer (fun _ => Stream'.cons answering (Stream'.const refusing)) rfl
  obtain ⟨_, first⟩ := fails (List.cons_ne_nil _ _)
  refine (first _).2 ⟨[_], _, [], rfl, fun trial among call made => ?_, _,
    List.mem_singleton_self _, rfl⟩
  obtain rfl := List.mem_singleton.1 among
  obtain rfl := List.mem_singleton.1 made
  rfl

end Task

section

/-- Whether a program starts with an inquiry. -/
def Asks {α : Type} (program : ExceptT Error (Act inquiring) α) : Prop :=
  ∃ inquiry next, program.run = .perform (I := inquiring) inquiry next

/-- A program that starts with an inquiry makes a call. -/
theorem calls_ne_nil_of_asks {profiles : Party → Profile} {settings : RunSettings} {α σ : Type}
    {program : ExceptT Error (Act inquiring) α} (asks : Asks program) (answer : Handler calling σ)
    (state : σ) :
    (program.run.interpret (settings.settle profiles)).calls answer state ≠ [] := by
  obtain ⟨inquiry, next, shape⟩ := asks
  rw [shape, Act.interpret, Act.calls_bind, RunSettings.settle]
  cases settings.maxRetries.toNat with
  | zero =>
    rw [askAgain_zero]
    exact List.cons_ne_nil _ _
  | succ left =>
    rw [askAgain_succ]
    exact List.cons_ne_nil _ _

/-- What follows a program that starts with an inquiry does not change its start. -/
theorem Asks.bind {α β : Type} {program : ExceptT Error (Act inquiring) α} (asks : Asks program)
    (next : α → ExceptT Error (Act inquiring) β) : Asks (program >>= next) := by
  obtain ⟨inquiry, more, shape⟩ := asks
  exact ⟨inquiry, fun reply => (more reply).bind fun result => ExceptT.bindCont next result,
    congrArg (fun start => start.bind fun result => ExceptT.bindCont next result) shape⟩

/-- A plan that asks the model starts with an inquiry, and any other one only changes the
attempt. -/
theorem follow_asks_or_pure (sampling : Sampling) (plan : List Step) :
    (∀ attempt, Asks (Attempt.follow sampling attempt plan)) ∨
      ∀ attempt, ∃ changed, Attempt.follow sampling attempt plan = pure changed := by
  induction plan with
  | nil => exact .inr fun attempt => ⟨attempt, rfl⟩
  | cons step plan ih =>
    cases step with
    | generate => exact .inl fun attempt => .bind ⟨_, _, rfl⟩ _
    | prompt template =>
      exact ih.imp (fun asks attempt => asks _) fun changes attempt => changes _
    | equip tools choice =>
      exact ih.imp (fun asks attempt => asks _) fun changes attempt => changes _

/-- A task starts with an inquiry for every sample, or makes none for any. -/
theorem evaluate_asks_or_pure (task : Task) (model : String) (sampling : Sampling) :
    (∀ sample, Asks (task.evaluate model sampling sample)) ∨
      ∀ sample, ∃ result, task.evaluate model sampling sample = pure result := by
  rcases follow_asks_or_pure sampling task.plan with asks | changes
  · exact .inl fun sample => (asks _).bind _
  · cases scorer : task.scorer with
    | answerList =>
      refine .inr fun sample => ?_
      obtain ⟨changed, same⟩ := changes (Attempt.start sample model)
      rw [Task.evaluate, same, scorer]
      exact ⟨_, rfl⟩
    | graded template instructions =>
      refine .inl fun sample => ?_
      obtain ⟨changed, same⟩ := changes (Attempt.start sample model)
      rw [Task.evaluate, same, scorer]
      exact ⟨_, _, rfl⟩

end

namespace Task

variable (task : Task) (profiles : Party → Profile) (settings : RunSettings) (sampling : Sampling)
  (limit : Option Nat) (logging : Bool) {σ : Type} (answer : Handler calling σ) (state : σ)

/-- If one trial makes a call, all do. -/
theorem calls_trials_ne_nil (samples : List Sample) {trial other : Trial}
    (first : trial ∈ task.trials profiles settings sampling answer state samples)
    (second : other ∈ task.trials profiles settings sampling answer state samples)
    (calls : trial.calls ≠ []) : other.calls ≠ [] := by
  rcases evaluate_asks_or_pure task (profiles .model).name sampling with asks | values
  · exact task.forall_mem_trials profiles settings sampling answer
      (fun trial => trial.calls ≠ [])
      (fun sample state => calls_ne_nil_of_asks (asks sample) answer state) state samples
      other second
  · refine absurd ?_ calls
    refine task.forall_mem_trials profiles settings sampling answer
      (fun trial => trial.calls = []) (fun sample state => ?_) state samples trial first
    obtain ⟨result, same⟩ := values sample
    rw [attempt, same]
    rfl

end Task

section

variable {profiles : Party → Profile} {trials : List Trial} {α : Type} {result : Except Error α}

/-- Calls of trials without a refusal. -/
theorem admitted_flatMap (admitted : ∀ trial ∈ trials, Admitted profiles trial.calls) :
    Admitted profiles (trials.flatMap Trial.calls) := by
  intro call member
  obtain ⟨trial, among, made⟩ := List.mem_flatMap.1 member
  exact admitted trial among call made

/-- Trials of which only the last one may have a refusal end with it. -/
theorem abortsAtRefusal_of_dropLast
    (heeds : ∀ trial ∈ trials, Heeds profiles trial.calls trial.outcome)
    (fails : ∀ error, FirstRefusal profiles trials error → result = .error error)
    (admitted : ∀ trial ∈ trials.dropLast, Admitted profiles trial.calls) :
    AbortsAtRefusal profiles (trials.flatMap Trial.calls) result := by
  intro earlier call later error split refused
  rcases List.eq_nil_or_concat trials with rfl | ⟨init, last, rfl⟩
  · simp at split
  · rw [List.concat_eq_append] at *
    rw [List.dropLast_concat] at admitted
    have final := heeds last (by simp)
    have whole := Heeds.after (admitted_flatMap admitted) final
    rw [List.flatMap_append, List.flatMap_singleton] at split
    obtain ⟨rfl, outcome⟩ := whole.of_refusal split refused
    exact ⟨rfl, fails error ⟨init, last, [], rfl, admitted, (final.eq_error_iff error).1 outcome⟩⟩

/-- When no call follows a refusal and all trials make calls if one does, then only the last one
may have a refusal. -/
theorem admitted_of_abortsAtRefusal
    (same : ∀ trial ∈ trials, ∀ other ∈ trials, trial.calls ≠ [] → other.calls ≠ [])
    (aborts : AbortsAtRefusal profiles (trials.flatMap Trial.calls) result) :
    ∀ trial ∈ trials.dropLast, Admitted profiles trial.calls := by
  intro trial among call member
  by_contra some
  obtain ⟨error, refused⟩ := Option.ne_none_iff_exists'.1 some
  rcases List.eq_nil_or_concat trials with rfl | ⟨init, last, rfl⟩
  · simp at among
  · rw [List.concat_eq_append] at *
    rw [List.dropLast_concat] at among
    obtain ⟨before, between, rfl⟩ := List.append_of_mem among
    obtain ⟨earlier, later, made⟩ := List.append_of_mem member
    -- The calls of the last trial are among those that would have to be missing.
    have silent := (aborts (before.flatMap Trial.calls ++ earlier) call
      (later ++ (between.flatMap Trial.calls ++ last.calls)) error (by simp [made]) refused).1
    have none : last.calls = [] := by
      simp only [List.append_eq_nil_iff] at silent
      exact silent.2.2
    exact same trial (by simp) last (by simp) (List.ne_nil_of_mem member) none

end

namespace Task

variable (task : Task) (profiles : Party → Profile) (settings : RunSettings) (sampling : Sampling)
  (limit : Option Nat) (logging : Bool) {σ : Type} (answer : Handler calling σ) (state : σ)

/-- A refusal is the end of a run with one lane, whatever the parties reply, exactly when no trial
but the last one has a refusal. -/
theorem run_abortsAtRefusal_iff (alone : settings.lanes = 1) :
    AbortsAtRefusal profiles
        ((task.run profiles settings sampling limit logging).calls answer state)
        ((task.run profiles settings sampling limit logging).run answer state).1 ↔
      ∀ trial ∈ (task.trials profiles settings sampling answer state
        (task.selection limit)).dropLast, Admitted profiles trial.calls := by
  have heeds := task.heeds_trials profiles settings sampling answer state (task.selection limit)
  rw [calls_run task profiles settings sampling limit logging answer alone state]
  constructor
  · exact admitted_of_abortsAtRefusal fun _ first _ second =>
      task.calls_trials_ne_nil profiles settings sampling answer state _ first second
  · refine abortsAtRefusal_of_dropLast heeds fun error first => ?_
    refine (run_eq_error_iff task profiles settings sampling limit logging answer state alone
      (fun empty => ?_) error).2 first
    rw [empty] at first
    exact not_firstRefusal_nil error first

/-- A refusal of the last trial is the end of a run. -/
theorem run_abortsAtRefusal_last :
    AbortsAtRefusal plainProfile
      ((twoQuestions.run plainProfile { maxConnections := 1 } {} none true).calls Scripts.answer
        fun _ => Stream'.cons answering (Stream'.const refusing))
      ((twoQuestions.run plainProfile { maxConnections := 1 } {} none true).run Scripts.answer
        fun _ => Stream'.cons answering (Stream'.const refusing)).1 := by
  refine (run_abortsAtRefusal_iff _ _ _ _ _ _ _ _ rfl).2 fun trial among call made => ?_
  obtain rfl := List.mem_singleton.1 among
  obtain rfl := List.mem_singleton.1 made
  rfl

/-- A refusal of an earlier trial is not: the second question is put to the model although the
first one was refused. -/
theorem run_goes_on_after_refusal :
    ¬AbortsAtRefusal plainProfile
      ((twoQuestions.run plainProfile { maxConnections := 1 } {} none true).calls Scripts.answer
        fun _ => Stream'.cons refusing (Stream'.const answering))
      ((twoQuestions.run plainProfile { maxConnections := 1 } {} none true).run Scripts.answer
        fun _ => Stream'.cons refusing (Stream'.const answering)).1 := by
  intro aborts
  rw [calls_run _ _ _ _ _ _ _ rfl] at aborts
  obtain ⟨silent, -⟩ := aborts [] _ [_] _ rfl rfl
  exact List.cons_ne_nil _ _ silent

end Task
end Assay
