import Assay.Proofs.Asking
import Assay.Proofs.Trials

/-!
# Refusals

A party that refuses ends the evaluation of a sample: no call follows for that sample, and the
refusal is its outcome. Nothing else ends an evaluation with an error. This holds of a single
inquiry, by induction on the calls that are left, and every way in which a program is put together
keeps it, so that it holds of the evaluation of every sample.
-/
namespace Assay

/-- The error that a call comes to when the party refuses. -/
def Call.refusal? (profiles : Party → Profile) (call : Call) : Option Error :=
  match call.reply.failure with
  | none => none
  | some failure =>
    if (profiles call.party).refusal failure then
      some (.refused (profiles call.party).connection failure)
    else none

/-- No call was refused. -/
def Admitted (profiles : Party → Profile) (calls : List Call) : Prop :=
  ∀ call ∈ calls, call.refusal? profiles = none

/-- How calls and what they come to belong together: either no call was refused and there is a
value, or the last call was refused, as the only one, and that is the error. -/
inductive Heeds (profiles : Party → Profile) {α : Type} : List Call → Except Error α → Prop
  | admitted {calls : List Call} (all : Admitted profiles calls) (value : α) :
    Heeds profiles calls (.ok value)
  | refused {calls : List Call} {call : Call} {error : Error} (before : Admitted profiles calls)
    (last : call.refusal? profiles = some error) : Heeds profiles (calls ++ [call]) (.error error)

section

variable {profiles : Party → Profile} {α β : Type}

/-- Without calls there is no refusal. -/
theorem admitted_nil : Admitted profiles [] := fun _ member => nomatch member

/-- Calls of which none was refused, before others of that kind. -/
theorem Admitted.append {calls later : List Call} (first : Admitted profiles calls)
    (second : Admitted profiles later) : Admitted profiles (calls ++ later) := by
  intro call member
  rcases List.mem_append.1 member with earlier | later
  · exact first call earlier
  · exact second call later

/-- A reply that passes is no refusal. -/
theorem Call.refusal?_of_passes {call : Call} (passes : (profiles call.party).Passes call.reply) :
    call.refusal? profiles = none := by
  obtain ⟨failure, failed, _, refused⟩ := passes
  simp [refusal?, failed, refused]

/-- The verdict on the reply to a call is its refusal, and the reply where there is none. -/
theorem Call.verdict_eq (call : Call) :
    (profiles call.party).verdict call.reply =
      match call.refusal? profiles with
      | none => .ok call.reply
      | some error => .error error := by
  rw [Profile.verdict, refusal?]
  cases call.reply.failure with
  | none => rfl
  | some failure =>
    by_cases refused : (profiles call.party).refusal failure = true
    · simp only [if_pos refused]
    · simp only [if_neg refused]

/-- A call and the verdict on its reply belong together. -/
theorem Call.heeds_verdict (call : Call) :
    Heeds profiles [call] ((profiles call.party).verdict call.reply) := by
  rw [call.verdict_eq]
  cases refused : call.refusal? profiles with
  | none => exact .admitted (fun other member => List.mem_singleton.1 member ▸ refused) _
  | some error => exact .refused admitted_nil refused

namespace Heeds

variable {calls later : List Call} {result : Except Error α}

/-- What comes after calls without a refusal decides. -/
theorem after (first : Admitted profiles calls) (second : Heeds profiles later result) :
    Heeds profiles (calls ++ later) result := by
  cases second with
  | admitted all value => exact .admitted (first.append all) value
  | refused before last =>
    rw [← List.append_assoc]
    exact .refused (first.append before) last

/-- A value means that no call was refused. -/
theorem admitted_of_ok {value : α} (heeds : Heeds profiles calls (.ok value)) :
    Admitted profiles calls := by
  cases heeds with
  | admitted all => exact all

/-- An error does not depend on what it stands in for. -/
theorem error {error : Error} (heeds : Heeds profiles calls (.error error : Except Error α)) :
    Heeds profiles calls (.error error : Except Error β) := by
  cases heeds with
  | refused before last => exact .refused before last

/-- A refused call is the last one, and its refusal is the result. -/
theorem of_refusal (heeds : Heeds profiles calls result) {earlier later : List Call} {call : Call}
    {error : Error} (split : calls = earlier ++ call :: later)
    (refused : call.refusal? profiles = some error) : later = [] ∧ result = .error error := by
  cases heeds with
  | admitted all =>
    have none := all call (by simp [split])
    rw [refused] at none
    contradiction
  | @refused before last other admitted refusal =>
    rcases List.eq_nil_or_concat later with rfl | ⟨between, final, rfl⟩
    · obtain ⟨_, same⟩ := List.append_inj' split rfl
      obtain rfl : last = call := by simpa using same
      obtain rfl : other = error := Option.some.inj (refusal.symm.trans refused)
      exact ⟨rfl, rfl⟩
    · -- A call behind the refused one would make it one of those that were not refused.
      have longer : before ++ [last] = (earlier ++ call :: between) ++ [final] := by
        simpa using split
      obtain ⟨rfl, _⟩ := List.append_inj' longer rfl
      have none := admitted call (by simp)
      rw [refused] at none
      contradiction

/-- The error of calls is the refusal of one of them. -/
theorem eq_error_iff (heeds : Heeds profiles calls result) (error : Error) :
    result = .error error ↔ ∃ call ∈ calls, call.refusal? profiles = some error := by
  constructor
  · rintro rfl
    cases heeds with
    | refused before last => exact ⟨_, by simp, last⟩
  · rintro ⟨call, member, refused⟩
    obtain ⟨earlier, later, split⟩ := List.append_of_mem member
    exact (heeds.of_refusal split refused).2

end Heeds

end

/-- A program heeds refusals when its calls and its result always belong together, whatever the
parties reply. -/
def Heeding (profiles : Party → Profile) (settings : RunSettings) {α : Type}
    (program : ExceptT Error (Act inquiring) α) : Prop :=
  ∀ (σ : Type) (answer : Handler calling σ) (state : σ),
    Heeds profiles ((program.run.interpret (settings.settle profiles)).calls answer state)
      ((program.run.interpret (settings.settle profiles)).run answer state).1

section

variable {profiles : Party → Profile} {settings : RunSettings} {α β : Type}

/-- Asking until an answer is final makes no call after a refusal. -/
theorem heeds_askAgain (party : Party) (question : Question) (left : Nat) (pause : Duration)
    {σ : Type} (answer : Handler calling σ) (state : σ) :
    Heeds profiles ((askAgain (profiles party) party question left pause).calls answer state)
      ((askAgain (profiles party) party question left pause).run answer state).1 := by
  induction left generalizing pause state with
  | zero =>
    rw [askAgain_zero]
    exact Call.heeds_verdict ⟨party, question, (answer state (.call party question)).1⟩
  | succ left ih =>
    by_cases conclusive : (profiles party).Conclusive (answer state (.call party question)).1
    · obtain ⟨value, calls⟩ :=
        run_askAgain_of_conclusive (profiles party) party question answer state conclusive
          (left + 1) pause
      rw [value, calls]
      exact Call.heeds_verdict ⟨party, question, (answer state (.call party question)).1⟩
    · have passes := Profile.not_conclusive_iff.1 conclusive
      obtain ⟨value, calls⟩ :=
        run_askAgain_of_passes (profiles party) party question answer state passes left pause
      rw [value, calls]
      have first : Admitted profiles
          [⟨party, question, (answer state (.call party question)).1⟩] := fun call member => by
        obtain rfl := List.mem_singleton.1 member
        exact Call.refusal?_of_passes passes
      exact .after first (ih pause.next _)

/-- A value needs no call. -/
theorem heeding_pure (value : α) : Heeding profiles settings (pure value) :=
  fun _ _ _ => .admitted admitted_nil value

/-- A question to a party. -/
theorem heeding_ask (party : Party) (question : Question) :
    Heeding profiles settings (party.ask question) := by
  intro σ answer state
  have asked : ((party.ask question).run.interpret (settings.settle profiles)) =
      askAgain (profiles party) party question settings.maxRetries.toNat settings.initialPause :=
    Act.bind_done _
  rw [asked]
  exact heeds_askAgain ..

/-- Programs that follow one another. -/
theorem heeding_bind {program : ExceptT Error (Act inquiring) α}
    {next : α → ExceptT Error (Act inquiring) β} (first : Heeding profiles settings program)
    (second : ∀ value, Heeding profiles settings (next value)) :
    Heeding profiles settings (program >>= next) := by
  intro σ answer state
  have heeds := first σ answer state
  change Heeds profiles
    (((program.run.bind fun result => ExceptT.bindCont next result).interpret
      (settings.settle profiles)).calls answer state)
    (((program.run.bind fun result => ExceptT.bindCont next result).interpret
      (settings.settle profiles)).run answer state).1
  rw [Act.interpret_bind, Act.run_bind, Act.calls_bind]
  cases result : ((program.run.interpret (settings.settle profiles)).run answer state).1 with
  | ok value =>
    rw [result] at heeds
    exact .after heeds.admitted_of_ok (second value σ answer _)
  | error error =>
    rw [result] at heeds
    rw [show ((ExceptT.bindCont next (.error error)).interpret (settings.settle profiles)) =
      .done (.error error) from rfl]
    have nothing := heeds.error (α := α) (β := β)
    exact (List.append_nil _).symm ▸ nothing

/-- A step of a plan. -/
theorem heeding_take (sampling : Sampling) (attempt : Attempt) (step : Step) :
    Heeding profiles settings (step.take sampling attempt) := by
  cases step with
  | prompt template => exact heeding_pure _
  | equip tools choice => exact heeding_pure _
  | generate => exact heeding_bind (heeding_ask _ _) fun _ => heeding_pure _

/-- The steps of a plan, one after the other. -/
theorem heeding_follow (sampling : Sampling) (attempt : Attempt) (plan : List Step) :
    Heeding profiles settings (attempt.follow sampling plan) := by
  induction plan generalizing attempt with
  | nil => exact heeding_pure _
  | cons step plan ih => exact heeding_bind (heeding_take _ _ _) ih

/-- Scoring an attempt. -/
theorem heeding_score (attempt : Attempt) (scorer : Scorer) :
    Heeding profiles settings (scorer.score attempt) := by
  cases scorer with
  | answerList => exact heeding_pure _
  | graded template instructions => exact heeding_bind (heeding_ask _ _) fun _ => heeding_pure _

/-- The evaluation of a sample. -/
theorem heeding_evaluate (task : Task) (model : String) (sampling : Sampling) (sample : Sample) :
    Heeding profiles settings (task.evaluate model sampling sample) :=
  heeding_bind (heeding_follow _ _ _) fun _ =>
    heeding_bind (heeding_score _ _) fun _ => heeding_pure _

end

end Assay
