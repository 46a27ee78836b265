import Assay.Proofs.Calls
import Mathlib.Data.Stream.Init
import Mathlib.Order.Bounds.Basic

/-!
# Asking until an answer is final

Parties that reply from scripts are asked again while they fail for a reason that may pass and
calls are left. `run_settle` says which reply that ends at: the first one that is conclusive, or
the last one allowed. That reply alone decides what comes of asking, and all replies up to it are
the calls that were made. The induction is on the calls that are left; the script moves on by one
reply with each of them.
-/
namespace Assay

namespace Profile

variable {profile : Profile} {reply : Generation}

/-- A reply is conclusive when it is a success, a refusal, or a failure that does not pass. -/
def Conclusive (profile : Profile) (reply : Generation) : Prop :=
  ∀ failure, reply.failure = some failure →
    profile.refusal failure = true ∨ profile.passing failure = false

/-- A reply passes when it is a failure that may pass and no refusal. -/
def Passes (profile : Profile) (reply : Generation) : Prop :=
  ∃ failure, reply.failure = some failure ∧
    profile.passing failure = true ∧ profile.refusal failure = false

/-- What comes of asking when a reply is the last one: an error for a refusal, and else the
reply. -/
def verdict (profile : Profile) (reply : Generation) : Except Error Generation :=
  match reply.failure with
  | none => .ok reply
  | some failure =>
    if profile.refusal failure then .error (.refused profile.connection failure) else .ok reply

/-- A reply that is not conclusive passes. -/
theorem not_conclusive_iff : ¬profile.Conclusive reply ↔ profile.Passes reply := by
  constructor
  · intro lacking
    simp only [Conclusive, not_forall, not_or, Bool.not_eq_true, Bool.not_eq_false] at lacking
    obtain ⟨failure, failed, refused, passing⟩ := lacking
    exact ⟨failure, failed, passing, refused⟩
  · rintro ⟨failure, failed, passing, refused⟩ conclusive
    rcases conclusive failure failed with h | h
    · simp [refused] at h
    · simp [passing] at h

instance (profile : Profile) (reply : Generation) : Decidable (profile.Conclusive reply) :=
  match failed : reply.failure with
  | none => .isTrue fun failure found => by simp [failed] at found
  | some failure =>
    decidable_of_iff (profile.refusal failure = true ∨ profile.passing failure = false)
      ⟨fun holds other found => by
        obtain rfl : failure = other := by simpa [failed] using found
        exact holds, fun conclusive => conclusive failure failed⟩

/-- The outcome of a reply that passes. -/
theorem outcome_of_passes (passes : profile.Passes reply) : profile.outcome reply = .passing := by
  obtain ⟨failure, failed, passing, refused⟩ := passes
  simp [outcome, failed, passing, refused]

/-- The verdict of a reply that passes is the reply. -/
theorem verdict_of_passes (passes : profile.Passes reply) :
    profile.verdict reply = .ok reply := by
  obtain ⟨failure, failed, _, refused⟩ := passes
  simp [verdict, failed, refused]

/-- A conclusive reply is refused or final. -/
theorem outcome_of_conclusive (conclusive : profile.Conclusive reply) :
    (∃ failure, profile.outcome reply = .refused failure ∧
      profile.verdict reply = .error (.refused profile.connection failure)) ∨
    (profile.outcome reply = .final ∧ profile.verdict reply = .ok reply) := by
  cases failed : reply.failure with
  | none => simp [outcome, verdict, failed]
  | some failure =>
    by_cases refused : profile.refusal failure = true
    · simp [outcome, verdict, failed, refused]
    · have lasting := (conclusive failure failed).resolve_left refused
      simp [outcome, verdict, failed, refused, lasting]

end Profile

section

variable (profile : Profile) (party : Party) (question : Question)

/-- The last call that is allowed decides, whatever its reply. -/
theorem askAgain_zero (pause : Duration) :
    askAgain profile party question 0 pause =
      .perform (I := calling) (.call party question) fun reply =>
        .done (profile.verdict reply) := by
  rw [askAgain]
  refine congrArg (Act.perform (I := calling) (.call party question)) (funext fun reply => ?_)
  rw [Act.bind]
  by_cases conclusive : profile.Conclusive reply
  · rcases Profile.outcome_of_conclusive conclusive with ⟨failure, same, verdict⟩ | ⟨same, verdict⟩
    · rw [same, verdict]
      rfl
    · rw [same, verdict]
      rfl
  · have passes := Profile.not_conclusive_iff.1 conclusive
    rw [Profile.outcome_of_passes passes, Profile.verdict_of_passes passes]
    rfl

/-- While more calls are allowed, a conclusive reply decides and any other one is followed by a
pause and the next call. -/
theorem askAgain_succ (left : Nat) (pause : Duration) :
    askAgain profile party question (left + 1) pause =
      .perform (I := calling) (.call party question) fun reply =>
        if profile.Conclusive reply then .done (profile.verdict reply)
        else .perform (I := calling) (.wait pause) fun _ =>
          askAgain profile party question left pause.next := by
  rw [askAgain]
  refine congrArg (Act.perform (I := calling) (.call party question)) (funext fun reply => ?_)
  rw [Act.bind]
  by_cases conclusive : profile.Conclusive reply
  · rw [if_pos conclusive]
    rcases Profile.outcome_of_conclusive conclusive with ⟨failure, same, verdict⟩ | ⟨same, verdict⟩
    · rw [same, verdict]
      rfl
    · rw [same, verdict]
      rfl
  · rw [if_neg conclusive, Profile.outcome_of_passes (Profile.not_conclusive_iff.1 conclusive)]
    rfl

variable {σ : Type} (answer : Handler calling σ) (state : σ)

/-- A conclusive reply is the end of asking. -/
theorem run_askAgain_of_conclusive
    (conclusive : profile.Conclusive (answer state (.call party question)).1) (left : Nat)
    (pause : Duration) :
    (askAgain profile party question left pause).run answer state =
        (profile.verdict (answer state (.call party question)).1,
          (answer state (.call party question)).2) ∧
      (askAgain profile party question left pause).calls answer state =
        [⟨party, question, (answer state (.call party question)).1⟩] := by
  cases left with
  | zero =>
    rw [askAgain_zero]
    exact ⟨rfl, rfl⟩
  | succ left =>
    rw [askAgain_succ, Act.run_perform, Act.calls_call, if_pos conclusive]
    exact ⟨rfl, rfl⟩

/-- A reply that passes is followed by a pause, and the asking goes on with one call less. -/
theorem run_askAgain_of_passes
    (passes : profile.Passes (answer state (.call party question)).1) (left : Nat)
    (pause : Duration) :
    (askAgain profile party question (left + 1) pause).run answer state =
        (askAgain profile party question left pause.next).run answer
          (answer (answer state (.call party question)).2 (.wait pause)).2 ∧
      (askAgain profile party question (left + 1) pause).calls answer state =
        ⟨party, question, (answer state (.call party question)).1⟩ ::
          (askAgain profile party question left pause.next).calls answer
            (answer (answer state (.call party question)).2 (.wait pause)).2 := by
  have lacking := Profile.not_conclusive_iff.2 passes
  rw [askAgain_succ, Act.run_perform, Act.calls_call, if_neg lacking, Act.run_perform,
    Act.calls_wait]
  exact ⟨rfl, rfl⟩

end

/-- The replies that each party has in store, in order. -/
abbrev Scripts := Party → Stream' Generation

namespace Scripts

/-- The scripts after one more call to a party. -/
def next (scripts : Scripts) (party : Party) : Scripts :=
  Function.update scripts party (scripts party).tail

/-- A party replies with the first reply in its script. Pauses change nothing. -/
def answer (scripts : Scripts) : (event : CallEvent) → calling.Answer event × Scripts
  | .call party _ => ((scripts party).head, scripts.next party)
  | .wait _ => ((), scripts)

/-- The first replies of a script as calls with one question. -/
def asked (scripts : Scripts) (inquiry : Inquiry) (count : Nat) : List Call :=
  (List.range count).map fun place =>
    ⟨inquiry.party, inquiry.question, (scripts inquiry.party).get place⟩

/-- The first reply comes before those of the rest of the script. -/
theorem asked_succ (scripts : Scripts) (inquiry : Inquiry) (count : Nat) :
    scripts.asked inquiry (count + 1) =
      ⟨inquiry.party, inquiry.question, (scripts inquiry.party).head⟩ ::
        (scripts.next inquiry.party).asked inquiry count := by
  simp only [asked, next, List.range_succ_eq_map, List.map_cons, List.map_map,
    Function.update_self]
  rfl

end Scripts

/-- Where asking ends: at the first conclusive reply, or at the last one that is allowed. -/
def IsLast (profile : Profile) (replies : Stream' Generation) (left last : Nat) : Prop :=
  IsLeast {place | profile.Conclusive (replies.get place) ∨ place = left} last

/-- Asking ends at the first reply when that is conclusive or no other one is allowed. -/
theorem isLast_zero {profile : Profile} {replies : Stream' Generation} {left : Nat}
    (ends : profile.Conclusive replies.head ∨ left = 0) : IsLast profile replies left 0 := by
  refine ⟨?_, fun place _ => Nat.zero_le place⟩
  rcases ends with conclusive | none
  · exact .inl conclusive
  · exact .inr none.symm

/-- Asking that goes on after the first reply ends where asking for the others ends. -/
theorem IsLast.succ {profile : Profile} {replies : Stream' Generation} {left last : Nat}
    (passes : profile.Passes replies.head) (ends : IsLast profile replies.tail left last) :
    IsLast profile replies (left + 1) (last + 1) := by
  obtain ⟨here, first⟩ := ends
  refine ⟨here.imp id (congrArg (· + 1)), fun place found => ?_⟩
  cases place with
  | zero =>
    rcases found with conclusive | none
    · exact absurd conclusive (Profile.not_conclusive_iff.2 passes)
    · omega
  | succ place =>
    exact Nat.succ_le_succ (first (found.imp id Nat.succ.inj))

/-- Where asking ends, the reply decides, and the replies up to it are the calls made. -/
theorem run_askAgain_scripts (profile : Profile) (inquiry : Inquiry) (left : Nat)
    (pause : Duration) (scripts : Scripts) :
    ∃ last, IsLast profile (scripts inquiry.party) left last ∧
      ((askAgain profile inquiry.party inquiry.question left pause).run Scripts.answer scripts).1 =
        profile.verdict ((scripts inquiry.party).get last) ∧
      (askAgain profile inquiry.party inquiry.question left pause).calls Scripts.answer scripts =
        scripts.asked inquiry (last + 1) := by
  -- One call less is left after each reply that passes, and the script has moved on by it.
  induction left generalizing pause scripts with
  | zero =>
    refine ⟨0, isLast_zero (.inr rfl), ?_, ?_⟩
    · rw [askAgain_zero]
      rfl
    · rw [askAgain_zero]
      rfl
  | succ left ih =>
    by_cases conclusive : profile.Conclusive (scripts inquiry.party).head
    · obtain ⟨value, calls⟩ := run_askAgain_of_conclusive profile inquiry.party inquiry.question
        Scripts.answer scripts conclusive (left + 1) pause
      exact ⟨0, isLast_zero (.inl conclusive), congrArg Prod.fst value, calls⟩
    · have passes := Profile.not_conclusive_iff.1 conclusive
      obtain ⟨value, calls⟩ := run_askAgain_of_passes profile inquiry.party inquiry.question
        Scripts.answer scripts passes left pause
      obtain ⟨last, ends, later, made⟩ := ih pause.next (scripts.next inquiry.party)
      have moved : scripts.next inquiry.party inquiry.party = (scripts inquiry.party).tail :=
        Function.update_self ..
      rw [moved] at ends later
      refine ⟨last + 1, ends.succ passes, ?_, ?_⟩
      · rw [value]
        exact later
      · rw [calls, scripts.asked_succ]
        exact congrArg _ made

/-- Replies before the one that asking ends at have passed. -/
theorem IsLast.passes {profile : Profile} {replies : Stream' Generation} {left last : Nat}
    (ends : IsLast profile replies left last) {place : Nat} (earlier : place < last) :
    profile.Passes (replies.get place) := by
  refine Profile.not_conclusive_iff.1 fun conclusive => ?_
  have first : last ≤ place := ends.2 (.inl conclusive)
  omega

/-- Answering an inquiry from scripts ends at the first reply that is a success, a refusal or a
failure that does not pass, or else at the last reply that the settings allow. It is an error
exactly when that reply is a refusal, and else that reply, and the replies up to it are the calls
made. -/
theorem run_settle (settings : RunSettings) (profiles : Party → Profile) (inquiry : Inquiry)
    (scripts : Scripts) :
    ∃ last,
      IsLeast {place | (profiles inquiry.party).Conclusive ((scripts inquiry.party).get place) ∨
        place = settings.maxRetries.toNat} last ∧
      last ≤ settings.maxRetries.toNat ∧
      (∀ place < last, (profiles inquiry.party).Passes ((scripts inquiry.party).get place)) ∧
      ((settings.settle profiles inquiry).run Scripts.answer scripts).1 =
        (profiles inquiry.party).verdict ((scripts inquiry.party).get last) ∧
      (settings.settle profiles inquiry).calls Scripts.answer scripts =
        (List.range (last + 1)).map fun place =>
          ⟨inquiry.party, inquiry.question, (scripts inquiry.party).get place⟩ := by
  obtain ⟨last, ends, value, calls⟩ := run_askAgain_scripts (profiles inquiry.party) inquiry
    settings.maxRetries.toNat settings.initialPause scripts
  have allowed : last ≤ settings.maxRetries.toNat := ends.2 (.inr rfl)
  exact ⟨last, ends, allowed, fun _ earlier => ends.passes earlier, value, calls⟩

end Assay
