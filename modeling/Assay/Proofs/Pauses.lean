import Assay.Proofs.Asking
import Assay.Proofs.History
import Mathlib.Tactic.Ring

/-!
# Pauses between calls

Asking until an answer is final alternates calls with pauses, whatever the replies are: a pause
comes before each call after the first one, and the last thing that takes place is a call. How long
a pause is depends on its place alone. Each pause is made from the one before it by doubling and
capping, and `Duration.pauseAt` says what that comes to. The main result
(`RunSettings.settle_keepsPace`) puts the calls on a clock as well: where calls take no time, a call
is made when the pauses before it have passed.
-/
namespace Assay

namespace Duration

/-- The pause at a place, counted from zero, where the first one is given. A pause is twice as long
at each place, up to a limit that the first one does not have. -/
def pauseAt (first : Duration) (place : Nat) : Duration :=
  if place = 0 then first
  else ⟨min (first.nanoseconds * 2 ^ place) (ofSeconds 8).nanoseconds⟩

/-- The pauses of a schedule after its first one are the schedule that begins with the second. -/
theorem pauseAt_next (first : Duration) (place : Nat) :
    first.next.pauseAt place = first.pauseAt (place + 1) := by
  cases place with
  | zero =>
    change Duration.mk (min (2 * first.nanoseconds) 8000000000) =
      Duration.mk (min (first.nanoseconds * 2) 8000000000)
    rw [Nat.mul_comm]
  | succ place =>
    change Duration.mk (min (min (2 * first.nanoseconds) 8000000000 * 2 ^ (place + 1)) 8000000000) =
      Duration.mk (min (first.nanoseconds * 2 ^ (place + 2)) 8000000000)
    have grown : min (2 * first.nanoseconds) 8000000000 * 2 ^ (place + 1) =
        min (first.nanoseconds * 2 ^ (place + 2)) (8000000000 * 2 ^ (place + 1)) := by
      rw [← Nat.mul_min_mul_right]
      congr 1
      ring
    have longer : 8000000000 ≤ 8000000000 * 2 ^ (place + 1) :=
      Nat.le_mul_of_pos_right _ (Nat.two_pow_pos _)
    rw [grown, Nat.min_assoc, Nat.min_eq_right longer]

/-- If there is room for twice the first pause, there is for twice each of them: the others are
bounded by the limit. -/
theorem fits_double_pauseAt {first : Duration} (fits : first.double.Fits) (place : Nat) :
    (first.pauseAt place).double.Fits := by
  rw [pauseAt]
  split
  · exact fits
  · have limited : min (first.nanoseconds * 2 ^ place) (ofSeconds 8).nanoseconds ≤ 8000000000 :=
      Nat.min_le_right ..
    change 2 * min (first.nanoseconds * 2 ^ place) (ofSeconds 8).nanoseconds / 1000000000 <
      18446744073709551616
    omega

-- There is room for twice the longest pause that is given in milliseconds.
example : (ofMilliseconds (Number.word64Bound - 1)).double.Fits := by decide

-- The first pause may be past the limit of the others.
example : (List.range 3).map (ofSeconds 10).pauseAt = [ofSeconds 10, ofSeconds 8, ofSeconds 8] := by
  decide

section

variable {first : Duration} (short : first.nanoseconds ≤ (ofSeconds 8).nanoseconds)

include short

/-- Where the first pause is within the limit, all of them are what doubling makes of it, up to the
limit. -/
theorem nanoseconds_pauseAt (place : Nat) :
    (first.pauseAt place).nanoseconds =
      min (first.nanoseconds * 2 ^ place) (ofSeconds 8).nanoseconds := by
  by_cases zero : place = 0
  · rw [pauseAt, if_pos zero, zero, Nat.pow_zero, Nat.mul_one, Nat.min_eq_left short]
  · rw [pauseAt, if_neg zero]

/-- Where the first pause is within the limit, no pause is longer than a later one. -/
theorem pauseAt_mono {earlier later : Nat} (before : earlier ≤ later) :
    (first.pauseAt earlier).nanoseconds ≤ (first.pauseAt later).nanoseconds := by
  rw [nanoseconds_pauseAt short, nanoseconds_pauseAt short]
  have doubled : first.nanoseconds * 2 ^ earlier ≤ first.nanoseconds * 2 ^ later :=
    Nat.mul_le_mul_left _ (Nat.pow_le_pow_right (by decide) before)
  exact min_le_min_right _ doubled

end

end Duration

/-! ## Calls and pauses by turns -/

/-- The length of a pause. -/
def CallEvent.span? : CallEvent → Option Duration
  | .call .. => none
  | .wait span => some span

/-- The lengths of the pauses among events, in order. -/
def spans (events : List CallEvent) : List Duration := events.filterMap CallEvent.span?

/-- What a clock shows when each of the calls among events is made, where calls take no time. -/
def moments (clock : Duration) : List CallEvent → List Duration
  | [] => []
  | .call .. :: later => clock :: moments clock later
  | .wait span :: later => moments (clock + span) later

/-- A call and, after each of the given pauses, the same call again. -/
def alternating (party : Party) (question : Question) : List Duration → List CallEvent
  | [] => [.call party question]
  | span :: later => .call party question :: .wait span :: alternating party question later

section

variable (party : Party) (question : Question)

/-- The pauses between calls are the given ones. -/
theorem spans_alternating (given : List Duration) :
    spans (alternating party question given) = given := by
  induction given with
  | nil => rfl
  | cons span later ih => exact congrArg (span :: ·) ih

/-- A call is made when the pauses before it have passed. -/
theorem getElem?_moments_alternating (given : List Duration) (clock : Duration) {place : Nat}
    (fits : place ≤ given.length) :
    (moments clock (alternating party question given))[place]? =
      some ((given.take place).foldl (· + ·) clock) := by
  induction given generalizing clock place with
  | nil =>
    obtain rfl : place = 0 := Nat.le_zero.mp fits
    rfl
  | cons span later ih =>
    cases place with
    | zero => rfl
    | succ place => exact ih (clock + span) (Nat.le_of_succ_le_succ fits)

/-- There are as many calls as pauses, and one more. -/
theorem length_moments_alternating (given : List Duration) (clock : Duration) :
    (moments clock (alternating party question given)).length = given.length + 1 := by
  induction given generalizing clock with
  | nil => rfl
  | cons span later ih => exact congrArg (· + 1) (ih (clock + span))

/-- What takes place while a party is asked are calls with pauses between them, as many as may be
made and as long as the schedule says. -/
theorem history_askAgain (profile : Profile) {σ : Type} (answer : Handler calling σ) (left : Nat)
    (pause : Duration) (state : σ) :
    ∃ count ≤ left,
      ((askAgain profile party question left pause).history answer state).map Happening.event =
        alternating party question ((List.range count).map pause.pauseAt) := by
  -- A pause that is made begins a schedule of its own, with the calls that are left.
  induction left generalizing pause state with
  | zero =>
    rw [askAgain_zero]
    exact ⟨0, Nat.le_refl 0, rfl⟩
  | succ left ih =>
    rw [askAgain_succ, Act.history_perform]
    by_cases conclusive : profile.Conclusive (answer state (.call party question)).1
    · rw [if_pos conclusive]
      exact ⟨0, Nat.zero_le _, rfl⟩
    · rw [if_neg conclusive, Act.history_perform]
      obtain ⟨count, fewer, later⟩ := ih pause.next
        (answer (answer state (.call party question)).2 (.wait pause)).2
      have others : pause.next.pauseAt = pause.pauseAt ∘ Nat.succ :=
        funext pause.pauseAt_next
      refine ⟨count + 1, Nat.succ_le_succ fewer, ?_⟩
      rw [List.map_cons, List.map_cons, later, List.range_succ_eq_map, List.map_cons, List.map_map,
        others]
      rfl

end

/-! ## Asking as the settings say -/

/-- Events are those of asking one question until an answer is final, with a number of pauses. -/
structure KeepsPace (settings : RunSettings) (inquiry : Inquiry) (count : Nat)
    (events : List CallEvent) : Prop where
  /-- There is one pause before each call after the first one, and none after the last one. The
  first pause is as the settings say, and each later one is as long as doubling makes it, or as long
  as it may be. -/
  alternates : events = alternating inquiry.party inquiry.question
    ((List.range count).map settings.initialPause.pauseAt)
  /-- If the first pause is no longer than the others may be, the pauses never get shorter. -/
  grows : settings.initialPause.nanoseconds ≤ (Duration.ofSeconds 8).nanoseconds →
    (spans events).Pairwise fun earlier later => earlier.nanoseconds ≤ later.nanoseconds
  /-- If the first pause is no longer than the others may be, no pause is. -/
  capped : settings.initialPause.nanoseconds ≤ (Duration.ofSeconds 8).nanoseconds →
    ∀ span ∈ spans events, span.nanoseconds ≤ (Duration.ofSeconds 8).nanoseconds
  /-- If there is room for twice the first pause, there is for twice each pause, so that doubling a
  pause always comes to one. -/
  doubles : settings.initialPause.double.Fits → ∀ span ∈ spans events, span.double.Fits
  /-- Where calls take no time, each call is made when the pauses before it have passed. -/
  punctual : ∀ clock, (moments clock events).length = count + 1 ∧
    ∀ place ≤ count, (moments clock events)[place]? =
      some (((spans events).take place).foldl (· + ·) clock)

/-- Whatever the party replies, it is asked at the pace that the settings say, and no more often
than they allow. -/
theorem RunSettings.settle_keepsPace (settings : RunSettings) (profiles : Party → Profile)
    (inquiry : Inquiry) {σ : Type} (answer : Handler calling σ) (state : σ) :
    ∃ count ≤ settings.maxRetries.toNat,
      KeepsPace settings inquiry count
        (((settings.settle profiles inquiry).history answer state).map Happening.event) := by
  obtain ⟨count, allowed, alternates⟩ := history_askAgain inquiry.party inquiry.question
    (profiles inquiry.party) answer settings.maxRetries.toNat settings.initialPause state
  refine ⟨count, allowed, ?_⟩
  have events : ((settings.settle profiles inquiry).history answer state).map Happening.event =
      alternating inquiry.party inquiry.question
        ((List.range count).map settings.initialPause.pauseAt) := alternates
  rw [events]
  have between := spans_alternating inquiry.party inquiry.question
    ((List.range count).map settings.initialPause.pauseAt)
  constructor
  case alternates => rfl
  case grows =>
    intro short
    rw [between, List.pairwise_map]
    exact List.pairwise_lt_range.imp fun before => Duration.pauseAt_mono short before.le
  case capped =>
    intro short span among
    rw [between] at among
    obtain ⟨place, -, rfl⟩ := List.mem_map.mp among
    rw [Duration.nanoseconds_pauseAt short]
    exact min_le_right _ _
  case doubles =>
    intro fits span among
    rw [between] at among
    obtain ⟨place, -, rfl⟩ := List.mem_map.mp among
    exact Duration.fits_double_pauseAt fits place
  case punctual =>
    intro clock
    rw [length_moments_alternating, between]
    refine ⟨by simp, fun place fits => ?_⟩
    exact getElem?_moments_alternating _ _ _ clock (by simpa using fits)

end Assay
