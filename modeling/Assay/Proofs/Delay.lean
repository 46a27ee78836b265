import Assay.Proofs.Asking
import Assay.Proofs.Trials

/-!
# Failures that pass leave no trace

Failures that may pass are put into the scripts of the parties, before each reply no more of them
than a call may be made again. An inquiry consumes the failures put in before a reply together
with that reply, and its answer is that of the reply alone. So the scripts with the failures and
those without stay related from inquiry to inquiry, in whatever steps and samples the inquiries
are made, and the result of a run with one lane is the same for both.
-/
namespace Assay

/-- The elements of a stream with those of `pending` put in before the first one, and with those
of a gap before each later one. -/
def putIn {α : Type} : (pending : List α) → (gaps : Stream' (List α)) → Stream' α → Stream' α
  | first :: _, _, _, 0 => first
  | _ :: pending, gaps, stream, place + 1 => putIn pending gaps stream place
  | [], _, stream, 0 => stream.head
  | [], gaps, stream, place + 1 => putIn gaps.head gaps.tail stream.tail place

/-- A stream with the elements of a gap put in before each of its own. -/
def fillGaps {α : Type} (gaps : Stream' (List α)) (stream : Stream' α) : Stream' α :=
  putIn gaps.head gaps.tail stream

/-- The pending elements come first. -/
theorem putIn_eq {α : Type} (pending : List α) (gaps : Stream' (List α)) (stream : Stream' α) :
    putIn pending gaps stream =
      pending ++ₛ Stream'.cons stream.head (fillGaps gaps stream.tail) := by
  induction pending with
  | nil =>
    funext place
    cases place <;> rfl
  | cons first pending ih =>
    rw [Stream'.cons_append_stream, ← ih]
    funext place
    cases place <;> rfl

/-- The first gap comes before the first element, and the other ones before the others. -/
theorem fillGaps_eq {α : Type} (gaps : Stream' (List α)) (stream : Stream' α) :
    fillGaps gaps stream =
      gaps.head ++ₛ Stream'.cons stream.head (fillGaps gaps.tail stream.tail) :=
  putIn_eq ..

/-- Failures that may pass, to be put in before each reply of a script: a limited number before
each of them. -/
structure Gaps (profiles : Party → Profile) (limit : Nat) where
  failures : Party → Stream' (List Generation)
  passes : ∀ party place, ∀ reply ∈ (failures party).get place, (profiles party).Passes reply
  few : ∀ party place, ((failures party).get place).length ≤ limit

namespace Gaps

variable {profiles : Party → Profile} {limit : Nat}

/-- Scripts with the failures put in. -/
def delay (gaps : Gaps profiles limit) (scripts : Scripts) : Scripts :=
  fun party => fillGaps (gaps.failures party) (scripts party)

/-- The failures that are left after a reply of a party. -/
def next (gaps : Gaps profiles limit) (party : Party) : Gaps profiles limit where
  failures := Function.update gaps.failures party (gaps.failures party).tail
  passes := by
    rw [Function.forall_update_iff gaps.failures fun party failures =>
      ∀ place, ∀ reply ∈ failures.get place, (profiles party).Passes reply]
    exact ⟨fun place => gaps.passes party (place + 1), fun other _ => gaps.passes other⟩
  few := by
    rw [Function.forall_update_iff gaps.failures fun _ failures =>
      ∀ place, (failures.get place).length ≤ limit]
    exact ⟨fun place => gaps.few party (place + 1), fun other _ => gaps.few other⟩

/-- The script of a party with the failures put in. -/
theorem delay_apply (gaps : Gaps profiles limit) (scripts : Scripts) (party : Party) :
    gaps.delay scripts party = (gaps.failures party).head ++ₛ
      Stream'.cons (scripts party).head ((gaps.next party).delay (scripts.next party) party) := by
  simp only [delay, next, Scripts.next, Function.update_self]
  exact fillGaps_eq ..

/-- A reply of one party leaves the script of another one alone. -/
theorem update_delay (gaps : Gaps profiles limit) (scripts : Scripts) (party : Party) :
    Function.update (gaps.delay scripts) party
        ((gaps.next party).delay (scripts.next party) party) =
      (gaps.next party).delay (scripts.next party) := by
  funext other
  by_cases same : other = party
  · rw [same, Function.update_self]
  · simp only [delay, next, Scripts.next, Function.update_of_ne same]

end Gaps

/-- All replies of the scripts are conclusive. -/
def Scripts.Conclusive (profiles : Party → Profile) (scripts : Scripts) : Prop :=
  ∀ party place, (profiles party).Conclusive ((scripts party).get place)

/-- Conclusive scripts stay so after a call. -/
theorem Scripts.Conclusive.next {profiles : Party → Profile} {scripts : Scripts}
    (conclusive : scripts.Conclusive profiles) (party : Party) :
    (scripts.next party).Conclusive profiles := by
  rw [Scripts.Conclusive, Scripts.next, Function.forall_update_iff scripts fun party replies =>
    ∀ place, (profiles party).Conclusive (replies.get place)]
  exact ⟨fun place => conclusive party (place + 1), fun other _ => conclusive other⟩

/-- Asking consumes pending failures that pass together with the conclusive reply behind them. -/
theorem run_askAgain_pending (profile : Profile) (party : Party) (question : Question)
    {pending : List Generation} (passes : ∀ reply ∈ pending, profile.Passes reply)
    {reply : Generation} (conclusive : profile.Conclusive reply) {rest : Stream' Generation}
    {left : Nat} (enough : pending.length ≤ left) (pause : Duration) (scripts : Scripts)
    (script : scripts party = pending ++ₛ Stream'.cons reply rest) :
    (askAgain profile party question left pause).run Scripts.answer scripts =
      (profile.verdict reply, Function.update scripts party rest) := by
  induction pending generalizing left pause scripts with
  | nil =>
    have head : (scripts party).head = reply := by rw [script]; rfl
    have tail : (scripts party).tail = rest := by rw [script]; rfl
    have first : profile.Conclusive (scripts party).head := head ▸ conclusive
    rw [(run_askAgain_of_conclusive profile party question Scripts.answer scripts first left
      pause).1]
    simp only [Scripts.answer, Scripts.next, head, tail]
  | cons failure pending ih =>
    have head : (scripts party).head = failure := by rw [script]; rfl
    have tail : (scripts party).tail = pending ++ₛ Stream'.cons reply rest := by rw [script]; rfl
    obtain ⟨left, rfl⟩ : ∃ fewer, left = fewer + 1 := ⟨left - 1, by simp at enough; omega⟩
    have first : profile.Passes (scripts party).head := head ▸ passes failure (by simp)
    rw [(run_askAgain_of_passes profile party question Scripts.answer scripts first left pause).1]
    have later := ih (fun reply member => passes reply (List.mem_cons_of_mem _ member))
      (Nat.le_of_succ_le_succ enough) pause.next (scripts.next party)
      (by rw [Scripts.next, Function.update_self, tail])
    rw [Scripts.next, Function.update_idem] at later
    exact later

section

variable (settings : RunSettings) (profiles : Party → Profile) (inquiry : Inquiry)

/-- An inquiry whose first reply is conclusive takes that reply. -/
theorem run_settle_of_conclusive {scripts : Scripts} (conclusive : scripts.Conclusive profiles) :
    (settings.settle profiles inquiry).run Scripts.answer scripts =
      ((profiles inquiry.party).verdict (scripts inquiry.party).head,
        scripts.next inquiry.party) :=
  (run_askAgain_of_conclusive (profiles inquiry.party) inquiry.party inquiry.question
    Scripts.answer scripts (conclusive inquiry.party 0) _ _).1

/-- With failures put in, an inquiry takes the same reply, and the failures before it are gone. -/
theorem run_settle_delay (gaps : Gaps profiles settings.maxRetries.toNat) {scripts : Scripts}
    (conclusive : scripts.Conclusive profiles) :
    (settings.settle profiles inquiry).run Scripts.answer (gaps.delay scripts) =
      ((profiles inquiry.party).verdict (scripts inquiry.party).head,
        (gaps.next inquiry.party).delay (scripts.next inquiry.party)) := by
  rw [← gaps.update_delay]
  exact run_askAgain_pending (profiles inquiry.party) inquiry.party inquiry.question
    (gaps.passes inquiry.party 0) (conclusive inquiry.party 0) (gaps.few inquiry.party 0)
    settings.initialPause (gaps.delay scripts) (gaps.delay_apply scripts inquiry.party)

/-- No program that makes inquiries can tell whether failures were put into the scripts. -/
theorem run_interpret_delay (gaps : Gaps profiles settings.maxRetries.toNat) {scripts : Scripts}
    (conclusive : scripts.Conclusive profiles) {α : Type} (program : Act inquiring α) :
    ((program.interpret (settings.settle profiles)).run Scripts.answer (gaps.delay scripts)).1 =
      ((program.interpret (settings.settle profiles)).run Scripts.answer scripts).1 := by
  rw [Act.run_interpret, Act.run_interpret]
  -- The failures that are left change with every inquiry, so the relation does not fix them.
  refine (Act.run_related (fun delayed scripts => scripts.Conclusive profiles ∧
    ∃ gaps : Gaps profiles settings.maxRetries.toNat, delayed = gaps.delay scripts)
    ?_ ⟨conclusive, gaps, rfl⟩ program).1
  rintro _ scripts ⟨conclusive, gaps, rfl⟩ inquiry
  rw [run_settle_delay settings profiles inquiry gaps conclusive,
    run_settle_of_conclusive settings profiles inquiry conclusive]
  exact ⟨rfl, conclusive.next inquiry.party, gaps.next inquiry.party, rfl⟩

end

/-- Failures that may pass leave no trace in a run with one lane: when all replies of the scripts
are conclusive, the report or error is the same with failures put in before them, no more before
each reply than a call may be made again. -/
theorem Task.run_delay (task : Task) (profiles : Party → Profile) (settings : RunSettings)
    (sampling : Sampling) (limit : Option Nat) (logging : Bool) (alone : settings.lanes = 1)
    (scripts : Scripts) (conclusive : scripts.Conclusive profiles)
    (gaps : Gaps profiles settings.maxRetries.toNat) :
    ((task.run profiles settings sampling limit logging).run Scripts.answer
        (gaps.delay scripts)).1 =
      ((task.run profiles settings sampling limit logging).run Scripts.answer scripts).1 := by
  by_cases empty : task.selection limit = []
  · rw [run_of_nil task profiles settings sampling limit logging empty]
    rfl
  · rw [run_of_lanes_one task profiles settings sampling limit logging alone empty,
      Act.run_bind, Act.run_bind]
    have evaluations : (task.selection limit).map (task.attempt profiles settings sampling) =
        ((task.selection limit).map fun sample =>
          (task.evaluate (profiles .model).name sampling sample).run).map
            (Act.interpret (settings.settle profiles)) := by
      rw [List.map_map]
      rfl
    rw [evaluations, ← Act.interpret_inTurn]
    have same := run_interpret_delay settings profiles gaps conclusive
      (Act.inTurn ((task.selection limit).map fun sample =>
        (task.evaluate (profiles .model).name sampling sample).run))
    exact congrArg (fun outcomes => (settled outcomes).map
      (task.report logging (task.selection limit))) same

/-- One failure before each reply. -/
def onePause : Gaps plainProfile 3 where
  failures _ := Stream'.const [pausing]
  passes _ _ reply among := by
    obtain rfl := List.mem_singleton.1 among
    exact ⟨.status 503 "busy", rfl, rfl, rfl⟩
  few _ _ := by
    change 1 ≤ 3
    omega

/-- The report on two answered questions is the same when a failure comes before each answer. -/
theorem Task.run_delay_onePause :
    (onePause.delay (fun _ => Stream'.const answering) .model).head = pausing ∧
      ((twoQuestions.run plainProfile { maxConnections := 1 } {} none true).run Scripts.answer
          (onePause.delay fun _ => Stream'.const answering)).1 =
        ((twoQuestions.run plainProfile { maxConnections := 1 } {} none true).run Scripts.answer
          fun _ => Stream'.const answering).1 := by
  have conclusive : Scripts.Conclusive plainProfile fun _ => Stream'.const answering := by
    intro party place failure failed
    exact nomatch failed
  exact ⟨rfl, run_delay twoQuestions plainProfile { maxConnections := 1 } {} none true rfl _
    conclusive onePause⟩

end Assay
