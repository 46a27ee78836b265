import Assay.Proofs.Course
import Assay.Proofs.Trials
import Mathlib.Data.List.Induction

/-!
# The conversation that a plan leads to

What an attempt has come to after the steps of a plan is said at once, without taking them: the
question of the sample goes through the templates of the plan in order, the first choices of what
the model returned follow it, the last tools on offer are on offer, and the last output is the
output. This holds as long as what the model returns are messages of its own, since a template
changes the last message of the user, which then is the first one. Each round of calls for a step
that asks the model puts the conversation, the tools and the choice as they are before that step.
-/
namespace Assay

namespace Step

/-- The template of a step that has one. -/
def template? : Step → Option String
  | .prompt template => some template
  | _ => none

/-- The tools and the choice that a step puts on offer. -/
def offer? : Step → Option (List Tool × Option ToolChoice)
  | .equip tools choice => some (tools, choice)
  | _ => none

/-- Whether a step asks the model. -/
def asks : Step → Bool
  | .generate => true
  | _ => false

end Step

/-- The question of a sample after templates, each of which was filled in with what the ones
before it made of the question. -/
def Sample.rendered (sample : Sample) (templates : List String) : String :=
  templates.foldl (fun text template =>
    Text.fill template (("prompt", text) :: sample.textMetadata)) sample.input

/-- The tools and the choice on offer after a plan: the last ones, and none at first. -/
def offered (plan : List Step) : List Tool × Option ToolChoice :=
  (plan.filterMap Step.offer?).getLastD ([], none)

/-- The messages that outputs add to a conversation: the first choice of each that has one. -/
def replies (outputs : List Output) : List Message :=
  outputs.filterMap fun output => output.choices.head?.map Choice.message

/-- The attempt at a sample that a plan leads to with the given outputs of the model. -/
def Attempt.reached (sample : Sample) (model : String) (plan : List Step)
    (outputs : List Output) : Attempt where
  sample := sample
  messages := .ofUser (sample.rendered (plan.filterMap Step.template?)) :: replies outputs
  tools := (offered plan).1
  choice := (offered plan).2
  output := outputs.getLastD (.empty model)

/-- The outputs that rounds of calls end with. -/
def Round.outputs (rounds : List Round) : List Output :=
  rounds.map fun round => round.final.output

/-- What a plan leads to from the start, and the rounds of calls on the way. -/
structure Transcript (sampling : Sampling) (sample : Sample) (model : String) (plan : List Step)
    (calls : List Call) (attempt : Attempt) (rounds : List Round) : Prop where
  /-- The calls are those of the rounds, one round after the other. -/
  calls_eq : calls = rounds.flatMap Round.calls
  /-- There is one round for each step that asks the model. -/
  length_eq : rounds.length = plan.countP Step.asks
  /-- The round of such a step asks the model what the steps before it have led to. -/
  asked : ∀ earlier later, plan = earlier ++ .generate :: later →
    ∃ round, rounds[earlier.countP Step.asks]? = some round ∧
      round.inquiry = ⟨.model, (Attempt.reached sample model earlier
        (Round.outputs (rounds.take (earlier.countP Step.asks)))).question sampling⟩
  /-- The steps lead to the attempt. -/
  attempt_eq : attempt = .reached sample model plan (Round.outputs rounds)

section

variable {sample : Sample} {model : String} {plan : List Step} {outputs : List Output}

/-- Where no message is the user's, there is none to change. -/
theorem changeLastUser?_eq_none (change : Message → Message) {messages : List Message}
    (none : ∀ message ∈ messages, message.isUser = false) :
    Attempt.changeLastUser? change messages = .none := by
  induction messages with
  | nil => rfl
  | cons message later ih =>
    have rest := ih fun other member => none other (List.mem_cons_of_mem _ member)
    rw [Attempt.changeLastUser?, rest, if_neg]
    simpa using none message (List.mem_cons_self ..)

/-- A template changes the first message when no other one is the user's. -/
theorem reached_prompt (others : ∀ message ∈ replies outputs, message.isUser = false)
    (template : String) :
    Attempt.reached sample model (plan ++ [.prompt template]) outputs =
      (Attempt.reached sample model plan outputs).prompted template := by
  have offers : offered (plan ++ [.prompt template]) = offered plan := by
    simp [offered, Step.offer?]
  have templates : (plan ++ [Step.prompt template]).filterMap Step.template? =
      plan.filterMap Step.template? ++ [template] := by
    simp [Step.template?]
  have changed := changeLastUser?_eq_none (Attempt.dress sample template) others
  simp only [Attempt.reached, Attempt.prompted, Attempt.changeLastUser?, offers, templates,
    changed, Sample.rendered, List.foldl_append]
  rfl

/-- Other tools are on offer. -/
theorem reached_equip (tools : List Tool) (choice : Option ToolChoice) :
    Attempt.reached sample model (plan ++ [.equip tools choice]) outputs =
      { Attempt.reached sample model plan outputs with tools := tools, choice := choice } := by
  have offers : offered (plan ++ [.equip tools choice]) = (tools, choice) := by
    simp [offered, Step.offer?]
  have templates : (plan ++ [Step.equip tools choice]).filterMap Step.template? =
      plan.filterMap Step.template? := by
    rw [List.filterMap_append]
    exact List.append_nil _
  rw [Attempt.reached, offers, templates]
  rfl

/-- An output of the model continues the conversation. -/
theorem reached_generate (output : Output) :
    Attempt.reached sample model (plan ++ [.generate]) (outputs ++ [output]) =
      (Attempt.reached sample model plan outputs).continued output := by
  have noOffer : [Step.generate].filterMap Step.offer? = [] := rfl
  have offers : offered (plan ++ [.generate]) = offered plan := by
    rw [offered, List.filterMap_append, noOffer, List.append_nil, offered]
  have templates : (plan ++ [Step.generate]).filterMap Step.template? =
      plan.filterMap Step.template? := by
    rw [List.filterMap_append]
    exact List.append_nil _
  have reply : replies [output] = (output.choices.take 1).map Choice.message := by
    cases choices : output.choices <;> simp [replies, choices]
  have more : replies (outputs ++ [output]) =
      replies outputs ++ (output.choices.take 1).map Choice.message := by
    rw [← reply, replies, List.filterMap_append]
    rfl
  rw [Attempt.reached, offers, templates, more, List.getLastD_concat]
  rfl

end

/-- The steps of two plans, one plan after the other. -/
theorem follow_append (sampling : Sampling) (attempt : Attempt) (first second : List Step) :
    attempt.follow sampling (first ++ second) =
      attempt.follow sampling first >>= fun reached => reached.follow sampling second := by
  induction first generalizing attempt with
  | nil => rw [List.nil_append, Attempt.follow, pure_bind]
  | cons step first ih =>
    rw [List.cons_append, Attempt.follow, Attempt.follow, bind_assoc]
    exact congrArg _ (funext ih)

section

variable {settings : RunSettings} {profiles : Party → Profile} {sampling : Sampling}
  {sample : Sample} {model : String} {plan : List Step} {calls more : List Call}
  {attempt : Attempt} {rounds : List Round}

/-- Before the first step there is the question of the sample. -/
theorem transcript_nil :
    Transcript sampling sample model [] [] (Attempt.start sample model) [] where
  calls_eq := rfl
  length_eq := rfl
  asked earlier later split := by simp at split
  attempt_eq := rfl

/-- The round of a step in front does not change when a step or round comes behind. -/
theorem Transcript.asked_append
    (transcript : Transcript sampling sample model plan calls attempt rounds)
    (after : List Round) {earlier later : List Step}
    (split : plan = earlier ++ .generate :: later) :
    ∃ round, (rounds ++ after)[earlier.countP Step.asks]? = some round ∧
      round.inquiry = ⟨.model, (Attempt.reached sample model earlier (Round.outputs
        ((rounds ++ after).take (earlier.countP Step.asks)))).question sampling⟩ := by
  obtain ⟨round, found, inquiry⟩ := transcript.asked earlier later split
  have early : earlier.countP Step.asks < rounds.length := (List.getElem?_eq_some_iff.1 found).1
  rw [List.getElem?_append_left early, List.take_append_of_le_length (Nat.le_of_lt early)]
  exact ⟨round, found, inquiry⟩

/-- A step that asks the model is the last one of a plan or one of those before. -/
theorem last_or_earlier {step : Step} {earlier later : List Step}
    (split : plan ++ [step] = earlier ++ .generate :: later) :
    (plan = earlier ∧ step = .generate) ∨ ∃ rest, plan = earlier ++ .generate :: rest := by
  rcases List.eq_nil_or_concat later with rfl | ⟨rest, last, rfl⟩
  · obtain ⟨same, final⟩ := List.append_inj' split rfl
    exact .inl ⟨same, by simpa using final⟩
  · rw [List.concat_eq_append, ← List.cons_append, ← List.append_assoc] at split
    exact .inr ⟨rest, (List.append_inj' split rfl).1⟩

/-- A step that makes no call. -/
theorem Transcript.silent (transcript : Transcript sampling sample model plan calls attempt rounds)
    {step : Step} (silent : step.asks = false) {reached : Attempt}
    (same : reached = .reached sample model (plan ++ [step]) (Round.outputs rounds)) :
    Transcript sampling sample model (plan ++ [step]) calls reached rounds where
  calls_eq := transcript.calls_eq
  length_eq := by rw [transcript.length_eq, List.countP_append]; simp [silent]
  asked earlier later split := by
    rcases last_or_earlier split with ⟨-, rfl⟩ | ⟨rest, shorter⟩
    · contradiction
    · simpa using transcript.asked_append [] shorter
  attempt_eq := same

/-- A step that asks the model. -/
theorem Transcript.generate
    (transcript : Transcript sampling sample model plan calls attempt rounds) {round : Round}
    (inquiry : round.inquiry = ⟨.model, attempt.question sampling⟩) :
    Transcript sampling sample model (plan ++ [.generate]) (calls ++ round.calls)
      (attempt.continued round.final.output) (rounds ++ [round]) where
  calls_eq := by rw [transcript.calls_eq, List.flatMap_append, List.flatMap_singleton]
  length_eq := by
    rw [List.length_append, transcript.length_eq, List.countP_append]
    rfl
  asked earlier later split := by
    rcases last_or_earlier split with ⟨rfl, -⟩ | ⟨rest, shorter⟩
    · rw [← transcript.length_eq, List.take_left, ← transcript.attempt_eq]
      exact ⟨round, by simp, inquiry⟩
    · exact transcript.asked_append [round] shorter
  attempt_eq := by
    rw [transcript.attempt_eq, ← reached_generate]
    simp [Round.outputs]

/-- What the model returned as messages of its own is not the user's. -/
theorem replies_not_user (rounds : List Round)
    (assisting : ∀ call ∈ rounds.flatMap Round.calls, ∀ choice ∈ call.reply.output.choices,
      choice.message.role = .assistant) :
    ∀ message ∈ replies (Round.outputs rounds), message.isUser = false := by
  intro message member
  obtain ⟨output, among, found⟩ := List.mem_filterMap.1 member
  obtain ⟨round, inRounds, rfl⟩ := List.mem_map.1 among
  obtain ⟨choice, first, rfl⟩ := Option.map_eq_some_iff.1 found
  have made := List.mem_flatMap_of_mem inRounds round.final_mem_calls
  have role := assisting _ made choice (List.mem_of_mem_head? first)
  cases same : choice.message with
  | user content =>
    rw [same] at role
    contradiction
  | _ => rfl

/-- A plan of one step is that step. -/
theorem follow_singleton (sampling : Sampling) (attempt : Attempt) (step : Step) :
    attempt.follow sampling [step] = step.take sampling attempt :=
  bind_pure _

/-- A plan that starts by asking the model goes on with what it returned. -/
theorem follow_generate (sampling : Sampling) (attempt : Attempt) (later : List Step) :
    attempt.follow sampling (.generate :: later) =
      Party.model.ask (attempt.question sampling) >>= fun generation =>
        (attempt.continued generation.output).follow sampling later := by
  rw [Attempt.follow, Step.take, bind_assoc]
  refine congrArg _ (funext fun generation => ?_)
  rw [pure_bind]

/-- Every course of a plan to an attempt has a transcript, if the model returns messages of its
own. -/
theorem transcript_of_course
    (course : (settings.answered profiles
      ((Attempt.start sample model).follow sampling plan)).Course calls (.ok attempt))
    (assisting : ∀ call ∈ calls, ∀ choice ∈ call.reply.output.choices,
      choice.message.role = .assistant) :
    ∃ rounds, Transcript sampling sample model plan calls attempt rounds := by
  induction plan using List.reverseRecOn generalizing calls attempt with
  | nil =>
    obtain ⟨rfl, same⟩ := course_pure course
    obtain rfl := Except.ok.inj same
    exact ⟨[], transcript_nil⟩
  | append_singleton plan step ih =>
    rw [follow_append] at course
    obtain ⟨first, middle, second, rfl, before, after⟩ := course_bind_ok course
    rw [follow_singleton] at after
    obtain ⟨rounds, transcript⟩ := ih before fun call member =>
      assisting call (List.mem_append_left _ member)
    cases step with
    | prompt template =>
      obtain ⟨rfl, same⟩ := course_pure after
      obtain rfl := Except.ok.inj same
      have others := replies_not_user rounds fun call member =>
        assisting call (List.mem_append_left _ (transcript.calls_eq ▸ member))
      rw [List.append_nil]
      refine ⟨rounds, transcript.silent rfl ?_⟩
      rw [transcript.attempt_eq, reached_prompt others]
    | equip tools choice =>
      obtain ⟨rfl, same⟩ := course_pure after
      obtain rfl := Except.ok.inj same
      rw [List.append_nil]
      refine ⟨rounds, transcript.silent rfl ?_⟩
      rw [transcript.attempt_eq, reached_equip]
    | generate =>
      obtain ⟨third, generation, fourth, rfl, asked, continued⟩ := course_bind_ok after
      obtain ⟨round, inquiry, rfl, final⟩ := course_ask asked
      obtain rfl := Profile.eq_of_verdict final.symm
      obtain ⟨rfl, same⟩ := course_pure continued
      obtain rfl := Except.ok.inj same
      rw [List.append_nil]
      exact ⟨_, transcript.generate inquiry⟩

variable (settings profiles) {σ : Type} (answer : Handler calling σ) (state : σ)

/-- The calls of a plan that goes on by asking the model: those so far, then a round that puts to
the model what the plan has led to, and then others. -/
theorem calls_follow_generate {start attempt : Attempt} (later : List Step)
    (reaches : ((settings.answered profiles (start.follow sampling plan)).run answer state).1 =
      .ok attempt) :
    ∃ round rest, round.inquiry = ⟨.model, attempt.question sampling⟩ ∧
      (settings.answered profiles (start.follow sampling (plan ++ .generate :: later))).calls
          answer state =
        (settings.answered profiles (start.follow sampling plan)).calls answer state ++
          (Round.calls round ++ rest) := by
  rw [follow_append, answered_bind, Act.calls_bind, reaches]
  dsimp only
  rw [follow_generate, answered_bind, Act.calls_bind]
  have course := Act.Course.of_run answer
    ((settings.answered profiles (start.follow sampling plan)).run answer state).2
    (settings.answered profiles (Party.model.ask (attempt.question sampling)))
  obtain ⟨round, inquiry, calls, -⟩ := course_ask course
  rw [calls]
  exact ⟨round, _, inquiry, rfl⟩

/-- What a plan that does not end with a refusal has led to: the sample as it was; the question
put into the templates so far as the user's first and only message, and behind it the first
choices of what the model returned; the last tools and choice on offer; and the last output. Each
step that asks the model, the next one included, puts exactly this to it. The model has to return
messages of its own. -/
theorem follow_run (plan : List Step) {attempt : Attempt}
    (reaches : ((settings.answered profiles
      ((Attempt.start sample model).follow sampling plan)).run answer state).1 = .ok attempt)
    (assisting : ∀ call ∈ (settings.answered profiles
      ((Attempt.start sample model).follow sampling plan)).calls answer state,
        ∀ choice ∈ call.reply.output.choices, choice.message.role = .assistant) :
    (∃ rounds, Transcript sampling sample model plan
      ((settings.answered profiles
        ((Attempt.start sample model).follow sampling plan)).calls answer state) attempt rounds) ∧
    (∀ message ∈ attempt.messages.tail, message.isUser = false) ∧
    ∀ later, ∃ round rest,
      round.inquiry = ⟨.model, attempt.messages, attempt.tools, attempt.choice, sampling⟩ ∧
      (settings.answered profiles ((Attempt.start sample model).follow sampling
          (plan ++ .generate :: later))).calls answer state =
        (settings.answered profiles
          ((Attempt.start sample model).follow sampling plan)).calls answer state ++
          (Round.calls round ++ rest) := by
  have course := Act.Course.of_run answer state
    (settings.answered profiles ((Attempt.start sample model).follow sampling plan))
  rw [reaches] at course
  obtain ⟨rounds, transcript⟩ := transcript_of_course course assisting
  refine ⟨⟨rounds, transcript⟩, ?_, fun later => calls_follow_generate settings profiles answer
    state later reaches⟩
  rw [transcript.attempt_eq]
  exact replies_not_user rounds (transcript.calls_eq ▸ assisting)

end

/-- A plan that asks the model between two templates, with tools to choose from in vain. -/
def promptedTwice : List Step :=
  [.prompt "Q: \x7bprompt\x7d", .equip [] (some .auto), .generate, .prompt "\x7bprompt\x7d!"]

/-- The plan with two templates, for a question that the model answers. -/
def promptedRun : Act calling (Except Error Attempt) :=
  ({} : RunSettings).answered plainProfile
    ((Attempt.start { input := "First?", target := ["yes"] } "model").follow {} promptedTwice)

/-- The answer between two templates is kept, and both have changed the question. -/
theorem follow_run_promptedTwice :
    ∃ attempt, (promptedRun.run Scripts.answer fun _ => Stream'.const answering).1 = .ok attempt ∧
      ∃ rounds, Transcript {} { input := "First?", target := ["yes"] } "model" promptedTwice
        (promptedRun.calls Scripts.answer fun _ => Stream'.const answering) attempt rounds := by
  have assisting : ∀ call ∈ promptedRun.calls Scripts.answer fun _ => Stream'.const answering,
      ∀ choice ∈ call.reply.output.choices, choice.message.role = .assistant := by
    intro call member choice offered
    obtain rfl := List.mem_singleton.1 member
    obtain rfl := List.mem_singleton.1 offered
    rfl
  obtain ⟨transcript, -⟩ := follow_run {} plainProfile Scripts.answer
    (fun _ => Stream'.const answering) promptedTwice rfl assisting
  exact ⟨_, rfl, transcript⟩

end Assay
