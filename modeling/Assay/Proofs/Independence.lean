import Assay.Proofs.Credit
import Assay.Proofs.Schedule
import Mathlib.Data.List.OfFn
import Mathlib.Logic.Equiv.Defs

/-!
# Samples do not influence each other

Where the parties reply to each question in one way, whatever was asked before, what comes of a
sample follows from the sample alone: a program whose calls have such replies comes to one value,
in whatever company it runs. So the outcomes of a run are those of its samples, one by one, and
`run_independent` says what this means for the entries of a report: each of them is that of its
sample alone, a shorter run has the first of them, and samples in another order have the same
entries in that order.
-/
namespace Assay

/-! ## Replies to the question alone -/

/-- Parties reply to each question in one way, whatever they were asked before. -/
def Steady {σ : Type} (reply : Party → Question → Generation) (answer : Handler calling σ) : Prop :=
  ∀ state party question, (answer state (.call party question)).1 = reply party question

/-- Calls have the replies that parties give to their questions. -/
def Replied (reply : Party → Question → Generation) (calls : List Call) : Prop :=
  ∀ call ∈ calls, call.reply = reply call.party call.question

/-- Parties that look up their replies. -/
def replying (reply : Party → Question → Generation) : Handler calling Unit := fun _ event =>
  match event with
  | .call party question => (reply party question, ())
  | .wait _ => ((), ())

/-- Parties that look up their replies are steady. -/
theorem steady_replying (reply : Party → Question → Generation) :
    Steady reply (replying reply) := fun _ _ _ => rfl

namespace Act

variable {α σ : Type} {reply : Party → Question → Generation} {answer : Handler calling σ}

/-- The calls of a program to steady parties have their replies. -/
theorem replied_calls (steady : Steady reply answer) (state : σ) (program : Act calling α) :
    Replied reply (program.calls answer state) := by
  induction program generalizing state with
  | done value =>
    intro call among
    contradiction
  | perform event next ih =>
    cases event with
    | call party question =>
      intro call among
      rw [calls_call] at among
      rcases List.mem_cons.1 among with rfl | later
      · exact steady state party question
      · exact ih _ _ call later
    | wait span => exact ih _ _

/-- A program comes to one value when its calls have the replies of steady parties. -/
theorem Course.unique {program : Act calling α} {calls more : List Call} {value other : α}
    (first : program.Course calls value) (replied : Replied reply calls)
    (second : program.Course more other) (also : Replied reply more) : value = other := by
  induction first generalizing more with
  | done value => exact second.of_done.2.symm
  | call answered later ih =>
    cases second with
    | call again rest =>
      have same : answered = again :=
        (replied _ List.mem_cons_self).trans (also _ List.mem_cons_self).symm
      subst same
      exact ih (fun call among => replied call (List.mem_cons_of_mem _ among)) rest
        fun call among => also call (List.mem_cons_of_mem _ among)
  | wait later ih =>
    cases second with
    | wait rest => exact ih replied rest also

/-- The value that a program comes to with steady parties. -/
def valueBy (reply : Party → Question → Generation) (program : Act calling α) : α :=
  (program.run (replying reply) ()).1

/-- A course with the replies of steady parties comes to the value that they lead to. -/
theorem Course.eq_valueBy {program : Act calling α} {calls : List Call} {value : α}
    (course : program.Course calls value) (replied : Replied reply calls) :
    value = program.valueBy reply :=
  course.unique replied (.of_run (replying reply) () program)
    (replied_calls (steady_replying reply) () program)

/-- Programs side by side come to the values that each of them comes to by itself, when the
parties are steady. -/
theorem run_together (steady : Steady reply answer) {limit : Nat} (positive : 0 < limit)
    (programs : List (Act calling α)) (state : σ) :
    ((together limit programs).run answer state).1 = programs.map (valueBy reply) := by
  have replied := replied_calls steady state (together limit programs)
  have courses := course_together_all positive (.of_run answer state (together limit programs))
  generalize ((together limit programs).run answer state).1 = values at courses ⊢
  generalize (together limit programs).calls answer state = calls at courses replied
  induction courses with
  | nil => rfl
  | cons here later ih =>
    obtain ⟨own, few, course⟩ := here
    rw [List.map_cons, ih, course.eq_valueBy fun call among => replied call (few.subset among)]

end Act

/-! ## The entries of a report -/

/-- An entry at another place. -/
def LogEntry.moved (entry : LogEntry) (place : Nat) : LogEntry := { entry with place := place }

/-- A limit on the number of samples lets that many in. -/
def Admits (limit : Option Nat) (count : Nat) : Prop := ∀ most ∈ limit, count ≤ most

namespace Task

/-- What comes of a sample with steady parties. -/
def outcome (task : Task) (profiles : Party → Profile) (settings : RunSettings)
    (sampling : Sampling) (reply : Party → Question → Generation) (sample : Sample) :
    Except Error (Attempt × Score) :=
  (task.attempt profiles settings sampling sample).valueBy reply

/-- The same task with other samples. -/
def withSamples (task : Task) (samples : List Sample) : Task := { task with samples := samples }

/-- A limit that lets all samples in selects all of them. -/
theorem selection_withSamples (task : Task) {samples : List Sample} {limit : Option Nat}
    (admits : Admits limit samples.length) :
    (task.withSamples samples).selection limit = samples := by
  rw [selection]
  refine List.take_of_length_le ?_
  cases limit with
  | none => exact le_rfl
  | some most => exact admits most rfl

/-- A lower limit selects the first of the samples that are selected by a higher one. -/
theorem selection_some (task : Task) {count : Nat} {limit : Option Nat}
    (admits : Admits limit count) :
    task.selection (some count) = (task.selection limit).take count := by
  rw [selection, selection, List.take_take]
  cases limit with
  | none =>
    change task.samples.take count = task.samples.take (min count task.samples.length)
    rw [List.take_eq_take_min]
  | some most => exact congrArg (List.take · task.samples) (min_eq_left (admits most rfl)).symm

section

variable (task : Task) (profiles : Party → Profile) (settings : RunSettings) (sampling : Sampling)
  {limit : Option Nat} {σ : Type} {answer : Handler calling σ}
  {reply : Party → Question → Generation}

/-- A run with steady parties is settled from what comes of each selected sample. -/
theorem run_steady (steady : Steady reply answer) (nonempty : task.selection limit ≠ [])
    (logging : Bool) (state : σ) :
    ((task.run profiles settings sampling limit logging).run answer state).1 =
      (settled ((task.selection limit).map
        (task.outcome profiles settings sampling reply))).map
          (task.report logging (task.selection limit)) := by
  have positive : 0 < settings.lanes := Nat.lt_of_lt_of_le Nat.zero_lt_one (Nat.le_max_left ..)
  rw [run, select_of_ne_nil nonempty]
  change ((Act.bind _ _).run answer state).1 = _
  rw [Act.run_bind, Act.run_together steady positive, List.map_map]
  rfl

end

/-- The entries of a report are what comes of samples, in their order. -/
structure Lists (outcome : Sample → Except Error (Attempt × Score)) (samples : List Sample)
    (report : Report) : Prop where
  length : report.entries.length = samples.length
  entry : ∀ place sample, samples[place]? = some sample →
    ∃ attempt score, outcome sample = .ok (attempt, score) ∧
      report.entries[place]? = some (LogEntry.ofAttempt place attempt score)

section

variable {outcome : Sample → Except Error (Attempt × Score)} {samples others : List Sample}
  {report other : Report}

/-- A report on what comes of samples lists it. -/
theorem lists_report (task : Task) {results : List (Attempt × Score)}
    (outcomes : samples.map outcome = results.map .ok) :
    Lists outcome samples (task.report true samples results) where
  length := by
    have same := congrArg List.length outcomes
    rw [List.length_map, List.length_map] at same
    exact List.length_mapIdx.trans same.symm
  entry place sample found := by
    have same : (samples.map outcome)[place]? = (results.map .ok)[place]? := by rw [outcomes]
    rw [List.getElem?_map, List.getElem?_map, found] at same
    obtain ⟨⟨attempt, score⟩, reached, settled⟩ := Option.map_eq_some_iff.1 same.symm
    refine ⟨attempt, score, settled.symm, ?_⟩
    exact List.getElem?_mapIdx.trans (congrArg _ reached)

/-- What comes of a sample has one entry, but for the place, in all reports that list it. -/
theorem Lists.getElem?_eq (first : Lists outcome samples report)
    (second : Lists outcome others other) {place further : Nat} {sample : Sample}
    (here : samples[place]? = some sample) (there : others[further]? = some sample) :
    other.entries[further]? = (report.entries[place]?).map (LogEntry.moved · further) := by
  obtain ⟨attempt, score, settled, found⟩ := first.entry place sample here
  obtain ⟨_, _, again, same⟩ := second.entry further sample there
  obtain ⟨rfl, rfl⟩ := Prod.mk.inj (Except.ok.inj (settled.symm.trans again))
  rw [found, same]
  rfl

/-- There is no entry where there is no sample. -/
theorem Lists.getElem?_eq_none (lists : Lists outcome samples report) {place : Nat}
    (beyond : samples[place]? = none) : report.entries[place]? = none := by
  rw [List.getElem?_eq_none_iff] at beyond ⊢
  rwa [lists.length]

/-- A report that lists the first of the samples has the first of the entries. -/
theorem Lists.eq_take (lists : Lists outcome samples report) {count : Nat}
    (first : Lists outcome (samples.take count) other) :
    other.entries = report.entries.take count := by
  refine List.ext_getElem? fun place => ?_
  by_cases inside : place < count
  · have same : (samples.take count)[place]? = samples[place]? :=
      List.getElem?_take_of_lt inside
    rw [List.getElem?_take_of_lt inside]
    cases here : samples[place]? with
    | none => rw [first.getElem?_eq_none (same.trans here), lists.getElem?_eq_none here]
    | some sample =>
      obtain ⟨attempt, score, -, found⟩ := lists.entry place sample here
      rw [lists.getElem?_eq first here (same.trans here), found]
      rfl
  · have beyond : (samples.take count)[place]? = none := by
      rw [List.getElem?_take, if_neg inside]
    rw [first.getElem?_eq_none beyond, List.getElem?_take, if_neg inside]

/-- Every entry of a report is about a sample. -/
theorem Lists.exists_sample (lists : Lists outcome samples report) {place : Nat}
    {entry : LogEntry} (found : report.entries[place]? = some entry) :
    ∃ sample, samples[place]? = some sample := by
  have inside := (List.getElem?_eq_some_iff.1 found).1
  rw [lists.length] at inside
  exact ⟨_, List.getElem?_eq_getElem inside⟩

end

/-- Outcomes that are all values are settled. -/
theorem exists_settled {outcome : Sample → Except Error (Attempt × Score)} {samples : List Sample}
    (sound : ∀ sample ∈ samples, ∃ result, outcome sample = .ok result) :
    ∃ results, settled (samples.map outcome) = .ok results := by
  induction samples with
  | nil => exact ⟨[], rfl⟩
  | cons sample samples ih =>
    obtain ⟨result, reached⟩ := sound sample List.mem_cons_self
    obtain ⟨results, settles⟩ := ih fun other among => sound other (List.mem_cons_of_mem _ among)
    refine ⟨result :: results, ?_⟩
    rw [List.map_cons, settled, reached, settles]
    rfl

section

variable (task : Task) (profiles : Party → Profile) (settings : RunSettings) (sampling : Sampling)
  {limit : Option Nat} {σ : Type} {answer : Handler calling σ}
  {reply : Party → Question → Generation}

/-- A run that succeeds with steady parties lists what comes of the selected samples. -/
theorem lists_of_run (steady : Steady reply answer) {state : σ} {report : Report}
    (ran : ((task.run profiles settings sampling limit true).run answer state).1 = .ok report) :
    Lists (task.outcome profiles settings sampling reply) (task.selection limit) report := by
  have nonempty := selection_ne_nil_of_run task profiles settings sampling limit true ran
  rw [run_steady task profiles settings sampling steady nonempty] at ran
  obtain ⟨results, settles, rfl⟩ := exists_of_map_eq_ok ran
  exact lists_report task (eq_map_ok_of_settled settles)

/-- A run with steady parties over samples that another report lists succeeds and lists them. -/
theorem Lists.exists_run {samples : List Sample} {report : Report}
    (lists : Lists (task.outcome profiles settings sampling reply) samples report)
    (steady : Steady reply answer) (nonempty : task.selection limit ≠ [])
    (among : ∀ sample ∈ task.selection limit, sample ∈ samples) (state : σ) :
    ∃ other, ((task.run profiles settings sampling limit true).run answer state).1 = .ok other ∧
      Lists (task.outcome profiles settings sampling reply) (task.selection limit) other := by
  have sound : ∀ sample ∈ task.selection limit, ∃ result,
      task.outcome profiles settings sampling reply sample = .ok result := by
    intro sample selected
    obtain ⟨place, found⟩ := List.mem_iff_getElem?.1 (among sample selected)
    obtain ⟨attempt, score, reached, -⟩ := lists.entry place sample found
    exact ⟨_, reached⟩
  have ran : ∃ other, ((task.run profiles settings sampling limit true).run answer state).1 =
      .ok other := by
    obtain ⟨results, settles⟩ := exists_settled sound
    rw [run_steady task profiles settings sampling steady nonempty, settles]
    exact ⟨_, rfl⟩
  obtain ⟨other, ran⟩ := ran
  exact ⟨other, ran, lists_of_run task profiles settings sampling steady ran⟩

/-- A run of the same task with other samples succeeds and lists them when another report lists
them too. -/
theorem Lists.exists_run_withSamples {samples others : List Sample} {report : Report}
    (lists : Lists (task.outcome profiles settings sampling reply) samples report)
    (steady : Steady reply answer) (nonempty : others ≠ [])
    (among : ∀ sample ∈ others, sample ∈ samples) (admits : Admits limit others.length)
    (state : σ) :
    ∃ other, (((task.withSamples others).run profiles settings sampling limit true).run answer
        state).1 = .ok other ∧
      Lists (task.outcome profiles settings sampling reply) others other := by
  have selected := task.selection_withSamples admits
  have kept : (task.withSamples others).selection limit ≠ [] := by
    rw [selected]
    exact nonempty
  have members : ∀ sample ∈ (task.withSamples others).selection limit, sample ∈ samples := by
    rw [selected]
    exact among
  obtain ⟨other, ran, listed⟩ := lists.exists_run (task.withSamples others) profiles settings
    sampling steady kept members state
  rw [selected] at listed
  exact ⟨other, ran, listed⟩

/-- What a report says of each sample does not depend on the other samples of the run. -/
structure Independent (limit : Option Nat) (answer : Handler calling σ) (report : Report) :
    Prop where
  /-- There is an entry for each selected sample. -/
  length : report.entries.length = (task.selection limit).length
  /-- An entry is, but for its place, the only one of a run with its sample alone. -/
  alone : ∀ (place : Nat) (entry : LogEntry), report.entries[place]? = some entry →
    ∃ sample, task.samples[place]? = some sample ∧ ∀ most, Admits most 1 → ∀ state,
      ∃ single, (((task.withSamples [sample]).run profiles settings sampling most true).run
          answer state).1 = .ok single ∧
        single.entries = [entry.moved 0]
  /-- A run with fewer samples, of which there has to be one, has the first of the entries. -/
  shorter : ∀ count, 0 < count → Admits limit count → ∀ state,
    ∃ part, ((task.run profiles settings sampling (some count) true).run answer state).1 =
        .ok part ∧
      part.entries = report.entries.take count
  /-- A run with the samples in another order has the entries in that order. -/
  permuted : ∀ (order : Equiv.Perm (Fin (task.selection limit).length)) (most : Option Nat),
    Admits most (task.selection limit).length → ∀ state,
      ∃ other, (((task.withSamples (List.ofFn fun i => (task.selection limit)[order i])).run
          profiles settings sampling most true).run answer state).1 = .ok other ∧
        other.entries.length = report.entries.length ∧
        ∀ i, other.entries[i.val]? = (report.entries[(order i).val]?).map (LogEntry.moved · i)

variable {report : Report}

/-- The entry of a sample is the only one of a run with that sample alone. -/
theorem Lists.alone (steady : Steady reply answer)
    (lists : Lists (task.outcome profiles settings sampling reply) (task.selection limit) report)
    {place : Nat} {entry : LogEntry} (found : report.entries[place]? = some entry) :
    ∃ sample, task.samples[place]? = some sample ∧ ∀ most, Admits most 1 → ∀ state,
      ∃ single, (((task.withSamples [sample]).run profiles settings sampling most true).run
          answer state).1 = .ok single ∧
        single.entries = [entry.moved 0] := by
  obtain ⟨sample, here⟩ := lists.exists_sample found
  have selected := List.mem_of_getElem? here
  have before : task.samples[place]? = some sample := by
    rw [selection, List.getElem?_take] at here
    exact (Option.ite_none_right_eq_some.1 here).2
  refine ⟨sample, before, fun most admits state => ?_⟩
  obtain ⟨single, ran, only⟩ := lists.exists_run_withSamples task profiles settings sampling
    steady (List.cons_ne_nil sample []) (fun other among => List.mem_singleton.1 among ▸ selected)
    admits state
  refine ⟨single, ran, ?_⟩
  obtain ⟨first, rest⟩ := List.length_eq_one_iff.1 only.length
  have there : [sample][0]? = some sample := rfl
  have same := lists.getElem?_eq only here there
  rw [rest, found] at same
  rw [rest, Option.some.inj same]

/-- A run with fewer samples has the first of the entries. -/
theorem Lists.shorter (steady : Steady reply answer)
    (lists : Lists (task.outcome profiles settings sampling reply) (task.selection limit) report)
    (nonempty : task.selection limit ≠ []) {count : Nat} (positive : 0 < count)
    (admits : Admits limit count) (state : σ) :
    ∃ part, ((task.run profiles settings sampling (some count) true).run answer state).1 =
        .ok part ∧
      part.entries = report.entries.take count := by
  have first : task.selection (some count) = (task.selection limit).take count :=
    task.selection_some admits
  have kept : task.selection (some count) ≠ [] := by
    rw [first]
    exact fun none => (List.take_eq_nil_iff.1 none).elim positive.ne' nonempty
  have among : ∀ sample ∈ task.selection (some count), sample ∈ task.selection limit := by
    rw [first]
    exact fun sample member => List.mem_of_mem_take member
  obtain ⟨part, ran, listed⟩ := lists.exists_run task profiles settings sampling steady kept
    among state
  rw [first] at listed
  exact ⟨part, ran, lists.eq_take listed⟩

/-- A run with the samples in another order has the entries in that order. -/
theorem Lists.permuted (steady : Steady reply answer)
    (lists : Lists (task.outcome profiles settings sampling reply) (task.selection limit) report)
    (nonempty : task.selection limit ≠ [])
    (order : Equiv.Perm (Fin (task.selection limit).length)) {most : Option Nat}
    (admits : Admits most (task.selection limit).length) (state : σ) :
    ∃ other, (((task.withSamples (List.ofFn fun i => (task.selection limit)[order i])).run
        profiles settings sampling most true).run answer state).1 = .ok other ∧
      other.entries.length = report.entries.length ∧
      ∀ i, other.entries[i.val]? =
        (report.entries[(order i).val]?).map (LogEntry.moved · i) := by
  let others := List.ofFn fun i => (task.selection limit)[order i]
  have length : others.length = (task.selection limit).length := List.length_ofFn
  have kept : others ≠ [] := by
    rw [← List.length_pos_iff, length]
    exact List.length_pos_iff.2 nonempty
  have among : ∀ sample ∈ others, sample ∈ task.selection limit := by
    intro sample member
    obtain ⟨i, rfl⟩ := List.mem_ofFn.1 member
    exact List.getElem_mem _
  obtain ⟨other, ran, listed⟩ := lists.exists_run_withSamples task profiles settings sampling
    steady kept among (length ▸ admits) state
  refine ⟨other, ran, listed.length.trans (length.trans lists.length.symm), fun i => ?_⟩
  have here : (task.selection limit)[(order i).val]? = some (task.selection limit)[order i] :=
    List.getElem?_eq_getElem (order i).isLt
  have there : others[i.val]? = some (task.selection limit)[order i] := by
    rw [List.getElem?_ofFn, dif_pos i.isLt]
  exact lists.getElem?_eq listed here there

/-- The samples of a run with steady parties do not influence each other, however many of them are
evaluated side by side. -/
theorem run_independent (steady : Steady reply answer) {state : σ}
    (ran : ((task.run profiles settings sampling limit true).run answer state).1 = .ok report) :
    task.Independent profiles settings sampling limit answer report := by
  have nonempty := selection_ne_nil_of_run task profiles settings sampling limit true ran
  have lists := lists_of_run task profiles settings sampling steady ran
  exact {
    length := lists.length
    alone := fun _ _ found => lists.alone task profiles settings sampling steady found
    shorter := fun _ positive admits state =>
      lists.shorter task profiles settings sampling steady nonempty positive admits state
    permuted := fun order _ admits state =>
      lists.permuted task profiles settings sampling steady nonempty order admits state }

/-- Two questions that are evaluated side by side have the entries that each has alone. -/
theorem run_independent_twoQuestions :
    Steady (fun _ _ => answering) (replying fun _ _ => answering) ∧
      ∃ report, ((twoQuestions.run plainProfile {} {} none true).run
          (replying fun _ _ => answering) ()).1 = .ok report ∧
        report.entries.length = 2 ∧
        ∀ (place : Nat) (entry : LogEntry), report.entries[place]? = some entry →
          ∃ sample, twoQuestions.samples[place]? = some sample ∧
            ∃ single, (((twoQuestions.withSamples [sample]).run plainProfile {} {} none true).run
              (replying fun _ _ => answering) ()).1 = .ok single ∧
              single.entries = [entry.moved 0] := by
  have steady := steady_replying fun _ _ => answering
  have nonempty : twoQuestions.selection none ≠ [] := List.cons_ne_nil _ _
  have ran : ∃ report, ((twoQuestions.run plainProfile {} {} none true).run
      (replying fun _ _ => answering) ()).1 = .ok report := by
    rw [run_steady twoQuestions plainProfile {} {} steady nonempty]
    exact ⟨_, rfl⟩
  obtain ⟨report, ran⟩ := ran
  have independent := run_independent twoQuestions plainProfile {} {} steady ran
  refine ⟨steady, report, ran, independent.length, fun place entry found => ?_⟩
  obtain ⟨sample, before, alone⟩ := independent.alone place entry found
  exact ⟨sample, before, alone none (fun _ impossible => nomatch impossible) ()⟩

end

end Task
end Assay
