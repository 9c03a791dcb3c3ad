import Mathlib.Logic.Relation
import StateTransition.Proofs.Fork.Mainnet
import StateTransition.Proofs.Scenario.Summary

/-!
Scenarios run by workers at a time. A worker takes a job, makes its report, and later records it in
figures that all workers share; in which order jobs are taken and reports recorded is open. Every such
run can be brought to an end, and ends with the reports and figures of the run in order, or without
any where an execution stops on an overflow.
-/

namespace StateTransition.Scenario

/-- How far a job has come. A report that is made but not recorded is in the hands of a worker. -/
inductive Stage where
  | waiting
  | made (report : Report)
  | recorded (report : Report)
  | stopped

structure Task where
  job : Scenario × Fork
  stage : Stage

structure Pool where
  tasks : List Task
  statistics : Statistics

namespace Stage

def recorded? : Stage → Option Report
  | recorded report => some report
  | _ => none

def isStopped : Stage → Bool
  | stopped => true
  | _ => false

/-- What became of a job is what its execution leads to. -/
def Reports (report? : Option Report) : Stage → Prop
  | waiting => True
  | made report | recorded report => report? = some report
  | stopped => report? = none

def movesLeft : Stage → Nat
  | waiting => 2
  | made _ => 1
  | recorded _ | stopped => 0

end Stage

def totalMoves : List Task → Nat
  | [] => 0
  | task :: rest => task.stage.movesLeft + totalMoves rest

theorem totalMoves_append (front back : List Task) :
    totalMoves (front ++ back) = totalMoves front + totalMoves back := by
  induction front with
  | nil => simp [totalMoves]
  | cons task rest ih => simp [totalMoves, ih, Nat.add_assoc]

namespace Pool

def start (settings : RunSettings) (scenarios : List Scenario) : Pool where
  tasks := (settings.jobs scenarios).map fun job => ⟨job, .waiting⟩
  statistics := { skipped := settings.skipped scenarios }

/-- A move of some worker, at whatever job. -/
inductive Move (settings : RunSettings) : Pool → Pool → Prop where
  | make {before after : List Task} {job : Scenario × Fork} {report : Report}
      {statistics : Statistics} (reports : settings.jobReport? job = some report) :
      Move settings ⟨before ++ ⟨job, .waiting⟩ :: after, statistics⟩
        ⟨before ++ ⟨job, .made report⟩ :: after, statistics⟩
  | stop {before after : List Task} {job : Scenario × Fork} {statistics : Statistics}
      (stops : settings.jobReport? job = none) :
      Move settings ⟨before ++ ⟨job, .waiting⟩ :: after, statistics⟩
        ⟨before ++ ⟨job, .stopped⟩ :: after, statistics⟩
  | record {before after : List Task} {job : Scenario × Fork} {report : Report}
      {statistics : Statistics} :
      Move settings ⟨before ++ ⟨job, .made report⟩ :: after, statistics⟩
        ⟨before ++ ⟨job, .recorded report⟩ :: after, statistics.record report⟩

abbrev Reaches (settings : RunSettings) : Pool → Pool → Prop :=
  Relation.ReflTransGen (Move settings)

def reports (pool : Pool) : List Report := pool.tasks.filterMap fun task => task.stage.recorded?

def isStopped (pool : Pool) : Bool := pool.tasks.any fun task => task.stage.isStopped

/-- All is recorded, or a job has stopped; then it does not matter what becomes of the others. -/
def IsOver (pool : Pool) : Prop :=
  pool.isStopped = true ∨ ∀ task ∈ pool.tasks, task.stage.recorded?.isSome = true

def summary (pool : Pool) : RunResult where
  statistics :=
    { pool.statistics with
      failures := pool.statistics.failures.mergeSort failuresInOrder }
  reports := pool.reports.mergeSort reportsInOrder

def result (pool : Pool) : Option RunResult := if pool.isStopped then none else some pool.summary

def movesLeft (pool : Pool) : Nat := totalMoves pool.tasks

variable {settings : RunSettings} {scenarios : List Scenario} {pool next : Pool}

/-- The jobs stay in their places, each with its own report, and the figures are those of the
recorded reports in some order. -/
structure Consistent (settings : RunSettings) (scenarios : List Scenario) (pool : Pool) : Prop where
  jobs : pool.tasks.map Task.job = settings.jobs scenarios
  own : ∀ task ∈ pool.tasks, task.stage.Reports (settings.jobReport? task.job)
  counted : ∃ order : List Report, order.Perm pool.reports ∧
    pool.statistics = order.foldl Statistics.record { skipped := settings.skipped scenarios }

theorem consistent_start : (start settings scenarios).Consistent settings scenarios := by
  constructor
  · simp [start, Function.comp_def]
  · intro task listed
    obtain ⟨job, -, rfl⟩ := List.mem_map.mp listed
    trivial
  · refine ⟨[], ?_, rfl⟩
    simp [start, reports, Stage.recorded?]

theorem reports_replace (before after : List Task) {task next : Task} (statistics : Statistics)
    (none : task.stage.recorded? = none) (still : next.stage.recorded? = .none) :
    reports ⟨before ++ next :: after, statistics⟩ =
      reports ⟨before ++ task :: after, statistics⟩ := by
  simp [reports, none, still]

theorem reports_record (before after : List Task) (job : Scenario × Fork) (report : Report)
    (statistics counted : Statistics) :
    (reports ⟨before ++ ⟨job, .recorded report⟩ :: after, counted⟩).Perm
      (reports ⟨before ++ ⟨job, .made report⟩ :: after, statistics⟩ ++ [report]) := by
  simp only [reports, List.filterMap_append, List.filterMap_cons, Stage.recorded?]
  exact List.perm_middle.trans (List.perm_append_singleton report _).symm

theorem forall_replace {holds : Task → Prop} {before after : List Task} {task next : Task}
    (all : ∀ other ∈ before ++ task :: after, holds other) (fresh : holds next) :
    ∀ other ∈ before ++ next :: after, holds other := by
  intro other listed
  rcases List.mem_append.mp listed with inFront | behind
  · exact all other (List.mem_append_left _ inFront)
  · rcases List.mem_cons.mp behind with rfl | behind
    · exact fresh
    · exact all other (List.mem_append_right _ (List.mem_cons_of_mem _ behind))

theorem Consistent.move (consistent : pool.Consistent settings scenarios)
    (move : Move settings pool next) : next.Consistent settings scenarios := by
  obtain ⟨jobs, own, order, same, counted⟩ := consistent
  cases move with
  | make reports =>
    refine ⟨by simpa using jobs, forall_replace own reports, order, ?_, counted⟩
    exact same.trans (.of_eq (reports_replace _ _ _ rfl rfl).symm)
  | stop stops =>
    refine ⟨by simpa using jobs, forall_replace own stops, order, ?_, counted⟩
    exact same.trans (.of_eq (reports_replace _ _ _ rfl rfl).symm)
  | @record before after job report statistics =>
    have mine : settings.jobReport? job = some report := own ⟨job, .made report⟩ (by simp)
    refine ⟨by simpa using jobs, forall_replace own mine, order ++ [report], ?_, ?_⟩
    · exact (same.append_right [report]).trans (reports_record _ _ _ _ _ _).symm
    · rw [List.foldl_append, ← counted]
      rfl

theorem movesLeft_lt (move : Move settings pool next) : next.movesLeft < pool.movesLeft := by
  cases move <;> simp [movesLeft, totalMoves_append, totalMoves, Stage.movesLeft]

theorem exists_move (settings : RunSettings) (unfinished : ¬ pool.IsOver) :
    ∃ next, Move settings pool next := by
  obtain ⟨goes, unrecorded⟩ := not_or.mp unfinished
  obtain ⟨⟨job, stage⟩, pending⟩ := Classical.not_forall.mp unrecorded
  obtain ⟨listed, missing⟩ := Classical.not_imp.mp pending
  obtain ⟨before, after, split⟩ := List.append_of_mem listed
  obtain ⟨tasks, statistics⟩ := pool
  obtain rfl : tasks = before ++ ⟨job, stage⟩ :: after := split
  cases stage with
  | waiting =>
    cases reports : settings.jobReport? job with
    | some report => exact ⟨_, .make reports⟩
    | none => exact ⟨_, .stop reports⟩
  | made report => exact ⟨_, .record⟩
  | recorded report => exact absurd rfl missing
  | stopped => exact absurd (by simp [isStopped, Stage.isStopped]) goes

theorem consistent_of_reaches (reaches : Reaches settings (start settings scenarios) pool) :
    pool.Consistent settings scenarios := by
  induction reaches with
  | refl => exact consistent_start
  | tail _ move consistent => exact consistent.move move

/-- Moves run out, so a run that goes on comes to its end. -/
theorem exists_over (settings : RunSettings) (pool : Pool) :
    ∃ final, Reaches settings pool final ∧ final.IsOver := by
  by_cases ended : pool.IsOver
  · exact ⟨pool, .refl, ended⟩
  · obtain ⟨next, move⟩ := exists_move settings ended
    have fewer := movesLeft_lt move
    obtain ⟨final, reaches, ended⟩ := exists_over settings next
    exact ⟨final, .head move reaches, ended⟩
termination_by pool.movesLeft

theorem mapM_jobReport? {tasks : List Task}
    (own : ∀ task ∈ tasks, task.stage.Reports (settings.jobReport? task.job))
    (finished : ∀ task ∈ tasks, task.stage.recorded?.isSome = true) :
    (tasks.map Task.job).mapM settings.jobReport? =
      some (tasks.filterMap fun task => task.stage.recorded?) := by
  rw [mapM_eq_some_iff]
  induction tasks with
  | nil => rfl
  | cons task rest ih =>
    have tail := ih (fun other listed => own other (List.mem_cons_of_mem _ listed))
      fun other listed => finished other (List.mem_cons_of_mem _ listed)
    have mine := own task List.mem_cons_self
    have done := finished task List.mem_cons_self
    obtain ⟨job, stage⟩ := task
    cases stage with
    | waiting | made report | stopped => cases done
    | recorded report =>
      have mine : settings.jobReport? job = some report := mine
      rw [List.filterMap_cons, List.map_cons, List.map_cons, tail, mine]
      rfl

theorem Consistent.run_eq_none (consistent : pool.Consistent settings scenarios)
    (stopped : pool.isStopped = true) : run settings scenarios = none := by
  obtain ⟨task, listed, stopped⟩ := List.any_eq_true.mp stopped
  have own := consistent.own task listed
  rw [run_eq_none_iff, ← consistent.jobs]
  refine ⟨task.job, List.mem_map_of_mem listed, ?_⟩
  rw [← RunSettings.jobReport?_eq_none_iff]
  cases stage : task.stage with
  | stopped =>
    rw [stage] at own
    exact own
  | waiting | made report | recorded report =>
    rw [stage] at stopped
    cases stopped

theorem Consistent.summary_eq (consistent : pool.Consistent settings scenarios)
    (finished : ∀ task ∈ pool.tasks, task.stage.recorded?.isSome = true) :
    run settings scenarios = some pool.summary := by
  have reports := mapM_jobReport? consistent.own finished
  obtain ⟨order, same, counted⟩ := consistent.counted
  have figures := Statistics.ofReports_congr (settings.skipped scenarios) same
  rw [run_eq, RunSettings.jobReports?, ← consistent.jobs, reports, summary, counted]
  exact congrArg (fun statistics => some (⟨statistics, _⟩ : RunResult)) figures.symm

theorem Consistent.result_eq (consistent : pool.Consistent settings scenarios)
    (ended : pool.IsOver) : pool.result = run settings scenarios := by
  rw [result]
  split
  · rename_i stopped
    exact (consistent.run_eq_none stopped).symm
  · rename_i goes
    exact (consistent.summary_eq (ended.resolve_left goes)).symm

end Pool

/-- However workers take jobs and record reports, the run can be brought to an end, and its end is the
outcome of the run in order. There is none exactly where the execution of some job stops on an
overflow. Otherwise the outcome has one report for each scenario whose name has the filter in it and
each fork of the run in its range, sorted and with figures to match; a report passes if the scenario
could be set up, was not stopped by a limit, and left what is expected. -/
theorem workers_agree (settings : RunSettings) (scenarios : List Scenario) :
    (∀ pool, Pool.Reaches settings (.start settings scenarios) pool →
      (∃ final, Pool.Reaches settings pool final ∧ final.IsOver) ∧
        (pool.IsOver → pool.result = run settings scenarios)) ∧
      (run settings scenarios = none ↔
        ∃ job ∈ settings.jobs scenarios, settings.Stops job) ∧
      (∀ result, run settings scenarios = some result →
        ∃ made, settings.Summarizes scenarios made result) ∧
      (∀ scenario, settings.selects scenario = true ↔
        ∀ part ∈ settings.filter, part.toList <:+: scenario.name.toList) ∧
      ∀ scenario fork made, settings.report? scenario fork = some made → (made.passed = true ↔
        ∃ plan, scenario.plan (Mainnet.rules fork) settings.chainId = .ok plan ∧
          let result := Evm.execute (Mainnet.rules fork) settings.limits plan.before
            plan.environment plan.transaction
          result.aborted = false ∧ verify plan.expected result.post = []) := by
  refine ⟨?_, run_eq_none_iff, fun result => summarizes_run, fun _ => RunSettings.selects_iff,
    fun _ _ _ => RunSettings.passed_iff_of_report?⟩
  intro pool reaches
  refine ⟨Pool.exists_over settings pool, fun ended => ?_⟩
  exact (Pool.consistent_of_reaches reaches).result_eq ended

/-- A call whose gas limit at its price costs more than a word can hold, signed with the key 1. -/
def dearCall : SignedTransaction where
  tx :=
    { nonce := 0
      gasLimit := 21000
      recipient := some ⟨0x2000#160⟩
      value := 0#256
      data := []
      kind := .legacy (1#256 <<< 255) (some 1) }
  v := 38
  r := ⟨0xd69779b2171eadee258b15ab2b5aca477c307e2fbf9b439f31449e9b5b351a91#256⟩
  s := ⟨0x5378d24c24016e380219e05c68572ae117ea0cadf66015a51bc37690b66b3c1f#256⟩

/-- The sender holds as much as an account can. -/
def dearScenario : Scenario where
  name := "dear"
  range := .starting .frontier
  plan := fun _ _ => .ok
    { environment := {}
      before := .ofList
        [(⟨0x7e5f4552091a69125d5dfcb7b8c2659029395bdf#160⟩, { balance := BitVec.allOnes 256 })]
      transaction := dearCall
      expected := ∅ }

theorem sender_dearCall :
    dearCall.sender = .ok ⟨0x7e5f4552091a69125d5dfcb7b8c2659029395bdf#160⟩ := by
  apply Evm.eq_ok_of_toOption
  decide +kernel

/-- It is the one job of the run, and there is no report. -/
theorem dear_scenario_unreported :
    RunSettings.jobs { forks := [.london] } [dearScenario] = [(dearScenario, .london)] ∧
      run { forks := [.london] } [dearScenario] = none := by
  refine ⟨rfl, ?_⟩
  rw [run_eq_none_iff]
  refine ⟨(dearScenario, .london), List.mem_singleton_self _, _, rfl, .inl ?_⟩
  have checked : (Evm.validate (Mainnet.rules .london) (.ofList
        [(⟨0x7e5f4552091a69125d5dfcb7b8c2659029395bdf#160⟩, { balance := BitVec.allOnes 256 })])
      {} dearCall).toOption.map Evm.Accepted.gasPrice = some (1#256 <<< 255) := by
    rw [Mainnet.rules_eq_readOff, Evm.validate, sender_dearCall]
    decide +kernel
  obtain ⟨accepted, validated, price⟩ := Option.map_eq_some_iff.mp checked
  refine ⟨accepted, Evm.eq_ok_of_toOption validated, ?_, ?_⟩
  · rintro ⟨ceiling, limited, above⟩
    cases limited
  · rw [price]
    decide

end StateTransition.Scenario
