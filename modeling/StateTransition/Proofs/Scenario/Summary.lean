import StateTransition.Proofs.Execution.Outcome
import StateTransition.Scenario.Run

/-!
The figures of a run and the order of its reports. Neither depends on the order in which reports come
in: counting commutes, and a sorted list is told by what it holds. A run has an outcome where none of
its executions stops on an overflow.
-/

namespace StateTransition.Scenario

section ThenBy

variable {α : Type} {text : α → String} {second : α → α → Bool}

def thenBy (text : α → String) (second : α → α → Bool) (left right : α) : Bool :=
  text left < text right || (text left == text right && second left right)

theorem thenBy_iff {left right : α} : thenBy text second left right = true ↔
    text left < text right ∨ text left = text right ∧ second left right = true := by
  simp [thenBy]

theorem thenBy_trans (text : α → String)
    (trans : ∀ a b c, second a b = true → second b c = true → second a c = true)
    (a b c : α) (first : thenBy text second a b = true) (next : thenBy text second b c = true) :
    thenBy text second a c = true := by
  rw [thenBy_iff] at first next ⊢
  rcases first with less | ⟨same, first⟩ <;> rcases next with below | ⟨alike, next⟩
  · exact Or.inl (String.lt_trans less below)
  · exact Or.inl (alike ▸ less)
  · exact Or.inl (same ▸ below)
  · exact Or.inr ⟨same.trans alike, trans a b c first next⟩

theorem thenBy_total (text : α → String) (total : ∀ a b, (second a b || second b a) = true) (a b : α) :
    (thenBy text second a b || thenBy text second b a) = true := by
  rw [Bool.or_eq_true, thenBy_iff, thenBy_iff]
  by_cases same : text a = text b
  · rcases Bool.or_eq_true_iff.mp (total a b) with forward | backward
    · exact Or.inl (Or.inr ⟨same, forward⟩)
    · exact Or.inr (Or.inr ⟨same.symm, backward⟩)
  · rcases String.le_total (text a) (text b) with le | le
    · exact Or.inl (Or.inl (Std.lt_of_le_of_ne le same))
    · exact Or.inr (Or.inl (Std.lt_of_le_of_ne le (Ne.symm same)))

end ThenBy

/-- Reports by name and then by fork. -/
def Report.InOrder (left right : Report) : Prop :=
  left.name < right.name ∨ left.name = right.name ∧ left.fork ≤ right.fork

def FailureInOrder (left right : String × String) : Prop :=
  left.1 < right.1 ∨ left.1 = right.1 ∧ left.2 ≤ right.2

theorem reportsInOrder_iff {left right : Report} :
    reportsInOrder left right = true ↔ left.InOrder right := by
  simp [reportsInOrder, Report.InOrder]

theorem failuresInOrder_iff {left right : String × String} :
    failuresInOrder left right = true ↔ FailureInOrder left right := by
  simp [failuresInOrder, FailureInOrder]

theorem reportsInOrder_trans (a b c : Report) :
    reportsInOrder a b = true → reportsInOrder b c = true → reportsInOrder a c = true := by
  have forks (a b c : Report) (first : decide (a.fork ≤ b.fork) = true)
      (next : decide (b.fork ≤ c.fork) = true) : decide (a.fork ≤ c.fork) = true :=
    decide_eq_true (Nat.le_trans (of_decide_eq_true first) (of_decide_eq_true next))
  exact thenBy_trans Report.name forks a b c

theorem reportsInOrder_total (a b : Report) :
    (reportsInOrder a b || reportsInOrder b a) = true := by
  have forks (a b : Report) : (decide (a.fork ≤ b.fork) || decide (b.fork ≤ a.fork)) = true := by
    rw [Bool.or_eq_true, decide_eq_true_eq, decide_eq_true_eq]
    exact Nat.le_total _ _
  exact thenBy_total Report.name forks a b

theorem failuresInOrder_trans (a b c : String × String) :
    failuresInOrder a b = true → failuresInOrder b c = true → failuresInOrder a c = true := by
  have reasons (a b c : String × String) (first : decide (a.2 ≤ b.2) = true)
      (next : decide (b.2 ≤ c.2) = true) : decide (a.2 ≤ c.2) = true :=
    decide_eq_true (String.le_trans (of_decide_eq_true first) (of_decide_eq_true next))
  exact thenBy_trans Prod.fst reasons a b c

theorem failuresInOrder_total (a b : String × String) :
    (failuresInOrder a b || failuresInOrder b a) = true := by
  have reasons (a b : String × String) : (decide (a.2 ≤ b.2) || decide (b.2 ≤ a.2)) = true := by
    rw [Bool.or_eq_true, decide_eq_true_eq, decide_eq_true_eq]
    exact String.le_total _ _
  exact thenBy_total Prod.fst reasons a b

theorem failuresInOrder_antisymm {a b : String × String} (first : failuresInOrder a b = true)
    (back : failuresInOrder b a = true) : a = b := by
  rw [failuresInOrder_iff] at first back
  rcases first with less | ⟨ids, first⟩ <;> rcases back with more | ⟨same, back⟩
  · exact absurd more (String.lt_asymm less)
  · exact absurd (same ▸ less) (String.lt_irrefl _)
  · exact absurd (ids ▸ more) (String.lt_irrefl _)
  · exact Prod.ext ids (String.le_antisymm first back)

/-- Sorting keeps the order of those that are alike. -/
theorem filter_mergeSort {α : Type} {inOrder : α → α → Bool}
    (trans : ∀ a b c, inOrder a b = true → inOrder b c = true → inOrder a c = true)
    (total : ∀ a b, (inOrder a b || inOrder b a) = true) {alike : α → Bool}
    (ties : ∀ a b, alike a = true → alike b = true → inOrder a b = true) (values : List α) :
    (values.mergeSort inOrder).filter alike = values.filter alike := by
  have class_ordered : (values.filter alike).Pairwise fun a b => inOrder a b = true := by
    refine List.pairwise_of_forall_mem_list fun a inA b inB => ?_
    exact ties a b (List.mem_filter.mp inA).2 (List.mem_filter.mp inB).2
  have kept : (values.filter alike).Sublist (values.mergeSort inOrder) :=
    List.sublist_mergeSort trans total class_ordered List.filter_sublist
  have inside : (values.filter alike).Sublist ((values.mergeSort inOrder).filter alike) := by
    have twice := kept.filter alike
    rwa [List.filter_filter, funext fun a => Bool.and_self (alike a)] at twice
  have lengths : (values.filter alike).length = ((values.mergeSort inOrder).filter alike).length :=
    ((List.mergeSort_perm values inOrder).filter alike).length_eq.symm
  exact (inside.eq_of_length lengths).symm

theorem mergeSort_failures_congr {one other : List (String × String)} (same : one.Perm other) :
    one.mergeSort failuresInOrder = other.mergeSort failuresInOrder := by
  have perm : (one.mergeSort failuresInOrder).Perm (other.mergeSort failuresInOrder) :=
    ((List.mergeSort_perm one _).trans same).trans (List.mergeSort_perm other _).symm
  exact perm.eq_of_pairwise (fun _ _ _ _ => failuresInOrder_antisymm)
    (List.pairwise_mergeSort failuresInOrder_trans failuresInOrder_total one)
    (List.pairwise_mergeSort failuresInOrder_trans failuresInOrder_total other)

def Report.failure (report : Report) : String × String := (report.id, report.reason)

def failuresOf (reports : List Report) : List (String × String) :=
  (reports.filter fun report => !report.passed).map Report.failure

namespace Statistics

theorem foldl_record (reports : List Report) (start : Statistics) :
    reports.foldl record start =
      { total := start.total + reports.length
        passed := start.passed + reports.countP Report.passed
        failed := start.failed + reports.countP fun report => !report.passed
        skipped := start.skipped
        failures := start.failures ++ failuresOf reports } := by
  induction reports generalizing start with
  | nil => simp [failuresOf]
  | cons report rest ih =>
    rw [List.foldl_cons, ih, record]
    by_cases passes : report.passed = true
    · simp [passes, failuresOf]
      omega
    · simp [passes, failuresOf, Report.failure]
      omega

theorem ofReports_eq (skipped : Nat) (reports : List Report) :
    ofReports skipped reports =
      { total := reports.length
        passed := reports.countP Report.passed
        failed := reports.countP fun report => !report.passed
        skipped
        failures := (failuresOf reports).mergeSort failuresInOrder } := by
  simp [ofReports, foldl_record]

theorem ofReports_congr (skipped : Nat) {one other : List Report} (same : one.Perm other) :
    ofReports skipped one = ofReports skipped other := by
  have failures : (failuresOf one).Perm (failuresOf other) := (same.filter _).map _
  rw [ofReports_eq, ofReports_eq, same.length_eq, same.countP_eq, same.countP_eq,
    mergeSort_failures_congr failures]

end Statistics

theorem containsPart_iff_infix {part text : List Char} :
    containsPart part text = true ↔ part <:+: text := by
  induction text with
  | nil => simp [containsPart, List.isEmpty_iff]
  | cons c rest ih =>
    rw [containsPart, Bool.or_eq_true, ih, List.isPrefixOf_iff_prefix, List.infix_cons_iff]

namespace RunSettings

variable {settings : RunSettings}

def jobs (settings : RunSettings) (scenarios : List Scenario) : List (Scenario × Fork) :=
  (scenarios.filter settings.selects).flatMap fun scenario =>
    (settings.forks.filter scenario.appliesTo).map fun fork => (scenario, fork)

def jobReport? (settings : RunSettings) (job : Scenario × Fork) : Option Report :=
  settings.report? job.1 job.2

/-- The execution of a job stops on an overflow. -/
def Stops (settings : RunSettings) (job : Scenario × Fork) : Prop :=
  ∃ plan, job.1.plan (Mainnet.rules job.2) settings.chainId = .ok plan ∧
    (Evm.PriceOverflows (Mainnet.rules job.2) settings.limits plan.before plan.environment
        plan.transaction ∨
      Evm.RefundOverflows (Mainnet.rules job.2) settings.limits plan.before plan.environment
        plan.transaction)

def skipped (settings : RunSettings) (scenarios : List Scenario) : Nat :=
  (settings.pairs scenarios).countP fun job => !job.1.appliesTo job.2

theorem filter_pairs (settings : RunSettings) (scenarios : List Scenario) :
    (settings.pairs scenarios).filter (fun job => job.1.appliesTo job.2) =
      settings.jobs scenarios := by
  rw [pairs, List.filter_flatMap, jobs]
  congr 1
  ext1 scenario
  rw [List.filter_map]
  rfl

theorem selects_iff {scenario : Scenario} : settings.selects scenario = true ↔
    ∀ part ∈ settings.filter, part.toList <:+: scenario.name.toList := by
  cases given : settings.filter with
  | none => simp [selects, given]
  | some part => simp [selects, given, containsPart_iff_infix]

theorem jobReport?_eq_none_iff {job : Scenario × Fork} :
    settings.jobReport? job = none ↔ settings.Stops job := by
  rw [jobReport?, report?, Option.map_eq_none_iff, verdict?, Stops]
  cases job.1.plan (Mainnet.rules job.2) settings.chainId with
  | error cause => simp
  | ok plan =>
    simp only [Except.ok.injEq, exists_eq_left', ← Evm.outcome_eq_overflow_iff]
    split
    · simp [*]
    · split <;> simp [*]

/-- A report passes if the scenario could be set up, no limit stopped its transaction, and the world
after it has all that is expected. -/
theorem passed_iff_of_report? {scenario : Scenario} {fork : Fork} {made : Report}
    (reports : settings.report? scenario fork = some made) :
    made.passed = true ↔
      ∃ plan, scenario.plan (Mainnet.rules fork) settings.chainId = .ok plan ∧
        let result := Evm.execute (Mainnet.rules fork) settings.limits plan.before
          plan.environment plan.transaction
        result.aborted = false ∧ verify plan.expected result.post = [] := by
  obtain ⟨found, verdicts, rfl⟩ := Option.map_eq_some_iff.mp reports
  rw [verdict?] at verdicts
  rw [Report.passed]
  cases planned : scenario.plan (Mainnet.rules fork) settings.chainId with
  | error cause =>
    rw [planned] at verdicts
    cases verdicts
    simp [Verdict.passed, Verdict.error?]
  | ok plan =>
    rw [planned] at verdicts
    simp only at verdicts
    split at verdicts
    · cases verdicts
    · split at verdicts
      · rename_i aborted
        cases verdicts
        simp [aborted, Verdict.passed, Verdict.error?]
      · rename_i completed
        cases verdicts
        simp [completed, Verdict.passed, Verdict.error?, Verdict.mismatches]

end RunSettings

section MapM

variable {α β : Type} {f : α → Option β}

theorem mapM_eq_some_iff {values : List α} {made : List β} :
    values.mapM f = some made ↔ values.map f = made.map some := by
  induction values generalizing made with
  | nil => cases made <;> simp [List.mapM_nil]
  | cons value rest ih =>
    rw [List.mapM_cons, List.map_cons]
    cases first : f value with
    | none => cases made <;> simp
    | some result =>
      cases made with
      | nil => cases rest.mapM f <;> simp
      | cons head tail =>
        simp only [List.map_cons, List.cons.injEq, ← ih, Option.some.injEq]
        cases rest.mapM f <;> simp

theorem mapM_eq_none_iff {values : List α} :
    values.mapM f = none ↔ ∃ value ∈ values, f value = none := by
  induction values with
  | nil => simp [List.mapM_nil]
  | cons value rest ih =>
    rw [List.mapM_cons]
    cases first : f value with
    | none => simp [first]
    | some result =>
      simp only [List.mem_cons, exists_eq_or_imp, first, reduceCtorEq, false_or, ← ih]
      cases rest.mapM f <;> simp

end MapM

def RunSettings.jobReports? (settings : RunSettings) (scenarios : List Scenario) :
    Option (List Report) :=
  (settings.jobs scenarios).mapM settings.jobReport?

theorem run_eq (settings : RunSettings) (scenarios : List Scenario) :
    run settings scenarios =
      (settings.jobReports? scenarios).map fun made =>
        ⟨.ofReports (settings.skipped scenarios) made, made.mergeSort reportsInOrder⟩ := by
  rw [RunSettings.jobReports?, ← RunSettings.filter_pairs, RunSettings.skipped,
    List.countP_eq_length_filter]
  simp only [run, List.partition_eq_filter_filter]
  rfl

theorem run_eq_none_iff {settings : RunSettings} {scenarios : List Scenario} :
    run settings scenarios = none ↔ ∃ job ∈ settings.jobs scenarios, settings.Stops job := by
  rw [run_eq, Option.map_eq_none_iff, RunSettings.jobReports?, mapM_eq_none_iff]
  simp only [RunSettings.jobReport?_eq_none_iff]

/-- What the outcome of a run says of its jobs, whose reports are `made`. -/
structure RunSettings.Summarizes (settings : RunSettings) (scenarios : List Scenario)
    (made : List Report) (result : RunResult) : Prop where
  own : (settings.jobs scenarios).map (fun job => settings.report? job.1 job.2) = made.map some
  complete : result.reports.Perm made
  ordered : result.reports.Pairwise Report.InOrder
  ties : ∀ name fork,
    result.reports.filter (fun report => report.name = name ∧ report.fork = fork) =
      made.filter fun report => report.name = name ∧ report.fork = fork
  total : result.statistics.total = result.reports.length
  passed : result.statistics.passed = result.reports.countP Report.passed
  failed : result.statistics.passed + result.statistics.failed = result.statistics.total
  skipped : result.statistics.skipped = settings.skipped scenarios
  failures : result.statistics.failures.Perm
    ((result.reports.filter fun report => !report.passed).map fun report =>
      (report.id, report.reason))
  failuresOrdered : result.statistics.failures.Pairwise FailureInOrder

theorem summarizes_run {settings : RunSettings} {scenarios : List Scenario} {result : RunResult}
    (runs : run settings scenarios = some result) :
    ∃ made, settings.Summarizes scenarios made result := by
  rw [run_eq] at runs
  obtain ⟨made, reports, rfl⟩ := Option.map_eq_some_iff.mp runs
  have sorted : (made.mergeSort reportsInOrder).Perm made := List.mergeSort_perm _ _
  refine ⟨made, ?_⟩
  rw [Statistics.ofReports_eq]
  constructor
  · exact mapM_eq_some_iff.mp reports
  · exact sorted
  · exact (List.pairwise_mergeSort reportsInOrder_trans reportsInOrder_total _).imp
      reportsInOrder_iff.mp
  · intro name fork
    refine filter_mergeSort reportsInOrder_trans reportsInOrder_total (fun a b here there => ?_) _
    obtain ⟨rfl, rfl⟩ := of_decide_eq_true here
    obtain ⟨names, forks⟩ := of_decide_eq_true there
    exact reportsInOrder_iff.mpr (Or.inr ⟨names.symm, Nat.le_of_eq (congrArg Fork.index forks.symm)⟩)
  · exact sorted.length_eq.symm
  · exact (sorted.countP_eq _).symm
  · have split : made.length = _ :=
      List.length_eq_countP_add_countP Report.passed
    simpa using split.symm
  · rfl
  · have listed : (made.filter fun report => !report.passed).Perm
        ((made.mergeSort reportsInOrder).filter fun report => !report.passed) :=
      (sorted.filter _).symm
    exact (List.mergeSort_perm _ _).trans (listed.map Report.failure)
  · exact (List.pairwise_mergeSort failuresInOrder_trans failuresInOrder_total _).imp
      failuresInOrder_iff.mp

end StateTransition.Scenario
