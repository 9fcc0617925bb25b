import AluBench.Program.Exit
import AluBench.Proofs.Operation.Names
import AluBench.Proofs.Sweep

/-!
# What comes of a bench run

Besides the vectors a bench has only its options and the log file to go by, and the wire it runs on
is right. So what comes of it is known beforehand: the log file decides first, then the names, and
then every vector passes.

    (execute host o).result = due host o                                      (result_execute)
-/

namespace AluBench

/-! ## What is due -/

/-- The options name the operation, or no operation at all. -/
def Options.names (o : Options) (op : Operation) : Bool :=
  o.operations.isEmpty || o.operations.any fun name => Operation.ofMnemonic? name == some op

/-- The number of vectors that the options ask for: a sweep counts a name as often as it is given,
the table counts each of its vectors once. -/
def Options.dueVectors (o : Options) : Nat :=
  if o.sweep then 256 * (if o.operations = [] then 6 else o.operations.length)
  else TestVector.table.countP fun v => v.operation?.any o.names

/-- What the log file and the options decide. -/
def Bench.due (host : Host) (o : Options) : Except Failure Report :=
  match o.logPath.map host.createLog with
  | some (.error cause) => .error (.io cause)
  | _ =>
    match Operation.firstUnknown? o.operations with
    | some name => .error (.unknownOperation name)
    | none =>
      .ok
        { policy := if o.collectAll then .collectAll else .failFast
          total := o.dueVectors
          executed := o.dueVectors
          passed := o.dueVectors
          mismatches := []
          halted := false }

/-! ## The vectors -/

theorem Options.names_iff {o : Options} {op : Operation} :
    o.names op = true ↔
      o.operations = [] ∨ ∃ name ∈ o.operations, Operation.ofMnemonic? name = some op := by
  simp [names]

/-- The table does not tell in which order and how often operations are named. -/
theorem Options.dueVectors_congr {o p : Options} (ho : o.sweep = false) (hp : p.sweep = false)
    (hmem : ∀ name, name ∈ o.operations ↔ name ∈ p.operations) : o.dueVectors = p.dueVectors := by
  have hnames : o.names = p.names := by
    funext op
    rw [Bool.eq_iff_iff, names_iff, names_iff, List.eq_nil_iff_forall_not_mem,
      List.eq_nil_iff_forall_not_mem]
    simp only [hmem]
  unfold dueVectors
  rw [ho, hp, hnames]
  rfl

/-- The literals of the table are the model's results. -/
theorem TestVector.expectedOutput_of_mem_table :
    ∀ v ∈ table, Model.evaluate v.a v.b v.sel = v.expectedOutput := by
  decide

theorem Options.expectedOutput_of_mem_vectors {o : Options} {ops : List Operation}
    {v : TestVector} (hv : v ∈ o.vectors ops) :
    Model.evaluate v.a v.b v.sel = v.expectedOutput := by
  unfold vectors at hv
  split at hv
  · obtain ⟨op, -, a, b, ha, hb, rfl⟩ := TestVector.mem_sweep_iff.1 hv
    exact (TestVector.expectedOutput_ofModel op ha hb).symm
  · exact TestVector.expectedOutput_of_mem_table v (List.mem_of_mem_filter hv)

theorem Options.length_vectors (o : Options)
    (h : Operation.firstUnknown? o.operations = none) :
    (o.vectors (Operation.operationsOf o.operations)).length = o.dueVectors := by
  have hnames : ∀ op, (Operation.operationsOf o.operations).contains op = o.names op := by
    intro op
    rw [Bool.eq_iff_iff, List.contains_iff_mem, Operation.mem_operationsOf_iff, names_iff]
  unfold vectors dueVectors
  split
  · rw [TestVector.length_sweep, Operation.length_operationsOf h]
  · unfold TestVector.tableOf
    simp only [hnames]
    rw [List.countP_eq_length_filter]

/-! ## The run -/

namespace Bench

theorem report_runOperations (o : Options) (ops : List Operation) :
    (runOperations o ops).report =
      ⟨o.policy, (o.vectors ops).length, (o.vectors ops).length, (o.vectors ops).length, [],
        false⟩ :=
  Device.report_run_of_expected ModelWire.answers_device
    (fun _ => Options.expectedOutput_of_mem_vectors) o.policy _

/-- All that can come of a bench run. -/
theorem execute_cases (host : Host) (o : Options) :
    (∃ cause, openLog host o = .error cause ∧ execute host o = ⟨.error (.io cause), [], 0⟩) ∨
      (∃ name, openLog host o = .ok () ∧ Operation.firstUnknown? o.operations = some name ∧
        execute host o =
          ⟨.error (.unknownOperation name), if host.loggerInstalled then [.loggerKept] else [],
            0⟩) ∨
      (openLog host o = .ok () ∧ Operation.firstUnknown? o.operations = none ∧
        (execute host o).result =
          .ok ⟨o.policy, o.dueVectors, o.dueVectors, o.dueVectors, [], false⟩) := by
  cases hopen : openLog host o with
  | error cause => exact Or.inl ⟨cause, rfl, by simp only [execute, hopen]⟩
  | ok _ =>
    right
    cases hnames : Operation.firstUnknown? o.operations with
    | some name =>
      left
      exact ⟨name, rfl, rfl, by simp only [execute, hopen, Operation.ofNames_eq, hnames]⟩
    | none =>
      right
      refine ⟨rfl, rfl, ?_⟩
      simp only [execute, hopen, Operation.ofNames_eq, hnames]
      rw [report_runOperations, Options.length_vectors o hnames]

theorem due_eq (host : Host) (o : Options) :
    due host o =
      match openLog host o with
      | .error cause => .error (.io cause)
      | .ok () =>
        match Operation.firstUnknown? o.operations with
        | some name => .error (.unknownOperation name)
        | none => .ok ⟨o.policy, o.dueVectors, o.dueVectors, o.dueVectors, [], false⟩ := by
  unfold due openLog
  cases o.logPath with
  | none => rfl
  | some path =>
    dsimp only [Option.map_some]
    cases host.createLog path <;> rfl

theorem result_execute (host : Host) (o : Options) : (execute host o).result = due host o := by
  rw [due_eq]
  rcases execute_cases host o with ⟨cause, hopen, h⟩ | ⟨name, hopen, hname, h⟩ | ⟨hopen, hnames, h⟩
  · rw [hopen, h]
  · rw [hopen, h, hname]
  · rw [hopen, h, hnames]

/-- Before the first vector nothing settles, and nothing is logged but that there is a logger. -/
theorem of_result_execute_error {host : Host} {o : Options} {failure : Failure}
    (h : (execute host o).result = .error failure) :
    (execute host o).settled = 0 ∧ ∀ e ∈ (execute host o).log, e = .loggerKept := by
  rcases execute_cases host o with ⟨cause, -, he⟩ | ⟨name, -, -, he⟩ | ⟨-, -, he⟩
  · rw [he]
    exact ⟨rfl, by simp⟩
  · rw [he]
    refine ⟨rfl, ?_⟩
    cases host.loggerInstalled <;> simp
  · rw [he] at h
    cases h

theorem log_of_result_execute_io {host : Host} {o : Options} {cause : String}
    (h : (execute host o).result = .error (.io cause)) : (execute host o).log = [] := by
  rcases execute_cases host o with ⟨_, -, he⟩ | ⟨name, -, -, he⟩ | ⟨-, -, he⟩
  · rw [he]
  · rw [he] at h
    cases h
  · rw [he] at h
    cases h

theorem eq_of_due_ok {host : Host} {o : Options} {report : Report} (h : due host o = .ok report) :
    report = ⟨o.policy, o.dueVectors, o.dueVectors, o.dueVectors, [], false⟩ := by
  rw [← result_execute] at h
  rcases execute_cases host o with ⟨_, -, he⟩ | ⟨_, -, -, he⟩ | ⟨-, -, he⟩
  · rw [he] at h
    cases h
  · rw [he] at h
    cases h
  · rw [he] at h
    exact (Except.ok.inj h).symm

theorem due_of_mem_iff {host : Host} {o : Options} {names : List String}
    (hmem : ∀ name, name ∈ names ↔ name ∈ o.operations) (hsweep : o.sweep = false)
    (hknown : ∀ name ∈ o.operations, ∃ op, Operation.ofMnemonic? name = some op) :
    due host { o with operations := names } = due host o := by
  have hnone : Operation.firstUnknown? o.operations = none :=
    Operation.firstUnknown?_eq_none_iff.2 hknown
  have hnone' : Operation.firstUnknown? names = none :=
    Operation.firstUnknown?_eq_none_iff.2 fun name hname => hknown name ((hmem name).1 hname)
  have hvectors : ({ o with operations := names } : Options).dueVectors = o.dueVectors :=
    Options.dueVectors_congr hsweep hsweep hmem
  rw [due_eq, due_eq, hvectors]
  dsimp only
  rw [hnone, hnone']
  rfl

end Bench

/-! ## What is printed -/

theorem Report.text_of_isSuccess {r : Report} (h : r.isSuccess = true) :
    r.text = "PASSED! All " ++ Text.decimal r.passed ++ " vectors matched." := by
  rw [text, lines, if_pos h]
  rfl

theorem Bench.isSuccess_of_due_ok {host : Host} {o : Options} {report : Report}
    (h : due host o = .ok report) : report.isSuccess = true := by
  rw [eq_of_due_ok h]
  simp [Report.isSuccess]

namespace Program

/-- The exit code says whether there was a report, for a report there is has no mismatch. -/
theorem ofOptions_eq (o : Options) (kept : Log.Event → Bool) (warnings : List String)
    (target : Except String LogTarget) :
    let exit := ofOptions o kept warnings target
    match Bench.due ⟨false, fun _ => target.map fun _ => ()⟩ o with
    | .ok report =>
      exit.code = 0 ∧
        (target.toOption ≠ some .output → exit.stdout = report.render o.json ++ "\n")
    | .error _ => exit.code = 1 ∧ (target.toOption ≠ some .output → exit.stdout = "") := by
  intro exit
  have hresult := Bench.result_execute ⟨false, fun _ => target.map fun _ => ()⟩ o
  cases hdue : Bench.due ⟨false, fun _ => target.map fun _ => ()⟩ o with
  | ok report =>
    rw [hdue] at hresult
    constructor
    · show (ofOptions o kept warnings target).code = 0
      simp only [ofOptions, hresult, Bench.isSuccess_of_due_ok hdue, if_true]
    · intro htarget
      show (ofOptions o kept warnings target).stdout = _
      simp only [ofOptions, hresult, if_neg htarget, String.empty_append]
  | error failure =>
    rw [hdue] at hresult
    constructor
    · show (ofOptions o kept warnings target).code = 1
      simp only [ofOptions, hresult]
    · intro htarget
      show (ofOptions o kept warnings target).stdout = ""
      simp only [ofOptions, hresult, if_neg htarget]

end Program

/-! ## The outcome -/

/-- **What comes of a bench run is what is due**: a failure before the first vector, or a report
without a mismatch. -/
theorem Bench.execute_is_due (host : Host) (o : Options) :
    let outcome := execute host o
    outcome.result = due host o ∧
      (∀ cause, outcome.result = .error (.io cause) → outcome.log = []) ∧
      (∀ failure, outcome.result = .error failure →
        outcome.settled = 0 ∧ ∀ e ∈ outcome.log, e = .loggerKept) ∧
      (∀ report, outcome.result = .ok report →
        report.isSuccess = true ∧
          report.render false =
            "PASSED! All " ++ Text.decimal o.dueVectors ++ " vectors matched.") ∧
      (∀ names, (∀ name, name ∈ names ↔ name ∈ o.operations) → o.sweep = false →
        (∀ name ∈ o.operations, ∃ op, Operation.ofMnemonic? name = some op) →
          (execute host { o with operations := names }).result = outcome.result) ∧
      ∀ kept warnings target,
        let exit := Program.ofOptions o kept warnings target
        match due ⟨false, fun _ => target.map fun _ => ()⟩ o with
        | .ok report =>
          exit.code = 0 ∧
            (target.toOption ≠ some .output → exit.stdout = report.render o.json ++ "\n")
        | .error _ => exit.code = 1 ∧ (target.toOption ≠ some .output → exit.stdout = "") := by
  intro outcome
  refine ⟨result_execute host o, fun cause => log_of_result_execute_io,
    fun failure => of_result_execute_error, ?_, ?_, Program.ofOptions_eq o⟩
  · intro report hreport
    rw [show outcome.result = _ from result_execute host o] at hreport
    have hsuccess := isSuccess_of_due_ok hreport
    refine ⟨hsuccess, ?_⟩
    show report.text = _
    rw [Report.text_of_isSuccess hsuccess, eq_of_due_ok hreport]
  · intro names hmem hsweep hknown
    rw [result_execute, due_of_mem_iff hmem hsweep hknown]
    exact (result_execute host o).symm

/-- Names in any order, case and number pick the six differences and three comparisons; of two
unknown names the first counts, and a missing directory comes before either. -/
theorem Bench.execute_is_due_of_names :
    let host : Host := ⟨true, fun _ => .error "No such file or directory (os error 2)"⟩
    let o : Options := { operations := [" Sub ", "eq", "SUB"] }
    let unknown : Options := { operations := ["add", " mul ", "div"], sweep := true }
    let report : Report := ⟨.failFast, 9, 9, 9, [], false⟩
    ((execute host o).result = .ok report ∧
        report.render false = "PASSED! All 9 vectors matched." ∧
        (execute host { o with operations := ["eq", " Sub ", "SUB"] }).result = .ok report) ∧
      ((execute host unknown).result = .error (.unknownOperation " mul ") ∧
        (execute host unknown).settled = 0) ∧
      ((execute host { unknown with logPath := some "missing/x.log" }).result =
          .error (.io "No such file or directory (os error 2)") ∧
        (execute host { unknown with logPath := some "missing/x.log" }).log = []) ∧
      (Program.ofOptions o (fun _ => true) [] (.ok .errors)).stdout =
        "PASSED! All 9 vectors matched.\n" := by
  intro host o unknown report
  have h := execute_is_due host o
  have hu := execute_is_due host unknown
  have hio := execute_is_due host { unknown with logPath := some "missing/x.log" }
  have hknown : ∀ name ∈ o.operations, ∃ op, Operation.ofMnemonic? name = some op := by
    rw [← Operation.firstUnknown?_eq_none_iff]
    decide +kernel
  have hvectors : o.dueVectors = 9 := by decide +kernel
  have hfirst : Operation.firstUnknown? unknown.operations = some " mul " := by decide +kernel
  have hdue : ∀ host, due host o = .ok report := by
    intro host
    rw [due_eq, Operation.firstUnknown?_eq_none_iff.2 hknown, hvectors]
    rfl
  have hname : due host unknown = .error (.unknownOperation " mul ") := by
    rw [due_eq, hfirst]
    rfl
  have htext : report.render false = "PASSED! All 9 vectors matched." := by
    rw [(h.2.2.2.1 report (h.1.trans (hdue host))).2, hvectors]
    decide +kernel
  have hmem : ∀ name, name ∈ ["eq", " Sub ", "SUB"] ↔ name ∈ o.operations := by
    intro name
    simp [o, or_left_comm]
  have hexit := h.2.2.2.2.2 (fun _ => true) [] (.ok .errors)
  dsimp only at hexit
  rw [hdue] at hexit
  refine ⟨⟨h.1.trans (hdue host), htext, ?_⟩, ⟨hu.1.trans hname, ?_⟩, ⟨hio.1.trans rfl, ?_⟩, ?_⟩
  · exact (h.2.2.2.2.1 _ hmem rfl hknown).trans (h.1.trans (hdue host))
  · exact (hu.2.2.1 _ (hu.1.trans hname)).1
  · exact hio.2.1 _ (hio.1.trans rfl)
  · rw [hexit.2 (by decide)]
    show report.render false ++ "\n" = _
    rw [htext]
    decide +kernel

end AluBench
