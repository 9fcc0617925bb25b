import AluBench.Device.Fault
import AluBench.Proofs.Bus.Layout
import AluBench.Proofs.Report.Lines
import AluBench.Proofs.Run.Trials
import AluBench.Run.Gated
import Mathlib.Data.List.Basic

/-!
# The log tells what the report tells

The log of a run has, for each vector that was executed, one line that it passed or one line for
each of its mismatches, and then the counters of the report. A wire adds the bytes that went over
its buses. So the failures in the log, the mismatches of the report and the indented lines of its
text are the same texts in the same order.

    r.lines = (the vectors that were executed).flatMap logLines ++ [r.report.logLine]   (lines_run)
    r.lines.filter (·.startsWith "ERROR ") =
      r.report.mismatches.map fun m => "ERROR FAIL " ++ m.text          (TellsReport.errors)
-/

namespace AluBench

/-- The lines on a vector and its output. -/
def TestVector.logLines (v : TestVector) (index : Nat) (out : Output) : List String :=
  if out = v.expectedOutput then
    ["DEBUG PASS #" ++ Text.decimal index ++ " " ++ v.text ++ " -> " ++ out.text]
  else (v.entries index out).map fun m => "ERROR FAIL " ++ m.text

/-- The line on the bytes that went over the buses for a vector. -/
def TestVector.busLine (v : TestVector) (shown : UInt8) : String :=
  "TRACE ui_in=" ++ Text.binary 8 (Bus.packOperands v.a v.b).toNat
    ++ " uio_in=" ++ Text.binary 4 (v.sel &&& nibbleMask).toNat
    ++ " uo_out=" ++ Text.binary 8 shown.toNat

/-- The line on a whole run. -/
def Report.logLine (r : Report) : String :=
  "INFO " ++ Text.decimal r.passed ++ "/" ++ Text.decimal r.total ++ " vectors passed, "
    ++ Text.decimal r.executed ++ " executed, " ++ Text.decimal r.mismatches.length
    ++ " mismatched fields"

namespace Run

variable {σ : Type}

def lines (r : Run σ) : List String := r.log.map Log.Event.line

/-- The log and the text say of the mismatches and of the passed vectors what the report says. -/
structure TellsReport (r : Run σ) : Prop where
  errors : (r.lines.filter fun line => line.startsWith "ERROR ") =
    r.report.mismatches.map fun m => "ERROR FAIL " ++ m.text
  indented : ((Text.pieces (r.report.render false)).filter fun line => line.startsWith "  ") =
    r.report.mismatches.map fun m => "  " ++ m.text
  passes : (r.lines.countP fun line => line.startsWith "DEBUG PASS #") = r.report.passed

end Run

/-- The device itself logs nothing. -/
def Device.Silent {σ : Type} (d : Device σ) : Prop :=
  ∀ state a b sel, (d.evaluate state a b sel).log = []

/-- What the device itself logs follows from the vector and the output. -/
def Device.Logs {σ : Type} (d : Device σ) (own : TestVector → Output → List Log.Event) : Prop :=
  ∀ state (v : TestVector),
    (d.evaluate state v.a v.b v.sel).log = own v (d.evaluate state v.a v.b v.sel).output

/-- The device logs nothing in the name of the runner. -/
def Device.LogsApart {σ : Type} (d : Device σ) : Prop :=
  ∀ state a b sel, ∀ e ∈ (d.evaluate state a b sel).log, e.source ≠ .runner

/-! ## Events and their lines -/

namespace Log.Event

theorem line_passed (index : Nat) (v : TestVector) (out : Output) :
    (passed index v out).line =
      "DEBUG PASS #" ++ Text.decimal index ++ " " ++ v.text ++ " -> " ++ out.text := by
  rw [show "DEBUG PASS #" = "DEBUG" ++ " " ++ "PASS #" from rfl]
  simp only [line, level, Level.name, text, String.append_assoc]

theorem line_failed (m : Mismatch) : (failed m).line = "ERROR FAIL " ++ m.text := by
  rw [show "ERROR FAIL " = "ERROR" ++ " " ++ "FAIL " from rfl]
  simp only [line, level, Level.name, text, String.append_assoc]

theorem line_finished (r : Report) : (finished r).line = r.logLine := by
  unfold Report.logLine
  rw [show "INFO " = "INFO" ++ " " from rfl]
  simp only [line, level, Level.name, text, String.append_assoc]

theorem line_wireStep (v : TestVector) (shown : UInt8) :
    (wireStep (Bus.packOperands v.a v.b) (v.sel &&& nibbleMask) shown).line = v.busLine shown := by
  unfold TestVector.busLine
  rw [show "TRACE ui_in=" = "TRACE" ++ " " ++ "ui_in=" from rfl]
  simp only [line, level, Level.name, text, String.append_assoc]

def isFailed : Event → Bool
  | failed _ => true
  | _ => false

def isPassed : Event → Bool
  | passed .. => true
  | _ => false

/-- The lines at the level of errors are those on mismatches. -/
theorem startsWith_error (e : Event) : e.line.startsWith "ERROR " = e.isFailed := by
  rw [Bool.eq_iff_iff, String.startsWith_string_iff]
  cases e <;> simp [line, level, Level.name, text, isFailed]

theorem startsWith_pass (e : Event) : e.line.startsWith "DEBUG PASS #" = e.isPassed := by
  rw [Bool.eq_iff_iff, String.startsWith_string_iff]
  cases e <;> simp [line, level, Level.name, text, isPassed]

theorem not_isFailed {e : Event} (h : e.source ≠ .runner) : ¬ e.isFailed = true := by
  cases e <;> simp_all [source, isFailed]

theorem not_isPassed {e : Event} (h : e.source ≠ .runner) : ¬ e.isPassed = true := by
  cases e <;> simp_all [source, isPassed]

end Log.Event

namespace Trial

variable {σ : Type}

/-! ## One trial -/

theorem map_line_log (t : Trial σ) :
    t.log.map Log.Event.line =
      t.response.log.map Log.Event.line ++ t.vector.logLines t.index t.response.output := by
  unfold log TestVector.logLines
  rw [List.map_append, List.append_right_inj]
  by_cases h : t.response.output = t.vector.expectedOutput
  · rw [if_pos ((passes_iff t).2 h), if_pos h, List.map_singleton, Log.Event.line_passed]
  · rw [if_neg (mt (passes_iff t).1 h), if_neg h, List.map_map, ← TestVector.mismatches_eq_entries]
    exact List.map_congr_left fun m _ => Log.Event.line_failed m

/-- The failures that a trial logs are its mismatches. -/
theorem filter_isFailed_log {t : Trial σ} (h : ∀ e ∈ t.response.log, e.source ≠ .runner) :
    t.log.filter Log.Event.isFailed = t.mismatches.map .failed := by
  have hown : t.response.log.filter Log.Event.isFailed = [] :=
    List.filter_eq_nil_iff.2 fun e he => Log.Event.not_isFailed (h e he)
  unfold log
  rw [List.filter_append, hown, List.nil_append]
  split
  · next ht =>
    rw [(mismatches_eq_nil_iff t).2 ht]
    rfl
  · rw [List.filter_map]
    exact congrArg _ (List.filter_eq_self.2 fun _ _ => rfl)

theorem countP_isPassed_log {t : Trial σ} (h : ∀ e ∈ t.response.log, e.source ≠ .runner) :
    t.log.countP Log.Event.isPassed = if t.passes then 1 else 0 := by
  have hown : t.response.log.countP Log.Event.isPassed = 0 :=
    List.countP_eq_zero.2 fun e he => Log.Event.not_isPassed (h e he)
  unfold log
  rw [List.countP_append, hown, Nat.zero_add]
  split
  · rfl
  · rw [List.countP_map]
    exact List.countP_eq_zero.2 fun _ _ h => Bool.noConfusion h

/-- One line that a vector passed for each trial that passes. -/
theorem countP_isPassed_flatMap_log {trials : List (Trial σ)}
    (h : ∀ t ∈ trials, ∀ e ∈ t.response.log, e.source ≠ .runner) :
    (trials.flatMap log).countP Log.Event.isPassed = trials.countP passes := by
  induction trials with
  | nil => rfl
  | cons t trials ih =>
    rw [List.forall_mem_cons] at h
    rw [List.flatMap_cons, List.countP_append, countP_isPassed_log h.1, ih h.2, List.countP_cons,
      Nat.add_comm]

end Trial

/-! ## The trials of a device -/

namespace Device

variable {σ : Type} {d : Device σ} {own : TestVector → Output → List Log.Event}
  {vectors : List TestVector} {state : σ}

/-- Each trial is an evaluation of its vector. -/
theorem exists_state_of_mem_trials {index : Nat} {t : Trial σ}
    (ht : t ∈ d.trials index vectors state) :
    ∃ s, t.response = d.evaluate s t.vector.a t.vector.b t.vector.sel := by
  induction vectors generalizing index state with
  | nil => cases ht
  | cons v vectors ih =>
    rcases List.mem_cons.1 ht with rfl | ht
    · exact ⟨state, rfl⟩
    · exact ih ht

theorem log_of_mem_trials (h : d.Logs own) {index : Nat} {t : Trial σ}
    (ht : t ∈ d.trials index vectors state) :
    t.response.log = own t.vector t.response.output := by
  obtain ⟨s, hs⟩ := exists_state_of_mem_trials ht
  rw [hs]
  exact h s t.vector

theorem source_of_mem_trials (h : d.LogsApart) {index : Nat} {t : Trial σ}
    (ht : t ∈ d.trials index vectors state) : ∀ e ∈ t.response.log, e.source ≠ .runner := by
  obtain ⟨s, hs⟩ := exists_state_of_mem_trials ht
  rw [hs]
  exact h s _ _ _

/-! ## The run -/

variable {policy : Policy}

theorem log_run : (d.run policy vectors state).log =
    (Trial.carriedOut policy (d.trials 0 vectors state)).flatMap Trial.log
      ++ [.finished (d.run policy vectors state).report] := by
  rw [run_eq]

/-- The trials that take place are as many as the report says were executed. -/
theorem carriedOut_eq_take : Trial.carriedOut policy (d.trials 0 vectors state) =
    (d.trials 0 vectors state).take (d.run policy vectors state).report.executed := by
  rw [report_run]
  exact List.prefix_iff_eq_take.1 (Trial.isPrefix_carriedOut policy _)

/-- The lines of a run are those on each vector that was executed, in order, and the counters. -/
theorem lines_run (h : d.Logs own) (policy : Policy) (vectors : List TestVector) (state : σ) :
    let r := d.run policy vectors state
    r.lines =
      ((vectors.zip (d.outputs vectors state)).zipIdx.take r.report.executed).flatMap
          (fun ((v, out), index) => (own v out).map Log.Event.line ++ v.logLines index out)
        ++ [r.report.logLine] := by
  intro r
  rw [Run.lines, log_run, List.map_append, List.map_singleton, Log.Event.line_finished,
    List.append_left_inj, List.map_flatMap, carriedOut_eq_take, ← map_trials_eq_zipIdx,
    ← List.map_take, List.flatMap_map]
  apply List.flatMap_congr
  intro t ht
  rw [t.map_line_log, log_of_mem_trials h (List.mem_of_mem_take ht)]

/-- What a device logs itself is no line on a mismatch and none on a passed vector. -/
theorem tellsReport_run (h : d.LogsApart) (policy : Policy) (vectors : List TestVector)
    (state : σ) : (d.run policy vectors state).TellsReport := by
  have hsource : ∀ t ∈ Trial.carriedOut policy (d.trials 0 vectors state),
      ∀ e ∈ t.response.log, e.source ≠ .runner := by
    intro t ht
    exact source_of_mem_trials h ((Trial.isPrefix_carriedOut policy _).subset ht)
  constructor
  · have hfailed : (d.run policy vectors state).log.filter Log.Event.isFailed =
        (d.run policy vectors state).report.mismatches.map .failed := by
      rw [log_run, List.filter_append, List.filter_flatMap,
        List.flatMap_congr fun t ht => Trial.filter_isFailed_log (hsource t ht), report_run,
        ← List.map_flatMap]
      exact List.append_nil _
    have hlines : (fun line => line.startsWith "ERROR ") ∘ Log.Event.line = Log.Event.isFailed :=
      funext Log.Event.startsWith_error
    rw [Run.lines, List.filter_map, hlines, hfailed, List.map_map]
    exact List.map_congr_left fun m _ => Log.Event.line_failed m
  · exact (congrArg _ (Report.pieces_text _)).trans (Report.indented_lines _)
  · have hlines :
        (fun line => line.startsWith "DEBUG PASS #") ∘ Log.Event.line = Log.Event.isPassed :=
      funext Log.Event.startsWith_pass
    rw [Run.lines, List.countP_map, hlines, log_run, List.countP_append,
      Trial.countP_isPassed_flatMap_log hsource, report_run]
    rfl

theorem Silent.logs (h : d.Silent) : d.Logs fun _ _ => [] := fun _ _ => h _ _ _ _

theorem Silent.logsApart (h : d.Silent) : d.LogsApart := by
  intro state a b sel e he
  rw [h] at he
  cases he

end Device

/-! ## The run of a wire -/

namespace Wire

variable {ω : Type}

theorem logs_toDevice (w : Wire ω) :
    w.toDevice.Logs fun v out =>
      [.wireStep (Bus.packOperands v.a v.b) (v.sel &&& nibbleMask) (Bus.packOutput out)] := by
  intro state v
  unfold toDevice
  dsimp only
  rw [Bus.packOutput_unpackOutput]

theorem logsApart_toDevice (w : Wire ω) : w.toDevice.LogsApart := by
  intro state a b sel e he
  obtain rfl := List.mem_singleton.1 he
  exact Log.Source.noConfusion

/-- Before the outcome of a vector stand the bytes that were driven and sampled for it. -/
theorem lines_run_toDevice (w : Wire ω) (policy : Policy) (vectors : List TestVector)
    (state : ω) :
    let r := w.toDevice.run policy vectors state
    r.lines =
      ((vectors.zip (w.samples vectors state)).zipIdx.take r.report.executed).flatMap
          (fun ((v, shown), index) =>
            v.busLine shown :: v.logLines index (Bus.unpackOutput shown))
        ++ [r.report.logLine] := by
  intro r
  rw [Device.lines_run w.logs_toDevice, List.append_left_inj, outputs_toDevice,
    List.zip_map_right, List.zipIdx_map, ← List.map_take, List.flatMap_map]
  apply List.flatMap_congr
  rintro ⟨⟨v, shown⟩, index⟩ -
  dsimp only [Prod.map, id]
  rw [Bus.packOutput_unpackOutput, List.map_singleton, Log.Event.line_wireStep]
  rfl

end Wire

/-- **The log and the report.** The log of a silent device has, for each vector that was executed,
one line that it passed or one for each of its mismatches, and then the counters of the report; over
a wire the bytes on the buses stand before them. The failures among the lines, the mismatches and
the indented lines of the report's text are the same. A threshold leaves out the lines that are less
severe than its level, or all of them, and changes nothing else. -/
theorem log_run_tells_report {σ ω : Type} (d : Device σ) (hd : d.Silent) (w : Wire ω)
    (policy : Policy) (vectors : List TestVector) (state : σ) (start : ω) :
    let r := d.run policy vectors state
    let s := w.toDevice.run policy vectors start
    let severity : List Log.Level := [.error, .warn, .info, .debug, .trace]
    (r.lines =
        ((vectors.zip (d.outputs vectors state)).zipIdx.take r.report.executed).flatMap
            (fun ((v, out), index) => v.logLines index out)
          ++ [r.report.logLine] ∧
      r.TellsReport) ∧
    (s.lines =
        ((vectors.zip (w.samples vectors start)).zipIdx.take s.report.executed).flatMap
            (fun ((v, shown), index) =>
              v.busLine shown :: v.logLines index (Bus.unpackOutput shown))
          ++ [s.report.logLine] ∧
      s.TellsReport) ∧
    (d.gatedRun (.upTo .trace) policy vectors state = r ∧
      w.toDevice.gatedRun (.upTo .trace) policy vectors start = s) ∧
    ∀ threshold,
      (∀ level, threshold.admits level = true ↔
        ∃ most, threshold = .upTo most ∧ severity.idxOf level ≤ severity.idxOf most) ∧
      d.gatedRun threshold policy vectors state =
        { r with log := r.log.filter fun e => threshold.admits e.level } ∧
      w.toDevice.gatedRun threshold policy vectors start =
        { s with log := s.log.filter fun e => threshold.admits e.level } := by
  intro r s severity
  refine ⟨⟨Device.lines_run hd.logs policy vectors state, ?_⟩,
    ⟨w.lines_run_toDevice policy vectors start, ?_⟩,
    ⟨d.gatedRun_trace policy vectors state, w.toDevice.gatedRun_trace policy vectors start⟩,
    fun threshold => ⟨fun level => Log.Threshold.admits_iff,
      d.gatedRun_eq threshold policy vectors state,
      w.toDevice.gatedRun_eq threshold policy vectors start⟩⟩
  · exact Device.tellsReport_run hd.logsApart policy vectors state
  · exact Device.tellsReport_run w.logsApart_toDevice policy vectors start

/-- An inverted borrow is one line among the errors; a wire shows the bytes of both vectors. -/
theorem log_run_tells_report_invertedBorrow :
    let vectors : List TestVector := [⟨2, 4, 0, 6⟩, ⟨2, 4, 1, 14⟩]
    let r := Device.invertedBorrow.run .collectAll vectors 0
    let s := (Wire.scripted [6, 0x4E]).toDevice.run .collectAll vectors {}
    Device.invertedBorrow.Silent ∧
    r.lines =
      ["DEBUG PASS #0 A=0010 B=0100 sel=0000 (ADD) -> 0110 [----]",
        "ERROR FAIL Vector #1 A=0010 B=0100 sel=0001 (SUB): carry was 0, expected 1",
        "INFO 1/2 vectors passed, 2 executed, 1 mismatched fields"] ∧
    s.lines.head? = some "TRACE ui_in=01000010 uio_in=0000 uo_out=00000110" ∧ s.TellsReport := by
  intro vectors r s
  have hd : Device.invertedBorrow.Silent := fun _ _ _ _ => rfl
  have h := log_run_tells_report Device.invertedBorrow hd (Wire.scripted [6, 0x4E]) .collectAll
    vectors 0 {}
  refine ⟨hd, h.1.1.trans (by decide +kernel), ?_, h.2.1.2⟩
  exact (congrArg List.head? h.2.1.1).trans (by decide +kernel)

end AluBench
