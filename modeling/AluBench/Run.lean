import AluBench.Device

/-!
# Runs

A run asks a device for every vector in turn, with the bytes as they stand, and compares each output
with the expected one. Under `Policy.failFast` it stops after the first vector with a mismatch, all
of whose mismatches are still reported.
-/

namespace AluBench

/-- What came of the vectors from one position on. -/
structure Findings (σ : Type) where
  executed : Nat
  passed : Nat
  mismatches : List Mismatch
  halted : Bool
  /-- The device's state after them. -/
  state : σ
  log : List Log.Event

/-- A report with the state in which the run left the device and all that was logged. -/
structure Run (σ : Type) where
  report : Report
  state : σ
  log : List Log.Event

namespace Device

variable {σ : Type}

/-- What comes of a list of vectors of which the first has position `index` in the run. -/
def findings (d : Device σ) (policy : Policy) :
    (index : Nat) → List TestVector → σ → Findings σ
  | _, [], state => ⟨0, 0, [], false, state, []⟩
  | index, v :: vectors, state =>
    let response := d.evaluate state v.a v.b v.sel
    match v.mismatches index response.output with
    | [] =>
      let rest := d.findings policy (index + 1) vectors response.state
      { rest with
        executed := rest.executed + 1
        passed := rest.passed + 1
        log := response.log ++ .passed index v response.output :: rest.log }
    | found@(_ :: _) =>
      let log := response.log ++ found.map .failed
      match policy with
      | .failFast => ⟨1, 0, found, !vectors.isEmpty, response.state, log⟩
      | .collectAll =>
        let rest := d.findings policy (index + 1) vectors response.state
        { rest with
          executed := rest.executed + 1
          mismatches := found ++ rest.mismatches
          log := log ++ rest.log }

/-- Runs a list of vectors from a state of the device. The last thing logged is the report. -/
def run (d : Device σ) (policy : Policy) (vectors : List TestVector) (state : σ) : Run σ :=
  let f := d.findings policy 0 vectors state
  let report : Report := ⟨policy, vectors.length, f.executed, f.passed, f.mismatches, f.halted⟩
  ⟨report, f.state, f.log ++ [.finished report]⟩

/-- The verdict of a run that stops at the first failing vector. -/
def check (d : Device σ) (vectors : List TestVector) (state : σ) : Except Mismatch Report :=
  (d.run .failFast vectors state).report.verdict

end Device

end AluBench
