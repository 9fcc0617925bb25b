import AluBench.Run

/-!
# Runs that log up to a threshold

A run logs everything, and a threshold is put to its log afterwards. Here every place that logs asks
the threshold first, the device's own places too, and an event that is refused is never logged. Both
ways give the same log, and neither the report nor the device's state tells of the threshold.

    d.gatedRun threshold policy vectors state =
      let r := d.run policy vectors state
      { r with log := Log.keep threshold r.log }                              (gatedRun_eq)
-/

namespace AluBench

/-- What a place that logs adds to the log. -/
def Log.gate (threshold : Threshold) (e : Event) : List Event :=
  if threshold.admits e.level then [e] else []

namespace Device

variable {σ : Type}

/-- The device with a threshold at each place where it logs. -/
def gated (d : Device σ) (threshold : Log.Threshold) : Device σ where
  evaluate state a b sel :=
    let response := d.evaluate state a b sel
    { response with log := response.log.flatMap (Log.gate threshold) }

/-- `findings` with a threshold at each place where it logs. -/
def gatedFindings (d : Device σ) (threshold : Log.Threshold) (policy : Policy) :
    (index : Nat) → List TestVector → σ → Findings σ
  | _, [], state => ⟨0, 0, [], false, state, []⟩
  | index, v :: vectors, state =>
    let response := (d.gated threshold).evaluate state v.a v.b v.sel
    match v.mismatches index response.output with
    | [] =>
      let rest := d.gatedFindings threshold policy (index + 1) vectors response.state
      { rest with
        executed := rest.executed + 1
        passed := rest.passed + 1
        log := response.log ++ Log.gate threshold (.passed index v response.output) ++ rest.log }
    | found@(_ :: _) =>
      let log := response.log ++ found.flatMap fun m => Log.gate threshold (.failed m)
      match policy with
      | .failFast => ⟨1, 0, found, !vectors.isEmpty, response.state, log⟩
      | .collectAll =>
        let rest := d.gatedFindings threshold policy (index + 1) vectors response.state
        { rest with
          executed := rest.executed + 1
          mismatches := found ++ rest.mismatches
          log := log ++ rest.log }

/-- `run` with a threshold at each place where it logs. -/
def gatedRun (d : Device σ) (threshold : Log.Threshold) (policy : Policy)
    (vectors : List TestVector) (state : σ) : Run σ :=
  let f := d.gatedFindings threshold policy 0 vectors state
  let report : Report := ⟨policy, vectors.length, f.executed, f.passed, f.mismatches, f.halted⟩
  ⟨report, f.state, f.log ++ Log.gate threshold (.finished report)⟩

end Device

/-! ## Lemmas -/

namespace Log

variable {threshold : Threshold}

theorem keep_append (xs ys : List Event) :
    keep threshold (xs ++ ys) = keep threshold xs ++ keep threshold ys :=
  List.filter_append xs ys

theorem keep_singleton (e : Event) : keep threshold [e] = gate threshold e := by
  unfold keep gate
  rw [List.filter_cons, List.filter_nil]

theorem keep_eq_flatMap (events : List Event) :
    keep threshold events = events.flatMap (gate threshold) := by
  induction events with
  | nil => rfl
  | cons e events ih =>
    rw [List.flatMap_cons, ← ih, ← keep_singleton, ← keep_append, List.singleton_append]

theorem keep_trace (events : List Event) : keep (.upTo .trace) events = events := by
  apply List.filter_eq_self.2
  intro e _
  cases e <;> rfl

end Log

namespace Device

variable {σ : Type}

theorem gatedFindings_eq (d : Device σ) (threshold : Log.Threshold) (policy : Policy) (index : Nat)
    (vectors : List TestVector) (state : σ) :
    d.gatedFindings threshold policy index vectors state =
      let f := d.findings policy index vectors state
      { f with log := Log.keep threshold f.log } := by
  induction vectors generalizing index state with
  | nil => rfl
  | cons v vectors ih =>
    unfold gatedFindings findings
    dsimp only [gated]
    cases v.mismatches index (d.evaluate state v.a v.b v.sel).output with
    | nil =>
      dsimp only
      rw [ih, List.append_cons, Log.keep_append, Log.keep_append, Log.keep_singleton,
        Log.keep_eq_flatMap (d.evaluate state v.a v.b v.sel).log]
    | cons m found =>
      have hfound : Log.keep threshold ((m :: found).map .failed) =
          (m :: found).flatMap fun m => Log.gate threshold (.failed m) := by
        rw [Log.keep_eq_flatMap, List.flatMap_map]
      cases policy with
      | failFast =>
        dsimp only
        rw [Log.keep_append, hfound, Log.keep_eq_flatMap]
      | collectAll =>
        dsimp only
        rw [ih, Log.keep_append, Log.keep_append, hfound,
          Log.keep_eq_flatMap (d.evaluate state v.a v.b v.sel).log]

theorem gatedRun_eq (d : Device σ) (threshold : Log.Threshold) (policy : Policy)
    (vectors : List TestVector) (state : σ) :
    d.gatedRun threshold policy vectors state =
      let r := d.run policy vectors state
      { r with log := Log.keep threshold r.log } := by
  unfold gatedRun run
  rw [gatedFindings_eq]
  dsimp only
  rw [Log.keep_append, Log.keep_singleton]

/-- The least severe level admits everything. -/
theorem gatedRun_trace (d : Device σ) (policy : Policy) (vectors : List TestVector) (state : σ) :
    d.gatedRun (.upTo .trace) policy vectors state = d.run policy vectors state := by
  rw [gatedRun_eq]
  dsimp only
  rw [Log.keep_trace]

end Device

end AluBench
