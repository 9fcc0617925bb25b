import AluBench.Device.Trace
import AluBench.Proofs.Comparison
import AluBench.Run

/-!
# A run as a list of trials

A trial is one vector put to a device. The device decides all trials of a list of vectors before
anything is compared; the policy only decides how many of them take place. Every part of a run is
then a function of the trials that took place.

    d.findings policy index vectors state =
      Findings.ofTrials … (Trial.carriedOut policy (d.trials index vectors state))  (findings_eq)
    (d.run policy vectors state).report.isSuccess ↔
      d.outputs vectors state = vectors.map TestVector.expectedOutput      (isSuccess_run_iff)
-/

namespace AluBench

variable {σ : Type}

/-- A vector at its position in a run, and the device's response to it. -/
structure Trial (σ : Type) where
  index : Nat
  vector : TestVector
  response : Response σ

namespace Trial

def passes (t : Trial σ) : Bool := t.response.output == t.vector.expectedOutput

def mismatches (t : Trial σ) : List Mismatch := t.vector.mismatches t.index t.response.output

/-- What the device logs, then the outcome. -/
def log (t : Trial σ) : List Log.Event :=
  t.response.log ++
    if t.passes then [.passed t.index t.vector t.response.output]
    else t.mismatches.map .failed

/-- The trials up to the first that fails, which is the last of them. -/
def upToFailure : List (Trial σ) → List (Trial σ)
  | [] => []
  | t :: trials => if t.passes then t :: upToFailure trials else [t]

/-- The trials that take place under a policy. -/
def carriedOut : Policy → List (Trial σ) → List (Trial σ)
  | .failFast, trials => upToFailure trials
  | .collectAll, trials => trials

end Trial

/-- The trials of a list of vectors of which the first has position `index` in the run. -/
def Device.trials (d : Device σ) : (index : Nat) → List TestVector → σ → List (Trial σ)
  | _, [], _ => []
  | index, v :: vectors, state =>
    let response := d.evaluate state v.a v.b v.sel
    ⟨index, v, response⟩ :: d.trials (index + 1) vectors response.state

/-- What comes of `total` vectors of which the given trials took place. -/
def Findings.ofTrials (total : Nat) (state : σ) (trials : List (Trial σ)) : Findings σ where
  executed := trials.length
  passed := trials.countP Trial.passes
  mismatches := trials.flatMap Trial.mismatches
  halted := trials.length < total
  state := state
  log := trials.flatMap Trial.log

/-- The report on `total` vectors of which the given trials took place. -/
def Report.ofTrials (policy : Policy) (total : Nat) (trials : List (Trial σ)) : Report where
  policy := policy
  total := total
  executed := trials.length
  passed := trials.countP Trial.passes
  mismatches := trials.flatMap Trial.mismatches
  halted := trials.length < total

/-! ## One trial -/

namespace Trial

theorem passes_iff (t : Trial σ) : t.passes = true ↔ t.response.output = t.vector.expectedOutput :=
  beq_iff_eq

theorem mismatches_eq_nil_iff (t : Trial σ) : t.mismatches = [] ↔ t.passes = true := by
  rw [passes_iff]
  exact TestVector.mismatches_eq_nil_iff

theorem flatMap_mismatches_eq_nil_iff {trials : List (Trial σ)} :
    trials.flatMap mismatches = [] ↔ ∀ t ∈ trials, t.passes = true := by
  simp only [List.flatMap_eq_nil_iff, mismatches_eq_nil_iff]

theorem index_of_mem_mismatches {t : Trial σ} {m : Mismatch} (h : m ∈ t.mismatches) :
    m.index = t.index :=
  TestVector.index_of_mem_mismatches h

/-! ## The trials that take place -/

theorem upToFailure_of_passes {trials : List (Trial σ)} (h : ∀ t ∈ trials, t.passes = true) :
    upToFailure trials = trials := by
  induction trials with
  | nil => rfl
  | cons t trials ih =>
    unfold upToFailure
    rw [if_pos (h t List.mem_cons_self), ih fun x hx => h x (List.mem_cons_of_mem t hx)]

theorem upToFailure_append_of_passes {before : List (Trial σ)} (after : List (Trial σ))
    (h : ∀ t ∈ before, t.passes = true) :
    upToFailure (before ++ after) = before ++ upToFailure after := by
  induction before with
  | nil => rfl
  | cons t before ih =>
    rw [List.cons_append, upToFailure, if_pos (h t List.mem_cons_self),
      ih fun x hx => h x (List.mem_cons_of_mem t hx), List.cons_append]

theorem upToFailure_append_cons {before after : List (Trial σ)} {t : Trial σ}
    (h : ∀ x ∈ before, x.passes = true) (ht : ¬ t.passes = true) :
    upToFailure (before ++ t :: after) = before ++ [t] := by
  rw [upToFailure_append_of_passes _ h, upToFailure, if_neg ht]

/-- Either all trials pass or there is a first that fails. -/
theorem all_pass_or_first_failure (trials : List (Trial σ)) :
    (∀ t ∈ trials, t.passes = true) ∨
      ∃ before t after, trials = before ++ t :: after ∧
        (∀ x ∈ before, x.passes = true) ∧ ¬ t.passes = true := by
  induction trials with
  | nil => exact Or.inl (by simp)
  | cons t trials ih =>
    by_cases ht : t.passes = true
    · rcases ih with h | ⟨before, u, after, rfl, hb, hu⟩
      · left
        intro x hx
        rcases List.mem_cons.1 hx with rfl | hx
        · exact ht
        · exact h x hx
      · right
        refine ⟨t :: before, u, after, rfl, ?_, hu⟩
        intro x hx
        rcases List.mem_cons.1 hx with rfl | hx
        · exact ht
        · exact hb x hx
    · exact Or.inr ⟨[], t, trials, rfl, by simp, ht⟩

theorem carriedOut_of_passes (policy : Policy) {trials : List (Trial σ)}
    (h : ∀ t ∈ trials, t.passes = true) : carriedOut policy trials = trials := by
  cases policy with
  | failFast => exact upToFailure_of_passes h
  | collectAll => rfl

theorem carriedOut_cons_of_passes (policy : Policy) {t : Trial σ} (trials : List (Trial σ))
    (h : t.passes = true) : carriedOut policy (t :: trials) = t :: carriedOut policy trials := by
  cases policy with
  | failFast => exact if_pos h
  | collectAll => rfl

/-- The trials that take place are the first ones. -/
theorem isPrefix_carriedOut (policy : Policy) (trials : List (Trial σ)) :
    carriedOut policy trials <+: trials := by
  cases policy with
  | collectAll => exact List.prefix_rfl
  | failFast =>
    show upToFailure trials <+: trials
    induction trials with
    | nil => exact List.prefix_rfl
    | cons t trials ih =>
      unfold upToFailure
      split
      · exact List.cons_prefix_cons.2 ⟨rfl, ih⟩
      · exact List.prefix_append [t] trials

/-- A change of trials that leaves which of them pass leaves which take place. -/
theorem carriedOut_map {τ : Type} {f : Trial σ → Trial τ} (h : ∀ t, (f t).passes = t.passes)
    (policy : Policy) (trials : List (Trial σ)) :
    carriedOut policy (trials.map f) = (carriedOut policy trials).map f := by
  cases policy with
  | collectAll => rfl
  | failFast =>
    show upToFailure (trials.map f) = (upToFailure trials).map f
    induction trials with
    | nil => rfl
    | cons t trials ih =>
      simp only [List.map_cons, upToFailure, h, ih]
      split <;> rfl

/-- What takes place fails nowhere exactly if nothing fails, and then everything takes place. -/
theorem flatMap_carriedOut_eq_nil_iff (policy : Policy) (trials : List (Trial σ)) :
    (carriedOut policy trials).flatMap mismatches = [] ↔ ∀ t ∈ trials, t.passes = true := by
  rcases all_pass_or_first_failure trials with h | ⟨before, t, after, rfl, hb, ht⟩
  · rw [carriedOut_of_passes policy h, flatMap_mismatches_eq_nil_iff]
  · rw [flatMap_mismatches_eq_nil_iff]
    have hmem : t ∈ carriedOut policy (before ++ t :: after) := by
      cases policy
      · show t ∈ upToFailure (before ++ t :: after)
        rw [upToFailure_append_cons hb ht]
        simp
      · show t ∈ before ++ t :: after
        simp
    constructor
    · intro h
      exact absurd (h t hmem) ht
    · intro h
      exact absurd (h t (by simp)) ht

end Trial

/-- The trials that did not pass are those that fail. -/
theorem Report.failed_ofTrials (policy : Policy) (total : Nat) (trials : List (Trial σ)) :
    (ofTrials policy total trials).failed = trials.countP fun t => !t.passes := by
  have hsum := List.length_eq_countP_add_countP Trial.passes (l := trials)
  simp only [decide_not, Bool.decide_eq_true] at hsum
  show trials.length - trials.countP Trial.passes = _
  omega

theorem Report.failed?_ofTrials (policy : Policy) (total : Nat) (trials : List (Trial σ)) :
    (ofTrials policy total trials).failed? = some (trials.countP fun t => !t.passes) := by
  have hle : (ofTrials policy total trials).passed ≤ (ofTrials policy total trials).executed :=
    List.countP_le_length
  rw [failed?, if_pos hle, failed_ofTrials]

/-! ## The trials of a device -/

namespace Device

@[simp] theorem length_trials (d : Device σ) (index : Nat) (vectors : List TestVector)
    (state : σ) : (d.trials index vectors state).length = vectors.length := by
  induction vectors generalizing index state with
  | nil => rfl
  | cons v vectors ih => simp [trials, ih]

theorem trials_append (d : Device σ) (index : Nat) (xs ys : List TestVector) (state : σ) :
    d.trials index (xs ++ ys) state =
      d.trials index xs state ++ d.trials (index + xs.length) ys (d.after xs state) := by
  induction xs generalizing index state with
  | nil => rfl
  | cons v xs ih =>
    simp only [List.cons_append, trials, after, ih, List.length_cons]
    rw [show index + 1 + xs.length = index + (xs.length + 1) by omega]

theorem map_index_trials (d : Device σ) (index : Nat) (vectors : List TestVector) (state : σ) :
    (d.trials index vectors state).map Trial.index = List.range' index vectors.length := by
  induction vectors generalizing index state with
  | nil => rfl
  | cons v vectors ih => simp [trials, ih, List.range'_succ]

/-- The vectors, each with its output and its position. -/
theorem map_trials_eq_zipIdx (d : Device σ) (index : Nat) (vectors : List TestVector)
    (state : σ) :
    (d.trials index vectors state).map (fun t => ((t.vector, t.response.output), t.index)) =
      (vectors.zip (d.outputs vectors state)).zipIdx index := by
  induction vectors generalizing index state with
  | nil => rfl
  | cons v vectors ih => simp [trials, outputs, ih]

theorem map_trials_eq_zip (d : Device σ) (index : Nat) (vectors : List TestVector) (state : σ) :
    (d.trials index vectors state).map (fun t => (t.vector, t.response.output)) =
      vectors.zip (d.outputs vectors state) := by
  rw [← List.zipIdx_map_fst index (vectors.zip (d.outputs vectors state)),
    ← map_trials_eq_zipIdx, List.map_map]
  rfl

/-- The trial at a position has the vector and the output of that position. -/
theorem getElem?_trials (d : Device σ) {vectors : List TestVector} (state : σ) {index : Nat}
    {v : TestVector} (hv : vectors[index]? = some v) :
    ∃ t, (d.trials 0 vectors state)[index]? = some t ∧ t.index = index ∧ t.vector = v ∧
      (d.outputs vectors state)[index]? = some t.response.output := by
  have hlt := (List.getElem?_eq_some_iff.1 hv).1
  have hmap := congrArg (fun l => l[index]?) (map_trials_eq_zipIdx d 0 vectors state)
  cases ht : (d.trials 0 vectors state)[index]? with
  | none =>
    rw [List.getElem?_eq_none_iff, length_trials] at ht
    omega
  | some t =>
    rw [List.getElem?_map, ht, List.getElem?_zipIdx, Option.map_some, eq_comm,
      Option.map_eq_some_iff] at hmap
    obtain ⟨⟨w, out⟩, hzip, heq⟩ := hmap
    rw [List.getElem?_zip_eq_some, hv] at hzip
    simp only [Prod.mk.injEq, Nat.zero_add] at heq
    obtain ⟨⟨rfl, rfl⟩, rfl⟩ := heq
    exact ⟨t, rfl, rfl, (Option.some.inj hzip.1).symm, hzip.2⟩

/-- Positions rise from trial to trial. -/
theorem pairwise_trials (d : Device σ) (index : Nat) (vectors : List TestVector) (state : σ) :
    (d.trials index vectors state).Pairwise fun x y => x.index < y.index := by
  rw [← List.pairwise_map, map_index_trials]
  exact List.pairwise_lt_range'

/-- A trial stands at its position. -/
theorem index_of_trials_eq {d : Device σ} {index : Nat} {vectors : List TestVector} {state : σ}
    {before after : List (Trial σ)} {t : Trial σ}
    (h : d.trials index vectors state = before ++ t :: after) :
    t.index = index + before.length := by
  have hi := congrArg (fun ts => (ts.map Trial.index)[before.length]?) h
  have hlen := congrArg List.length h
  simp only [length_trials, List.length_append, List.length_cons] at hlen
  simp only [map_index_trials, List.map_append, List.map_cons] at hi
  rw [List.getElem?_range' (by omega), List.getElem?_append_right (by simp)] at hi
  simp at hi
  omega

end Device

/-! ## The run -/

namespace Device

variable {d : Device σ} {index : Nat} {v : TestVector} {vectors : List TestVector} {state : σ}

theorem findings_cons_of_pass {policy : Policy}
    (h : (d.evaluate state v.a v.b v.sel).output = v.expectedOutput) :
    d.findings policy index (v :: vectors) state =
      let response := d.evaluate state v.a v.b v.sel
      let rest := d.findings policy (index + 1) vectors response.state
      { rest with
        executed := rest.executed + 1
        passed := rest.passed + 1
        log := response.log ++ .passed index v response.output :: rest.log } := by
  have hm : v.mismatches index (d.evaluate state v.a v.b v.sel).output = [] :=
    TestVector.mismatches_eq_nil_iff.2 h
  simp only [findings, hm]

theorem findings_failFast_of_fail
    (h : (d.evaluate state v.a v.b v.sel).output ≠ v.expectedOutput) :
    d.findings .failFast index (v :: vectors) state =
      let response := d.evaluate state v.a v.b v.sel
      let found := v.mismatches index response.output
      ⟨1, 0, found, !vectors.isEmpty, response.state, response.log ++ found.map .failed⟩ := by
  cases hm : v.mismatches index (d.evaluate state v.a v.b v.sel).output with
  | nil => exact absurd (TestVector.mismatches_eq_nil_iff.1 hm) h
  | cons m found => simp only [findings, hm]

theorem findings_collectAll_of_fail
    (h : (d.evaluate state v.a v.b v.sel).output ≠ v.expectedOutput) :
    d.findings .collectAll index (v :: vectors) state =
      let response := d.evaluate state v.a v.b v.sel
      let found := v.mismatches index response.output
      let rest := d.findings .collectAll (index + 1) vectors response.state
      { rest with
        executed := rest.executed + 1
        mismatches := found ++ rest.mismatches
        log := response.log ++ found.map .failed ++ rest.log } := by
  cases hm : v.mismatches index (d.evaluate state v.a v.b v.sel).output with
  | nil => exact absurd (TestVector.mismatches_eq_nil_iff.1 hm) h
  | cons m found => simp only [findings, hm]

/-- **The loop.** What is found is what the trials that took place say, and the device is left
after them. -/
theorem findings_eq (policy : Policy) :
    d.findings policy index vectors state =
      let trials := Trial.carriedOut policy (d.trials index vectors state)
      .ofTrials vectors.length (d.after (vectors.take trials.length) state) trials := by
  induction vectors generalizing index state with
  | nil => cases policy <;> rfl
  | cons v vectors ih =>
    by_cases h : (d.evaluate state v.a v.b v.sel).output = v.expectedOutput
    · have ht : (⟨index, v, d.evaluate state v.a v.b v.sel⟩ : Trial σ).passes = true :=
        (Trial.passes_iff _).2 h
      have hm := (Trial.mismatches_eq_nil_iff _).2 ht
      rw [findings_cons_of_pass h]
      simp only [ih, trials, Trial.carriedOut_cons_of_passes policy _ ht]
      simp [Findings.ofTrials, ht, hm, after, Trial.log]
    · have ht : ¬ (⟨index, v, d.evaluate state v.a v.b v.sel⟩ : Trial σ).passes = true := by
        rwa [Trial.passes_iff]
      cases policy with
      | failFast =>
        have left : vectors.isEmpty = !decide (0 < vectors.length) := by
          cases vectors <;> simp
        rw [findings_failFast_of_fail h]
        simp only [trials, Trial.carriedOut, Trial.upToFailure, if_neg ht]
        simp [Findings.ofTrials, ht, after, Trial.log, Trial.mismatches, left]
      | collectAll =>
        rw [findings_collectAll_of_fail h]
        simp only [ih, trials, Trial.carriedOut]
        simp [Findings.ofTrials, ht, after, Trial.log, Trial.mismatches]

/-- A run says what its trials say, and the report is the last thing it logs. -/
theorem run_eq (policy : Policy) :
    d.run policy vectors state =
      let trials := Trial.carriedOut policy (d.trials 0 vectors state)
      let report : Report :=
        ⟨policy, vectors.length, trials.length, trials.countP Trial.passes,
          trials.flatMap Trial.mismatches, trials.length < vectors.length⟩
      ⟨report, d.after (vectors.take trials.length) state,
        trials.flatMap Trial.log ++ [.finished report]⟩ := by
  unfold run
  rw [findings_eq]
  rfl

theorem report_run (policy : Policy) :
    (d.run policy vectors state).report =
      .ofTrials policy vectors.length (Trial.carriedOut policy (d.trials 0 vectors state)) := by
  rw [run_eq]
  rfl

theorem state_run (policy : Policy) :
    (d.run policy vectors state).state =
      d.after (vectors.take (d.run policy vectors state).report.executed) state := by
  rw [run_eq]

theorem mismatches_run_eq_nil_iff (d : Device σ) (policy : Policy) (vectors : List TestVector)
    (state : σ) :
    (d.run policy vectors state).report.mismatches = [] ↔
      ∀ t ∈ d.trials 0 vectors state, t.passes = true := by
  rw [report_run]
  exact Trial.flatMap_carriedOut_eq_nil_iff policy _

theorem executed_run_le (d : Device σ) (policy : Policy) (vectors : List TestVector) (state : σ) :
    (d.run policy vectors state).report.executed ≤ vectors.length := by
  rw [report_run, ← length_trials d 0 vectors state]
  exact (Trial.isPrefix_carriedOut policy _).length_le

theorem executed_run_collectAll (d : Device σ) (vectors : List TestVector) (state : σ) :
    (d.run .collectAll vectors state).report.executed = vectors.length := by
  rw [report_run]
  exact length_trials d 0 vectors state

/-- What a run finds before it stops is found first by the run that does not. -/
theorem isPrefix_mismatches_run (d : Device σ) (policy : Policy) (vectors : List TestVector)
    (state : σ) :
    (d.run policy vectors state).report.mismatches <+:
      (d.run .collectAll vectors state).report.mismatches := by
  obtain ⟨rest, hrest⟩ := Trial.isPrefix_carriedOut policy (d.trials 0 vectors state)
  rw [report_run, report_run]
  refine ⟨rest.flatMap Trial.mismatches, ?_⟩
  show (Trial.carriedOut policy _).flatMap Trial.mismatches ++ _ = _
  rw [← List.flatMap_append, hrest]
  rfl

theorem state_run_collectAll (d : Device σ) (vectors : List TestVector) (state : σ) :
    (d.run .collectAll vectors state).state = d.after vectors state := by
  simp only [run_eq, Trial.carriedOut, length_trials, List.take_length]

/-- The mismatches of a full run are those of each vector's output. -/
theorem mem_mismatches_collectAll_iff {m : Mismatch} :
    m ∈ (d.run .collectAll vectors state).report.mismatches ↔
      ∃ v out, vectors[m.index]? = some v ∧ (d.outputs vectors state)[m.index]? = some out ∧
        m ∈ v.mismatches m.index out := by
  have key : ∀ v out k,
      (∃ t ∈ d.trials 0 vectors state, t.vector = v ∧ t.response.output = out ∧ t.index = k) ↔
        vectors[k]? = some v ∧ (d.outputs vectors state)[k]? = some out := by
    intro v out k
    have h := List.mem_zipIdx_iff_getElem? (x := ((v, out), k))
      (l := vectors.zip (d.outputs vectors state))
    rw [← map_trials_eq_zipIdx, List.mem_map, List.getElem?_zip_eq_some] at h
    simpa only [Prod.mk.injEq, and_assoc] using h
  simp only [run_eq, Trial.carriedOut, List.mem_flatMap]
  constructor
  · rintro ⟨t, ht, hm⟩
    have hi := Trial.index_of_mem_mismatches hm
    obtain ⟨hv, ho⟩ := (key t.vector t.response.output t.index).1 ⟨t, ht, rfl, rfl, rfl⟩
    rw [hi]
    exact ⟨_, _, hv, ho, hm⟩
  · rintro ⟨v, out, hv, ho, hm⟩
    obtain ⟨t, ht, rfl, rfl, hi⟩ := (key v out m.index).2 ⟨hv, ho⟩
    refine ⟨t, ht, ?_⟩
    unfold Trial.mismatches
    rwa [hi]

theorem failed_run_collectAll (d : Device σ) (vectors : List TestVector) (state : σ) :
    (d.run .collectAll vectors state).report.failed? =
      some ((d.trials 0 vectors state).countP fun t => !t.passes) := by
  rw [report_run]
  exact Report.failed?_ofTrials _ _ _

/-- All trials pass exactly if the device answers what is expected. -/
theorem trials_pass_iff (index : Nat) :
    (∀ t ∈ d.trials index vectors state, t.passes = true) ↔
      d.outputs vectors state = vectors.map TestVector.expectedOutput := by
  induction vectors generalizing index state with
  | nil => simp [trials, outputs]
  | cons v vectors ih =>
    rw [trials, List.forall_mem_cons, ih, Trial.passes_iff, outputs, List.map_cons,
      List.cons.injEq]

/-- Under either policy a run succeeds exactly if the device answers every vector as expected. -/
theorem isSuccess_run_iff (policy : Policy) :
    (d.run policy vectors state).report.isSuccess = true ↔
      d.outputs vectors state = vectors.map TestVector.expectedOutput := by
  rw [run_eq, ← trials_pass_iff 0]
  simp only [Report.isSuccess, Bool.and_eq_true, List.isEmpty_iff, beq_iff_eq]
  rw [Trial.flatMap_carriedOut_eq_nil_iff]
  constructor
  · exact And.left
  · intro h
    refine ⟨h, ?_⟩
    rw [Trial.carriedOut_of_passes policy h, length_trials]

/-- The report of a device that answers every vector as expected. -/
theorem report_run_of_outputs (policy : Policy)
    (h : d.outputs vectors state = vectors.map TestVector.expectedOutput) :
    (d.run policy vectors state).report =
      ⟨policy, vectors.length, vectors.length, vectors.length, [], false⟩ := by
  rw [← trials_pass_iff 0] at h
  have hpassed : (d.trials 0 vectors state).countP Trial.passes = vectors.length := by
    rw [List.countP_eq_length.2 h, length_trials]
  rw [run_eq]
  simp only [Trial.carriedOut_of_passes policy h, Trial.flatMap_mismatches_eq_nil_iff.2 h,
    hpassed, length_trials, Nat.lt_irrefl, decide_false]

end Device

end AluBench
