import AluBench.Device.Fault
import AluBench.Proofs.Run.Trials

/-!
# Splitting a run

A list of vectors can be run in two parts, the second from the state in which the first left the
device. If the first part does not stop early, the two reports add up to the report of one run, with
the positions of the second part moved behind the first. If it stops, the one run stops there too,
and the second part only adds vectors that are not executed.

The trials of the second part are those of a run of its own at later positions (`trials_append`,
`trials_shift`), and positions decide neither what passes nor what takes place.
-/

namespace AluBench

variable {σ : Type}

/-- The entry of the same vector `n` positions later. -/
def Mismatch.shift (n : Nat) (m : Mismatch) : Mismatch := { m with index := m.index + n }

/-! ## Trials at later positions -/

namespace Trial

/-- The same trial `n` positions later. -/
def shift (n : Nat) (t : Trial σ) : Trial σ := { t with index := t.index + n }

theorem passes_shift (n : Nat) (t : Trial σ) : (t.shift n).passes = t.passes := rfl

theorem mismatches_shift (n : Nat) (t : Trial σ) :
    (t.shift n).mismatches = t.mismatches.map (.shift n) := by
  unfold mismatches TestVector.mismatches Mismatch.compare
  rw [List.map_filterMap]
  congr 1
  funext field
  by_cases h : field.get t.response.output = field.get t.vector.expectedOutput <;>
    simp [shift, Mismatch.shift, h]

theorem countP_passes_shift (n : Nat) (trials : List (Trial σ)) :
    (trials.map (shift n)).countP passes = trials.countP passes := by
  rw [List.countP_map]
  rfl

theorem flatMap_mismatches_shift (n : Nat) (trials : List (Trial σ)) :
    (trials.map (shift n)).flatMap mismatches = (trials.flatMap mismatches).map (.shift n) := by
  rw [List.flatMap_map, List.map_flatMap]
  simp only [mismatches_shift]

end Trial

theorem Report.ofTrials_append_shift (policy : Policy) (total n : Nat) (xs ys : List (Trial σ)) :
    ofTrials policy (xs.length + total) (xs ++ ys.map (Trial.shift n)) =
      { policy
        total := xs.length + total
        executed := xs.length + ys.length
        passed := xs.countP Trial.passes + ys.countP Trial.passes
        mismatches :=
          xs.flatMap Trial.mismatches ++ (ys.flatMap Trial.mismatches).map (.shift n)
        halted := ys.length < total } := by
  unfold ofTrials
  rw [List.countP_append, Trial.countP_passes_shift, List.flatMap_append,
    Trial.flatMap_mismatches_shift, List.length_append, List.length_map]
  simp

theorem Device.trials_shift (d : Device σ) (index n : Nat) (vectors : List TestVector)
    (state : σ) :
    d.trials (index + n) vectors state = (d.trials index vectors state).map (Trial.shift n) := by
  induction vectors generalizing index state with
  | nil => rfl
  | cons v vectors ih =>
    rw [trials, trials, List.map_cons, ← ih, Nat.add_right_comm]
    rfl

theorem Device.trials_append_shift (d : Device σ) (xs ys : List TestVector) (state : σ) :
    d.trials 0 (xs ++ ys) state =
      d.trials 0 xs state ++
        (d.trials 0 ys (d.after xs state)).map (Trial.shift xs.length) := by
  rw [trials_append, trials_shift]

/-! ## Trials in two parts -/

namespace Trial

variable {policy : Policy} {xs : List (Trial σ)}

theorem carriedOut_of_no_stop (h : policy = .collectAll ∨ ∀ t ∈ xs, t.passes = true) :
    carriedOut policy xs = xs := by
  rcases h with rfl | h
  · rfl
  · exact carriedOut_of_passes policy h

theorem carriedOut_append_of_no_stop (ys : List (Trial σ))
    (h : policy = .collectAll ∨ ∀ t ∈ xs, t.passes = true) :
    carriedOut policy (xs ++ ys) = xs ++ carriedOut policy ys := by
  cases policy with
  | collectAll => rfl
  | failFast => exact upToFailure_append_of_passes ys (h.resolve_left (by decide))

/-- Behind a failing trial nothing takes place. -/
theorem upToFailure_append_of_failure (ys : List (Trial σ)) (h : ¬ ∀ t ∈ xs, t.passes = true) :
    upToFailure (xs ++ ys) = upToFailure xs := by
  rcases all_pass_or_first_failure xs with hall | ⟨before, t, after, rfl, hb, ht⟩
  · exact absurd hall h
  · rw [List.append_assoc, List.cons_append, upToFailure_append_cons hb ht,
      upToFailure_append_cons hb ht]

end Trial

/-! ## Runs in two parts -/

namespace Device

variable {d : Device σ} {policy : Policy} {xs : List TestVector} {state : σ}

theorem run_of_no_stop (h : policy = .collectAll ∨ ∀ t ∈ d.trials 0 xs state, t.passes = true) :
    (d.run policy xs state).report = .ofTrials policy xs.length (d.trials 0 xs state) ∧
      (d.run policy xs state).state = d.after xs state := by
  have hreport : (d.run policy xs state).report =
      .ofTrials policy xs.length (d.trials 0 xs state) := by
    rw [report_run, Trial.carriedOut_of_no_stop h]
  refine ⟨hreport, ?_⟩
  rw [state_run, hreport]
  show d.after (xs.take (d.trials 0 xs state).length) state = _
  rw [length_trials, List.take_length]

theorem run_append_of_no_stop (ys : List TestVector)
    (h : policy = .collectAll ∨ ∀ t ∈ d.trials 0 xs state, t.passes = true) :
    let first := d.run policy xs state
    let second := d.run policy ys first.state
    let whole := d.run policy (xs ++ ys) state
    whole.state = second.state ∧
      whole.report =
        { policy
          total := first.report.total + second.report.total
          executed := first.report.executed + second.report.executed
          passed := first.report.passed + second.report.passed
          mismatches :=
            first.report.mismatches ++ second.report.mismatches.map (.shift xs.length)
          halted := second.report.halted } := by
  intro first second whole
  obtain ⟨hfirst, hstate⟩ : first.report = _ ∧ first.state = _ := run_of_no_stop h
  have hlen : (d.trials 0 xs state).length = xs.length := length_trials d 0 xs state
  have hsecond : second.report = .ofTrials policy ys.length
      (Trial.carriedOut policy (d.trials 0 ys (d.after xs state))) := by
    rw [← hstate]
    exact report_run policy
  have hwhole : whole.report = .ofTrials policy ((d.trials 0 xs state).length + ys.length)
      (d.trials 0 xs state ++ (Trial.carriedOut policy (d.trials 0 ys (d.after xs state))).map
        (Trial.shift xs.length)) := by
    rw [hlen, ← List.length_append, ← Trial.carriedOut_map (Trial.passes_shift xs.length),
      ← Trial.carriedOut_append_of_no_stop _ h, ← trials_append_shift]
    exact report_run policy
  rw [Report.ofTrials_append_shift] at hwhole
  constructor
  -- all of `xs` was executed, so what is left out of the state is left out of `ys`
  · have hexecuted : whole.report.executed = xs.length + second.report.executed := by
      rw [hwhole, hsecond, hlen]
      rfl
    calc whole.state
        = d.after ((xs ++ ys).take whole.report.executed) state := state_run policy
      _ = d.after (ys.take second.report.executed) first.state := by
          rw [hexecuted, List.take_length_add_append, after_append, hstate]
      _ = second.state := (state_run policy).symm
  · rw [hwhole, hsecond, hfirst, hlen]
    simp only [Report.ofTrials, hlen]

theorem run_append_of_stop (ys : List TestVector)
    (h : ¬ ∀ t ∈ d.trials 0 xs state, t.passes = true) :
    let first := d.run .failFast xs state
    let whole := d.run .failFast (xs ++ ys) state
    whole.state = first.state ∧
      whole.report =
        { first.report with
          total := xs.length + ys.length
          halted := first.report.executed < xs.length + ys.length } := by
  intro first whole
  have hfirst : first.report = _ := report_run .failFast
  have hwhole : whole.report =
      .ofTrials .failFast (xs.length + ys.length) (Trial.upToFailure (d.trials 0 xs state)) := by
    rw [← Trial.upToFailure_append_of_failure _ h, ← List.length_append, ← trials_append_shift]
    exact report_run .failFast
  have hexecuted : whole.report.executed = first.report.executed := by
    rw [hwhole, hfirst]
    rfl
  have hle : first.report.executed ≤ xs.length := executed_run_le d .failFast xs state
  constructor
  · calc whole.state
        = d.after ((xs ++ ys).take whole.report.executed) state := state_run .failFast
      _ = d.after (xs.take first.report.executed) state := by
          rw [hexecuted, List.take_append_of_le_length hle]
      _ = first.state := (state_run .failFast).symm
  · rw [hwhole, hfirst]
    rfl

/-- **Two parts make one run**, unless the first stops it. -/
theorem run_append (d : Device σ) (policy : Policy) (xs ys : List TestVector) (state : σ) :
    let first := d.run policy xs state
    let second := d.run policy ys first.state
    let whole := d.run policy (xs ++ ys) state
    (policy = .collectAll ∨ first.report.mismatches = [] →
        whole.state = second.state ∧
          whole.report =
            { policy
              total := first.report.total + second.report.total
              executed := first.report.executed + second.report.executed
              passed := first.report.passed + second.report.passed
              mismatches :=
                first.report.mismatches ++ second.report.mismatches.map (.shift xs.length)
              halted := second.report.halted }) ∧
      (policy = .failFast ∧ first.report.mismatches ≠ [] →
        whole.state = first.state ∧
          whole.report =
            { policy
              total := xs.length + ys.length
              executed := first.report.executed
              passed := first.report.passed
              mismatches := first.report.mismatches
              halted := first.report.executed < xs.length + ys.length }) := by
  intro first second whole
  constructor
  · intro h
    exact run_append_of_no_stop ys (h.imp_right (mismatches_run_eq_nil_iff d policy xs state).1)
  · rintro ⟨rfl, h⟩
    exact run_append_of_stop ys (h ∘ (mismatches_run_eq_nil_iff d .failFast xs state).2)

/-- A failure on the last vector does not halt a run, but halts the run that goes on. -/
theorem run_append_invertedBorrow :
    let xs : List TestVector := [⟨2, 4, 1, 14⟩]
    let ys : List TestVector := [⟨2, 4, 0, 6⟩, ⟨4, 2, 1, 2⟩]
    let first := invertedBorrow.run .failFast xs 0
    let whole := invertedBorrow.run .failFast (xs ++ ys) 0
    (first.report.mismatches ≠ [] ∧ first.report.halted = false ∧
        whole.report.halted = true ∧ whole.state = 1) ∧
      (invertedBorrow.run .collectAll (xs ++ ys) 0).report.mismatches.map Mismatch.index =
        [0, 2] := by
  intro xs ys first whole
  have hne : first.report.mismatches ≠ [] := by decide
  have hcut := (run_append invertedBorrow .failFast xs ys 0).2 ⟨rfl, hne⟩
  have hfull := (run_append invertedBorrow .collectAll xs ys 0).1 (Or.inl rfl)
  refine ⟨⟨hne, by decide, ?_, hcut.1⟩, ?_⟩
  · show (invertedBorrow.run .failFast (xs ++ ys) 0).report.halted = true
    rw [hcut.2]
    decide
  · rw [hfull.2]
    decide

end Device

end AluBench
