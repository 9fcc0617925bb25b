import AluBench.Mismatch

/-!
# Reports

A report counts what a run did and lists what it found. It is written as a short text or as JSON:

    PASSED! All 22 vectors matched.

    FAILED! 1 of 8 executed vectors mismatched.
      Vector #7 A=0100 B=0010 sel=0001 (SUB): carry was 1, expected 0
-/

namespace AluBench

/-- What a run does after a vector fails. -/
inductive Policy where
  /-- Stop after the first vector with a mismatch. -/
  | failFast
  /-- Run every vector and report every mismatch. -/
  | collectAll
  deriving DecidableEq, Repr, Inhabited

def Policy.name : Policy → String
  | failFast => "FailFast"
  | collectAll => "CollectAll"

theorem Policy.name_inj {p q : Policy} : p.name = q.name ↔ p = q := by
  cases p <;> cases q <;> decide

structure Report where
  policy : Policy
  /-- The vectors handed to the run. -/
  total : Nat
  /-- The vectors evaluated. -/
  executed : Nat
  passed : Nat
  /-- One entry per field that differs, in the order of execution. -/
  mismatches : List Mismatch
  /-- The run stopped before its last vector. -/
  halted : Bool
  deriving DecidableEq, Repr, Inhabited

namespace Report

/-- The report of a run that has yet to start. -/
def start (policy : Policy) (total : Nat) : Report := ⟨policy, total, 0, 0, [], false⟩

def isSuccess (r : Report) : Bool := r.mismatches.isEmpty && r.executed == r.total

/-- The vectors with a mismatch. -/
def failed (r : Report) : Nat := r.executed - r.passed

/-- The vectors with a mismatch, none if more passed than were executed. -/
def failed? (r : Report) : Option Nat := if r.passed ≤ r.executed then some r.failed else none

def firstMismatch? (r : Report) : Option Mismatch := r.mismatches.head?

/-- The report itself, or its first mismatch if there is one. -/
def verdict (r : Report) : Except Mismatch Report :=
  match r.firstMismatch? with
  | some m => .error m
  | none => .ok r

theorem verdict_of_nil {r : Report} (h : r.mismatches = []) : r.verdict = .ok r := by
  rw [verdict, firstMismatch?, h]
  rfl

theorem verdict_of_cons {r : Report} {m : Mismatch} {rest : List Mismatch}
    (h : r.mismatches = m :: rest) : r.verdict = .error m := by
  rw [verdict, firstMismatch?, h]
  rfl

/-- The lines of the text: a heading and, below a failure, each mismatch. -/
def lines (r : Report) : List String :=
  if r.isSuccess then ["PASSED! All " ++ Text.decimal r.passed ++ " vectors matched."]
  else ("FAILED! " ++ Text.decimal r.failed ++ " of " ++ Text.decimal r.executed
      ++ " executed vectors mismatched.")
    :: r.mismatches.map fun m => "  " ++ m.text

def text (r : Report) : String := "\n".intercalate r.lines

def toJson (r : Report) : Json :=
  .record [("policy", .name r.policy.name), ("total", .number r.total),
    ("executed", .number r.executed), ("passed", .number r.passed),
    ("mismatches", .list (r.mismatches.map Mismatch.toJson)), ("halted", .bool r.halted)]

/-- What is printed of a report: its JSON document, or its text. -/
def render (r : Report) (json : Bool) : String := if json then r.toJson.pretty else r.text

end Report

end AluBench
