import AluBench.Report
import AluBench.Text.Duration

/-!
# The log

Whatever is worth a line is an `Event`. Its level, its source and its text are functions of it, so
what a run logs can be compared with what it reports.
-/

namespace AluBench.Log

/-- From the most to the least severe. -/
inductive Level where
  | error | warn | info | debug | trace
  deriving DecidableEq, Repr, Inhabited

namespace Level

/-- The more severe, the earlier. -/
def all : List Level := [error, warn, info, debug, trace]

/-- The more verbose, the larger. -/
def rank : Level → Nat
  | error => 1
  | warn => 2
  | info => 3
  | debug => 4
  | trace => 5

def name : Level → String
  | error => "ERROR"
  | warn => "WARN"
  | info => "INFO"
  | debug => "DEBUG"
  | trace => "TRACE"

end Level

/-- How much of a log is kept: nothing, or everything up to a level. -/
inductive Threshold where
  | off
  | upTo (level : Level)
  deriving DecidableEq, Repr, Inhabited

namespace Threshold

def all : List Threshold := off :: Level.all.map upTo

def name : Threshold → String
  | off => "OFF"
  | upTo level => level.name

/-- The threshold that a text names, in either case. -/
def ofName? (text : String) : Option Threshold :=
  all.find? fun t => Text.sameLetters t.name.toList text.toList

def admits : Threshold → Level → Bool
  | off, _ => false
  | upTo most, level => level.rank ≤ most.rank

/-- A threshold admits the levels that are no less severe than its own. -/
theorem admits_iff {threshold : Threshold} {level : Level} :
    threshold.admits level = true ↔
      ∃ most, threshold = upTo most ∧ Level.all.idxOf level ≤ Level.all.idxOf most := by
  cases threshold with
  | off => simp [admits]
  | upTo most =>
    simp only [upTo.injEq, exists_eq_left']
    cases most <;> cases level <;> decide

end Threshold

/-- The part of the program that a line comes from. -/
inductive Source where
  | bench | runner | wire
  deriving DecidableEq, Repr, Inhabited

/-- The path by which filters name a source. -/
def Source.path : Source → String
  | bench => "alu4_golden"
  | runner => "alu4_golden::runner"
  | wire => "alu4_golden::device::wire"

inductive Event where
  /-- The host had a logger already. -/
  | loggerKept
  | started (vectors : Nat) (policy : Policy) (settleTime : Nat)
  | wireStep (operands selector output : UInt8)
  | passed (index : Nat) (vector : TestVector) (actual : Output)
  | failed (mismatch : Mismatch)
  | finished (report : Report)
  deriving DecidableEq, Repr, Inhabited

namespace Event

def level : Event → Level
  | loggerKept => .debug
  | started .. => .info
  | wireStep .. => .trace
  | passed .. => .debug
  | failed _ => .error
  | finished _ => .info

def source : Event → Source
  | loggerKept | started .. => .bench
  | wireStep .. => .wire
  | passed .. | failed _ | finished _ => .runner

def text : Event → String
  | loggerKept => "Logger already installed, keeping it"
  | started vectors policy settleTime =>
    "Running " ++ Text.decimal vectors ++ " vectors (" ++ policy.name ++ ", settle "
      ++ Text.duration settleTime ++ ")"
  | wireStep operands selector output =>
    "ui_in=" ++ Text.binary 8 operands.toNat ++ " uio_in=" ++ Text.binary 4 selector.toNat
      ++ " uo_out=" ++ Text.binary 8 output.toNat
  | passed index vector actual =>
    "PASS #" ++ Text.decimal index ++ " " ++ vector.text ++ " -> " ++ actual.text
  | failed mismatch => "FAIL " ++ mismatch.text
  | finished report =>
    Text.decimal report.passed ++ "/" ++ Text.decimal report.total ++ " vectors passed, "
      ++ Text.decimal report.executed ++ " executed, "
      ++ Text.decimal report.mismatches.length ++ " mismatched fields"

/-- The level and the text: `INFO Running 22 vectors (FailFast, settle 10ns)`. -/
def line (e : Event) : String := e.level.name ++ " " ++ e.text

end Event

/-- The events of a log that a threshold keeps. -/
def keep (threshold : Threshold) (events : List Event) : List Event :=
  events.filter fun e => threshold.admits e.level

end AluBench.Log
