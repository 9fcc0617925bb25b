/-!
# Names on the command line

A switch stands for itself; a setting takes a value, either behind `=` or as the next argument.
-/

namespace AluBench.CommandLine

inductive Switch where
  | sweep | collectAll | json | help | version
  deriving DecidableEq, Repr, Inhabited

namespace Switch

def all : List Switch := [sweep, collectAll, json, help, version]

/-- The name behind the two dashes. -/
def name : Switch → String
  | sweep => "sweep"
  | collectAll => "collect-all"
  | json => "json"
  | help => "help"
  | version => "version"

/-- The switch as messages show it. -/
def shown (s : Switch) : String := "--" ++ s.name

end Switch

inductive Setting where
  | ops | logPath | settleNs
  deriving DecidableEq, Repr, Inhabited

namespace Setting

def all : List Setting := [ops, logPath, settleNs]

/-- The name behind the two dashes. -/
def name : Setting → String
  | ops => "ops"
  | logPath => "log-path"
  | settleNs => "settle-ns"

/-- What its value is called. -/
def valueName : Setting → String
  | ops => "OPS"
  | logPath => "LOG_PATH"
  | settleNs => "SETTLE_NS"

/-- The setting as messages show it. -/
def shown (s : Setting) : String := "--" ++ s.name ++ " <" ++ s.valueName ++ ">"

end Setting

end AluBench.CommandLine
