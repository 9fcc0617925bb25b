import AluBench.CommandLine.UsageError
import AluBench.Options

/-!
# Reading the command line

Arguments are read from left to right, each first by itself (`Token.ofArgument`). A setting without
a value of its own waits for the next argument; the value is looked at only when a further name, or
the end, is reached. So an argument that is wrong by itself is reported before the value that waits,
and before a value that is missing. Nothing may follow a `--`.
-/

namespace AluBench.CommandLine

/-- An argument by itself. -/
inductive Token where
  /-- The two dashes behind which everything is an operand. -/
  | marker
  | switch (s : Switch)
  | setting (s : Setting) (attached : Option String)
  | word (text : String)
  | refused (error : UsageError)
  deriving DecidableEq, Repr, Inhabited

namespace Token

/-- An argument that starts with two dashes, of which `body` is the rest. -/
def ofLong (body : List Char) : Token :=
  let name := String.ofList (body.takeWhile (· != '='))
  let attached := match body.dropWhile (· != '=') with
    | [] => none
    | _ :: value => some (String.ofList value)
  match Setting.all.find? (·.name == name), Switch.all.find? (·.name == name), attached with
  | some s, _, attached => .setting s attached
  | none, some s, none => .switch s
  | none, some s, some value => .refused (.unwantedValue s value)
  | none, none, _ => .refused (.unexpected ("--" ++ name))

/-- Of letters behind one dash only the first is looked at: each of them ends the reading. -/
def ofArgument (argument : String) : Token :=
  match argument.toList with
  | ['-', '-'] => .marker
  | '-' :: '-' :: body => ofLong body
  | ['-'] => .word argument
  | '-' :: 'h' :: _ => .switch .help
  | '-' :: 'V' :: _ => .switch .version
  | '-' :: letter :: _ => .refused (.unexpected (String.ofList ['-', letter]))
  | _ => .word argument

end Token

/-- The largest number that a setting takes. -/
def largestNumber : Nat := 0xFFFF_FFFF_FFFF_FFFF

/-- Gives a setting its value. Only operations may be given more than once. -/
def assign (o : Options) : Setting → String → Except UsageError Options
  | .ops, value =>
    let names := (value.toList.splitOn ',').map String.ofList
    .ok { o with operations := o.operations ++ names }
  | .logPath, value =>
    if o.logPath.isSome then .error (.repeatedSetting .logPath)
    else if value.isEmpty then .error (.missingValue .logPath)
    else .ok { o with logPath := some value }
  | .settleNs, value =>
    if o.settleTime.isSome then .error (.repeatedSetting .settleNs)
    else
      match readNumber largestNumber value.toList with
      | .ok n => .ok { o with settleTime := some n }
      | .error fault => .error (.invalidValue .settleNs value fault)

def turnOn (o : Options) : Switch → Except Stop Options
  | .sweep =>
    if o.sweep then .error (.refused (.repeatedSwitch .sweep)) else .ok { o with sweep := true }
  | .collectAll =>
    if o.collectAll then .error (.refused (.repeatedSwitch .collectAll))
    else .ok { o with collectAll := true }
  | .json =>
    if o.json then .error (.refused (.repeatedSwitch .json)) else .ok { o with json := true }
  | .help => .error .help
  | .version => .error .version

/-- A setting whose value is still to be looked at, or still to come. -/
structure Waiting where
  setting : Setting
  value : Option String
  deriving DecidableEq, Repr, Inhabited

/-- Gives the waiting setting its value. -/
def conclude (o : Options) : Option Waiting → Except Stop Options
  | none => .ok o
  | some ⟨s, none⟩ => .error (.refused (.missingValue s))
  | some ⟨s, some value⟩ => (assign o s value).mapError .refused

def read (o : Options) (waiting : Option Waiting) : List String → Except Stop Options
  | [] => conclude o waiting
  | argument :: arguments =>
    match Token.ofArgument argument with
    | .marker =>
      match arguments with
      | [] => conclude o waiting
      | operand :: _ => .error (.refused (.unexpected operand))
    | .switch s => do
      let o ← conclude o waiting
      let o ← turnOn o s
      read o none arguments
    | .setting s none => do
      let o ← conclude o waiting
      read o (some ⟨s, none⟩) arguments
    | .setting s (some value) => do
      let o ← conclude o waiting
      let o ← (assign o s value).mapError .refused
      read o none arguments
    | .word text =>
      match waiting with
      | some ⟨s, none⟩ => read o (some ⟨s, some text⟩) arguments
      | _ => .error (.refused (.unexpected text))
    | .refused error => .error (.refused error)

/-- The options that a list of arguments asks for. -/
def parse (arguments : List String) : Except Stop Options := read {} none arguments

end AluBench.CommandLine
