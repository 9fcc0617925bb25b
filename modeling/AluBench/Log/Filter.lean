import AluBench.Log
import AluBench.Regex

/-!
# Log filters

A filter is written as directives between commas, and after a `/` a regular expression that must
match somewhere in a message:

    info                  everything up to INFO
    bench::run=debug      the sources whose path starts with `bench::run`, up to DEBUG
    bench                 the sources whose path starts with `bench`, everything
    warn,bench=trace/PASS #[0-9] |FAIL

For each source the directive with the longest path decides, and where none fits nothing is kept. A
later directive replaces an earlier one with the same path. A filter without directives keeps errors
only. What cannot be read is left out with a warning.
-/

namespace AluBench.Log

structure Directive where
  /-- What the path of a source must start with, nothing for every source. -/
  path : Option String
  threshold : Threshold
  deriving DecidableEq, Repr, Inhabited

namespace Directive

def covers (d : Directive) (path : String) : Bool :=
  match d.path with
  | none => true
  | some start => start.toList.isPrefixOf path.toList

/-- How much of a path a directive tells apart, in bytes. -/
def reach (d : Directive) : Nat := (d.path.map String.utf8ByteSize).getD 0

/-- A directive between two commas: a level, a path, or a path and a level. A level may be left out
behind `=`. -/
def read (text : List Char) : Except String Directive :=
  match text.splitOn '=' with
  | [only] =>
    let word := String.ofList only
    match Threshold.ofName? word with
    | some threshold => .ok ⟨none, threshold⟩
    | none => .ok ⟨some word, .upTo .trace⟩
  | [path, level] =>
    let path := String.ofList path
    let word := String.ofList (Text.trim level)
    if word.isEmpty then .ok ⟨some path, .upTo .trace⟩
    else
      match Threshold.ofName? word with
      | some threshold => .ok ⟨some path, threshold⟩
      | none => .error ("invalid logging spec '" ++ word ++ "'")
  | _ => .error ("invalid logging spec '" ++ String.ofList text ++ "'")

/-- The directive joins a list, in the place of one with the same path if there is one. -/
def joined (ds : List Directive) (d : Directive) : List Directive :=
  if ds.any (·.path == d.path) then ds.map fun old => if old.path == d.path then d else old
  else ds ++ [d]

end Directive

structure Filter where
  directives : List Directive
  /-- What every kept message matches, if anything is asked for. -/
  required : Option Regex.Expr := none
  deriving DecidableEq, Repr, Inhabited

namespace Filter

/-- The threshold for a path: that of the covering directive with the longest reach, the last of
those that tie. -/
def thresholdFor (f : Filter) (path : String) : Threshold :=
  let best := (f.directives.filter (·.covers path)).foldl
    (fun best d => if best.reach ≤ d.reach then d else best) ⟨none, .off⟩
  best.threshold

def admits (f : Filter) (e : Event) : Bool :=
  (f.thresholdFor e.source.path).admits e.level && f.required.all (·.occursIn e.text.toList)

/-- The filter of a list of directives, which keeps errors if the list is empty. -/
def ofDirectives (ds : List Directive) (required : Option Regex.Expr) : Filter :=
  ⟨if ds.isEmpty then [⟨none, .upTo .error⟩] else ds.foldl Directive.joined [], required⟩

/-- What messages have to match, and a warning if it could not be read. -/
def readRequired : Option (List Char) → Option Regex.Expr × List String
  | none => (none, [])
  | some pattern =>
    match Regex.Expr.read pattern with
    | .ok e => (some e, [])
    | .error refusal => (none, ["invalid regex filter - " ++ refusal.shown pattern])

/-- Directives between commas, and a warning for each that could not be read. -/
def readDirectives (written : List Char) : List Directive × List String :=
  let pieces := (written.splitOn ',').map Text.trim
  let results := (pieces.filter (!·.isEmpty)).map Directive.read
  (results.filterMap fun r => r.toOption,
    results.filterMap fun
      | .error warning => some warning
      | .ok _ => none)

/-- A written filter, and a warning for all that could not be read. -/
def read (text : String) : Filter × List String :=
  match text.toList.splitOn '/' with
  | written :: rest =>
    if rest.length ≤ 1 then
      let (directives, warnings) := readDirectives written
      let (required, refusals) := readRequired rest.head?
      (ofDirectives directives required, warnings ++ refusals)
    else (ofDirectives [] none, ["invalid logging spec '" ++ text ++ "' (too many '/'s)"])
  | [] => (ofDirectives [] none, [])

/-- The filter of an optional setting: everything up to INFO if it is absent. -/
def ofSetting (setting : Option String) : Filter × List String := read (setting.getD "info")

end Filter

end AluBench.Log
