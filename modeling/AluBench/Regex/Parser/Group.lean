import AluBench.Regex.Parser.Reader
import AluBench.Regex.Tree
import AluBench.Text.Letter

/-!
# Opening a group

What may stand behind an opening parenthesis: a name, flags, or nothing but the body. Flags without
a body hold up to the end of the group around them.
-/

namespace AluBench.Regex

/-- A flag, or the dash that negates those behind it, with its span. -/
structure FlagItem where
  flag : Option Flag
  span : Span
  deriving DecidableEq, Repr, Inhabited

/-- What the items set the flags to. -/
def FlagItem.changes (items : List FlagItem) : FlagChanges :=
  let isFlag (i : FlagItem) : Bool := i.flag.isSome
  (items.takeWhile isFlag).filterMap (fun i => i.flag.map (·, true))
    ++ (items.dropWhile isFlag).filterMap (fun i => i.flag.map (·, false))

/-- The start of a group with a body. -/
structure GroupHead where
  /-- The span of the parenthesis. -/
  span : Span
  captures : Bool
  changes : FlagChanges := []
  deriving DecidableEq, Repr, Inhabited

/-- What an opening parenthesis starts. -/
inductive Opening where
  | flags (span : Span) (changes : FlagChanges)
  | group (head : GroupHead)
  deriving Repr, Inhabited

namespace Parse

/-- Flags up to a colon or a closing parenthesis. `dangling` is the span of a dash with no flag
behind it so far. -/
def flagItems : Nat → List FlagItem → Option Span → Parse (List FlagItem)
  | 0, _, _ => do refuse .flagUnfinished (← point)
  | fuel + 1, items, dangling => do
    match ← next? with
    | none => refuse .flagUnfinished (← point)
    | some c =>
      if c == ':' || c == ')' then
        match dangling with
        | some span => refuse .flagDangling span
        | none => return items
      else
        let span : Span := ⟨← here, (← here).after c⟩
        let flag := Flag.ofChar? c
        if flag.isNone && c != '-' then refuse .flagUnknown span
        match items.find? (·.flag == flag) with
        | some i =>
          refuse (if flag.isNone then .negationRepeated else .flagRepeated) span (some i.span)
        | none =>
          bump
          if ← atEnd then refuse .flagUnfinished (← point)
          flagItems fuel (items ++ [⟨flag, span⟩]) (if flag.isNone then some span else none)

def isNameStart (c : Char) : Bool := c == '_' || Text.isLetter c

def isNameChar (c : Char) : Bool :=
  c == '_' || c == '.' || c == '[' || c == ']' || Text.isLetterOrNumber c

/-- The name of a group up to its closing bracket. -/
def groupName : Parse Unit := do
  let first ← here
  let r ← get
  let name ← match r.rest with
    | c :: _ => if isNameStart c then collectTight isNameChar else pure []
    | [] => pure []
  let stop ← here
  match ← next? with
  | none => refuse .nameUnclosed (← point)
  | some c =>
    if c != '>' then refuse .nameInvalid ⟨stop, stop.after c⟩
    bump
    if name.isEmpty then refuse .nameEmpty (.point first)
    match r.names.lookup name with
    | some earlier => refuse .nameRepeated ⟨first, stop⟩ (some earlier)
    | none => modify fun r => { r with names := (name, ⟨first, stop⟩) :: r.names }

def lookAroundSigns : List String := ["?=", "?!", "?<=", "?<!"]

/-- What starts at an opening parenthesis. -/
def opening : Parse Opening := do
  let start ← here
  let span : Span := ⟨start, start.after '('⟩
  bump
  skip
  for sign in lookAroundSigns do
    if ← accept sign then refuse .lookAround (← since start)
  let inner ← here
  let named ← if ← accept "?P<" then pure true else accept "?<"
  if named then
    groupName
    return .group ⟨span, true, []⟩
  else if ← accept "?" then
    if ← atEnd then refuse .groupUnclosed span
    let items ← flagItems (← get).rest.length [] none
    let changes := FlagItem.changes items
    let hasBody := (← next?) == some ':'
    bump
    if hasBody then return .group ⟨span, false, changes⟩
    if items.isEmpty then refuse .operandMissing (.point inner)
    return .flags (← since start) changes
  else return .group ⟨span, true, []⟩

end Parse

end AluBench.Regex
