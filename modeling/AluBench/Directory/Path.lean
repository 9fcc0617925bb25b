import AluBench.Directory
import AluBench.Directory.Surroundings

/-!
# Paths

A path is walked name by name, from the root if it starts with a slash and else from the working
directory. Every name but the last has to lead to a directory. The last is that of the file to be
made, and may lead to one that there is.
-/

namespace AluBench.Directory

/-- Where a file that is made comes to be. -/
inductive Place where
  | file (name : String)
  | stream (s : Stream)
  /-- Outside of the directory, where nobody looks. -/
  | outside
  deriving DecidableEq, Repr, Inhabited

/-- The most bytes in one name of a path. -/
def longestName : Nat := 255

/-- The most bytes in a path. -/
def longestPath : Nat := 4095

/-- The place that a name leads to from a place, without a look at what stands there. -/
def below (here : List String) (name : String) : List String := here ++ [name]

/-- Where a name inside of a path leads. -/
def step (d : Directory) (here : List String) (name : String) : Except FileError (List String) :=
  if name == "." then .ok here
  else if name == ".." then .ok here.dropLast
  else if longestName < name.utf8ByteSize then .error .nameTooLong
  else if here == workingPlace then
    if d.has name then .error .notADirectory else .error .notFound
  else
    match entryAt? (below here name) with
    | none => .error .notFound
    | some .directory | some .fixedDirectory => .ok (below here name)
    | some (.link target) => .ok target
    | some .sink | some (.stream _) | some .terminal => .error .notADirectory

/-- Where the last name of a path leads. -/
def lastStep (here : List String) (name : String) : Except FileError Place :=
  if longestName < name.utf8ByteSize then .error .nameTooLong
  else if here == workingPlace then .ok (.file name)
  else
    match entryAt? (below here name) with
    | some .directory | some .fixedDirectory | some (.link _) => .error .isADirectory
    | some .sink => .ok .outside
    | some (.stream s) => .ok (.stream s)
    | some .terminal => .error .noDevice
    | none => if entryAt? here == some .fixedDirectory then .error .notFound else .ok .outside

/-- Where the names of a path lead; `closed` says that a slash follows the last. -/
def walk (d : Directory) (closed : Bool) (here : List String) :
    List String → Except FileError Place
  | [] => .error .isADirectory
  | [name] =>
    if name == "." || name == ".." || closed then .error .isADirectory else lastStep here name
  | name :: names => do
    let here ← d.step here name
    d.walk closed here names

/-- Where a file to be made at a path comes to be. -/
def locate (d : Directory) (path : String) : Except FileError Place :=
  let cs := path.toList
  let names := ((cs.splitOn '/').filter (!·.isEmpty)).map String.ofList
  let here := if cs.head? == some '/' then [] else workingPlace
  if longestPath < path.utf8ByteSize then .error .nameTooLong
  else d.walk (cs.getLast? == some '/') here names

/-- What is written outside is lost from sight. -/
def writeAt (d : Directory) (place : Place) (text : String) : Directory :=
  match place with
  | .file name => d.write name text
  | .stream _ | .outside => d

end AluBench.Directory
