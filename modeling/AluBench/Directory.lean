/-!
# A directory of files

The working directory as a list of named files, without directories inside it.
-/

namespace AluBench

/-- Why a file cannot be created. -/
inductive FileError where
  | notFound | noDevice | notADirectory | isADirectory | nameTooLong
  deriving DecidableEq, Repr, Inhabited

def FileError.text : FileError → String
  | notFound => "No such file or directory (os error 2)"
  | noDevice => "No such device or address (os error 6)"
  | notADirectory => "Not a directory (os error 20)"
  | isADirectory => "Is a directory (os error 21)"
  | nameTooLong => "File name too long (os error 36)"

structure Directory where
  files : List (String × String)
  deriving DecidableEq, Repr, Inhabited

namespace Directory

def has (d : Directory) (name : String) : Bool := d.files.any (·.1 == name)

/-- The directory with the text of one file replaced, or the file added. -/
def write (d : Directory) (name text : String) : Directory :=
  if d.has name then ⟨d.files.map fun f => if f.1 == name then (name, text) else f⟩
  else ⟨d.files ++ [(name, text)]⟩

end Directory

end AluBench
