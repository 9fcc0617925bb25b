/-!
# Around the working directory

What stands at the places of the file system that every process finds: the directories under the
root, the devices, and the streams of the process itself. A place is given by the names from the
root down to it.
-/

namespace AluBench.Directory

/-- The streams that a process writes to. -/
inductive Stream where
  | output | errors
  deriving DecidableEq, Repr, Inhabited

inductive Entry where
  | directory
  /-- A directory in which no file can be made. -/
  | fixedDirectory
  /-- Another name for the directory at a place. -/
  | link (target : List String)
  /-- Takes what is written and shows it nowhere. -/
  | sink
  | stream (s : Stream)
  /-- The terminal of the process, which it does not have. -/
  | terminal
  deriving DecidableEq, Repr, Inhabited

/-- The working directory, in `/tmp` under a name that no path can write. -/
def workingPlace : List String := ["tmp", ""]

def underRoot : List (List String × Entry) :=
  ([], .directory) ::
    ["boot", "dev", "etc", "home", "media", "mnt", "opt", "root", "run", "srv", "tmp", "usr",
      "var"].map (fun name => ([name], .directory))
  ++ ["bin", "lib", "lib64", "sbin"].map (fun name => ([name], .link ["usr", name]))
  ++ ["bin", "include", "lib", "lib64", "local", "sbin", "share", "src"].map
    (fun name => (["usr", name], .directory))
  ++ ["cache", "lib", "log", "spool", "tmp"].map (fun name => (["var", name], .directory))

def devices : List (List String × Entry) :=
  ["full", "null", "ptmx", "random", "urandom", "zero"].map (fun name => (["dev", name], .sink))
  ++ [(["dev", "mqueue"], .directory), (["dev", "shm"], .directory),
    (["dev", "pts"], .fixedDirectory), (["dev", "fd"], .link ["proc", "self", "fd"]),
    (["dev", "stdin"], .sink), (["dev", "stdout"], .stream .output),
    (["dev", "stderr"], .stream .errors), (["dev", "tty"], .terminal)]

def process : List (List String × Entry) :=
  [(["proc"], .fixedDirectory), (["proc", "self"], .fixedDirectory),
    (["proc", "self", "fd"], .fixedDirectory), (["proc", "self", "fd", "0"], .sink),
    (["proc", "self", "fd", "1"], .stream .output),
    (["proc", "self", "fd", "2"], .stream .errors), (["sys"], .fixedDirectory)]

/-- What stands at a place, if anything is known to. -/
def entryAt? (place : List String) : Option Entry :=
  ((underRoot ++ devices ++ process).find? (·.1 == place)).map Prod.snd

end AluBench.Directory
