/-!
# Help and version
-/

namespace AluBench.CommandLine

def usageText : String := "Usage: alu4_golden [OPTIONS]"

def helpText : String := "\n".intercalate [
  "Checks the 4-bit ALU against its golden model",
  "",
  usageText,
  "",
  "Options:",
  "      --sweep                  Run an exhaustive operand sweep instead of the hand-written "
    ++ "vector table",
  "      --ops <OPS>              Operations to run, comma separated mnemonics "
    ++ "(add,sub,and,or,xor,eq). Filters the vector table, or picks what to sweep. "
    ++ "Defaults to all of them",
  "      --collect-all            Keep going after a failing vector and report every mismatch",
  "      --json                   Print the run report as JSON",
  "      --log-path <LOG_PATH>    ",
  "      --settle-ns <SETTLE_NS>  ",
  "  -h, --help                   Print help",
  "  -V, --version                Print version",
  ""]

def versionText : String := "alu4_golden 0.1.0\n"

end AluBench.CommandLine
