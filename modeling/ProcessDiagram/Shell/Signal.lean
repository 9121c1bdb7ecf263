/-! Signals by their names and numbers. -/
namespace ProcessDiagram.Shell.Signal

def names : List String :=
  ["EXIT", "HUP", "INT", "QUIT", "ILL", "TRAP", "ABRT", "BUS", "FPE", "KILL", "USR1", "SEGV", "USR2", "PIPE", "ALRM",
    "TERM", "16", "CHLD", "CONT", "STOP", "TSTP", "TTIN", "TTOU", "URG", "XCPU", "XFSZ", "VTALRM", "PROF", "WINCH",
    "IO", "PWR", "SYS", "32", "33", "RTMIN"] ++
  (List.range 15).map (fun i => "RTMIN+" ++ toString (i + 1)) ++
  (List.range 14).map (fun i => "RTMAX-" ++ toString (14 - i)) ++ ["RTMAX"]

def number (name : String) : Nat := names.idxOf name

def ofWord? (least : Nat) (word : String) : Option String :=
  match if word.toList.all Char.isDigit then word.toNat? else none with
  | some n => names[n]?
  | none => (names.drop least).find? fun name => name = word.toUpper

/-- What is said of a program that a signal ended. Nothing is said of some. -/
def text? (name : String) : Option String :=
  match name with
  | "HUP" => some "Hangup"
  | "QUIT" => some "Quit"
  | "ILL" => some "Illegal instruction"
  | "TRAP" => some "Trace/breakpoint trap"
  | "ABRT" => some "Aborted"
  | "BUS" => some "Bus error"
  | "FPE" => some "Floating point exception"
  | "KILL" => some "Killed"
  | "USR1" => some "User defined signal 1"
  | "SEGV" => some "Segmentation fault"
  | "USR2" => some "User defined signal 2"
  | "ALRM" => some "Alarm clock"
  | "TERM" => some "Terminated"
  | "16" => some "Stack fault"
  | "XCPU" => some "CPU time limit exceeded"
  | "XFSZ" => some "File size limit exceeded"
  | "VTALRM" => some "Virtual timer expired"
  | "PROF" => some "Profiling timer expired"
  | "IO" => some "I/O possible"
  | "PWR" => some "Power failure"
  | "SYS" => some "Bad system call"
  | "INT" => none
  | "PIPE" => none
  | _ =>
    if 34 ≤ number name then some ("Real-time signal " ++ toString (number name - 34))
    else some ("Unknown signal " ++ toString (number name))

/-- The signals that do nothing to a program without a trap for them. -/
def harmless : List String := ["EXIT", "CHLD", "CONT", "URG", "WINCH"]

end ProcessDiagram.Shell.Signal
