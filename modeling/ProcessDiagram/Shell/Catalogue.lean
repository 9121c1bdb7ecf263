import ProcessDiagram.Shell.Program.Blocks
import ProcessDiagram.Shell.Program.Characters
import ProcessDiagram.Shell.Program.Comparison
import ProcessDiagram.Shell.Program.Editing
import ProcessDiagram.Shell.Program.Finding
import ProcessDiagram.Shell.Program.Listing
import ProcessDiagram.Shell.Program.Pairing
import ProcessDiagram.Shell.Program.Search
import ProcessDiagram.Shell.Program.Words

/-! The programs of the system by their names. -/
namespace ProcessDiagram.Shell.Catalogue

def shells : List String := ["sh", "dash", "bash"]

/-- Programs that write what they have as they go on; others write it at their ends. -/
def prompt : List (String × (System → Utility)) :=
  [("cat", fun _ => Utility.cat), ("tee", fun _ => Utility.tee), ("yes", fun _ => Utility.yes),
    ("dd", fun _ => Utility.dd), ("env", Utility.env), ("find", Utility.find), ("nice", Utility.nice),
    ("nohup", Utility.nohup), ("setsid", Utility.setsid), ("sleep", Utility.sleep), ("stdbuf", Utility.stdbuf),
    ("timeout", Utility.timeout), ("xargs", Utility.xargs)]

def plain : List (String × Utility) :=
  [("[", Utility.condition true), ("arch", Utility.tellsAlone "x86_64" 0), ("base64", Utility.base64),
    ("basename", Utility.basename), ("chmod", Utility.chmod), ("cksum", Utility.cksum), ("cmp", Utility.cmp),
    ("comm", Utility.comm), ("cp", Utility.cp), ("cut", Utility.cut), ("date", Utility.date), ("diff", Utility.diff),
    ("dirname", Utility.dirname), ("echo", Utility.echoPlainly), ("egrep", Utility.grepWith true false),
    ("expand", Utility.expand), ("expr", Utility.expr), ("false", fun _ => return 1),
    ("fgrep", Utility.grepWith false true), ("fold", Utility.fold), ("grep", Utility.grep),
    ("head", Utility.ends false), ("groups", Utility.tells "root"), ("hostname", Utility.tells "localhost"), ("id", Utility.identity),
    ("join", Utility.join), ("link", Utility.linkTo), ("ln", Utility.ln),
    ("ls", Utility.ls),
    ("md5sum", Utility.digestWith Text.Checksum.md5), ("mkdir", Utility.mkdir), ("mktemp", Utility.mktemp),
    ("mv", Utility.mv), ("nl", Utility.nl), ("nproc", Utility.tellsAlone "1" 0), ("od", Utility.od), ("paste", Utility.paste),
    ("printenv", Utility.printenv), ("printf", Utility.formatted), ("pwd", Utility.pwd),
    ("readlink", Utility.readlink), ("realpath", Utility.realpath), ("rev", Utility.rev), ("rm", Utility.rm),
    ("rmdir", Utility.rmdir), ("sed", Utility.sed), ("seq", Utility.seq),
    ("sha1sum", Utility.digestWith Text.Checksum.sha1), ("sha256sum", Utility.digestWith Text.Digest.ofBytes),
    ("sort", Utility.sort), ("stat", Utility.stat), ("sync", fun _ => return 0), ("tac", Utility.tac), ("tail", Utility.ends true),
    ("test", Utility.condition false), ("touch", Utility.touch), ("tr", Utility.tr), ("true", fun _ => return 0),
    ("truncate", Utility.truncate), ("tty", Utility.tty), ("uname", Utility.uname), ("unexpand", Utility.unexpand),
    ("uniq", Utility.uniq), ("unlink", Utility.unlink), ("wc", Utility.wc),
    ("which", Utility.which), ("whoami", Utility.tellsAlone "root" 0)]

def utility? (sys : System) (name : String) : Option (Utility × Bool) :=
  match plain.lookup name with
  | some utility => some (utility, false)
  | none => (prompt.lookup name).map fun utility => (utility sys, true)

def names : List String := plain.map (·.1) ++ prompt.map (·.1)

def inputName? (which : String) : Option String :=
  if which = "cat" then some "closing standard input"
  else if which ∈ ["cut", "expand", "fold", "head", "nl", "paste", "tac", "tail", "unexpand", "wc"] then some "-"
  else if which ∈ ["cksum", "md5sum", "od", "sha1sum", "sha256sum", "tee"] then some "standard input"
  else none

def flushing : List String := ["cksum", "find", "md5sum", "sha1sum", "sha256sum", "sort", "wc"]

def writeFailure (which : String) (e : FileError) : List String × Nat :=
  let last := "write error" ++ (if which ∈ flushing ∧ e ≠ .badStream then "" else ": " ++ e.reason)
  match which with
  | "sed" => ([(if e = .badStream then "couldn't close stdout: " else "couldn't flush stdout: ") ++ e.reason], 4)
  | "sort" => (["fflush failed: 'standard output': " ++ e.reason, last], 2)
  | "find" => (["'standard output': " ++ e.reason, last], 1)
  | "grep" => ([last], 2)
  | "ls" => ([last], 2)
  | "printenv" => ([last], 2)
  | "expr" => ([last], 3)
  | "tty" => ([last], 3)
  | _ => ([last], 1)

end ProcessDiagram.Shell.Catalogue
