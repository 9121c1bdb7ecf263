import ProcessDiagram.Files.Environment
import ProcessDiagram.Files.Program
import ProcessDiagram.Shell.Command

/-! What a shell holds while it runs, and the streams that commands read and write. -/
namespace ProcessDiagram.Shell

structure Access where
  reads : Bool
  writes : Bool
  /-- Whatever is written goes to the end. -/
  appends : Bool

def Opening.access : Opening → Access
  | .read => ⟨true, false, false⟩
  | .readWrite => ⟨true, true, false⟩
  | .append => ⟨false, true, true⟩
  | _ => ⟨false, true, false⟩

/-- What a stream leads to. -/
inductive Channel where
  /-- Gives what is left of a text. -/
  | source (rest : List Char)
  /-- Keeps what is written to it, of which there may be a limited amount; the last text stands first. -/
  | collector (room : Option Nat) (texts : List String)
  /-- A file from a position on. -/
  | file (place : FileTree.Place) (position : Nat) (access : Access)
  /-- A file that no name leads to any more. -/
  | nameless (bytes : List UInt8) (position : Nat) (access : Access)
  | directory
  | device (d : FileTree.Device)

/-- A variable of a shell. -/
structure Binding where
  name : String
  value : Option String
  exported : Bool := false
  readOnly : Bool := false

/-- What is put back at the end of a function. -/
inductive Saved where
  | binding (name : String) (before : Option Binding)
  | options (letters : List Char)

/-- What a shell holds of its own, so that a shell started from it has a copy. -/
structure Memory where
  /-- The name that the shell goes by. -/
  name : String
  arguments : List String := []
  /-- The next argument that is looked at for options, and how much of the one before it is done. -/
  optionIndex : Nat := 1
  optionDone : Option Nat := none
  /-- The variables that a program was started with. -/
  environment : Environment
  /-- The variables of a shell. -/
  bindings : List Binding := []
  /-- What the functions and commands that are run put back at their ends. -/
  frames : List (List Saved) := []
  functions : List (String × Command) := []
  aliases : List (String × String) := []
  /-- Programs that have been found before. -/
  found : List String := []
  /-- The channel of every open stream. -/
  streams : List (Nat × Nat) := [(0, 0), (1, 1), (2, 2)]
  /-- The path that led to the working directory. -/
  directory : String := "/"
  status : Nat := 0
  /-- The status that a trap leaves as it was. -/
  keptStatus : Option Nat := none
  /-- The status of the last command whose output was put into a word. -/
  outputStatus : Nat := 0
  /-- The loops around the command that is run. -/
  loops : Nat := 0
  line : Nat := 0
  /-- The line up to which the script is read. -/
  scriptLine : Nat := 1
  /-- The number that the script sees as its own process. -/
  process : Nat
  /-- The processes that wait for it, the nearest first. -/
  above : List Nat := []
  /-- Whether this is a copy of the shell of that process. -/
  isCopy : Bool := false
  /-- The last process that was not waited for. -/
  lastBackground : Option Nat := none
  /-- Processes that can be waited for. -/
  children : List Nat := []
  /-- The command of the shell that is being run, if one is. -/
  utility : String := ""
  /-- The letters of the options that are on, and the names of those without letter. -/
  options : List Char := []
  /-- The script that a signal or the exit starts. -/
  traps : List (String × String) := []
  /-- Whether a command is being shown. -/
  isShowing : Bool := false
  mask : Nat := 18
  /-- What a command of the shell has to write at its end. -/
  held : Option (List String) := none
  /-- Why the last text could not be written to the output. -/
  writeError : Option FileError := none
  /-- Whether the input was to be read though it is closed. -/
  lacksInput : Bool := false

/-- A process that goes on later: when, in a thousandth of a second, and with what. -/
structure Pending where
  process : Nat
  wake : Nat
  memory : Memory
  workDir : FileTree.Place
  body : Command
  redirections : List Redirection

/-- What all processes share. -/
structure World where
  tree : FileTree
  channels : Array Channel
  documents : List (Nat × Word) := []
  nextDocument : Nat := 0
  nextProcess : Nat
  /-- How processes ended that were not waited for: with which status, and by which signal. -/
  ended : List (Nat × Nat × Option String) := []
  pending : List Pending := []
  /-- Signals that processes have a trap for or take no notice of. -/
  handled : List (Nat × String) := []
  /-- Signals that have been sent to processes. -/
  signals : List (Nat × String) := []
  /-- The time in thousandths of a second. -/
  clock : Nat := 0
  /-- Whether a process that would wait is put off, and until when. -/
  puttingOff : Bool := false

structure State extends Memory, World

/-- Why a script does not go on with the next command. -/
inductive Stop where
  | exit (status : Nat)
  /-- Something is wrong; its status is 2. -/
  | failure
  /-- A process is ended by a signal. -/
  | killed (process : Nat) (signal : String)
  /-- Out of so many loops. -/
  | leave (loops : Nat)
  /-- To the next round of the loop that is so many loops further out. -/
  | goOn (loops : Nat)
  | handBack (status : Nat)
  /-- Nothing reads any more what a process writes. -/
  | brokenPipe
  /-- Not before a time. -/
  | later (wake : Nat)
  | endless

/-- Steps of a shell. -/
abbrev Action := ExceptT Stop (StateM State)

/-! ### Variables -/

def State.binding? (s : State) (name : String) : Option Binding := s.bindings.find? (·.name = name)

def State.value? (s : State) (name : String) : Option String :=
  (s.binding? name).bind (·.value)

def State.bind (s : State) (b : Binding) : State :=
  if (s.binding? b.name).isSome then
    { s with bindings := s.bindings.map fun old => if old.name = b.name then b else old }
  else { s with bindings := s.bindings ++ [b] }

def State.unbind (s : State) (name : String) : State :=
  { s with bindings := s.bindings.filter (·.name ≠ name) }

def row (name : String) : Nat :=
  let codes := name.toList.map Char.toNat
  codes.foldl (· + ·) (codes.headD 0 * 16) % 39

def State.exports (s : State) : Environment :=
  let shown := s.bindings.filterMap fun b => if b.exported then b.value.map (b.name, ·) else none
  shown.mergeSort fun a b => row a.1 ≤ row b.1

def State.searchPath (s : State) : String := (s.value? "PATH").getD ""

def State.separators (s : State) : List Char := ((s.value? "IFS").getD " \t\n").toList

def placeText (place : FileTree.Place) : String := "/" ++ "/".intercalate (place.map ofText)

namespace Action

def setStatus (status : Nat) : Action Unit := modify fun s => { s with status }

/-! ### Streams -/

def channel? (stream : Nat) : Action (Option Channel) := do
  let s ← get
  return do s.channels[← s.streams.lookup stream]?

def setChannel (stream : Nat) (c : Channel) : Action Unit :=
  modify fun s => match s.streams.lookup stream with
    | some i => { s with channels := s.channels.setIfInBounds i c }
    | none => s

/-- Bytes with others written over them from a position on; a gap is filled with NULs. -/
def overwrite (bytes : List UInt8) (position : Nat) (more : List UInt8) : List UInt8 :=
  let front := bytes.take position
  front ++ List.replicate (position - front.length) 0 ++ more ++ bytes.drop (position + more.length)

def write (stream : Nat) (text : String) : Action (Option FileError) := do
  if text.isEmpty then return none
  match ← channel? stream with
  | some (.collector room texts) =>
    if room.any (· < text.length) then
      setChannel stream (.collector (some 0) texts)
      throw .brokenPipe
    setChannel stream (.collector (room.map (· - text.length)) (text :: texts))
    return none
  | some (.file place position access) =>
    if !access.writes then return some .badStream
    let old := match (← get).tree.entry? place with
      | some (.file bytes _) => bytes
      | _ => []
    let position := if access.appends then old.length else position
    let more := toBytes text
    modify fun s => { s with tree := s.tree.write place (overwrite old position more) }
    setChannel stream (.file place (position + more.length) access)
    return none
  | some (.nameless old position access) =>
    if !access.writes then return some .badStream
    let position := if access.appends then old.length else position
    let more := toBytes text
    setChannel stream (.nameless (overwrite old position more) (position + more.length) access)
    return none
  | some (.device .full) => return some .noSpace
  | some (.device _) => return none
  | _ => return some .badStream

/-- Writes to a stream; a failure on the output is noted. A command of the shell writes its output at its end. -/
def emit (stream : Nat) (text : String) : Action Unit := do
  if stream = 1 then
    if let some texts := (← get).held then
      modify fun s => { s with held := some (text :: texts) }
      return ()
  match ← write stream text with
  | some e => if stream = 1 then modify fun s => { s with writeError := some e }
  | none => return ()

def release : Action Unit := do
  let held := (← get).held
  modify fun s => { s with held := none }
  emit 1 (String.join (held.getD []).reverse)
  modify fun s => { s with held := held.map fun _ => [] }

def releaseAll : Action Unit := do
  release
  modify fun s => { s with held := none }

def toRead (stream : Nat) : Action (Except FileError (List Char)) := do
  match ← channel? stream with
  | some (.source rest) => return .ok rest
  | some (.file place position access) =>
    if !access.reads then return .error .badStream
    match (← get).tree.entry? place with
    | some (.file bytes _) => return .ok ((bytes.drop position).map fun b => Char.ofNat b.toNat)
    | some (.program _) => return .ok ((FileTree.programBytes.drop position).map fun b => Char.ofNat b.toNat)
    | _ => return .ok []
  | some (.nameless bytes position access) =>
    if !access.reads then return .error .badStream
    return .ok ((bytes.drop position).map fun b => Char.ofNat b.toNat)
  | some .directory => return .error .isADirectory
  | some (.device .null) => return .ok []
  | some (.device _) => return .ok (List.replicate FileTree.deviceLimit '\x00')
  | some (.collector _ _) => return .error .badStream
  | none =>
    if stream = 0 then modify fun s => { s with lacksInput := true }
    return .error .badStream

def advance (stream n : Nat) : Action Unit := do
  match ← channel? stream with
  | some (.source rest) => setChannel stream (.source (rest.drop n))
  | some (.file place position access) => setChannel stream (.file place (position + n) access)
  | some (.nameless bytes position access) => setChannel stream (.nameless bytes (position + n) access)
  | _ => return ()

def goesBack (stream : Nat) : Action Bool := do
  match ← channel? stream with
  | some (.source _) => return false
  | _ => return true

/-- Takes what is needed of the input, in blocks of so many bytes; a file has blocks of a size of its own. -/
def takeIn (size sizeInFiles : Nat) (needed : List Char → Nat) : Action (Except FileError String) := do
  match ← toRead 0 with
  | .ok rest =>
    let size := if ← goesBack 0 then sizeInFiles else size
    let n := (needed rest + size - 1) / size * size
    advance 0 n
    return .ok (String.ofList (rest.take n))
  | .error e => return .error e

def takeBlocks (size : Nat) (needed : List Char → Nat) : Action (Except FileError String) := takeIn size 1 needed

def takeAll : Action (Except FileError String) := takeBlocks 1 List.length

def addChannel (c : Channel) : Action Nat := do
  let i := (← get).channels.size
  modify fun s => { s with channels := s.channels.push c }
  return i

def connect (stream : Nat) (i : Option Nat) : Action Unit :=
  modify fun s => { s with streams := (i.map (stream, ·)).toList ++ s.streams.filter (·.1 ≠ stream) }

/-! ### Complaints -/

def complain (text : String) : Action Unit := do
  let s ← get
  let speaker := if s.utility = "" then "" else s.utility ++ ": "
  emit 2 (s.name ++ ": " ++ toString s.line ++ ": " ++ speaker ++ text ++ "\n")

def giveUp (text : String) : Action α := do
  complain text
  setStatus 2
  throw .failure

/-! ### Assignments -/

/-- Gives a variable a value, or none; one that is read only keeps its own. -/
def assignAs (name : String) (value : Option String) (exported : Bool) : Action Unit := do
  let s ← get
  let old := s.binding? name
  if old.any (·.readOnly) then giveUp (name ++ ": is read only")
  let exported := exported || old.any (·.exported) || 'a' ∈ s.options
  let isNeeded := value.isSome || exported
  let s : State := if name = "PATH" then { s with found := [] } else s
  let s : State :=
    if name = "OPTIND" then
      let index := match value.bind String.toNat? with
        | some n => n
        | none => 1
      { s with optionIndex := max index 1, optionDone := none }
    else s
  set (if isNeeded then s.bind { name, value, exported } else s.unbind name)

def assign (name value : String) : Action Unit := assignAs name (some value) false

def save (name : String) : Action Unit :=
  modify fun s => match s.frames with
    | frame :: frames => { s with frames := (.binding name (s.binding? name) :: frame) :: frames }
    | [] => s

def isSkip : Stop → Bool
  | .leave _ => true
  | .goOn _ => true
  | .handBack _ => true
  | _ => false

/-- Steps followed by others, unless they end the script. -/
def thenBack (body : Action α) (after : Action Unit) : Action α := do
  let result ←
    try body
    catch stop => do
      if isSkip stop then after
      throw stop
  after
  return result

def followedBy (body : Action α) (after : Action Unit) : Action α := do
  let result ←
    try body
    catch stop => do
      after
      throw stop
  after
  return result

def putBack (saved : List Saved) : Action Unit :=
  for item in saved do
    match item with
    | .binding name none => modify (·.unbind name)
    | .binding name (some before) => do
      if name = "PATH" then modify fun s => { s with found := [] }
      modify (·.bind { before with name })
    | .options letters => modify fun s => { s with options := letters }

def leaveFrames (n : Nat) : Action Unit := do
  let s ← get
  let left := s.frames.length - n
  set { s with frames := s.frames.drop left }
  (s.frames.take left).forM putBack

def withFrame (body : Action α) : Action α := do
  let n := (← get).frames.length
  modify fun s => { s with frames := [] :: s.frames }
  thenBack body (leaveFrames n)

/-! ### Files -/

def deviceStream? (path : String) : Option Nat :=
  match path with
  | "/dev/stdin" => some 0
  | "/dev/stdout" => some 1
  | "/dev/stderr" => some 2
  | _ => if path.startsWith "/dev/fd/" then String.toNat? (String.ofList (path.toList.drop 8)) else none

def entryChannel (place : FileTree.Place) (entry : FileTree.Entry) (access : Access) : Except FileError Channel :=
  match entry with
  | .device .terminal => .error .noDevice
  | .device d => .ok (.device d)
  | .directory => if access.writes then .error .isADirectory else .ok .directory
  | _ => .ok (.file place 0 access)

def openPlace (opening : Opening) (place : FileTree.Place) : Action (Except FileError Nat) := do
  let s ← get
  let entry := (s.tree.entry? place).getD (.file [] false)
  match entryChannel place entry opening.access with
  | .error e => return .error e
  | .ok c =>
    match opening with
    | .read => return .ok (← addChannel c)
    | .write => set { s with tree := s.tree.write place [] }
    | .overwrite => set { s with tree := s.tree.write place [] }
    | _ => set { s with tree := s.tree.append place [] }
    .ok <$> addChannel c

def openFile (opening : Opening) (path : String) : Action (Except FileError Nat) := do
  let s ← get
  match deviceStream? path with
  | some stream =>
    match s.streams.lookup stream with
    | none => return .error .notFound
    | some i =>
      match s.channels[i]? with
      | some (.file place _ _) => openPlace opening place
      | _ => return .ok i
  | none =>
    match if opening = .read then s.tree.resolve (toText path) else s.tree.target (toText path) with
    | .ok place => openPlace opening place
    | .error e => return .error e

/-- What a file holds; a dash is the input, of which some is taken. -/
def contents (take : Action (Except FileError String)) (path : String) : Action (Except FileError String) := do
  if path = "-" then return (← take)
  match deviceStream? path with
  | some 0 => take
  | _ => return ((← get).tree.readFile (toText path)).map ofBytes

def settle (tree : FileTree) : Action Unit :=
  modify fun s =>
    let channels := s.channels.map fun
      | .file place position access =>
        match s.tree.entry? place, tree.entry? place with
        | some (.file bytes _), none => .nameless bytes position access
        | _, _ => .file place position access
      | c => c
    { s with tree, channels }

def keepingStreams (body : Action α) : Action α := do
  let before := (← get).streams
  followedBy body (modify fun s => { s with streams := before })

def collectUpTo (room : Option Nat) (body : Action Unit) : Action (String × Bool) := do
  let i ← addChannel (.collector room [])
  keepingStreams do
    connect 1 (some i)
    body
  match (← get).channels[i]? with
  | some (.collector room texts) =>
    modify fun s => { s with channels := s.channels.setIfInBounds i .directory }
    return (String.join texts.reverse, room = some 0)
  | _ => return ("", false)

def collect (body : Action Unit) : Action String := do return (← collectUpTo none body).1

/-! ### Processes -/

/-- Steps in a shell of their own: what they change of its memory is forgotten, however they end. -/
def isolated (body : Action Unit) : Action Unit := do
  let before := (← get).toMemory
  let workDir := (← get).tree.workDir
  let back (s : State) : State := { s with toMemory := before, tree := { s.tree with workDir } }
  let status ←
    try
      body
      pure (← get).status
    catch
      | .exit status => pure status
      | .failure => pure 2
      | .handBack status => pure status
      | .leave _ => pure (← get).status
      | .goOn _ => pure (← get).status
      | .brokenPipe => pure 141
      | stop =>
        modify back
        throw stop
  modify fun s => { back s with status }

end Action

end ProcessDiagram.Shell
