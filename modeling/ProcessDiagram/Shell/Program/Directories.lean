import ProcessDiagram.Shell.Program.Lines

/-! Programs that change a tree of files, or show what is in it. -/
namespace ProcessDiagram.Shell.Utility

open ProcessDiagram.Shell.Action

/-! ### Paths -/

def trimmed (path : String) : String :=
  match path.toList.reverse.dropWhile (· = '/') with
  | [] => if path = "" then "" else "/"
  | cs => String.ofList cs.reverse

def lastName (path : String) : String :=
  if trimmed path = "/" then "/" else ((trimmed path).splitOn "/").getLastD ""

def inside (dir name : String) : String := if dir.endsWith "/" then dir ++ name else dir ++ "/" ++ name

def entryAt? (t : FileTree) (path : String) : Option FileTree.Entry :=
  (t.resolve (toText path)).toOption.bind t.entry?

def linkAt? (t : FileTree) (path : String) : Option FileTree.Entry :=
  (t.resolveLink (toText path)).toOption.bind t.entry?

def isDirectory (t : FileTree) (path : String) : Bool := entryAt? t path == some .directory

def lacksFiles (what : String) (words : List String) : Action Nat :=
  match words.getLast? with
  | none => misused ("missing " ++ what ++ "operand")
  | some word => misused ("missing destination file operand after " ++ Quoting.word word)

/-! ### Directories -/

def mkdirOptions : OptionTable where
  letters := "m:pv"
  names := [("mode", 'm'), ("parents", 'p'), ("verbose", 'v')]

def pathsTo (path : String) : List String :=
  let pieces := path.splitOn "/"
  ((List.range pieces.length).map fun i => "/".intercalate (pieces.take (i + 1))).filter fun p =>
    p ≠ "" && !p.endsWith "/"

def mkdir : Utility := fun words =>
  withOptions mkdirOptions (hint 1) words fun o => do
    if o.words.isEmpty then return (← misused "missing operand")
    let make (path : String) : Action (Except FileError Unit) := do
      match (← get).tree.makeDir (toText (trimmed path)) with
      | .ok tree =>
        settle tree
        if o.has 'v' then emit 1 ((← get).name ++ ": created directory " ++ Quoting.path path ++ "\n")
        return .ok ()
      | .error e => return .error e
    let refuse (path : String) (e : FileError) : Action Nat := do
      warn ("cannot create directory " ++ Quoting.path path ++ ": " ++ e.reason)
      return 1
    forEach o.words fun path => do
      if !o.has 'p' then
        match ← make path with
        | .ok () => return 0
        | .error e => refuse path e
      else
        let paths := pathsTo (trimmed path)
        for (p, i) in paths.zipIdx do
          let isLast := i + 1 = paths.length
          match entryAt? (← get).tree p with
          | some .directory => pure ()
          | some _ => return (← refuse p (if isLast then .exists else .notADirectory))
          | none =>
            match ← make p with
            | .ok () => pure ()
            | .error e => return (← refuse p e)
        if paths.isEmpty ∧ trimmed path ≠ "/" then return (← refuse path .notFound)
        return 0

def rmdirOptions : OptionTable where
  letters := "pvi"
  names := [("parents", 'p'), ("verbose", 'v'), ("ignore-fail-on-non-empty", 'i')]

def rmdir : Utility := fun words =>
  withOptions rmdirOptions (hint 1) words fun o => do
    if o.words.isEmpty then return (← misused "missing operand")
    forEach o.words fun path => do
      let paths := if o.has 'p' then (pathsTo (trimmed path)).reverse else [path]
      for p in paths do
        if o.has 'v' then emit 1 ((← get).name ++ ": removing directory, " ++ Quoting.path p ++ "\n")
        let t := (← get).tree
        let removed : Except FileError FileTree := do
          let place ← t.resolveLink (toText p)
          if t.entry? place != some .directory then .error .notADirectory
          else if lastName p = "." then .error .invalidArgument
          else if !(t.namesIn place).isEmpty then .error .notEmpty
          else .ok (t.remove place)
        match removed with
        | .ok tree => settle tree
        | .error e =>
          if e = .notEmpty ∧ o.has 'i' then return 0
          warn ((if p = path then "failed to remove " else "failed to remove directory ") ++ Quoting.path p ++ ": " ++ e.reason)
          return 1
      return 0

/-! ### Removal -/

def rmOptions : OptionTable where
  letters := "dfiIrRv"
  names := [("dir", 'd'), ("force", 'f'), ("recursive", 'r'), ("verbose", 'v')]

def pathsBelow (t : FileTree) : Nat → String → FileTree.Place → List (String × Bool)
  | 0, _, _ => []
  | n + 1, path, place =>
    match t.entry? place with
    | some .directory =>
      (t.namesIn place).flatMap (fun name => pathsBelow t n (inside path (ofText name)) (place ++ [name])) ++ [(path, true)]
    | _ => [(path, false)]

def rm : Utility := fun words =>
  withOptions rmOptions (hint 1) words fun o => do
    if o.words.isEmpty then return (← if o.has 'f' then return 0 else misused "missing operand")
    let isDeep : Bool := o.has 'r' || o.has 'R'
    forEach o.words fun path => do
      let t := (← get).tree
      let refuse (why : String) : Action Nat := do
        warn ("cannot remove " ++ Quoting.path path ++ ": " ++ why)
        return 1
      match t.resolveLink (toText path) with
      | .error e =>
        if o.has 'f' ∧ (e = .notFound ∨ e = .notADirectory) then return 0
        refuse e.reason
      | .ok place =>
        let last := lastName path
        if t.entry? place == some .directory then
          if isDeep ∧ (last = "." ∨ last = "..") then
            warn ("refusing to remove '.' or '..' directory: skipping " ++ Quoting.path path)
            return 1
          if place = [] then
            warn "it is dangerous to operate recursively on '/'"
            warn "use --no-preserve-root to override this failsafe"
            return 1
          if !isDeep ∧ !o.has 'd' then return (← refuse "Is a directory")
          if !isDeep ∧ !(t.namesIn place).isEmpty then return (← refuse "Directory not empty")
        else if path.endsWith "/" then return (← refuse "Not a directory")
        if o.has 'v' then
          for (p, isDir) in pathsBelow t 1000 (trimmed path) place do
            emit 1 ((if isDir then "removed directory " else "removed ") ++ Quoting.path p ++ "\n")
        settle (t.remove place)
        return 0

/-! ### Copies -/

def bringOptions (letters : String) : OptionTable where
  letters := letters
  names := [("archive", 'a'), ("force", 'f'), ("interactive", 'i'), ("link", 'l'), ("dereference", 'L'),
    ("no-clobber", 'n'), ("no-dereference", 'P'), ("preserve", 'p'), ("recursive", 'r'), ("symbolic-link", 's'),
    ("symbolic", 's'), ("target-directory", 't'), ("no-target-directory", 'T'), ("update", 'u'), ("verbose", 'v')]

/-- The words of a program that brings files to a place: the files, the place, and whether it is a directory. -/
def withTarget (o : Options) (body : List String → String → Bool → Action Nat) : Action Nat := do
  let t := (← get).tree
  match o.value? 't' with
  | some dir =>
    if o.words.isEmpty then lacksFiles "file " []
    else
      match t.resolve (toText dir) with
      | .ok place =>
        if t.entry? place = some .directory then body o.words dir true
        else
          warn ("target directory " ++ Quoting.path dir ++ ": Not a directory")
          return 1
      | .error e =>
        warn ("target directory " ++ Quoting.path dir ++ ": " ++ e.reason)
        return 1
  | none =>
    match o.words.reverse with
    | [] => lacksFiles "file " []
    | [_] => lacksFiles "file " o.words
    | target :: sources =>
      if o.has 'T' then
        if 1 < sources.length then
          misused ("extra operand " ++ Quoting.path ((o.words[2]?).getD ""))
        else body sources.reverse target false
      else if isDirectory t target then body sources.reverse target true
      else if 1 < sources.length then
        warn ("target " ++ Quoting.path target ++ ": " ++
          (if (entryAt? t target).isSome then "Not a directory" else "No such file or directory"))
        return 1
      else body sources.reverse target false

def copyTree (t : FileTree) (source target : FileTree.Place) : FileTree :=
  let found := t.entries.filter fun (p, _) => source <+: p
  found.foldl (fun t (p, e) =>
    let q := target ++ p.drop source.length
    match e, t.entry? q with
    | .directory, some .directory => t
    | .file bytes _, some (.file _ executable) => t.put q (.file bytes executable)
    | e, _ => t.put q e) t

def cp : Utility := fun words =>
  withOptions (bringOptions "abdfilLnpPrRsTuvxHZS:t:") (hint 1) words fun o =>
    withTarget o fun sources target isDir => forEach sources fun source => do
      let t := (← get).tree
      let isDeep := o.has 'r' || o.has 'R' || o.has 'a'
      let keepsLinks := (isDeep || o.has 'd' || o.has 'P') && !o.has 'L'
      let goal := if isDir then inside target (lastName source) else target
      let fail (text : String) : Action Nat := do
        warn text
        return 1
      let told : Action Unit := do
        if o.has 'v' then emit 1 (Quoting.path source ++ " -> " ++ Quoting.path goal ++ "\n")
      let cannotCreate (e : FileError) : Action Nat :=
        fail ("cannot create regular file " ++ Quoting.path goal ++ ": " ++ e.reason)
      if (deviceStream? source).isSome then
        match ← contents takeAll source with
        | .error e => fail ("cannot stat " ++ Quoting.path source ++ ": " ++ e.reason)
        | .ok text =>
          match (← get).tree.writeFile (toText goal) (toBytes text) with
          | .ok tree =>
            settle tree
            told
            return 0
          | .error e => cannotCreate e
      else
        match if keepsLinks then t.resolveLink (toText source) else t.resolve (toText source) with
        | .error e => fail ("cannot stat " ++ Quoting.path source ++ ": " ++ e.reason)
        | .ok place =>
          let entry := (t.entry? place).getD .directory
          let old := entryAt? t goal
          let same := (t.resolve (toText goal)).toOption == some place
          if entry = .directory then
            if !isDeep then return (← fail ("-r not specified; omitting directory " ++ Quoting.path source))
            if same then
              return (← fail (Quoting.path source ++ " and " ++ Quoting.path goal ++ " are the same file"))
            match old with
            | some .directory => pure ()
            | some _ =>
              return (← fail ("cannot overwrite non-directory " ++ Quoting.path goal ++ " with directory " ++
                Quoting.path source))
            | none => pure ()
            match t.holder (toText (trimmed goal)) with
            | .error e => fail ("cannot create directory " ++ Quoting.path goal ++ ": " ++ e.reason)
            | .ok (dir, name) =>
              if place <+: dir then
                return (← fail ("cannot copy a directory, " ++ Quoting.path source ++ ", into itself, " ++
                  Quoting.path goal))
              let goalPlace := if old.isSome then ((t.resolve (toText goal)).toOption).getD (dir ++ [name]) else dir ++ [name]
              settle (copyTree t place goalPlace)
              if o.has 'v' then
                for (p, _) in (pathsBelow t 1000 (trimmed source) place).reverse do
                  emit 1 (Quoting.path p ++ " -> " ++
                    Quoting.path (goal ++ String.ofList (p.toList.drop (trimmed source).length)) ++ "\n")
              return 0
          else
            if o.has 'n' ∧ old.isSome then return 0
            if same then
              return (← fail (Quoting.path source ++ " and " ++ Quoting.path goal ++ " are the same file"))
            if old = some .directory then
              return (← fail ("cannot overwrite directory " ++ Quoting.path goal ++ " with non-directory" ++
                (if isDir then " " ++ Quoting.path source else "")))
            if goal.endsWith "/" then return (← cannotCreate .notADirectory)
            match o.has 's', entry with
            | true, _ =>
              match t.holder (toText goal) with
              | .ok (dir, name) =>
                settle (t.put (dir ++ [name]) (.link (toText source)))
                return 0
              | .error e => cannotCreate e
            | false, .link _ =>
              match t.holder (toText goal) with
              | .ok (dir, name) =>
                settle (t.put (dir ++ [name]) entry)
                told
                return 0
              | .error e => cannotCreate e
            | false, _ =>
              let copied : Except FileError FileTree := do
                let bytes ← t.readFile (toText source)
                let goalPlace ← t.target (toText goal)
                match t.entry? goalPlace, entry with
                | none, .file _ executable => return t.put goalPlace (.file bytes executable)
                | none, .program _ => return t.put goalPlace entry
                | _, _ => t.writeFile (toText goal) bytes
              match copied with
              | .ok tree =>
                settle tree
                told
                return 0
              | .error e => cannotCreate e

/-! ### Moves -/

/-- Moves what is at a place to another, where nothing stays of what was there. Open files go along. -/
def relocate (source target : FileTree.Place) : Action Unit := do
  let t := (← get).tree
  if target ∈ t.entries.map (·.1) then settle (t.remove target)
  modify fun s =>
    let moved (p : FileTree.Place) : FileTree.Place :=
      if source <+: p then target ++ p.drop source.length else p
    let channels := s.channels.map fun
      | .file place position access => .file (moved place) position access
      | c => c
    let (below, others) := s.tree.entries.partition fun (p, _) => source <+: p
    let entries := others ++ below.map fun (p, e) => (moved p, e)
    { s with channels, tree := { s.tree with entries } }

def mv : Utility := fun words =>
  withOptions (bringOptions "bfinTuvZS:t:") (hint 1) words fun o =>
    withTarget o fun sources target isDir => forEach sources fun source => do
      let t := (← get).tree
      let goal := if isDir then inside target (lastName source) else target
      let fail (text : String) : Action Nat := do
        warn text
        return 1
      match t.resolveLink (toText (trimmed source)) with
      | .error e => fail ("cannot stat " ++ Quoting.path source ++ ": " ++ e.reason)
      | .ok place =>
        let entry := (t.entry? place).getD .directory
        let old := linkAt? t (trimmed goal)
        let cannotMove (e : FileError) : Action Nat :=
          fail ("cannot move " ++ Quoting.path source ++ " to " ++ Quoting.path goal ++ ": " ++ e.reason)
        if source.endsWith "/" ∧ entry ≠ .directory then
          return (← fail ("cannot stat " ++ Quoting.path source ++ ": Not a directory"))
        if o.has 'n' ∧ old.isSome then return 0
        match t.holder (toText (trimmed goal)) with
        | .error e => cannotMove e
        | .ok (dir, name) =>
          let goalPlace := dir ++ [name]
          if goalPlace = place then
            return (← fail (Quoting.path source ++ " and " ++ Quoting.path goal ++ " are the same file"))
          if entry = .directory ∧ place <+: goalPlace then
            return (← fail ("cannot move " ++ Quoting.path source ++ " to a subdirectory of itself, " ++ Quoting.path goal))
          if goal.endsWith "/" ∧ entry ≠ .directory then return (← cannotMove .notADirectory)
          match old with
          | some .directory =>
            if entry ≠ .directory then
              return (← fail ("cannot overwrite directory " ++ Quoting.path goal ++ " with non-directory"))
            if !(t.namesIn goalPlace).isEmpty then
              return (← fail ("cannot overwrite " ++ Quoting.path goal ++ ": Directory not empty"))
          | some (.device _) => pure ()
          | some _ =>
            if entry = .directory then
              return (← fail ("cannot overwrite non-directory " ++ Quoting.path goal ++ " with directory " ++
                Quoting.path source))
          | none => pure ()
          relocate place goalPlace
          if o.has 'v' then emit 1 ("renamed " ++ Quoting.path source ++ " -> " ++ Quoting.path goal ++ "\n")
          return 0

/-! ### Links -/

def ln : Utility := fun words =>
  withOptions (bringOptions "bdFfiLnPrsS:t:Tv") (hint 1) words fun o => do
    let words := if o.words.length = 1 ∧ !o.has 't' then o.words ++ ["."] else o.words
    let isLink : Bool := match linkAt? (← get).tree (words.getLastD "") with
      | some (.link _) => true
      | _ => false
    let options := if o.has 'n' ∧ isLink ∧ words.length = 2 then ('T', "") :: o.options else o.options
    withTarget { options, words } fun sources target isDir => forEach sources fun source => do
      let t := (← get).tree
      let goal := if isDir then inside target (lastName source) else target
      let kind := if o.has 's' then "symbolic link " else "hard link "
      let fail (text : String) : Action Nat := do
        warn text
        return 1
      let sourceEntry := entryAt? t source
      if o.has 's' ∧ source = "" then
        return (← fail ("failed to create " ++ kind ++ Quoting.path goal ++ " -> '': No such file or directory"))
      if !o.has 's' then
        match t.resolveLink (toText source) with
        | .error e => return (← fail ("failed to access " ++ Quoting.path source ++ ": " ++ e.reason))
        | .ok place =>
          if t.entry? place = some .directory then
            return (← fail (Quoting.name source ++ ": hard link not allowed for directory"))
      match t.holder (toText goal) with
      | .error e => fail ("failed to create " ++ kind ++ Quoting.path goal ++ ": " ++ e.reason)
      | .ok (dir, name) =>
        let place := dir ++ [name]
        if (t.entry? place).isSome ∧ !o.has 'f' then
          return (← fail ("failed to create " ++ kind ++ Quoting.path goal ++ ": File exists"))
        if t.entry? place = some .directory then
          return (← fail (Quoting.name goal ++ ": cannot overwrite directory"))
        let entry := if o.has 's' then .link (toText source) else sourceEntry.getD (.link (toText source))
        settle (t.put place entry)
        if o.has 'v' then
          emit 1 (Quoting.path goal ++ (if o.has 's' then " -> " else " => ") ++ Quoting.path source ++ "\n")
        return 0

inductive Presence where
  | all
  | butLast
  | none
deriving DecidableEq

def canonical? (t : FileTree) (presence : Presence) (path : String) : Except FileError FileTree.Place :=
  match t.resolve (toText path) with
  | .ok place => .ok place
  | .error e =>
    if path = "" ∨ presence = .all ∨ e = .tooDeep then .error e
    else if presence = .butLast then do
      if e ≠ .notFound then .error e
      let (dir, name) ← t.holder (toText (trimmed path))
      return dir ++ [name]
    else
      .ok ((path.splitOn "/").foldl (fun place step =>
        if step = "" ∨ step = "." then place
        else if step = ".." then place.dropLast
        else
          let next := place ++ [toText step]
          match t.entry? next, (t.walk true FileTree.linkLimit [] next).toOption with
          | some (.link _), some found => found
          | _, _ => next) (t.start path))

def presence (o : Options) : Presence :=
  match o.last? ['e', 'f', 'm'] with
  | some 'e' => .all
  | some 'm' => .none
  | _ => .butLast

def readlink : Utility := fun words =>
  withOptions { letters := "fenmqsvz", names := [("canonicalize", 'f'), ("canonicalize-existing", 'e'),
    ("canonicalize-missing", 'm'), ("no-newline", 'n'), ("quiet", 'q'), ("silent", 's'), ("verbose", 'v'), ("zero", 'z')] } (hint 1) words fun o => do
      if o.words.isEmpty then return (← misused "missing operand")
      let lineEnd := if o.has 'n' ∧ o.words.length = 1 then "" else if o.has 'z' then "\x00" else "\n"
      forEach o.words fun path => do
        let t := (← get).tree
        if o.has 'f' ∨ o.has 'e' ∨ o.has 'm' then
          match canonical? t (presence o) path with
          | .ok place =>
            emit 1 (placeText place ++ lineEnd)
            return 0
          | .error e =>
            if o.has 'v' then warn (about path e)
            return 1
        else
          match (t.resolveLink (toText path)).map t.entry? with
          | .ok (some (.link target)) =>
            emit 1 (ofText target ++ lineEnd)
            return 0
          | found =>
            if o.has 'v' then
              warn (about path (match found with
                | .error e => e
                | .ok _ => .invalidArgument))
            return 1

def realpath : Utility := fun words =>
  withOptions { letters := "emLPqsz", names := [("canonicalize-existing", 'e'), ("canonicalize-missing", 'm'),
    ("strip", 's'), ("no-symlinks", 's'), ("zero", 'z'), ("quiet", 'q')] } (hint 1) words fun o => do
      if o.words.isEmpty then return (← misused "missing operand")
      forEach o.words fun path => do
        match canonical? (← get).tree (presence o) path with
        | .ok place =>
          emit 1 (placeText place ++ (if o.has 'z' then "\x00" else "\n"))
          return 0
        | .error e =>
          if !o.has 'q' then warn (about path e)
          return 1

def linkTo : Utility := fun words =>
  withOptions "" (hint 1) words fun o => do
    match o.words with
    | [] => misused "missing operand"
    | [word] => misused ("missing operand after " ++ Quoting.word word)
    | [source, goal] =>
      let linked (t : FileTree) : Except FileError FileTree := do
        let place ← t.resolveLink (toText source)
        let (dir, name) ← t.holder (toText goal)
        match t.entry? place with
        | some .directory => .error (.other "Operation not permitted")
        | some e => if (t.entry? (dir ++ [name])).isSome then .error .exists else return t.put (dir ++ [name]) e
        | none => .error .notFound
      change (fun e => "cannot create link " ++ Quoting.path goal ++ " to " ++ Quoting.path source ++ ": " ++ e.reason)
        linked
    | _ => misused ("extra operand " ++ Quoting.word ((o.words[2]?).getD ""))

def unlink : Utility := fun words =>
  withOptions "" (hint 1) words fun o => do
    match o.words with
    | [] => misused "missing operand"
    | [path] =>
      let removed (t : FileTree) : Except FileError FileTree := do
        let place ← t.resolveLink (toText path)
        if t.entry? place = some .directory then .error .isADirectory else return t.remove place
      change (fun e => "cannot unlink " ++ Quoting.path path ++ ": " ++ e.reason) removed
    | _ :: word :: _ => misused ("extra operand " ++ Quoting.word word)

end ProcessDiagram.Shell.Utility
