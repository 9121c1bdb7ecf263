/-! Why a file or a program is refused. -/
namespace ProcessDiagram

inductive FileError where
  | notFound
  | argumentsTooLong
  | notExecutable
  | accessDenied
  | exists
  | notADirectory
  | isADirectory
  | nameTooLong
  /-- Nothing reads any more what is written. -/
  | brokenPipe
  /-- Programs that run programs never come to an end. -/
  | tooDeep
  | notEmpty
  | noSpace
  /-- There is nothing behind the name of a device. -/
  | noDevice
  | badStream
  | invalidArgument
  | nulInFileName
  | nulInArgument
  | notUtf8
  | other (text : String)
deriving DecidableEq, Repr

namespace FileError

/-- The cause in words. -/
def reason : FileError → String
  | .notFound => "No such file or directory"
  | .argumentsTooLong => "Argument list too long"
  | .notExecutable => "Exec format error"
  | .accessDenied => "Permission denied"
  | .exists => "File exists"
  | .notADirectory => "Not a directory"
  | .isADirectory => "Is a directory"
  | .nameTooLong => "File name too long"
  | .brokenPipe => "Broken pipe"
  | .tooDeep => "Too many levels of symbolic links"
  | .notEmpty => "Directory not empty"
  | .noSpace => "No space left on device"
  | .noDevice => "No such device or address"
  | .badStream => "Bad file descriptor"
  | .invalidArgument => "Invalid argument"
  | .nulInFileName => "file name contained an unexpected NUL byte"
  | .nulInArgument => "nul byte found in provided data"
  | .notUtf8 => "stream did not contain valid UTF-8"
  | .other text => text

def number? : FileError → Option Nat
  | .notFound => some 2
  | .argumentsTooLong => some 7
  | .notExecutable => some 8
  | .accessDenied => some 13
  | .exists => some 17
  | .notADirectory => some 20
  | .isADirectory => some 21
  | .brokenPipe => some 32
  | .nameTooLong => some 36
  | .tooDeep => some 40
  | .noDevice => some 6
  | .badStream => some 9
  | .invalidArgument => some 22
  | .noSpace => some 28
  | .notEmpty => some 39
  | _ => none

def message (e : FileError) : String :=
  match e.number? with
  | some n => e.reason ++ " (os error " ++ toString n ++ ")"
  | none => e.reason

end FileError

end ProcessDiagram
