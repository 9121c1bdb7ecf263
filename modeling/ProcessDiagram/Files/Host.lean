import ProcessDiagram.Files.Environment
import ProcessDiagram.Files.Error

/-! A system with files and programs, as far as a program needs to know one. -/
namespace ProcessDiagram

structure Exit where
  /-- None if it was killed. -/
  status : Option Int
  errors : List UInt8
  /-- How many bytes of its input it took. -/
  taken : Nat

/-- How much can be written to a program that takes so many bytes of it: a pipe holds sixteen pages, and a page
is free again once all of it is taken. -/
def Exit.room (e : Exit) : Nat := 16 * 4096 + e.taken / 4096 * 4096

structure Host (m : Type → Type) where
  readFile : String → m (Except FileError (List UInt8))
  /-- Makes a directory and those above it that are missing. -/
  makeDirs : String → m (Except FileError Unit)
  writeFile : String → String → m (Except FileError Unit)
  /-- Runs a program with its variables and its arguments on an input. -/
  runProgram : Environment → String → List String → String → m (Except FileError Exit)

namespace Host

variable {m : Type → Type} [Monad m]

/-- An operation whose failure becomes an error of another kind. -/
def attempt (op : m (Except FileError α)) (wrap : FileError → ε) : ExceptT ε m α :=
  ExceptT.mk ((·.mapError wrap) <$> op)

end Host

end ProcessDiagram
