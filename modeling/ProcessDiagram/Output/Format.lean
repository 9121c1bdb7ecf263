import ProcessDiagram.Text.Blank
import ProcessDiagram.Text.LetterCase

/-! The formats a diagram is written in. -/
namespace ProcessDiagram

inductive OutputFormat where
  | png
  | pdf
  | svg
  /-- DOT text as it is; it needs no drawing program. -/
  | dot
deriving DecidableEq, Repr

namespace OutputFormat

def all : List OutputFormat := [.png, .pdf, .svg, .dot]

def extension : OutputFormat → String
  | .png => "png"
  | .pdf => "pdf"
  | .svg => "svg"
  | .dot => "dot"

/-- Neither letter case nor white space at the ends matters. -/
def ofText? (s : String) : Option OutputFormat :=
  let wanted := Text.lower (Text.trim s)
  all.find? fun f => f.extension = wanted

end OutputFormat

end ProcessDiagram
