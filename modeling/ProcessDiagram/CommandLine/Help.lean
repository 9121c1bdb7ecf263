import ProcessDiagram.CommandLine.Arguments

/-! What the program says about itself. -/
namespace ProcessDiagram.CommandLine

def programName : String := "bpmn-cli"

def versionText : String := programName ++ " 0.1.0\n"

namespace Help

def columns (rows : List (String × String)) : List String :=
  let width := (rows.map (·.1.length)).foldl max 0
  rows.map fun (left, right) =>
    "  " ++ left ++ String.ofList (List.replicate (width + 2 - left.length) ' ') ++ right

def ofCommand : Command → String
  | .render => "Compila y genera los ficheros con Graphviz"
  | .dot => "Compila y escribe el DOT por la salida estándar"
  | .json => "Compila y escribe el grafo y el reporte en JSON"
  | .check => "Compila y muestra el reporte; falla si hay incidencias"

def ofSetting : Setting → String
  | .input => "Fichero JSON con la descripción del proceso"
  | .outputDir => "Directorio donde dejar los ficheros generados"
  | .name => "Nombre base (sin extensión) de los ficheros generados"
  | .formats => "Formatos separados por comas: png, pdf, svg, dot"

def ofHelp : String := "Print this message or the help of the given subcommand(s)"

def placeholder : Setting → String
  | .input => "<INPUT>"
  | .outputDir => "<OUTPUT_DIR>"
  | .name => "<NAME>"
  | .formats => "<FORMATS>"

def optionRows : List (String × String) :=
  Setting.all.map (fun s =>
    ("-" ++ String.singleton s.letter ++ ", --" ++ s.word ++ " " ++ placeholder s, ofSetting s)) ++
  [("-v, --verbose", "Log de depuración"), ("-h, --help", "Print help")]

def usage : String := "Usage: " ++ programName ++ " [OPTIONS] <COMMAND>"

def lines : Topic → List String
  | .program =>
    ["Compilador de procesos a diagramas BPMN", "", usage, "", "Commands:"] ++
    columns (Command.all.map (fun c => (c.word, ofCommand c)) ++ [("help", ofHelp)]) ++
    ["", "Options:"] ++ columns (optionRows ++ [("-V, --version", "Print version")])
  | .command c =>
    [ofCommand c, "", "Usage: " ++ programName ++ " " ++ c.word ++ " [OPTIONS]", "", "Options:"] ++ columns optionRows
  | .help =>
    [ofHelp, "", "Usage: " ++ programName ++ " help [COMMAND]...", "", "Arguments:",
      "  [COMMAND]...  Print help for the subcommand(s)"]

def misuseText : String :=
  "error: los argumentos no son válidos\n\n" ++ usage ++ "\n\nFor more information, try '--help'.\n"

def text (topic : Topic) : String := String.join ((lines topic).map (· ++ "\n"))

end Help

end ProcessDiagram.CommandLine
