import Playground.CodeFrame
import Playground.File
import Playground.Json.Value
import Playground.Text.Escape

/-! Reports: the script that shows a failed file's error to the learner and tells the page about
it. -/

namespace Playground.Report

/-- The imports that a report needs. -/
def imports : String :=
  "import \x7b Terminal \x7d from '@es-js/terminal'; import \x7b tiza \x7d from '@es-js/tiza';"

/-- The frame of a report, as it stands inside a template literal. -/
def frame (content : String) (error : FileError) : List Char :=
  let frame : CodeFrame := { message := some error.message }
  Text.escapeTemplate
    (Text.escapeMarkup (frame.render content.toList error.line (some error.column)))

/-- The error as an object of the script. -/
def errorObject (error : FileError) : Json :=
  .object [("column", .integer error.column), ("line", .integer error.line),
    ("message", .string error.message), ("stack", .string error.stack)]

/-- The statements of a report. -/
def body (f : File) (error : FileError) : List Char :=
  let message := Json.quote error.message
  String.toList
      "\nTerminal.clear()\n\nTerminal.escribir(`Error en el archivo $\x7btiza.fondoAzul50.azul800("
    ++ Json.quote f.name ++ ")\x7d:`)\n\nTerminal.escribir(`<pre>".toList ++ frame f.content error
    ++ "</pre>`)\n\nconsole.error(".toList ++ message ++ ")\n\nwindow.onerror(".toList ++ message
    ++ s!", null, {error.line}, {error.column}, ".toList ++ (errorObject error).chars ++ [')']

/-- The file that reports a file's error in its place; a file without one stays as it is. -/
def ofFile (f : File) : File :=
  match f.error with
  | none => f
  | some error => { f with prepared := some ⟨imports, String.ofList (body f error)⟩ }

end Playground.Report
