import Listening.Console

/-!
# Plain output

What is put on a console that knows neither colors nor tables: texts without
their styles, and the cells of a table side by side.
-/

namespace Listening.Console

/-- The styles in which anything is said. -/
def styles : List String := ["dim", "green", "yellow", "bold red", "red"]

/-- A text without its styles. -/
def unstyled (text : String) : String :=
  styles.foldl (fun t s => (t.replace ("[" ++ s ++ "]") "").replace ("[/" ++ s ++ "]") "") text

/-- Cells side by side. -/
def sideBySide (cells : List String) : String := String.intercalate " | " cells

/-- **An output as plain lines.** -/
def Line.plain : Line → List String
  | .text s => [unstyled s]
  | .busy s => [s]
  | .table title columns rows => title :: sideBySide columns :: rows.map sideBySide

end Listening.Console
