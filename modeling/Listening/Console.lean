import Listening.Players
import Listening.Text.Case
import Listening.Text.Pieces

/-!
# The console

What the user sees: lines of text in a color that tells how much they
matter, tables, and a line that says what is going on. A `Console.Line` is
one such output, before it is laid out.

Colors are marked up in the text: a tag in brackets opens one, a tag that
starts with a slash closes it. Texts are put into a line as they are, and so
what a title has in brackets is read as a tag, too. A console cannot print a
line that closes what was not opened.
-/

namespace Listening

/-- **One output on the console.** -/
inductive Console.Line where
  /-- A text, with its colors. -/
  | text (s : String)
  /-- A table. -/
  | table (title : String) (columns : List String) (rows : List (List String))
  /-- What is going on. -/
  | busy (s : String)
  deriving DecidableEq, Repr

namespace Console

/-- The color of a level, if it has one. -/
def style? (level : String) : Option String :=
  [("DEBUG", "dim"), ("INFO", "green"), ("WARNING", "yellow"),
    ("ERROR", "bold red")].lookup level

/-- A text in a style. -/
def styled (style text : String) : String := "[" ++ style ++ "]" ++ text ++ "[/" ++ style ++ "]"

/-- **A message of a level.** -/
def message (text : String) (level : String := "INFO") : Line :=
  match style? (Text.uppercase level) with
  | some style => .text (styled style text)
  | none => .text text

/-- **Whether a text is plain**: it closes no tag, so that it can stand inside
any other one. -/
def isPlain (text : String) : Bool := !Text.contains ['[', '/'] text.toList

/-! ## Seconds -/

/-- Whole seconds as minutes and seconds. -/
def minutes (seconds : Int) : String :=
  toString (seconds / 60) ++ ":" ++ Number.padLeft 2 (toString (seconds % 60))

/-- **An amount as minutes and seconds.** -/
def clock? (amount : Amount) : Except Fault String := do
  .ok (match ← amount.whole? with
    | some n => minutes n
    | none => "-")

/-! ## The table of players -/

/-- A text, or what stands for it when it is missing or empty. -/
def orElse (missing : String) : Option String → String
  | none => missing
  | some s => if s.isEmpty then missing else s

/-- The cells of a player. -/
def cells? (r : Players.Row) : Except Fault (List String) := do
  let position ← clock? r.position
  let duration ← clock? r.duration
  let listened ← clock? r.listened
  .ok [r.name, orElse "-" r.track, orElse "unknown" r.status,
    position ++ "/" ++ duration, listened]

/-- **The table of players.** -/
def playersTable? (rows : List Players.Row) : Except Fault Line := do
  .ok (.table "Players" ["Player", "Track", "Status", "Position", "Listened"]
    (← rows.mapM cells?))

end Console

end Listening
