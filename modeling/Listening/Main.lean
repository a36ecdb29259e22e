import Listening.Console.Plain
import Listening.Program
import Listening.Recording.Failure

/-!
# The command line

Runs the program on a recording: one JSON object on the standard input, with
the answers of the outside, the time on the clock under `clock`, and under
`polls` the number of waits before all is to stop. What the program puts on
the console goes to the standard output, what it tells whoever runs it to the
standard error.
-/

open Listening

/-- The variables of the process that hold settings. -/
def processEnvironment : IO Environment := do
  let found ← Settings.names.mapM fun name => do
    return (← IO.getEnv name).map fun value => (name, value)
  return ⟨found.filterMap id⟩

/-- Runs the program and shows what it did. -/
def main (words : List String) : IO UInt32 := do
  let line ← (← IO.getStdin).getLine
  let recorded := (Json.ofText line).toOption.getD (.obj [])
  let ended := Program.run words (← processEnvironment) (Recording.waits recorded + 2)
    (Recording.outside recorded)
  for output in ended.state.printed do
    for text in output.plain do
      IO.println text
  for notice in ended.state.notices do
    IO.eprintln (notice.level ++ " " ++ notice.title ++ ": " ++ notice.message)
  match ended.result with
  | .ok exit =>
    if exit = .explained ∨ exit = .misused then
      for text in Command.explanation do
        IO.println text
    return exit.code.toUInt32
  | .error e =>
    IO.eprintln e.text
    return 1
