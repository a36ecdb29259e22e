import Listening.Console

/-!
# The table of recent plays

What was played lately is shown as a table, newest first: a number, the
artists, the title, the album, and when it was. Only texts can be shown.
-/

namespace Listening.Console

/-- An album as a cell. -/
def albumCell? (album : Label) : Except Fault String :=
  if !album.isGiven then .ok "-"
  else if album.isText then .ok album.display
  else .error .notShown

/-- The cells of a play. -/
def playCells? (number : Nat) (p : Play) : Except Fault (List String) := do
  .ok [toString number, ← p.credit?, p.title.display, ← albumCell? p.album,
    (p.playedAt.map Instant.toUniversal).getD "-"]

/-- The cells of plays, numbered. -/
def rows? (number : Nat) : List Play → Except Fault (List (List String))
  | [] => .ok []
  | p :: rest => do .ok ((← playCells? number p) :: (← rows? (number + 1) rest))

/-- **The table of recent plays.** -/
def recentTable? (plays : List Play) : Except Fault Line := do
  .ok (.table ("Last " ++ toString plays.length ++ " Scrobbled Tracks")
    ["#", "Artist", "Title", "Album", "Scrobbled At"] (← rows? 1 plays))

end Listening.Console
