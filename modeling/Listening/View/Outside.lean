import Listening.Recording
import Listening.View

/-!
# Views of the outside

What was put on the console, what whoever runs the program was told, what
the service was asked and what was submitted to it, as JSON.
-/

namespace Listening

open View

/-- The view of an output on the console. -/
def Console.Line.view : Line → Json
  | .text s => .str s
  | .busy s => .obj [("status", .str s)]
  | .table title columns rows =>
    .obj [("table", .str title), ("columns", all .str columns), ("rows", all (all .str) rows)]

/-- The view of a notice. -/
def Notice.view (n : Notice) : Json :=
  .obj [("level", .str n.level), ("title", .str n.title), ("message", .str n.message),
    ("extra", .obj n.extra)]

/-- The view of a submission. -/
def Service.Submission.view (s : Submission) : Json :=
  .obj [("artist", .str s.artist), ("title", s.title.toJson), ("timestamp", .int s.timestamp),
    ("album", s.album.toJson), ("duration", maybe .int s.duration)]

/-- The view of a question to the service. -/
def Outside.Request.view : Request → Json
  | .user name => .str name
  | .plays limit => .int limit

namespace Outside

/-- What was put on the console. -/
def printedView (w : Outside) : Json := all Console.Line.view w.printed

/-- What whoever runs the program was told. -/
def noticesView (w : Outside) : Json := all Notice.view w.notices

/-- What the service was asked. -/
def requestsView (w : Outside) : Json := all Request.view w.requests

/-- What was submitted. -/
def submittedView (w : Outside) : Json := all Service.Submission.view w.submitted

/-- How long was waited. -/
def waitsView (w : Outside) : Json := all .float w.waits

end Outside

end Listening
