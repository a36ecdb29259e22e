import Listening.History
import Listening.View

/-!
# Views of histories

What is known of a list, what one look at it has brought, and how two lists
differ, as JSON.
-/

namespace Listening

open View

/-- The view of a change: what it is, and its places in the two lists. -/
def ListDiff.Entry.view (e : Entry) : Json :=
  .arr [.str e.word, maybe count e.prev?, maybe count e.new?]

/-- The value a change is about: the new one, if there is one. -/
def ListDiff.Entry.play? (prev new : List Play) (e : Entry) : Option Play :=
  match e.new? with
  | some j => new[j]?
  | none => e.prev?.bind (prev[·]?)

/-- The view of a change with the play it is about. -/
def ListDiff.Entry.viewIn (prev new : List Play) (e : Entry) : Json :=
  let play := e.play? prev new
  .obj [
    ("status", .str e.word),
    ("track", maybe (fun p => p.title.toJson) play),
    ("play_date", maybe Instant.view (play.bind (·.playedAt))),
    ("prev_index", maybe count e.prev?),
    ("new_index", maybe count e.new?)]

/-- The word for how two lists differ as a whole. -/
def ListDiff.Outcome.word : Outcome → String
  | .equal => "equal"
  | .added => "added"
  | .deleted => "deleted"
  | .updated => "updated"

/-- The view of growth: whether there is nothing else, what it brings, and
where. -/
def Growth.view (new : List Play) (g : Growth) : Json :=
  .obj [("ok", .bool g.isClean), ("plays", all Play.brief (g.plays new)),
    ("type", maybe (fun p => .str p.word) g.place?)]

/-- The view of a bump. -/
def Bump.view (new : List Play) (b : Bump) : Json :=
  .obj [("ok", .bool (b != .none)), ("plays", all Play.brief (b.plays new)),
    ("type", maybe (fun p => .str p.word) b.place?)]

/-- **The view of a finding.** -/
def History.Finding.view (f : Finding) : Json :=
  .obj [
    ("plays", all Play.brief f.plays),
    ("consistent", .bool f.consistent),
    ("diff_type", .str f.kind.word),
    ("add_type", maybe (fun p => .str p.word) f.place),
    ("reason", maybe .str f.reason),
    ("diff", all ListDiff.Entry.view f.entries)]

/-- **The view of what is known of a list**, field by field. -/
def History.fields (h : History) : List (String × Json) :=
  [("known_good", maybe (all fun p => p.title.toJson) h.known),
    ("observed_at", maybe Instant.view h.observedAt)]

end Listening
