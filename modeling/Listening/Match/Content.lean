import Listening.Play

/-!
# The same track

Two plays are plays of one track if their titles, their albums and their
artists agree, in normal form. An album that only one of them names is no
difference, and neither is the order of the artists, nor how often one is
listed. Plays of one source that name the track by two different ids are
never of one track.
-/

namespace Listening.Match

/-- Whether one source names the tracks of two plays by different ids. -/
def idsDiffer (a b : Play) : Bool :=
  a.source.alike b.source && a.trackId.isPresent && b.trackId.isPresent
    && !a.trackId.alike b.trackId

/-- The artists of a play in normal form, without those of which nothing is
left. -/
def artistNames? (p : Play) : Except Fault (List String) :=
  (p.artists.mapM Label.normal?).map fun names => names.filter (!·.isEmpty)

/-- Whether two lists have the same members. -/
def sameMembers (xs ys : List String) : Bool :=
  xs.all (ys.contains ·) && ys.all (xs.contains ·)

/-- Whether the albums of two plays agree: one that is not named agrees with
any. -/
def sameAlbum? (a b : Play) : Except Fault Bool :=
  if a.album.isGiven && b.album.isGiven then do
    let x ← a.album.normal?
    let y ← b.album.normal?
    .ok (x == y)
  else .ok true

/-- **Whether two plays are plays of the same track.** -/
def content? (a b : Play) : Except Fault Bool := do
  if idsDiffer a b then .ok false
  else
    let x ← a.title.normal?
    let y ← b.title.normal?
    if x != y then .ok false
    else if !(← sameAlbum? a b) then .ok false
    else
      let xs ← artistNames? a
      let ys ← artistNames? b
      .ok (sameMembers xs ys)

/-- A list has the same members as itself. -/
@[simp] theorem sameMembers_self (xs : List String) : sameMembers xs xs = true := by
  simp [sameMembers]

/-- Having the same members does not depend on the order of the two lists. -/
theorem sameMembers_comm (xs ys : List String) : sameMembers xs ys = sameMembers ys xs := by
  simp [sameMembers, Bool.and_comm]

end Listening.Match
