import Listening.Proofs.InstantRoundTrip
import Listening.Proofs.TypedPlays
import Listening.StateFile

/-!
# Records there and back

A play is kept as a record, and a record is read as a play. Every record that
was made from a play can be read (`Play.ofRecord?_toRecord`), and `Play.reread`
is the play it is read as: without the stretches of listening and the
position, which are not kept, and with every label and amount as its JSON value
makes it. For a typed play these are the ones it had (`Play.Typed.reread_eq`),
so what is read is a play of the same track. Of a whole list this is
`StateFile.plays?_withPlays`.
-/

namespace Listening

/-! ## Plays -/

/-- A text, or nothing, is read as what was written. -/
theorem Label.ofJson_toJson {l : Label} (h : l.isTextual = true) :
    Label.ofJson l.toJson = l := by
  cases l with
  | absent => rfl
  | text s => rfl
  | other v => exact absurd h Bool.false_ne_true

/-- A number, or nothing, is read as what was written. -/
theorem Amount.ofJson_toJson {a : Amount} (h : a.isNumeric = true) :
    Amount.ofJson a.toJson = a := by
  rcases isNumeric_cases h with rfl | ⟨x, rfl⟩ | ⟨n, rfl⟩ | ⟨b, rfl⟩ <;> rfl

namespace Play

/-- **The play that is read** where one was written. -/
def reread (p : Play) : Play where
  title := .ofJson p.title.toJson
  artists := p.artists.map fun a => .ofJson a.toJson
  album := .ofJson p.album.toJson
  duration := .ofJson p.duration.toJson
  playedAt := p.playedAt.map Instant.reread
  listenedFor := .ofJson p.listenedFor.toJson
  source := .ofJson p.source.toJson
  trackId := .ofJson p.trackId.toJson
  names := p.names
  device := .ofJson p.device.toJson
  user := .ofJson p.user.toJson

/-- A time that is written is read. -/
theorem recordedTime?_text {t : Instant} (h : t.OnCalendar) :
    recordedTime? (.str t.toIso) = .ok (some t.reread) := by
  have hread := Instant.ofIso?_toIso h
  have hgiven : (Json.str t.toIso).truthy = true := by
    by_contra hempty
    rw [Json.truthy, Bool.not_eq_true', Bool.not_eq_false, String.isEmpty_iff] at hempty
    have hnone : Instant.ofIso? "" = none := by decide
    rw [hempty, hnone] at hread
    exact nomatch hread
  unfold recordedTime?
  simp only [if_pos hgiven, hread]

/-- Items that are written are read, also if there are none. -/
theorem optionalItems?_arr (items : List Json) :
    (Json.arr items).optionalItems? = .ok items := by
  cases items <;> rfl

/-- Fields that are written are read, also if there are none. -/
theorem optionalFields?_obj (fields : List (String × Json)) :
    (Json.obj fields).optionalFields? = .ok fields := by
  cases fields <;> rfl

/-- A play whose time, if it has one, is one that a clock can show. -/
def OnCalendar (p : Play) : Prop := ∀ t, p.playedAt = some t → t.OnCalendar

/-- **A record is read as the play it was made from.** -/
theorem ofRecord?_toRecord {p : Play} (h : p.OnCalendar) :
    ofRecord? p.toRecord = .ok p.reread := by
  -- the parts that are read off as they are written leave three that take reading
  obtain ⟨time, htime, hread⟩ : ∃ time, recordedTime? time = .ok (p.playedAt.map Instant.reread)
      ∧ ofRecord? p.toRecord = (do
        let artists ← (Json.arr (p.artists.map Label.toJson)).optionalItems?
        let playedAt ← recordedTime? time
        let names ← (Json.obj p.names).optionalFields?
        .ok { p.reread with artists := artists.map Label.ofJson, playedAt, names }) := by
    refine ⟨_, ?_, rfl⟩
    cases hplayed : p.playedAt with
    | none => rfl
    | some t => exact recordedTime?_text (h t hplayed)
  rw [hread, htime, optionalItems?_arr, optionalFields?_obj]
  show Except.ok { p.reread with artists := (p.artists.map Label.toJson).map Label.ofJson } = _
  rw [List.map_map]
  rfl

/-! ## Plays that keep a promise -/

/-- **Of a typed play nothing is lost** but the stretches of listening and the
position. -/
theorem Typed.reread_eq {p : Play} (h : p.Typed) : p.reread
    = { p with
        playedAt := p.playedAt.map Instant.reread
        listenedFor := .ofJson p.listenedFor.toJson
        ranges := none
        position := none
        device := .ofJson p.device.toJson
        user := .ofJson p.user.toJson
        isNew := false
        isFilledIn := false } := by
  have hartists : (p.artists.map fun a => Label.ofJson a.toJson) = p.artists := by
    refine (List.map_congr_left fun a ha => ?_).trans (List.map_id' p.artists)
    exact Label.ofJson_toJson (Label.isTextual_of_isText (h.artists a ha))
  unfold reread
  rw [Label.ofJson_toJson (Label.isTextual_of_isText h.title), hartists,
    Label.ofJson_toJson h.album, Amount.ofJson_toJson h.duration, Label.ofJson_toJson h.source,
    Label.ofJson_toJson h.trackId]

/-- What is read is typed. -/
theorem Typed.reread {p : Play} (h : p.Typed) : p.reread.Typed := by
  rw [h.reread_eq]
  exact ⟨h.title, h.artists, h.album, h.duration, h.source, h.trackId⟩

/-- **What is read is a play of the same track.** -/
theorem Typed.identity_reread {p : Play} (h : p.Typed) : p.reread.identity = p.identity := by
  rw [h.reread_eq]
  rfl

/-- A typed play that was read again is the same label. -/
theorem Typed.label?_reread {p : Play} (h : p.Typed) : p.reread.label? = p.label? := by
  rw [h.reread.label?_eq, h.label?_eq, h.identity_reread]

end Play

/-! ## Lists -/

namespace StateFile

/-- **The list that is read** where one is kept for a source. -/
theorem plays?_withPlays {plays : List Play} (h : ∀ p ∈ plays, p.OnCalendar)
    (document : Document)
    (source : String) :
    plays? (withPlays document source plays) source = some (plays.map Play.reread) := by
  have hread : (plays.map Play.toRecord).mapM Play.ofRecord? = .ok (plays.map Play.reread) := by
    rw [List.mapM_map]
    exact mapM_eq_ok fun p hp => Play.ofRecord?_toRecord (h p hp)
  unfold plays?
  rw [histories_withPlays]
  simp only [Option.bind_eq_bind, Option.bind_some, Json.lookup_insert_self, hread]
  rfl

end StateFile

end Listening
