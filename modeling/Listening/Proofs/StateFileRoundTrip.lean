import Listening.Proofs.RecordRoundTrip

/-!
# What a state file gives back

A list of plays that is kept for a source is given back as it was: its plays
without the stretches of listening, the position and the marks of where they
came from, and otherwise unchanged (`StateFile.keep_givesBack`). It does not
matter what the file held before, a malformed `history` included, nor whether
the plays are asked for at once or after the file was read anew. The lists of
all other sources are given back as they would have been.

There is one exception: the time of a clock that is off universal time, but by
less than a second. Such an offset is written, but not read
(`Instant.reread_eq_iff`), so that the clock shows the same and stands for
another point in time. A list comes back exactly if no time in it is of such a
clock, and that is part of the statement.
-/

namespace Listening

/-! ## Times -/

namespace Instant

/-- **Whether the offset of a time can be read** where it is written: it is
none, or of a second at least. -/
def HasReadableOffset (t : Instant) : Prop := ∀ o, t.offset = some o → o = 0 ∨ 1000000 ≤ o.natAbs

/-- The offset that is read is the one written if and only if it can be read. -/
theorem readOffset_eq_iff {o : Int} : readOffset o = o ↔ o = 0 ∨ 1000000 ≤ o.natAbs := by
  unfold readOffset
  split <;> omega

/-- **A time is read as it was if and only if its offset can be read.** -/
theorem reread_eq_iff {t : Instant} : t.reread = t ↔ t.HasReadableOffset := by
  constructor
  · intro h o ho
    have hoffset : t.offset.map readOffset = t.offset := congrArg Instant.offset h
    rw [ho] at hoffset
    exact readOffset_eq_iff.mp (Option.some.inj hoffset)
  · exact reread_eq

/-- The clock of a time that was read again shows the same. -/
theorem shown_reread (t : Instant) : t.reread.shown = t.shown :=
  Int.sub_add_cancel t.shown ((t.offset.map readOffset).getD 0)

end Instant

/-! ## Plays -/

namespace Play

/-- **A play that a state file can hold**: everything that is kept of it is as
it was promised, and it was played at a time that a clock can show. -/
structure Storable (p : Play) : Prop extends p.Typed where
  /-- The time listened to is a number or missing. -/
  listenedFor : p.listenedFor.isNumeric = true
  /-- The device is a text or missing. -/
  device : p.device.isTextual = true
  /-- The user is a text or missing. -/
  user : p.user.isTextual = true
  /-- Its time is one of the calendar. -/
  onCalendar : p.OnCalendar

/-- What is kept of a play: all but the stretches of listening, the position
and the marks of where it came from. -/
def stored (p : Play) : Play :=
  { p with ranges := none, position := none, isNew := false, isFilledIn := false }

/-- What is given back of it: its time as it is read. -/
def restored (p : Play) : Play := { p.stored with playedAt := p.playedAt.map Instant.reread }

/-- A record is read as this. -/
theorem Storable.reread_eq {p : Play} (h : p.Storable) : p.reread = p.restored := by
  rw [h.toTyped.reread_eq, Amount.ofJson_toJson h.listenedFor, Label.ofJson_toJson h.device,
    Label.ofJson_toJson h.user]
  rfl

/-- **A play is given back as it was if and only if its offset can be read.** -/
theorem restored_eq_iff {p : Play} :
    p.restored = p.stored ↔ ∀ t, p.playedAt = some t → t.HasReadableOffset := by
  have htime : p.restored = p.stored ↔ p.playedAt.map Instant.reread = p.playedAt :=
    ⟨congrArg Play.playedAt,
      fun h => congrArg (fun time => { p.stored with playedAt := time }) h⟩
  rw [htime]
  cases p.playedAt with
  | none => exact ⟨fun _ _ ht => (nomatch ht), fun _ => rfl⟩
  | some t =>
    rw [Option.map_some, Option.some_inj, Instant.reread_eq_iff]
    exact ⟨fun h _ ht => Option.some.inj ht ▸ h, fun h => h t rfl⟩

/-- A play that was given back is a play of the same track. -/
theorem identity?_restored (p : Play) : p.restored.identity? = p.identity? := rfl

end Play

/-! ## Documents -/

namespace StateFile

/-- A list goes by what is kept under its name. -/
theorem plays?_eq (document : Document) (source : String) : plays? document source
    = match Json.lookup source ((histories document).getD []) with
      | some (.arr records) => (records.mapM Play.ofRecord?).toOption
      | _ => none := by
  unfold plays?
  cases histories document <;> rfl

/-- **The lists of other sources are as they were.** -/
theorem plays?_withPlays_of_ne {source other : String} (h : other ≠ source)
    (document : Document) (plays : List Play) :
    plays? (withPlays document source plays) other = plays? document other := by
  rw [plays?_eq, plays?_eq, lookup_histories_withPlays_of_ne h]

/-- **What a document gives back** after the list of a source was set in
another. -/
structure GivesBack (before after : Document) (source : String) (plays : List Play) : Prop where
  /-- The plays of the list, each time as it is read. -/
  list : plays? after source = some (plays.map Play.restored)
  /-- They are the plays as they were if and only if every offset can be read. -/
  unchanged : plays? after source = some (plays.map Play.stored)
    ↔ ∀ p ∈ plays, ∀ t, p.playedAt = some t → t.HasReadableOffset
  /-- The clocks of the plays show the same in any case. -/
  shown : (plays.map Play.restored).map (fun p => p.playedAt.map Instant.shown)
    = plays.map fun p => p.playedAt.map Instant.shown
  /-- The plays are of the same tracks. -/
  identities : (plays.map Play.restored).map Play.identity? = plays.map Play.identity?
  /-- The lists of all other sources are what they were. -/
  others : ∀ other, other ≠ source → plays? after other = plays? before other

/-- A document in which the list was set gives it back. -/
theorem withPlays_givesBack (document : Document) (source : String) {plays : List Play}
    (hplays : ∀ p ∈ plays, p.Storable) :
    GivesBack document (withPlays document source plays) source plays := by
  have hread : plays? (withPlays document source plays) source
      = some (plays.map Play.restored) := by
    rw [plays?_withPlays fun p hp => (hplays p hp).onCalendar]
    exact congrArg some (List.map_congr_left fun p hp => (hplays p hp).reread_eq)
  refine ⟨hread, ?_, ?_, ?_, fun other h => plays?_withPlays_of_ne h document plays⟩
  · rw [hread, Option.some_inj, List.map_inj_left]
    exact forall₂_congr fun _ _ => Play.restored_eq_iff
  · refine (List.map_map ..).trans (List.map_congr_left fun p _ => ?_)
    exact (Option.map_map ..).trans
      (congrArg (p.playedAt.map ·) (funext Instant.shown_reread))
  · exact (List.map_map ..).trans (List.map_congr_left fun p _ => p.identity?_restored)

/-- What has been kept and saved, and what was written. -/
theorem save_keep {ω : Type} (write : Path → String → ω → ω) (f : StateFile) (source : String)
    (plays : List Play) (outside : ω) : (f.keep source plays).save write outside
      = ({ f with document := withPlays f.document source plays, unsaved := false },
          write f.path (text (withPlays f.document source plays)) outside) := rfl

/-- **A state file gives back the plays it was given**, at once and when it is
read anew, provided that the file holds what was written. -/
theorem keep_givesBack {ω : Type} (write : Path → String → ω → ω)
    (load : Path → ω → Option ByteArray) (f : StateFile) (source : String) {plays : List Play}
    (hplays : ∀ p ∈ plays, p.Storable) (outside : ω)
    (hfile : ofBytes? (load f.path
        (write f.path (text (withPlays f.document source plays)) outside))
      = .ok (withPlays f.document source plays)) :
    GivesBack f.document ((f.keep source plays).save write outside).1.document source plays
    ∧ ∃ anew, open? f.path (load f.path ((f.keep source plays).save write outside).2) = .ok anew
        ∧ GivesBack f.document anew.document source plays := by
  have hgives := withPlays_givesBack f.document source hplays
  rw [save_keep]
  refine ⟨hgives, ⟨f.path, withPlays f.document source plays, false⟩, ?_, hgives⟩
  unfold open?
  rw [hfile]
  rfl

end StateFile

/-! ## What is written, character by character -/

namespace Json

/-- The characters of a list or an object of a state file, from those of its
parts. -/
def encloseLetters (depth : Nat) (opening closing : Char) (parts : List (List Char)) :
    List Char :=
  let newLine (depth : Nat) := '\n' :: List.replicate (2 * depth) ' '
  match parts with
  | [] => [opening, closing]
  | _ => opening :: newLine (depth + 1)
      ++ List.intercalate (',' :: newLine (depth + 1)) parts ++ newLine depth ++ [closing]

/-- The characters of a text of a state file. -/
def textLetters (s : String) : List Char := '"' :: s.toList.flatMap (escaped true) ++ ['"']

mutual

/-- **The characters of a value** of a state file at a depth. -/
def letters (depth : Nat) : Json → List Char
  | .arr items => encloseLetters depth '[' ']' (itemLetters (depth + 1) items)
  | .obj fields => encloseLetters depth '\x7b' '\x7d' (fieldLetters (depth + 1) fields)
  | .str s => textLetters s
  | v => (writeAt .file depth v).toList

/-- The characters of the items of a list. -/
def itemLetters (depth : Nat) : List Json → List (List Char)
  | [] => []
  | v :: rest => letters depth v :: itemLetters depth rest

/-- The characters of the fields of an object. -/
def fieldLetters (depth : Nat) : List (String × Json) → List (List Char)
  | [] => []
  | (k, v) :: rest => (textLetters k ++ [':', ' '] ++ letters depth v) :: fieldLetters depth rest

end

theorem toList_enclose (depth : Nat) (opening closing : Char) (parts : List String) :
    (Style.file.enclose depth (.singleton opening) (.singleton closing) parts).toList
      = encloseLetters depth opening closing (parts.map String.toList) := by
  cases parts with
  | nil => simp [Style.enclose, encloseLetters]
  | cons part rest =>
    simp [Style.enclose, encloseLetters, Style.break, Style.file, String.toList_intercalate]

theorem toList_writeString (s : String) : (writeString true s).toList = textLetters s := by
  simp [writeString, textLetters]

mutual

/-- The letters of a value are the characters that are written. -/
theorem toList_writeAt (depth : Nat) :
    (v : Json) → (writeAt .file depth v).toList = letters depth v
  | .null => rfl
  | .bool _ => rfl
  | .int _ => rfl
  | .float _ => rfl
  | .str s => toList_writeString s
  | .arr items => by
    rw [letters, ← toList_writeItems, ← toList_enclose, writeAt]
    rfl
  | .obj fields => by
    rw [letters, ← toList_writeFields, ← toList_enclose, writeAt]
    rfl

/-- The letters of items are the characters that are written. -/
theorem toList_writeItems (depth : Nat) :
    (items : List Json) → (writeItems .file depth items).map String.toList
      = itemLetters depth items
  | [] => rfl
  | v :: rest => by
    rw [writeItems, itemLetters, List.map_cons, toList_writeAt depth v,
      toList_writeItems depth rest]

/-- The letters of fields are the characters that are written. -/
theorem toList_writeFields (depth : Nat) :
    (fields : List (String × Json)) →
      ((writeFields .file depth fields).map fun p =>
          writeString true p.1 ++ ": " ++ p.2).map String.toList
        = fieldLetters depth fields
  | [] => rfl
  | (k, v) :: rest => by
    have hcolon : (": " : String).toList = [':', ' '] := rfl
    rw [writeFields, fieldLetters, List.map_cons, List.map_cons, String.toList_append,
      String.toList_append, toList_writeString, hcolon, toList_writeAt depth v,
      toList_writeFields depth rest]

end

end Json

namespace StateFile

/-- A document is read if its characters are. -/
theorem ofBytes?_text {document : Document}
    (hread : Json.takeValue 0 ((Json.letters 0 (.obj document)).length + 2)
        (Json.skip (Json.letters 0 (.obj document)))
      = .ok (.obj document, [])) :
    ofBytes? (some (text document).toUTF8) = .ok document := by
  have hbytes : String.fromUTF8? (text document).toUTF8 = some (text document) :=
    dif_pos (text document).isValidUTF8
  have htext : Json.ofText (text document) = .ok (.obj document) := by
    unfold Json.ofText
    dsimp only
    rw [show (text document).toList = _ from Json.toList_writeAt 0 (.obj document), hread]
    rfl
  unfold ofBytes? ofText?
  simp only [hbytes, htext]

/-! ## Plays at noon -/

/-- What a clock shows at noon. -/
def noon : Int := 1714564800000000

/-- A play at noon by a clock with this offset. -/
def noonPlay (offset : Option Int) : Play where
  title := .text "Tune"
  artists := [.text "Ann"]
  playedAt := some ⟨noon - offset.getD 0, offset⟩
  names := [("artist", .str "a1")]

/-- A play at noon can be kept. -/
theorem storable_noonPlay {offset : Option Int} (h : ∀ o, offset = some o → Instant.IsOffset o) :
    (noonPlay offset).Storable where
  title := rfl
  artists := fun a ha => List.mem_singleton.mp ha ▸ rfl
  album := rfl
  duration := rfl
  source := rfl
  trackId := rfl
  listenedFor := rfl
  device := rfl
  user := rfl
  onCalendar := by
    intro t ht
    obtain rfl := Option.some.inj ht
    obtain ⟨t, ht⟩ : ∃ t, t = Instant.mk (noon - offset.getD 0) offset := ⟨_, rfl⟩
    have hshown : t.shown = noon := ht ▸ Int.sub_add_cancel ..
    rw [← ht]
    refine ⟨?_, ?_, ht ▸ h⟩
    · rw [hshown]
      decide
    · rw [hshown]
      decide

/-- One by a clock ahead by hours, minutes, seconds and a part of a second, and
one by a clock that does not say. -/
def noonPlays : List Play := [noonPlay (some 19815250000), noonPlay none]

/-- A file with a malformed history. -/
def malformed : StateFile where
  path := ⟨"", ["state.json"]⟩
  document := [("volume", .str "low"), ("history", .arr [])]

set_option maxRecDepth 20000 in
/-- What is written where the plays are kept in it can be read. -/
theorem ofBytes?_malformed :
    ofBytes? (some (text (withPlays malformed.document "radio" noonPlays)).toUTF8)
      = .ok (withPlays malformed.document "radio" noonPlays) :=
  ofBytes?_text rfl

/-- **A malformed file gives back what was kept in it**, with both times as they
were. -/
theorem keep_givesBack_noonPlays :
    (∃ anew, open? malformed.path (some (((malformed.keep "radio" noonPlays).save
          (fun _ text _ => text) "").2).toUTF8) = .ok anew
        ∧ GivesBack malformed.document anew.document "radio" noonPlays)
    ∧ plays? ((malformed.keep "radio" noonPlays).save
        (fun _ text _ => text) "").1.document "radio"
      = some (noonPlays.map Play.stored) := by
  have hstorable : ∀ p ∈ noonPlays, p.Storable := by
    intro p hp
    rcases List.mem_pair.mp hp with rfl | rfl
    · exact storable_noonPlay fun o ho => Option.some.inj ho ▸ ⟨by decide, by decide⟩
    · exact storable_noonPlay fun o ho => nomatch ho
  obtain ⟨hsame, hanew⟩ := keep_givesBack (fun _ text _ => text) (fun _ text => some text.toUTF8)
    malformed "radio" hstorable "" ofBytes?_malformed
  refine ⟨hanew, hsame.unchanged.mpr fun p hp t ht o ho => ?_⟩
  rcases List.mem_pair.mp hp with rfl | rfl
  · obtain rfl := Option.some.inj ht
    obtain rfl := Option.some.inj ho
    decide
  · obtain rfl := Option.some.inj ht
    exact nomatch ho

/-- **A clock that is ahead by half a second is not given back.** -/
theorem not_forall_unchanged :
    ¬ ∀ (f : StateFile) (source : String) (plays : List Play), (∀ p ∈ plays, p.Storable) →
        plays? (f.keep source plays).document source = some (plays.map Play.stored) := by
  intro hall
  have hstorable : ∀ p ∈ [noonPlay (some 500000)], p.Storable := by
    intro p hp
    obtain rfl := List.mem_singleton.mp hp
    exact storable_noonPlay fun o ho => Option.some.inj ho ▸ ⟨by decide, by decide⟩
  have hunchanged := (withPlays_givesBack malformed.document "radio" hstorable).unchanged.mp
    (hall malformed "radio" _ hstorable)
  have hreadable := hunchanged _ (List.mem_singleton_self _) _ rfl 500000 rfl
  revert hreadable
  decide

end StateFile

end Listening
