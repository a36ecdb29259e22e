import Listening.Proofs.JsonRefusals
import Listening.Proofs.KeptLists
import Listening.Watch

/-!
# Starting from any file

A follower begins with what a state file holds, and the file may hold anything:
it may be missing, be no JSON, or be JSON that nobody meant for it. All this is
to count as no list (`StateFile.Holds`), and a list with an unreadable play as
none.

`Follower.begins_iff` says when the follower begins, and with what. Two things
can keep it from that. There is no document in a file that is no text, or in a
text that is refused for its digits or its depth; for most texts this is out of
the question (`Json.IsModerate`). And a play that can be read need not be one
that can be identified: its title, an artist or its album may be a value that is
neither a text nor missing (`Play.IsNamed`). Such a list is not taken for
unreadable, and there is no beginning with it.
-/

namespace Listening

/-! ## Plays that can be identified -/

/-- Whether a label is a text, or says nothing. -/
def Label.isNormal : Label → Bool
  | .other v => !v.truthy
  | _ => true

/-- **A label has a normal form** if it is a text or says nothing. -/
theorem Label.exists_normal?_iff {l : Label} : (∃ s, l.normal? = .ok s) ↔ l.isNormal = true := by
  cases l with
  | absent => exact iff_of_true ⟨"", rfl⟩ rfl
  | text s => exact iff_of_true ⟨_, rfl⟩ rfl
  | other v =>
    show (∃ s, (if v.truthy = true then .error Fault.notText else .ok "") = Except.ok s)
      ↔ (!v.truthy) = true
    cases v.truthy with
    | true => exact iff_of_false (fun ⟨_, h⟩ => nomatch h) Bool.false_ne_true
    | false => exact iff_of_true ⟨"", rfl⟩ rfl

/-- A reading succeeds on a row if it does on every item. -/
theorem exists_mapM_eq_ok_iff {α β : Type} {f : α → Except Fault β} {as : List α} :
    (∃ bs, as.mapM f = .ok bs) ↔ ∀ a ∈ as, ∃ b, f a = .ok b := by
  refine ⟨fun ⟨bs, h⟩ a ha => ?_, exists_mapM_eq_ok⟩
  have hmem : f a ∈ bs.map Except.ok := map_eq_of_mapM_eq_ok h ▸ List.mem_map_of_mem ha
  obtain ⟨b, -, hb⟩ := List.mem_map.mp hmem
  exact ⟨b, hb.symm⟩

/-- **A play that can be identified**: all that names it is a text, or is not
there. -/
structure Play.IsNamed (p : Play) : Prop where
  /-- The title is. -/
  title : p.title.isNormal = true
  /-- So is every artist. -/
  artists : ∀ a ∈ p.artists, a.isNormal = true
  /-- So is the album. -/
  album : p.album.isNormal = true

instance Play.decidableIsNamed (p : Play) : Decidable p.IsNamed :=
  decidable_of_iff (p.title.isNormal = true ∧ (∀ a ∈ p.artists, a.isNormal = true)
      ∧ p.album.isNormal = true)
    ⟨fun ⟨h₁, h₂, h₃⟩ => ⟨h₁, h₂, h₃⟩, fun h => ⟨h.title, h.artists, h.album⟩⟩

/-- **A play has an identity** if and only if its names have normal forms. -/
theorem Play.exists_identity?_iff {p : Play} : (∃ i, p.identity? = .ok i) ↔ p.IsNamed := by
  unfold identity?
  constructor
  · rintro ⟨i, h⟩
    obtain ⟨title, htitle, h⟩ := exists_of_bind_eq_ok h
    obtain ⟨artists, hartists, h⟩ := exists_of_bind_eq_ok h
    obtain ⟨album, halbum, -⟩ := exists_of_bind_eq_ok h
    exact ⟨Label.exists_normal?_iff.mp ⟨title, htitle⟩,
      fun a ha =>
        Label.exists_normal?_iff.mp (exists_mapM_eq_ok_iff.mp ⟨artists, hartists⟩ a ha),
      Label.exists_normal?_iff.mp ⟨album, halbum⟩⟩
  · intro h
    obtain ⟨title, htitle⟩ := Label.exists_normal?_iff.mpr h.title
    obtain ⟨artists, hartists⟩ := exists_mapM_eq_ok_iff.mpr
      fun a ha => Label.exists_normal?_iff.mpr (h.artists a ha)
    obtain ⟨album, halbum⟩ := Label.exists_normal?_iff.mpr h.album
    rw [htitle, hartists, halbum]
    exact ⟨_, rfl⟩

/-- **A list can be begun with** if all its plays can be identified, whichever
way round it is. -/
theorem History.exists_signature?_ordered_iff {h : History} {plays : List Play} :
    (∃ signature, signature? (h.ordered plays) = .ok signature) ↔ ∀ p ∈ plays, p.IsNamed := by
  have hmem : ∀ p, p ∈ h.ordered plays ↔ p ∈ plays := by
    intro p
    unfold ordered
    split
    · rfl
    · exact List.mem_reverse
  unfold signature?
  rw [exists_mapM_eq_ok_iff]
  simp only [hmem, Play.exists_identity?_iff]

/-! ## What a file holds -/

namespace StateFile

variable {content : Option ByteArray} {document : Document}

/-- **The document of a file**: what is no object counts as an empty one. -/
inductive Holds : Option ByteArray → Document → Prop where
  /-- There is no file. -/
  | missing : Holds none []
  /-- The text is no JSON. -/
  | malformed (text : String) (isMalformed : Json.ofText text = .error .malformed) :
    Holds (some text.toUTF8) []
  /-- The text writes an object. -/
  | object (text : String) (fields : List (String × Json))
      (isObject : Json.ofText text = .ok (.obj fields)) : Holds (some text.toUTF8) fields
  /-- The text writes something else. -/
  | other (text : String) (v : Json) (isOther : Json.ofText text = .ok v)
      (noObject : ∀ fields, v ≠ .obj fields) : Holds (some text.toUTF8) []

/-- A text is read back from its bytes. -/
theorem fromUTF8?_toUTF8 (text : String) : String.fromUTF8? text.toUTF8 = some text :=
  dif_pos text.isValidUTF8

/-- Bytes that are read as a text are those of the text. -/
theorem eq_of_fromUTF8? {bytes : ByteArray} {text : String}
    (h : String.fromUTF8? bytes = some text) : bytes = text.toUTF8 := by
  unfold String.fromUTF8? at h
  split at h
  · obtain rfl := Option.some.inj h
    rfl
  · exact nomatch h

/-- **A file is read as the document that it holds**, if it holds one. -/
theorem ofBytes?_eq_ok_iff : ofBytes? content = .ok document ↔ Holds content document := by
  constructor
  · intro h
    cases content with
    | none =>
      obtain rfl := Except.ok.inj h
      exact .missing
    | some bytes =>
      unfold ofBytes? at h
      dsimp only at h
      split at h
      · rename_i text htext
        obtain rfl := eq_of_fromUTF8? htext
        unfold ofText? at h
        split at h
        · rename_i fields hread
          obtain rfl := Except.ok.inj h
          exact .object text _ hread
        · rename_i v hother hread
          obtain rfl := Except.ok.inj h
          exact .other text v hread hother
        · rename_i hread
          obtain rfl := Except.ok.inj h
          exact .malformed text hread
        · exact nomatch h
        · exact nomatch h
      · exact nomatch h
  · intro h
    cases h with
    | missing => rfl
    | malformed text hread => simp only [ofBytes?, fromUTF8?_toUTF8, ofText?, hread]
    | object text fields hread => simp only [ofBytes?, fromUTF8?_toUTF8, ofText?, hread]
    | other text v hread hother =>
      cases v with
      | obj fields => exact absurd rfl (hother fields)
      | _ => simp only [ofBytes?, fromUTF8?_toUTF8, ofText?, hread]

/-- **A moderate text holds a document**, be it JSON or not. -/
theorem exists_holds_of_moderate {text : String} (h : Json.IsModerate 0 text.toList) :
    ∃ document, Holds (some text.toUTF8) document := by
  rcases Json.ofText_of_moderate h with ⟨v, hread⟩ | hread
  · cases v with
    | obj fields => exact ⟨_, .object text fields hread⟩
    | _ => exact ⟨_, .other text _ hread fun _ e => nomatch e⟩
  · exact ⟨_, .malformed text hread⟩

end StateFile

namespace Follower

variable {settings : History} {name : String} {path : Path} {content : Option ByteArray}
  {now : Instant}

/-- **Begins to follow a list** with what a file has in it. -/
def begin? (settings : History) (name : String) (path : Path) (content : Option ByteArray)
    (now : Instant) : Except Fault Follower := do
  let file ← StateFile.open? path content
  start? settings name (some file) now

/-- Where the file holds a document, the follower begins with that. -/
theorem begin?_of_holds {document : StateFile.Document} (h : StateFile.Holds content document) :
    begin? settings name path content now
      = start? settings name (some { path := path, document := document }) now := by
  unfold begin? StateFile.open?
  rw [StateFile.ofBytes?_eq_ok_iff.mpr h]
  rfl

/-- A follower that has begun has read a document. -/
theorem exists_holds_of_begin? {f : Follower}
    (h : begin? settings name path content now = .ok f) :
    ∃ document, StateFile.Holds content document := by
  unfold begin? StateFile.open? at h
  obtain ⟨file, hfile, -⟩ := exists_of_bind_eq_ok h
  obtain ⟨document, hdocument, -⟩ := exists_of_bind_eq_ok hfile
  exact ⟨document, StateFile.ofBytes?_eq_ok_iff.mp hdocument⟩

/-- **With a document there is a beginning** if all plays that are read from the
list of the source can be identified. A list that is not there or cannot be read
has no such plays. -/
theorem exists_start?_iff {file : StateFile} :
    (∃ f, start? settings name (some file) now = .ok f)
      ↔ ∀ plays, StateFile.plays? file.document name = some plays → ∀ p ∈ plays, p.IsNamed := by
  by_cases hnothing : (StateFile.plays? file.document name).getD [] = []
  · refine iff_of_true ⟨_, start?_of_nothing hnothing⟩ fun plays hplays p hp => ?_
    rw [hplays] at hnothing
    obtain rfl : plays = [] := hnothing
    exact absurd hp List.not_mem_nil
  · cases hkept : StateFile.plays? file.document name with
    | none => exact absurd (by rw [hkept]; rfl) hnothing
    | some plays =>
      have hplays : plays ≠ [] := fun he => hnothing (by rw [hkept, he]; rfl)
      have hsigned : (∃ f, start? settings name (some file) now = .ok f)
          ↔ ∃ signature, History.signature? (settings.ordered plays) = .ok signature := by
        rw [start?_of_kept hkept hplays]
        cases History.signature? (settings.ordered plays) with
        | error e => exact iff_of_false (fun ⟨_, h⟩ => nomatch h) fun ⟨_, h⟩ => nomatch h
        | ok signature => exact iff_of_true ⟨_, rfl⟩ ⟨signature, rfl⟩
      rw [hsigned, History.exists_signature?_ordered_iff]
      exact ⟨fun h plays' hplays' => Option.some.inj hplays' ▸ h, fun h => h plays rfl⟩

/-- **When a follower begins, and with what**, whatever the file holds. It does
begin if there is a document in the file, missing, malformed and foreign files
included, and every play that is read from the list of the source can be
identified. What it knows then is that list, and nothing if there is none, if it
is empty or if one of its records is unreadable. And there is a document in every
text without too many digits or brackets. -/
theorem begins_iff (settings : History) (name : String) (path : Path)
    (content : Option ByteArray) (now : Instant) :
    ((∃ f, begin? settings name path content now = .ok f)
        ↔ ∃ document, StateFile.Holds content document
          ∧ ∀ plays, StateFile.plays? document name = some plays → ∀ p ∈ plays, p.IsNamed)
      ∧ (∀ f, begin? settings name path content now = .ok f →
        ∃ document, StateFile.Holds content document ∧ f.name = name
          ∧ f.file = some { path := path, document := document }
          ∧ ((StateFile.plays? document name).getD [] = [] ∧ f.history = settings
            ∨ ∃ plays signature, StateFile.plays? document name = some plays
              ∧ History.signature? (settings.ordered plays) = .ok signature
              ∧ f.history = settings.restored plays now signature))
      ∧ ∀ text : String, Json.IsModerate 0 text.toList →
        ∃ document, StateFile.Holds (some text.toUTF8) document := by
  refine ⟨⟨fun ⟨f, hf⟩ => ?_, fun ⟨document, hholds, hplays⟩ => ?_⟩, fun f hf => ?_,
    fun text => StateFile.exists_holds_of_moderate⟩
  · obtain ⟨document, hholds⟩ := exists_holds_of_begin? hf
    rw [begin?_of_holds hholds] at hf
    exact ⟨document, hholds, exists_start?_iff.mp ⟨f, hf⟩⟩
  · rw [begin?_of_holds hholds]
    exact exists_start?_iff.mpr hplays
  · obtain ⟨document, hholds⟩ := exists_holds_of_begin? hf
    rw [begin?_of_holds hholds] at hf
    rcases start?_eq_ok hf with ⟨rfl, hnothing⟩ | ⟨plays, signature, hkept, hsigned, rfl⟩
    · exact ⟨document, hholds, rfl, rfl, Or.inl ⟨hnothing, rfl⟩⟩
    · exact ⟨document, hholds, rfl, rfl, Or.inr ⟨plays, signature, hkept, hsigned, rfl⟩⟩

/-- A text in which one play is kept, with this for its title. -/
def textOf (title : String) : String :=
  "\x7b\"history\": \x7b\"radio\": [\x7b\"data\": \x7b\"track\": " ++ title
    ++ "\x7d\x7d]\x7d\x7d"

/-- Where the state is kept. -/
def statePath : Path := ⟨"", ["state.json"]⟩

/-- With a text for its title, the play that is kept is all that the follower
begins with. -/
theorem begins_iff_tune : ∃ f plays, begin? {} "radio" statePath
      (some (textOf "\"Tune\"").toUTF8) Instant.epoch = .ok f
    ∧ f.history.known = some plays ∧ plays.length = 1 := by
  obtain ⟨hbegins, hknown, -⟩ := begins_iff {} "radio" statePath
    (some (textOf "\"Tune\"").toUTF8) Instant.epoch
  have hread :
      (StateFile.ofBytes? (some (textOf "\"Tune\"").toUTF8)).toOption.any (fun document =>
      (StateFile.plays? document "radio").any fun plays =>
        plays.length = 1 ∧ ∀ p ∈ plays, p.IsNamed) = true := by
    decide +kernel
  cases hdocument : StateFile.ofBytes? (some (textOf "\"Tune\"").toUTF8) with
  | error e =>
    rw [hdocument] at hread
    exact nomatch hread
  | ok document =>
    rw [hdocument, Except.toOption, Option.any_some] at hread
    cases hkept : StateFile.plays? document "radio" with
    | none =>
      rw [hkept] at hread
      exact nomatch hread
    | some plays =>
      rw [hkept, Option.any_some] at hread
      obtain ⟨hone, hnamed⟩ := of_decide_eq_true hread
      obtain ⟨f, hf⟩ := hbegins.mpr ⟨document, StateFile.ofBytes?_eq_ok_iff.mp hdocument,
        fun plays' hplays' => Option.some.inj (hkept.symm.trans hplays') ▸ hnamed⟩
      obtain ⟨document', hholds, -, -, hhistory⟩ := hknown f hf
      obtain rfl : document = document' :=
        Except.ok.inj (hdocument.symm.trans (StateFile.ofBytes?_eq_ok_iff.mpr hholds))
      rcases hhistory with ⟨hnothing, -⟩ | ⟨plays', signature, hkept', -, hrestored⟩
      · rw [hkept] at hnothing
        obtain rfl : plays = [] := hnothing
        exact nomatch hone
      · obtain rfl := Option.some.inj (hkept.symm.trans hkept')
        exact ⟨f, plays, hf, by rw [hrestored]; rfl, hone⟩

/-- **A number for a title** keeps a follower from beginning: the play can be
read, and cannot be identified. -/
theorem not_forall_begins : ¬ ∀ (name : String) (content : Option ByteArray),
    ∃ f, begin? {} name statePath content Instant.epoch = .ok f := by
  intro hall
  obtain ⟨f, hf⟩ := hall "radio" (some (textOf "5").toUTF8)
  have hnone : (begin? {} "radio" statePath (some (textOf "5").toUTF8)
      Instant.epoch).toOption.isSome = false := by
    decide +kernel
  rw [hf] at hnone
  exact nomatch hnone

end Follower

/-- **The watch over a list can be set up** exactly if a follower begins with what
the state file holds. -/
theorem Watch.exists_list?_iff {ω : Type} [Host ω] [Service ω] (s : Settings)
    (clients : List (Client ω)) (content : Option ByteArray) (now : Instant) :
    (∃ w, list? s clients content now = .ok w)
      ↔ ∃ f, Follower.begin? {} (Service.Account.name { user := s.watched }) (filePath s) content
        now = .ok f := by
  unfold list? Follower.begin?
  cases StateFile.open? (filePath s) content with
  | error e => exact iff_of_false (fun ⟨_, h⟩ => nomatch h) fun ⟨_, h⟩ => nomatch h
  | ok file =>
    show (∃ w, (Follower.start? _ _ _ _).bind _ = .ok w) ↔ ∃ f, Follower.start? _ _ _ _ = .ok f
    cases Follower.start? {} (Service.Account.name { user := s.watched }) (some file) now with
    | error e => exact iff_of_false (fun ⟨_, h⟩ => nomatch h) fun ⟨_, h⟩ => nomatch h
    | ok f => exact iff_of_true ⟨_, rfl⟩ ⟨f, rfl⟩

end Listening
