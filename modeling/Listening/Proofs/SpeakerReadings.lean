import Listening.Proofs.AllOrNothing
import Listening.Proofs.WholeNumberSigns
import Listening.Recording
import Listening.Watch

/-!
# One speaker among others

A look at the speakers leaves out those that cannot be read, so that one of them
does not stand in the way of the others. Whether the play that a speaker shows is
malformed is only found out afterwards, and then all that was read is refused.

For speakers that tell everything in texts, `Speaker.Finder.fetch_valid_iff` says
when a look brings a snapshot that is not refused: exactly if there is no speaker
that `Spoils` it. There are such speakers. A title of nothing but spaces is not
empty, and so is read, but it is blank. A time may be negative. And a time may be
so large that it is no float, which is not among the faults for which a speaker is
left out. A poll then takes in nothing, of the other speakers neither
(`Speaker.Finder.poll_of_spoils`).
-/

namespace Listening

/-- A snapshot that is refused is not taken in, and leaves all as it is. -/
theorem Poller.takeIn_of_refused {σ ω : Type} [Host ω] (p : Poller σ ω) {snapshot : Snapshot}
    (s : State σ ω) {e : Fault} (h : snapshot.validate? = .error e) :
    (p.takeIn snapshot s).state = s
      ∧ ∀ plays, (p.takeIn snapshot s).result = .ok plays → plays = [] := by
  unfold takeIn
  rw [h]
  dsimp only
  split
  · exact ⟨rfl, fun plays hplays => (Except.ok.inj hplays).symm⟩
  · split
    · exact ⟨rfl, fun plays hplays => (Except.ok.inj hplays).symm⟩
    · exact ⟨rfl, fun plays hplays => by cases hplays⟩

namespace Speaker

/-! ## What speakers tell -/

/-- Whether a field is a text, or missing. -/
def IsWritten (v : Json) : Prop := v = .null ∨ ∃ t, v = .str t

/-- **Whether a whole number is too large for a float.** -/
def IsOverlarge (n : Int) : Prop := (Number.ofInt n).isInf = true

/-- **What is shown of a track**: a title, which is not empty, and two times that
can be read, the length and the position. -/
structure Shows (track : List (String × Json)) (title : String) (length place : Option Int) :
    Prop where
  /-- The title. -/
  titled : field "title" track = .str title
  /-- It is not empty. -/
  nonempty : title ≠ ""
  /-- The length. -/
  timed : time? (field "duration" track) = .ok length
  /-- The position. -/
  placed : time? (field "position" track) = .ok place

section

variable {ω : Type} [Speakers ω]

/-- Whether all that a speaker tells about its track are texts. -/
def TellsTexts (w : ω) (s : Speaker) : Prop :=
  ∀ track, Speakers.track s w = .ok track → ∀ name, IsWritten (field name track)

/-- What a speaker that can be asked tells about its track. -/
def Tells (w : ω) (s : Speaker) (track : List (String × Json)) : Prop :=
  Speakers.track s w = .ok track ∧ ∃ transport, Speakers.transport s w = .ok transport

/-- **How a speaker spoils a snapshot** for the others. -/
inductive Spoils (w : ω) (s : Speaker) : Prop
  /-- Its track cannot be asked for, and this is not expected of speakers. -/
  | noTrack {e : Fault} (h : Speakers.track s w = .error e) (he : Finder.isUnreadable e = false)
  /-- What it does cannot be asked for, and this is not expected of speakers. -/
  | noTransport {track : List (String × Json)} {e : Fault} (h : Speakers.track s w = .ok track)
      (h' : Speakers.transport s w = .error e) (he : Finder.isUnreadable e = false)
  /-- There is a title, but it is blank. -/
  | blank {track : List (String × Json)} {title : String} {length place : Option Int}
      (h : Tells w s track) (hshown : Shows track title length place)
      (hblank : Text.isBlankText title = true)
  /-- The track is shorter than nothing. -/
  | negative {track : List (String × Json)} {title : String} {n : Int} {place : Option Int}
      (h : Tells w s track) (hshown : Shows track title (some n) place) (hneg : n < 0)
  /-- One of the times is too large. -/
  | overlarge {track : List (String × Json)} {title : String}
    {length place : Option Int} {n : Int}
      (h : Tells w s track) (hshown : Shows track title length place)
      (hn : length = some n ∨ place = some n) (hlarge : IsOverlarge n)

end

/-! ## Times -/

/-- A whole number that cannot be read is a bad value. -/
theorem part?_cases (piece : List Char) :
    (∃ n, part? piece = .ok n) ∨ part? piece = .error .noNumeral := by
  unfold part?
  split
  · exact Or.inl ⟨_, rfl⟩
  · exact Or.inr rfl

/-- **A time that cannot be read is a bad value.** -/
theorem seconds?_cases (t : String) :
    (∃ n, seconds? t = .ok n) ∨ ∃ e, seconds? t = .error e ∧ e.nature.isValue = true := by
  have hbad : Fault.noNumeral.nature.isValue = true := rfl
  unfold seconds?
  split
  · rename_i hours minutes seconds _
    rcases part?_cases hours with ⟨a, ha⟩ | ha
    · rcases part?_cases minutes with ⟨b, hb⟩ | hb
      · rcases part?_cases seconds with ⟨c, hc⟩ | hc
        · rw [ha, hb, hc]
          exact Or.inl ⟨_, rfl⟩
        · rw [ha, hb, hc]
          exact Or.inr ⟨_, rfl, hbad⟩
      · rw [ha, hb]
        exact Or.inr ⟨_, rfl, hbad⟩
    · rw [ha]
      exact Or.inr ⟨_, rfl, hbad⟩
  · rename_i minutes seconds _
    rcases part?_cases minutes with ⟨b, hb⟩ | hb
    · rcases part?_cases seconds with ⟨c, hc⟩ | hc
      · rw [hb, hc]
        exact Or.inl ⟨_, rfl⟩
      · rw [hb, hc]
        exact Or.inr ⟨_, rfl, hbad⟩
    · rw [hb]
      exact Or.inr ⟨_, rfl, hbad⟩
  · exact Or.inr ⟨_, rfl, rfl⟩

/-- **A time told in a text** can be read, or the speaker is left out. -/
theorem time?_cases {v : Json} (h : IsWritten v) :
    (∃ length, time? v = .ok length)
      ∨ ∃ e, time? v = .error e ∧ Finder.isUnreadable e = true := by
  rcases h with rfl | ⟨t, rfl⟩
  · exact Or.inl ⟨none, rfl⟩
  · by_cases hgiven : (!(Json.str t).truthy) = true
    · exact Or.inl ⟨none, if_pos hgiven⟩
    · have htime : time? (.str t) = if Text.contains notImplemented.toList t.toList = true
          then .ok none else (seconds? t).map some := if_neg hgiven
      rw [htime]
      by_cases hmentions : Text.contains notImplemented.toList t.toList = true
      · rw [if_pos hmentions]
        exact Or.inl ⟨none, rfl⟩
      · rw [if_neg hmentions]
        rcases seconds?_cases t with ⟨n, hn⟩ | ⟨e, he, hvalue⟩
        · rw [hn]
          exact Or.inl ⟨some n, rfl⟩
        · rw [he]
          refine Or.inr ⟨e, rfl, ?_⟩
          unfold Finder.isUnreadable
          rw [hvalue, Bool.or_true, Bool.true_or]

/-- A whole number becomes a float, unless it is too large. -/
theorem exactly?_cases (n : Int) :
    IsOverlarge n ∧ exactly? n = .error .tooLarge
      ∨ ¬ IsOverlarge n ∧ exactly? n = .ok (Number.ofInt n) :=
  (Classical.em (IsOverlarge n)).imp (fun h => ⟨h, if_pos h⟩) (fun h => ⟨h, if_neg h⟩)

/-! ## The play that is shown -/

/-- A length as it is read; none is shown as zero. -/
def duration? (length : Option Int) : Except Fault Amount :=
  match length with
  | none => .ok .absent
  | some n => if n = 0 then .ok .absent else (exactly? n).map .seconds

/-- A position as it is read. -/
def position? (place : Option Int) : Except Fault (Option Float) :=
  match place with
  | none => .ok none
  | some n => (exactly? n).map some

/-- **A length is read unless it is too large**, and keeps its sign. -/
theorem duration?_cases (length : Option Int) :
    (∃ n, length = some n ∧ IsOverlarge n) ∧ duration? length = .error .tooLarge
      ∨ (∀ n, length = some n → ¬ IsOverlarge n) ∧ ∃ d, duration? length = .ok d
        ∧ d.isNumeric = true
        ∧ ((∃ x, d.number? = .ok (some x) ∧ x < 0) ↔ ∃ n, length = some n ∧ n < 0) := by
  cases length with
  | none =>
    refine Or.inr ⟨fun n h => (nomatch h), .absent, rfl, rfl, iff_of_false ?_ ?_⟩
    · exact fun ⟨x, hx, _⟩ => nomatch Except.ok.inj hx
    · exact fun ⟨n, hn, _⟩ => nomatch hn
  | some n =>
    unfold duration?
    dsimp only
    by_cases hzero : n = 0
    · subst hzero
      rw [if_pos rfl]
      refine Or.inr ⟨fun m h => ?_, .absent, rfl, rfl, iff_of_false ?_ ?_⟩
      · obtain rfl := Option.some.inj h
        exact (by decide : ¬ (Number.ofInt 0).isInf = true)
      · exact fun ⟨x, hx, _⟩ => nomatch Except.ok.inj hx
      · rintro ⟨m, hm, hneg⟩
        obtain rfl := Option.some.inj hm
        exact absurd hneg (Int.lt_irrefl 0)
    · rw [if_neg hzero]
      rcases exactly?_cases n with ⟨hlarge, he⟩ | ⟨hsmall, hok⟩
      · rw [he]
        exact Or.inl ⟨⟨n, rfl, hlarge⟩, rfl⟩
      · rw [hok]
        refine Or.inr ⟨fun m h => Option.some.inj h ▸ hsmall, .seconds _, rfl, rfl, ?_⟩
        constructor
        · rintro ⟨x, hx, hneg⟩
          obtain rfl := Option.some.inj (Except.ok.inj hx)
          exact ⟨n, rfl, (Number.ofInt_lt_zero_iff n).mp hneg⟩
        · rintro ⟨m, hm, hneg⟩
          obtain rfl := Option.some.inj hm
          exact ⟨_, rfl, (Number.ofInt_lt_zero_iff n).mpr hneg⟩

/-- A position is read unless it is too large. -/
theorem position?_cases (place : Option Int) :
    (∃ n, place = some n ∧ IsOverlarge n) ∧ position? place = .error .tooLarge
      ∨ (∀ n, place = some n → ¬ IsOverlarge n) ∧ ∃ x, position? place = .ok x := by
  cases place with
  | none => exact Or.inr ⟨fun n h => (nomatch h), none, rfl⟩
  | some n =>
    unfold position?
    dsimp only
    rcases exactly?_cases n with ⟨hlarge, he⟩ | ⟨hsmall, hok⟩
    · rw [he]
      exact Or.inl ⟨⟨n, rfl, hlarge⟩, rfl⟩
    · rw [hok]
      exact Or.inr ⟨fun m h => Option.some.inj h ▸ hsmall, _, rfl⟩

/-- A field that is a text or missing makes a label that is. -/
theorem IsWritten.isTextual {v : Json} (h : IsWritten v) :
    (Label.ofJson v).isTextual = true := by
  rcases h with rfl | ⟨t, rfl⟩ <;> rfl

/-- A field that counts only if it says something makes a label that is a text
or missing. -/
theorem IsWritten.isTextual_given {v : Json} (h : IsWritten v) : (given v).isTextual = true := by
  unfold given
  split
  · exact h.isTextual
  · rfl

/-- An artist is a text, if there is one. -/
theorem IsWritten.isText_of_mem {v : Json} (h : IsWritten v) {a : Label}
    (ha : a ∈ if v.truthy then [Label.ofJson v] else []) : a.isText = true := by
  rcases h with rfl | ⟨t, rfl⟩
  · exact absurd ha List.not_mem_nil
  · split at ha
    · exact List.mem_singleton.mp ha ▸ rfl
    · exact absurd ha List.not_mem_nil

section

variable {track : List (String × Json)} {title : String} {length place : Option Int}

/-- The play of a speaker, put together from its times. -/
theorem Shows.play?_eq (h : Shows track title length place) (s : Speaker) (source : String) :
    s.play? source track = (duration? length).bind fun duration =>
      (position? place).bind fun position => .ok
        { title := .text title
          artists :=
            if (field "artist" track).truthy then [.ofJson (field "artist" track)] else []
          album := given (field "album" track)
          duration := duration
          source := .text source
          trackId := given (field "uri" track)
          position := position
          device := .text s.address } := by
  unfold play? duration? position?
  rw [h.timed, h.placed, h.titled]
  cases length with
  | none => cases place <;> rfl
  | some n =>
    dsimp only [bind, Except.bind]
    by_cases hzero : n = 0
    · rw [if_pos hzero, if_pos hzero]
      cases place <;> rfl
    · rw [if_neg hzero, if_neg hzero]
      cases place <;> rfl

/-- **A play that is shown can be read unless a time is too large**, and then it
is malformed exactly if the title is blank or the length is below zero. -/
theorem Shows.play?_cases (h : Shows track title length place)
    (htexts : ∀ name, IsWritten (field name track)) (s : Speaker) (source : String) :
    (∃ n, (length = some n ∨ place = some n) ∧ IsOverlarge n)
        ∧ s.play? source track = .error .tooLarge
      ∨ (∀ n, length = some n ∨ place = some n → ¬ IsOverlarge n)
        ∧ ∃ p, s.play? source track = .ok p ∧ p.Typed
          ∧ (p.IsMalformed ↔ Text.isBlankText title = true ∨ ∃ n, length = some n ∧ n < 0) := by
  rw [h.play?_eq]
  rcases duration?_cases length with ⟨⟨n, hn, hlarge⟩, he⟩ | ⟨hsmall, d, hd, hnumeric, hneg⟩
  · rw [he]
    exact Or.inl ⟨⟨n, Or.inl hn, hlarge⟩, rfl⟩
  · rcases position?_cases place with ⟨⟨n, hn, hlarge⟩, he⟩ | ⟨hsmall', x, hx⟩
    · rw [hd, he]
      exact Or.inl ⟨⟨n, Or.inr hn, hlarge⟩, rfl⟩
    · rw [hd, hx]
      refine Or.inr ⟨fun n hn => hn.elim (hsmall n) (hsmall' n), _, rfl, ?_, ?_⟩
      · exact ⟨rfl, fun a ha => (htexts "artist").isText_of_mem ha,
          (htexts "album").isTextual_given, hnumeric, rfl, (htexts "uri").isTextual_given⟩
      · exact or_congr (iff_of_eq (Bool.not_eq_false' _)) hneg

end

namespace Finder

variable {ω : Type} [Speakers ω] {f : Finder} {w : ω} {s : Speaker}

/-- **Whether a speaker does harm**: reading it is a fault for which it is not left
out, or brings a play that is refused. -/
def Harms (f : Finder) (w : ω) (s : Speaker) : Prop :=
  match f.read? w s with
  | .ok report => report.validate? ≠ .ok ()
  | .error e => isUnreadable e = false

theorem harms_of_error {e : Fault} (h : f.read? w s = .error e) :
    f.Harms w s ↔ isUnreadable e = false := by
  unfold Harms
  rw [h]

theorem harms_of_ok {report : Report} (h : f.read? w s = .ok report) :
    f.Harms w s ↔ report.validate? ≠ .ok () := by
  unfold Harms
  rw [h]

/-- What a speaker that can be asked is read as. -/
theorem read?_of_tells {track : List (String × Json)} (h : Tells w s track) :
    ∃ transport, f.read? w s = s.report? f.name track transport := by
  obtain ⟨htrack, transport, htransport⟩ := h
  refine ⟨transport, ?_⟩
  unfold read?
  rw [htrack, htransport]
  rfl

/-- A text that is not empty says something. -/
theorem truthy_title {track : List (String × Json)} {title : String}
    (htitled : field "title" track = .str title) (hnonempty : title ≠ "") :
    (field "title" track).truthy = true := by
  rw [htitled, Json.truthy, Bool.not_eq_true', Bool.eq_false_iff, ne_eq, String.isEmpty_iff]
  exact hnonempty

/-- The report of a speaker that shows something is made from the play. -/
theorem report?_eq {track transport : List (String × Json)} {source : String}
    (h : (field "title" track).truthy = true) :
    s.report? source track transport = (s.play? source track).bind fun play =>
      .ok ⟨⟨s.address, Platform.noUser⟩, some (status transport), some play, play.position⟩ :=
  if_pos h

/-- A speaker that shows nothing does no harm. -/
theorem not_harms_of_untitled {track : List (String × Json)} (h : Tells w s track)
    (htitle : (field "title" track).truthy = false) : ¬ f.Harms w s := by
  obtain ⟨transport, hread⟩ := read?_of_tells (f := f) h
  have hreport : s.report? f.name track transport
      = .ok ⟨⟨s.address, Platform.noUser⟩, some (status transport), none, none⟩ :=
    if_neg (Bool.eq_false_iff.mp htitle)
  rw [harms_of_ok (hread.trans hreport)]
  exact not_not_intro rfl

/-- **A speaker whose times cannot be read does no harm.** -/
theorem not_harms_of_play?_eq_error {track : List (String × Json)} (h : Tells w s track)
    (htitle : (field "title" track).truthy = true) {e : Fault}
    (hplay : s.play? f.name track = .error e) (he : isUnreadable e = true) : ¬ f.Harms w s := by
  obtain ⟨transport, hread⟩ := read?_of_tells (f := f) h
  rw [report?_eq htitle, hplay] at hread
  rw [harms_of_error hread, he]
  exact fun h => nomatch h

/-- **One that shows a title and times** does harm for one of them. -/
theorem harms_iff_of_shows {track : List (String × Json)} {title : String}
    {length place : Option Int} (htexts : TellsTexts w s) (h : Tells w s track)
    (hshown : Shows track title length place) :
    f.Harms w s ↔ (Text.isBlankText title = true ∨ ∃ n, length = some n ∧ n < 0)
      ∨ ∃ n, (length = some n ∨ place = some n) ∧ IsOverlarge n := by
  obtain ⟨transport, hread⟩ := read?_of_tells (f := f) h
  rw [report?_eq (truthy_title hshown.titled hshown.nonempty)] at hread
  rcases hshown.play?_cases (htexts track h.1) s f.name with
    ⟨hlarge, he⟩ | ⟨hsmall, p, hp, htyped, hmalformed⟩
  · rw [he] at hread
    rw [harms_of_error hread]
    exact iff_of_true rfl (Or.inr hlarge)
  · rw [hp] at hread
    rw [harms_of_ok hread, ← hmalformed, or_iff_left fun ⟨n, hn, hlarge⟩ => hsmall n hn hlarge]
    show p.validate? ≠ .ok () ↔ _
    rcases htyped.validate?_cases with ⟨hbad, e, he, -⟩ | ⟨hfine, hok⟩
    · rw [he]
      exact iff_of_true (fun hok => nomatch hok) hbad
    · rw [hok]
      exact iff_of_false (not_not_intro rfl) hfine

/-- **A title that says something is shown** with the times, unless these cannot be
read. -/
theorem shows_or_play?_eq_error {track : List (String × Json)}
    (hwritten : ∀ name, IsWritten (field name track))
    (htitle : (field "title" track).truthy = true) (source : String) :
    (∃ title length place, Shows track title length place)
      ∨ ∃ e, s.play? source track = .error e ∧ isUnreadable e = true := by
  obtain ⟨title, htitled, hnonempty⟩ : ∃ title, field "title" track = .str title
    ∧ title ≠ "" := by
    rcases hwritten "title" with hnull | ⟨title, htitled⟩
    · rw [hnull] at htitle
      exact nomatch htitle
    · refine ⟨title, htitled, ?_⟩
      rintro rfl
      rw [htitled] at htitle
      exact nomatch htitle
  rcases time?_cases (hwritten "duration") with ⟨length, hlength⟩ | ⟨e, he, hunreadable⟩
  · rcases time?_cases (hwritten "position") with ⟨place, hplace⟩ | ⟨e, he, hunreadable⟩
    · exact Or.inl ⟨title, length, place, htitled, hnonempty, hlength, hplace⟩
    · refine Or.inr ⟨e, ?_, hunreadable⟩
      unfold play?
      rw [hlength, he]
      rfl
  · refine Or.inr ⟨e, ?_, hunreadable⟩
    unfold play?
    rw [he]
    rfl

/-- A speaker whose track cannot be asked for is not read. -/
theorem read?_of_noTrack {e : Fault} (h : Speakers.track s w = .error e) :
    f.read? w s = .error e := by
  unfold read?
  rw [h]
  rfl

/-- A speaker that does not tell what it does is not read. -/
theorem read?_of_noTransport {track : List (String × Json)} {e : Fault}
    (h : Speakers.track s w = .ok track) (h' : Speakers.transport s w = .error e) :
    f.read? w s = .error e := by
  unfold read?
  rw [h, h']
  rfl

/-- **A speaker that tells texts does harm exactly if it spoils the snapshot.** -/
theorem harms_iff_spoils (htexts : TellsTexts w s) : f.Harms w s ↔ Spoils w s := by
  constructor
  · intro hharms
    cases htrack : Speakers.track s w with
    | error e => exact .noTrack htrack ((harms_of_error (read?_of_noTrack htrack)).mp hharms)
    | ok track =>
      cases htransport : Speakers.transport s w with
      | error e =>
        exact .noTransport htrack htransport
          ((harms_of_error (read?_of_noTransport htrack htransport)).mp hharms)
      | ok transport =>
        have htells : Tells w s track := ⟨htrack, transport, htransport⟩
        cases htitle : (field "title" track).truthy with
        | false => exact absurd hharms (not_harms_of_untitled htells htitle)
        | true =>
          rcases shows_or_play?_eq_error (htexts track htrack) htitle f.name with
            ⟨title, length, place, hshown⟩ | ⟨e, he, hunreadable⟩
          · rcases (harms_iff_of_shows htexts htells hshown).mp hharms with
              (hblank | ⟨n, rfl, hneg⟩) | ⟨n, hn, hlarge⟩
            · exact .blank htells hshown hblank
            · exact .negative htells hshown hneg
            · exact .overlarge htells hshown hn hlarge
          · exact absurd hharms (not_harms_of_play?_eq_error htells htitle he hunreadable)
  · intro hspoils
    cases hspoils with
    | noTrack h he => exact (harms_of_error (read?_of_noTrack h)).mpr he
    | noTransport h h' he => exact (harms_of_error (read?_of_noTransport h h')).mpr he
    | blank h hshown hblank =>
      exact (harms_iff_of_shows htexts h hshown).mpr (Or.inl (Or.inl hblank))
    | negative h hshown hneg =>
      exact (harms_iff_of_shows htexts h hshown).mpr (Or.inl (Or.inr ⟨_, rfl, hneg⟩))
    | overlarge h hshown hn hlarge =>
      exact (harms_iff_of_shows htexts h hshown).mpr (Or.inr ⟨_, hn, hlarge⟩)

/-! ## All speakers -/

/-- **The reports of all that can be read**, in the order of the speakers. -/
def reports (f : Finder) (w : ω) (speakers : List Speaker) : List Report :=
  speakers.filterMap fun s => (f.read? w s).toOption

/-- **Speakers are read in order**, and those that cannot be are left out; unless
one fails in another way, and then nothing is read. -/
theorem readAll?_cases (f : Finder) (w : ω) (speakers : List Speaker) :
    (∀ s ∈ speakers, ∀ e, f.read? w s = .error e → isUnreadable e = true)
        ∧ f.readAll? w speakers = .ok (f.reports w speakers)
      ∨ ∃ s ∈ speakers, ∃ e, f.read? w s = .error e ∧ isUnreadable e = false
        ∧ f.readAll? w speakers = .error e := by
  induction speakers with
  | nil => exact Or.inl ⟨fun s hs => absurd hs List.not_mem_nil, rfl⟩
  | cons s rest ih =>
    unfold readAll? reports
    rw [List.filterMap_cons]
    cases hread : f.read? w s with
    | ok report =>
      rcases ih with ⟨hall, hrest⟩ | ⟨t, ht, e, he, hfatal, hrest⟩
      · refine Or.inl ⟨List.forall_mem_cons.mpr ⟨fun e he => ?_, hall⟩, ?_⟩
        · cases hread.symm.trans he
        · dsimp only
          rw [hrest]
          rfl
      · refine Or.inr ⟨t, List.mem_cons_of_mem s ht, e, he, hfatal, ?_⟩
        dsimp only
        rw [hrest]
        rfl
    | error e =>
      dsimp only
      by_cases hunreadable : isUnreadable e = true
      · rw [if_pos hunreadable]
        rcases ih with ⟨hall, hrest⟩ | ⟨t, ht, e', he', hfatal, hrest⟩
        · refine Or.inl ⟨List.forall_mem_cons.mpr ⟨fun e' he' => ?_, hall⟩, hrest⟩
          rwa [← Except.error.inj (hread.symm.trans he')]
        · exact Or.inr ⟨t, List.mem_cons_of_mem s ht, e', he', hfatal, hrest⟩
      · rw [if_neg hunreadable]
        exact Or.inr ⟨s, List.mem_cons_self, e, hread, Bool.eq_false_iff.mpr hunreadable, rfl⟩

/-- Reports are checked one after the other. -/
theorem validate?_players_iff (rs : List Report) :
    Snapshot.validate? { players := rs } = .ok () ↔ ∀ r ∈ rs, r.validate? = .ok () := by
  rw [Snapshot.validate?_eq]
  rcases checkAll_cases Report.validate? rs with ⟨hall, hok⟩ | ⟨r, hr, e, he, herror⟩
  · rw [hok]
    exact iff_of_true rfl hall
  · rw [herror]
    exact iff_of_false (fun h => nomatch h) fun hall => nomatch he.symm.trans (hall r hr)

/-- **What is read of speakers can be accepted** exactly if none of them does
harm. -/
theorem readAll?_valid_iff (f : Finder) (w : ω) (speakers : List Speaker) :
    (∃ rs, f.readAll? w speakers = .ok rs ∧ Snapshot.validate? { players := rs } = .ok ())
      ↔ ∀ s ∈ speakers, ¬ f.Harms w s := by
  rcases f.readAll?_cases w speakers with ⟨hall, hok⟩ | ⟨s, hs, e, he, hfatal, herror⟩
  · rw [hok]
    constructor
    · rintro ⟨rs, hrs, hvalid⟩ s hs
      obtain rfl := Except.ok.inj hrs
      cases hread : f.read? w s with
      | ok report =>
        have hmem : report ∈ f.reports w speakers :=
          List.mem_filterMap.mpr ⟨s, hs, by rw [hread]; rfl⟩
        rw [harms_of_ok hread]
        exact not_not_intro ((validate?_players_iff _).mp hvalid report hmem)
      | error e =>
        rw [harms_of_error hread, hall s hs e hread]
        exact fun h => nomatch h
    · intro hharmless
      refine ⟨_, rfl, (validate?_players_iff _).mpr fun report hreport => ?_⟩
      obtain ⟨s, hs, hread⟩ := List.mem_filterMap.mp hreport
      have hfine := hharmless s hs
      rw [harms_of_ok (Dispatcher.eq_ok_of_toOption hread)] at hfine
      exact Classical.not_not.mp hfine
  · rw [herror]
    refine iff_of_false (fun ⟨rs, hrs, _⟩ => nomatch hrs) fun hharmless => ?_
    exact hharmless s hs ((harms_of_error he).mpr hfatal)

/-! ## A look -/

section

variable [Host ω] {f f' : Finder} {w w' : ω}

/-- Finds out which speakers there are, if it is time to. -/
def refresh (f : Finder) (w : ω) : Step (Finder × ω) Unit :=
  (Step.of (f.isDue? (Host.now w)) (f, w)).andThen fun due (f, w) =>
    if due then f.discover w else .ok () (f, w)

/-- **A look** finds out which speakers there are, and reads them. -/
theorem fetch_eq (f : Finder) (w : ω) :
    f.fetch w = (f.refresh w).andThen fun _ (f, w) =>
      (Step.of (f.readAll? w f.known) (f, w)).andThen fun reports s =>
        .ok { players := reports } s := by
  unfold fetch refresh
  cases f.isDue? (Host.now w) <;> rfl

/-- A look brings what is read of the speakers, or fails where that does. -/
theorem fetch_cases (hknown : f.refresh w = .ok () (f', w')) :
    f'.readAll? w' f'.known = .ok (f'.reports w' f'.known)
        ∧ f.fetch w = .ok { players := f'.reports w' f'.known } (f', w')
      ∨ ∃ e, f'.readAll? w' f'.known = .error e ∧ f.fetch w = .fail e (f', w') := by
  rw [fetch_eq, hknown, Step.andThen_ok]
  dsimp only
  rcases f'.readAll?_cases w' f'.known with ⟨-, hok⟩ | ⟨s, -, e, -, -, herror⟩
  · rw [hok]
    exact Or.inl ⟨rfl, rfl⟩
  · rw [herror]
    exact Or.inr ⟨e, rfl, rfl⟩

/-- **How a look ends**: with the reports of all that can be read, if no speaker
spoils them, and otherwise with reports that are refused, or with none. -/
theorem fetch_outcome (hknown : f.refresh w = .ok () (f', w'))
    (htexts : ∀ s ∈ f'.known, TellsTexts w' s) :
    (∀ s ∈ f'.known, ¬ Spoils w' s)
        ∧ f.fetch w = .ok { players := f'.reports w' f'.known } (f', w')
        ∧ Snapshot.validate? { players := f'.reports w' f'.known } = .ok ()
      ∨ (∃ s ∈ f'.known, Spoils w' s)
        ∧ (f.fetch w = .ok { players := f'.reports w' f'.known } (f', w')
            ∧ (∃ e, Snapshot.validate? { players := f'.reports w' f'.known } = .error e)
          ∨ ∃ e, f.fetch w = .fail e (f', w')) := by
  have hvalid := f'.readAll?_valid_iff w' f'.known
  have hharms : (∀ s ∈ f'.known, ¬ f'.Harms w' s) ↔ ∀ s ∈ f'.known, ¬ Spoils w' s :=
    forall₂_congr fun s hs => not_congr (harms_iff_spoils (htexts s hs))
  have hspoils (h : ¬ ∀ s ∈ f'.known, ¬ Spoils w' s) : ∃ s ∈ f'.known, Spoils w' s := by
    obtain ⟨s, hs⟩ := Classical.not_forall.mp h
    obtain ⟨hmem, hspoils⟩ := Classical.not_imp.mp hs
    exact ⟨s, hmem, Classical.not_not.mp hspoils⟩
  rw [hharms] at hvalid
  rcases fetch_cases hknown with ⟨hread, hfetch⟩ | ⟨e, hread, hfetch⟩
  · cases hchecked : Snapshot.validate? { players := f'.reports w' f'.known } with
    | ok u => exact Or.inl ⟨hvalid.mp ⟨_, hread, hchecked⟩, hfetch, rfl⟩
    | error e =>
      refine Or.inr ⟨hspoils fun hfine => ?_, Or.inl ⟨hfetch, e, rfl⟩⟩
      obtain ⟨rs, hrs, hok⟩ := hvalid.mpr hfine
      obtain rfl := Except.ok.inj (hread.symm.trans hrs)
      cases hchecked.symm.trans hok
  · refine Or.inr ⟨hspoils fun hfine => ?_, Or.inr ⟨e, hfetch⟩⟩
    obtain ⟨rs, hrs, -⟩ := hvalid.mpr hfine
    cases hread.symm.trans hrs

/-- **What a look brings** are the reports of all speakers that can be read, in
order. It brings something, and something that is not refused, exactly if none of
the speakers spoils it. -/
theorem fetch_valid_iff (hknown : f.refresh w = .ok () (f', w'))
    (htexts : ∀ s ∈ f'.known, TellsTexts w' s) :
    (∀ snapshot v, f.fetch w = .ok snapshot v →
        snapshot = { players := f'.reports w' f'.known } ∧ v = (f', w'))
      ∧ ((∃ snapshot, f.fetch w = .ok snapshot (f', w') ∧ snapshot.validate? = .ok ())
        ↔ ∀ s ∈ f'.known, ¬ Spoils w' s) := by
  constructor
  · intro snapshot v h
    rcases fetch_cases hknown with ⟨-, hfetch⟩ | ⟨e, -, hfetch⟩
    · obtain ⟨hsnapshot, hv⟩ := Step.mk.inj (h.symm.trans hfetch)
      exact ⟨Except.ok.inj hsnapshot, hv⟩
    · cases congrArg Step.result (h.symm.trans hfetch)
  · rcases fetch_outcome hknown htexts with
      ⟨hfine, hfetch, hvalid⟩ | ⟨⟨s, hs, hspoils⟩, hspoilt⟩
    · exact iff_of_true ⟨_, hfetch, hvalid⟩ hfine
    · refine iff_of_false (fun ⟨snapshot, h, hvalid⟩ => ?_) fun hfine => hfine s hs hspoils
      rcases hspoilt with ⟨hfetch, e, he⟩ | ⟨e, hfetch⟩
      · obtain ⟨hsnapshot, -⟩ := Step.mk.inj (hfetch.symm.trans h)
        obtain rfl := Except.ok.inj hsnapshot
        cases he.symm.trans hvalid
      · cases congrArg Step.result (hfetch.symm.trans h)

/-! ## A poll -/

section

variable {settings : Settings} {clients : List (Client ω)}
  {s : Poller.State Finder (Dispatcher ω)}

/-- A poll looks at the speakers, and then takes in what it sees. -/
theorem poll_eq (settings : Settings) (clients : List (Client ω))
    (s : Poller.State Finder (Dispatcher ω)) :
    (Watch.speakers settings clients).poller.poll s
      = ((s.source.fetch s.host.host).within fun (source, host) =>
          { s with source := source, host := s.host.on host }).andThen
        (Watch.speakers settings clients).poller.takeIn := rfl

/-- **A poll takes in what was read of the speakers** if none of them spoils it. -/
theorem poll_of_forall_not_spoils (hknown : s.source.refresh s.host.host = .ok () (f', w'))
    (htexts : ∀ speaker ∈ f'.known, TellsTexts w' speaker)
    (hrunning : Host.isStopping w' = false)
    (hfine : ∀ speaker ∈ f'.known, ¬ Spoils w' speaker) :
    (Watch.speakers settings clients).poller.poll s
      = ({ s with source := f', host := s.host.on w' }.discover
          { players := f'.reports w' f'.known }).andThen fun plays s =>
        ((Watch.speakers settings clients).poller.forward plays s.host).within s.on := by
  rcases fetch_outcome hknown htexts with ⟨-, hfetch, hvalid⟩ | ⟨⟨t, ht, hspoils⟩, -⟩
  · have hstopping : ¬ Host.isStopping (s.host.on w') = true := Bool.eq_false_iff.mp hrunning
    rw [poll_eq, hfetch]
    show (Watch.speakers settings clients).poller.takeIn _
      { s with source := f', host := s.host.on w' } = _
    unfold Poller.takeIn
    rw [if_neg hstopping, hvalid]
  · exact absurd hspoils (hfine t ht)

/-- **A poll takes in nothing if a speaker spoils it**, and only the source has
changed. -/
theorem poll_of_spoils (hknown : s.source.refresh s.host.host = .ok () (f', w'))
    (htexts : ∀ speaker ∈ f'.known, TellsTexts w' speaker) {speaker : Speaker}
    (hmem : speaker ∈ f'.known) (hspoils : Spoils w' speaker) :
    ((Watch.speakers settings clients).poller.poll s).state
        = { s with source := f', host := s.host.on w' }
      ∧ ∀ plays, ((Watch.speakers settings clients).poller.poll s).result = .ok plays →
        plays = [] := by
  rw [poll_eq]
  rcases fetch_outcome hknown htexts with ⟨hfine, -, -⟩ | ⟨-, ⟨hfetch, e, he⟩ | ⟨e, hfetch⟩⟩
  · exact absurd hspoils (hfine speaker hmem)
  · rw [hfetch]
    exact Poller.takeIn_of_refused _ { s with source := f', host := s.host.on w' } he
  · rw [hfetch]
    exact ⟨rfl, fun plays h => by cases h⟩

end

end

/-! ## A room with some speakers -/

/-- What a speaker tells about a track. -/
def trackOf (title duration : String) : List (String × Json) :=
  [("title", .str title), ("duration", .str duration)]

/-- A network of speakers, by their addresses, that tell of titles and lengths. -/
def room (tracks : List (String × String × String)) : Outside where
  recording :=
    { speakers := [.ok (tracks.map fun t =>
        { address := t.1, track := .ok (trackOf t.2.1 t.2.2) })] }
  clock := Instant.epoch

theorem isWritten_field_trackOf (title duration name : String) :
    IsWritten (field name (trackOf title duration)) := by
  unfold field Json.lookup trackOf
  rw [List.lookup_cons, List.lookup_cons]
  split
  · exact Or.inr ⟨title, rfl⟩
  · split
    · exact Or.inr ⟨duration, rfl⟩
    · exact Or.inl rfl

/-- All that its speakers tell are texts. -/
theorem tellsTexts_room (tracks : List (String × String × String)) (s : Speaker) :
    TellsTexts (room tracks) s := by
  intro track h name
  simp only [Speakers.track] at h
  split at h
  · rename_i seen hseen
    change (tracks.map _).find? _ = some seen at hseen
    obtain ⟨t, -, rfl⟩ := List.mem_map.mp (List.mem_of_find?_eq_some hseen)
    obtain rfl := Except.ok.inj h
    exact isWritten_field_trackOf _ _ name
  · cases h

/-- A finder that knows a network, and the network then. -/
def found (w : Outside) : Finder × Outside := (Finder.refresh {} w).state

/-- A speaker next to one that tells a time that is none. -/
def garbled : Outside := room [("bad", "Tune", "a:b"), ("good", "Tune", "3:20")]

/-- The one does not spoil the snapshot of the other. -/
theorem fetch_valid_iff_garbled :
    (found garbled).1.known = [⟨"bad", "bad"⟩, ⟨"good", "good"⟩]
      ∧ ∀ s ∈ (found garbled).1.known, ¬ Spoils (found garbled).2 s := by
  have hknown : Finder.refresh {} garbled = .ok () ((found garbled).1, (found garbled).2) := rfl
  have hfetch : Finder.fetch {} garbled
      = .ok { players := (found garbled).1.reports (found garbled).2 (found garbled).1.known }
        ((found garbled).1, (found garbled).2) := rfl
  refine ⟨rfl, (fetch_valid_iff hknown fun s _ => ?_).2.mp ⟨_, hfetch, rfl⟩⟩
  exact tellsTexts_room _ s

/-- A speaker next to one whose title is a space. -/
def spoilt : Outside := room [("bad", " ", "3:20"), ("good", "Tune", "3:20")]

/-- **One speaker can spoil the snapshot** of another. -/
theorem not_forall_fetch_valid :
    ¬ ∀ w : Outside, (∀ s, TellsTexts w s) →
      ∃ snapshot v, Finder.fetch {} w = .ok snapshot v ∧ snapshot.validate? = .ok () := by
  intro h
  obtain ⟨snapshot, v, hfetch, hvalid⟩ := h spoilt (tellsTexts_room _)
  have hrefused :
      (Finder.fetch {} spoilt).result.bind Snapshot.validate? = .error .untitled := rfl
  rw [hfetch] at hrefused
  exact nomatch hvalid.symm.trans hrefused

end Finder

end Speaker

end Listening
