import Listening.Ledger
import Listening.Proofs.TypedPlays

/-!
# Comparing plays as a source promises them

Whether two plays are one listen is a question that can fail: a label may be
no text, and a time with an offset cannot be compared with one without. For
`Entry`s – typed plays with a time and stretches that all have an offset –
it has an answer (`sameListen?_of_entry`), and for two of the same track and
time the answer is yes (`sameListen?_of_same`). So a ledger that holds
entries can be asked about one more of them, and `lastSame?_of_entries` says
what it answers.
-/

namespace Listening

/-! ## Entries -/

/-- Whether both ends of a stretch have times with an offset. -/
def Range.isClocked (r : Range) : Bool :=
  r.start.time.offset.isSome && r.stop.time.offset.isSome

/-- **A play that a ledger can hold**: typed, with a time with an offset, and
with stretches whose times have one. -/
structure Play.Entry (p : Play) : Prop extends p.Typed where
  /-- The time has an offset. -/
  dated : ∃ t, p.playedAt = some t ∧ t.offset.isSome = true
  /-- So have the ends of its stretches. -/
  ranges : ∀ r ∈ p.ranges.getD [], r.isClocked = true
  /-- The time listened is a number or missing. -/
  listened : p.listenedFor.isNumeric = true

/-- **A play that can be compared with others**: typed, with no time or one
with an offset, and with stretches whose times have one. -/
structure Play.Offered (p : Play) : Prop extends p.Typed where
  /-- If there is a time, it has an offset. -/
  clocked : ∀ t, p.playedAt = some t → t.offset.isSome = true
  /-- So have the ends of its stretches. -/
  ranges : ∀ r ∈ p.ranges.getD [], r.isClocked = true

/-- An entry can be compared with others. -/
theorem Play.Entry.offered {p : Play} (h : p.Entry) : p.Offered where
  toTyped := h.toTyped
  clocked := by
    intro t ht
    obtain ⟨t', ht', hoffset⟩ := h.dated
    obtain rfl := Option.some.inj (ht.symm.trans ht')
    exact hoffset
  ranges := h.ranges

/-- **Whether two plays are of one track by all that is compared**: source,
id, title, artists and album. -/
structure Play.SameTrack (a b : Play) : Prop where
  /-- The titles are the same. -/
  title : a.title = b.title
  /-- So are the artists. -/
  artists : a.artists = b.artists
  /-- So are the albums. -/
  album : a.album = b.album
  /-- So are the sources. -/
  source : a.source = b.source
  /-- So are the ids of the track. -/
  trackId : a.trackId = b.trackId

/-- **The artists of a play that have a normal form**, in normal form. -/
def Play.artistNames (p : Play) : List String :=
  (p.artists.map Label.plain).filter (!·.isEmpty)

namespace Instant

/-- Times with an offset can be compared. -/
theorem comparable_of_isSome {a b : Instant} (ha : a.offset.isSome = true)
    (hb : b.offset.isSome = true) : comparable a b = true := by
  unfold comparable
  rw [ha, hb]
  rfl

end Instant

/-- A number, or nothing, counts or does not. -/
theorem Amount.counted?_of_isNumeric {a : Amount} (h : a.isNumeric = true) :
    ∃ x, a.counted? = .ok x := by
  unfold Amount.counted?
  by_cases hc : a.counts = true
  · rw [if_pos hc]
    exact Amount.number?_of_isNumeric h
  · rw [if_neg hc]
    exact ⟨none, rfl⟩

/-- An amount taken in place of another one is one of the two. -/
theorem Amount.isNumeric_orElse {a b : Amount} (ha : a.isNumeric = true)
    (hb : b.isNumeric = true) : (a.orElse b).isNumeric = true := by
  unfold Amount.orElse
  by_cases hc : a.counts = true
  · rw [if_pos hc]
    exact ha
  · rw [if_neg hc]
    exact hb

/-- A text, or nothing, is equal to itself. -/
theorem Label.alike_self {l : Label} (h : l.isTextual = true) : l.alike l = true :=
  decide_eq_true ⟨rfl, Label.key_ne_undefined h⟩

namespace Match

/-! ## The same track -/

/-- The artists of a typed play in normal form. -/
theorem artistNames?_of_typed {p : Play} (h : p.Typed) :
    artistNames? p = .ok p.artistNames := by
  unfold artistNames?
  rw [mapM_eq_ok (fun a ha => Label.normal?_of_isTextual
    (Label.isTextual_of_isText (h.artists a ha)))]
  rfl

/-- The albums of typed plays agree or not. -/
theorem sameAlbum?_of_typed {a b : Play} (ha : a.Typed) (hb : b.Typed) :
    sameAlbum? a b = .ok (!(a.album.isGiven && b.album.isGiven)
      || a.album.plain == b.album.plain) := by
  unfold sameAlbum?
  rw [Label.normal?_of_isTextual ha.album, Label.normal?_of_isTextual hb.album]
  cases a.album.isGiven && b.album.isGiven <;> rfl

/-- **Typed plays are of one track or not.** -/
theorem content?_of_typed {a b : Play} (ha : a.Typed) (hb : b.Typed) :
    content? a b = .ok (!idsDiffer a b && a.title.plain == b.title.plain
      && (!(a.album.isGiven && b.album.isGiven) || a.album.plain == b.album.plain)
      && sameMembers a.artistNames b.artistNames) := by
  unfold content?
  rw [Label.normal?_of_isTextual (Label.isTextual_of_isText ha.title),
    Label.normal?_of_isTextual (Label.isTextual_of_isText hb.title), sameAlbum?_of_typed ha hb,
    artistNames?_of_typed ha, artistNames?_of_typed hb]
  cases idsDiffer a b <;>
    cases h : (a.title.plain == b.title.plain) <;>
    cases hal : (!(a.album.isGiven && b.album.isGiven) || a.album.plain == b.album.plain) <;>
    simp [Bind.bind, Except.bind, bne, h]

/-- **Plays of the same track are of one track.** -/
theorem content?_of_sameTrack {a b : Play} (ha : a.Typed) (hb : b.Typed) (h : a.SameTrack b) :
    content? a b = .ok true := by
  have hids : idsDiffer a b = false := by
    unfold idsDiffer
    rw [h.trackId, Label.alike_self hb.trackId, Bool.not_true, Bool.and_false]
  have hnames : a.artistNames = b.artistNames := by
    unfold Play.artistNames
    rw [h.artists]
  rw [content?_of_typed ha hb, hids, h.title, hnames, h.album, sameMembers_self,
    beq_self_eq_true, beq_self_eq_true, Bool.or_true]
  rfl

/-! ## The same time -/

/-- Whether a time lies between two others. -/
theorem exists_between? {t start stop : Instant} (ht : t.offset.isSome = true)
    (hstart : start.offset.isSome = true) (hstop : stop.offset.isSome = true) :
    ∃ inside, between? t start stop = .ok inside := by
  unfold between?
  rw [Instant.before?_of_comparable (Instant.comparable_of_isSome hstart ht)]
  cases decide (start.micros < t.micros) with
  | true => exact ⟨_, Instant.before?_of_comparable (Instant.comparable_of_isSome ht hstop)⟩
  | false => exact ⟨false, rfl⟩

/-- In which of some stretches a time lies. -/
theorem exists_inRanges? {t : Instant} (ht : t.offset.isSome = true) {ranges : List Range}
    (h : ∀ r ∈ ranges, r.isClocked = true) : ∃ found, inRanges? t ranges = .ok found := by
  induction ranges with
  | nil => exact ⟨none, rfl⟩
  | cons r rest ih =>
    obtain ⟨hstart, hstop⟩ := Bool.and_eq_true_iff.mp (h r List.mem_cons_self)
    obtain ⟨inside, hinside⟩ := exists_between? ht hstart hstop
    unfold inRanges?
    rw [hinside]
    cases inside with
    | true => exact ⟨_, rfl⟩
    | false => exact ih (fun r' hr' => h r' (List.mem_cons_of_mem r hr'))

/-- In which of the windows looked into a time lies. -/
theorem exists_inAnyWindow? {known : Play} (hknown : known.Offered) (start : Instant)
    {t : Instant} (ht : t.offset.isSome = true) :
    ∃ found, inAnyWindow? {} known start t = .ok found := by
  obtain ⟨found, hfound⟩ := exists_inRanges? ht hknown.ranges
  unfold inAnyWindow?
  have hrange : (({} : Timing).windows.contains "range") = true := by decide
  have hlistened : (({} : Timing).windows.contains "listenedFor") = false := by decide
  have hduration : (({} : Timing).windows.contains "duration") = false := by decide
  simp only [hrange, hlistened, hduration, if_true, hfound, Bind.bind, Except.bind]
  cases found with
  | some window => exact ⟨some window, rfl⟩
  | none => exact ⟨none, rfl⟩

/-- The threshold for a typed play. -/
theorem exists_thresholdOf? {known : Play} (hknown : known.Typed) :
    ∃ limit, thresholdOf? {} known = .ok limit := by
  obtain ⟨source, hsource⟩ := Label.lower?_of_isTextual hknown.source
  unfold thresholdOf?
  simp only [hsource, Bind.bind, Except.bind]
  exact ⟨_, rfl⟩

/-- Either of two values is a value. -/
theorem exists_ite_eq_ok {α : Type} (c : Prop) [Decidable c] (a b : α) :
    ∃ x, (if c then (.ok a : Except Fault α) else .ok b) = .ok x := by
  by_cases h : c
  · exact ⟨a, if_pos h⟩
  · exact ⟨b, if_neg h⟩

/-- **The times of plays that can be compared line up somehow.** -/
theorem exists_compare? {known other : Play} (hknown : known.Offered) (hother : other.Offered) :
    ∃ found, compare? known other = .ok found := by
  unfold compare?
  cases hstart : known.playedAt with
  | none => exact ⟨{}, rfl⟩
  | some start =>
    cases ht : other.playedAt with
    | none => exact ⟨{}, rfl⟩
    | some t =>
      have hstart' := hknown.clocked start hstart
      have ht' := hother.clocked t ht
      obtain ⟨limit, hlimit⟩ := exists_thresholdOf? hknown.toTyped
      obtain ⟨window, hwindow⟩ := exists_inAnyWindow? hknown start ht'
      obtain ⟨length, hlength⟩ := Amount.number?_of_isNumeric
        (Amount.isNumeric_orElse hother.duration hknown.duration)
      simp only [hlimit, Instant.minus?_of_comparable (Instant.comparable_of_isSome hstart' ht'),
        hwindow, hlength, Bind.bind, Except.bind, Bool.not_false, if_true]
      split
      · exact ⟨_, rfl⟩
      · split
        · exact ⟨_, rfl⟩
        · cases window with
          | some found => exact ⟨_, rfl⟩
          | none =>
            cases length with
            | some length => exact exists_ite_eq_ok _ _ _
            | none => exact exists_ite_eq_ok _ _ _

/-- **Times at most a second apart line up exactly.** -/
theorem compare?_of_near {known other : Play} (hknown : known.Typed) {start t : Instant}
    (hstart : known.playedAt = some start) (ht : other.playedAt = some t)
    (hcomparable : Instant.comparable start t = true)
    (hnear : (((start.micros - t.micros).natAbs : Nat) : Int) ≤ Instant.second) :
    ∃ found, compare? known other = .ok found ∧ found.accuracy = .exact := by
  obtain ⟨source, hsource⟩ := Label.lower?_of_isTextual hknown.source
  unfold compare? thresholdOf?
  rw [hstart, ht]
  simp only [hsource, Instant.minus?_of_comparable hcomparable, Bind.bind, Except.bind]
  rw [if_pos hnear]
  exact ⟨_, rfl, rfl⟩

/-- **One time lines up with itself exactly.** -/
theorem compare?_of_playedAt_eq {known other : Play} (hknown : known.Entry)
    (h : known.playedAt = other.playedAt) :
    ∃ found, compare? known other = .ok found ∧ found.accuracy = .exact := by
  obtain ⟨start, hstart, hstart'⟩ := hknown.dated
  obtain ⟨limit, hlimit⟩ := exists_thresholdOf? hknown.toTyped
  unfold compare?
  rw [← h, hstart]
  simp only [hlimit, Instant.minus?_of_comparable (Instant.comparable_of_isSome hstart' hstart'),
    Bind.bind, Except.bind, Int.sub_self, Int.natAbs_zero]
  rw [if_pos (by decide)]
  exact ⟨_, rfl, rfl⟩

/-- **Times further apart than that do not line up closely enough.** -/
theorem isAcceptable_of_far {known other : Play} {found : Comparison} {start t : Instant}
    {limit : Float} {gap : Int} (hstart : known.playedAt = some start)
    (ht : other.playedAt = some t) (hlimit : thresholdOf? {} known = .ok limit)
    (hgap : start.minus? t = .ok gap) (hfar : ¬ (gap.natAbs : Int) ≤ Instant.second)
    (hbeyond : ¬ Instant.seconds gap.natAbs ≤ limit) (h : compare? known other = .ok found) :
    isAcceptable found.accuracy = false := by
  unfold compare? at h
  simp only [hstart, ht, hlimit, hgap, Bind.bind, Except.bind, Bool.not_false, if_true] at h
  rw [if_neg hfar, if_neg hbeyond] at h
  -- a window or a length that fits makes them during or fuzzy, which is not enough
  cases hwindow : inAnyWindow? {} known start t with
  | error e =>
    rw [hwindow] at h
    exact nomatch h
  | ok window =>
    rw [hwindow] at h
    cases window with
    | some window =>
      obtain rfl := Except.ok.inj h
      rfl
    | none =>
      dsimp only at h
      cases hlength : (other.duration.orElse known.duration).number? with
      | error e =>
        rw [hlength] at h
        exact nomatch h
      | ok length =>
        rw [hlength] at h
        cases length with
        | none =>
          obtain rfl := Except.ok.inj h
          rfl
        | some length =>
          dsimp only [Option.map_some] at h
          split at h <;> (obtain rfl := Except.ok.inj h; rfl)

/-- **Whether times line up closely enough** is a matter of how far they are
apart, and of nothing else about the second play. -/
theorem isAcceptable_of_compare? {known other : Play} {found : Comparison} {start t : Instant}
    {limit : Float} {gap : Int} (hstart : known.playedAt = some start)
    (ht : other.playedAt = some t) (hlimit : thresholdOf? {} known = .ok limit)
    (hgap : start.minus? t = .ok gap) (h : compare? known other = .ok found) :
    isAcceptable found.accuracy
      = decide ((gap.natAbs : Int) ≤ Instant.second ∨ Instant.seconds gap.natAbs ≤ limit) := by
  by_cases hnear : (gap.natAbs : Int) ≤ Instant.second ∨ Instant.seconds gap.natAbs ≤ limit
  · rw [decide_eq_true hnear]
    unfold compare? at h
    simp only [hstart, ht, hlimit, hgap, Bind.bind, Except.bind] at h
    by_cases hexact : (gap.natAbs : Int) ≤ Instant.second
    · rw [if_pos hexact] at h
      obtain rfl := Except.ok.inj h
      rfl
    · rw [if_neg hexact, if_pos (hnear.resolve_left hexact)] at h
      obtain rfl := Except.ok.inj h
      rfl
  · rw [decide_eq_false hnear]
    obtain ⟨hfar, hbeyond⟩ := not_or.mp hnear
    exact isAcceptable_of_far hstart ht hlimit hgap hfar hbeyond h

/-! ## The same listen -/

/-- Plays of the same track are of one track with the same plays. -/
theorem content?_congr (known : Play) {a b : Play} (h : a.SameTrack b) :
    content? known a = content? known b := by
  unfold content? idsDiffer sameAlbum? artistNames?
  rw [h.title, h.artists, h.album, h.source, h.trackId]

/-- **Plays that can be compared are one listen or not.** -/
theorem exists_sameListen? {known other : Play} (hknown : known.Offered) (hother : other.Offered)
    (expected : List Accuracy) : ∃ same, sameListen? known other expected = .ok same := by
  obtain ⟨found, hfound⟩ := exists_compare? hknown hother
  unfold sameListen?
  rw [content?_of_typed hknown.toTyped hother.toTyped]
  simp only [Bind.bind, Except.bind, hfound]
  split <;> exact ⟨_, rfl⟩

/-- **Plays of one track at most a second apart are one listen.** -/
theorem sameListen?_of_near {known other : Play} (hknown : known.Typed)
    (hcontent : content? known other = .ok true) {start t : Instant}
    (hstart : known.playedAt = some start) (ht : other.playedAt = some t)
    (hcomparable : Instant.comparable start t = true)
    (hnear : (((start.micros - t.micros).natAbs : Nat) : Int) ≤ Instant.second) :
    sameListen? known other = .ok true := by
  obtain ⟨found, hfound, hexact⟩ := compare?_of_near hknown hstart ht hcomparable hnear
  unfold sameListen?
  rw [hcontent]
  simp only [Bind.bind, Except.bind, hfound, hexact]
  rfl

/-- **Entries of the same track and time are one listen.** -/
theorem sameListen?_of_same {known other : Play} (hknown : known.Entry) (hother : other.Entry)
    (htrack : known.SameTrack other) (htime : known.playedAt = other.playedAt) :
    sameListen? known other = .ok true := by
  obtain ⟨found, hfound, hexact⟩ := compare?_of_playedAt_eq hknown htime
  unfold sameListen?
  rw [content?_of_sameTrack hknown.toTyped hother.toTyped htrack]
  simp only [Bind.bind, Except.bind, hfound, hexact]
  rfl

/-- **Entries of the same track and time are one listen with the same
plays.** -/
theorem sameListen?_congr {known a b : Play} (hknown : known.Entry) (ha : a.Entry) (hb : b.Entry)
    (htrack : a.SameTrack b) (htime : a.playedAt = b.playedAt) :
    sameListen? known a = sameListen? known b := by
  obtain ⟨start, hstart, hstart'⟩ := hknown.dated
  obtain ⟨t, ht, ht'⟩ := ha.dated
  obtain ⟨limit, hlimit⟩ := exists_thresholdOf? hknown.toTyped
  have hgap := Instant.minus?_of_comparable (Instant.comparable_of_isSome hstart' ht')
  obtain ⟨found, hfound⟩ := exists_compare? hknown.offered ha.offered
  obtain ⟨found', hfound'⟩ := exists_compare? hknown.offered hb.offered
  have hagree : isAcceptable found.accuracy = isAcceptable found'.accuracy :=
    (isAcceptable_of_compare? hstart ht hlimit hgap hfound).trans
      (isAcceptable_of_compare? hstart (htime ▸ ht) hlimit hgap hfound').symm
  unfold sameListen?
  rw [content?_congr known htrack, hfound, hfound']
  simp only [Bind.bind, Except.bind, hagree]

/-! ## What a window tells -/

section Window

variable {x : Play} {window : List Play}

/-- A play found in a window is one listen with the one asked about. -/
theorem sameListen?_of_go_eq_some {known : Play} (h : lastSame?.go x window = .ok (some known)) :
    known ∈ window ∧ sameListen? known x = .ok true := by
  induction window with
  | nil => exact nomatch Except.ok.inj h
  | cons y rest ih =>
    rw [lastSame?.go] at h
    cases hsame : sameListen? y x with
    | error e =>
      rw [hsame] at h
      exact nomatch h
    | ok same =>
      rw [hsame] at h
      cases same with
      | true =>
        obtain rfl := Option.some.inj (Except.ok.inj h)
        exact ⟨List.mem_cons_self, hsame⟩
      | false =>
        obtain ⟨hmem, hknown⟩ := ih h
        exact ⟨List.mem_cons_of_mem y hmem, hknown⟩

/-- If no play is found in a window, none of it is one listen with the one asked
about. -/
theorem sameListen?_of_go_eq_none (h : lastSame?.go x window = .ok none) :
    ∀ known ∈ window, sameListen? known x = .ok false := by
  induction window with
  | nil => exact fun _ hknown => absurd hknown List.not_mem_nil
  | cons y rest ih =>
    rw [lastSame?.go] at h
    cases hsame : sameListen? y x with
    | error e =>
      rw [hsame] at h
      exact nomatch h
    | ok same =>
      rw [hsame] at h
      cases same with
      | true => exact nomatch Except.ok.inj h
      | false => exact List.forall_mem_cons.mpr ⟨hsame, ih h⟩

theorem sameListen?_of_lastSame?_eq_some {known : Play}
    (h : lastSame? x window = .ok (some known)) :
    known ∈ window ∧ sameListen? known x = .ok true := by
  obtain ⟨hmem, hsame⟩ := sameListen?_of_go_eq_some h
  exact ⟨List.mem_reverse.mp hmem, hsame⟩

theorem sameListen?_of_lastSame?_eq_none (h : lastSame? x window = .ok none) :
    ∀ known ∈ window, sameListen? known x = .ok false :=
  fun known hknown => sameListen?_of_go_eq_none h known (List.mem_reverse.mpr hknown)

/-- Plays that can be compared with another one are asked about it. -/
theorem exists_go_of_offered (hx : x.Offered) (hwindow : ∀ known ∈ window, known.Offered) :
    ∃ found, lastSame?.go x window = .ok found := by
  induction window with
  | nil => exact ⟨none, rfl⟩
  | cons known rest ih =>
    obtain ⟨same, hsame⟩ := exists_sameListen? (hwindow known List.mem_cons_self) hx acceptable
    obtain ⟨found, hfound⟩ := ih fun k hk => hwindow k (List.mem_cons_of_mem known hk)
    rw [lastSame?.go, hsame]
    cases same with
    | true => exact ⟨some known, rfl⟩
    | false => exact ⟨found, hfound⟩

end Window

/-- **What a window knows of a play**, if all of them can be compared: nothing,
if none of them is one listen with it, and else one that is. -/
theorem lastSame?_of_offered {play : Play} (hplay : play.Offered) {window : List Play}
    (hwindow : ∀ known ∈ window, known.Offered) :
    (lastSame? play window = .ok none ∧ ∀ known ∈ window, sameListen? known play = .ok false)
      ∨ ∃ known ∈ window, lastSame? play window = .ok (some known)
        ∧ sameListen? known play = .ok true := by
  obtain ⟨found, hfound⟩ :=
    exists_go_of_offered hplay fun k hk => hwindow k (List.mem_reverse.mp hk)
  cases found with
  | none => exact Or.inl ⟨hfound, sameListen?_of_lastSame?_eq_none hfound⟩
  | some known =>
    obtain ⟨hmem, hsame⟩ := sameListen?_of_lastSame?_eq_some hfound
    exact Or.inr ⟨known, hmem, hfound, hsame⟩

/-- **What a window of entries knows of another one.** -/
theorem lastSame?_of_entries {play : Play} (hplay : play.Entry) {window : List Play}
    (hwindow : ∀ known ∈ window, known.Entry) :
    (lastSame? play window = .ok none ∧ ∀ known ∈ window, sameListen? known play = .ok false)
      ∨ ∃ known ∈ window, lastSame? play window = .ok (some known)
        ∧ sameListen? known play = .ok true :=
  lastSame?_of_offered hplay.offered (fun known hknown => (hwindow known hknown).offered)

end Match

end Listening
