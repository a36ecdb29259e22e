import Listening.Player
import Listening.Proofs.EntryMatching

/-!
# What a report does to the play tracked

A player tracks one play after the other. A report may leave the play tracked
as it is, begin one where there was none, or end it – by another track, by
the same one from its start, or by a stop. `Player.Turn` says which of these
happened, by the state before and the state after: a count of the plays begun
tells a play from the one before, even where the track is the same and the
clock stood still.

For a player that is `Sound` – what it tracks is typed, and its times have an
offset – no report fails and every report is a turn (`Sound.report`). In
particular, a play that ends is handed out, as far as it was heard.
-/

namespace Listening

/-- **The play of a track that began at some time**, whatever was heard of
it. -/
def Play.IsListenOf (track : Play) (start : Instant) (p : Play) : Prop :=
  ∃ listened ranges, p =
    { track with
      playedAt := some start
      listenedFor := .seconds listened
      ranges := some ranges }

/-- Listens of one track are of the same track. -/
theorem Play.IsListenOf.sameTrack {track p q : Play} {s t : Instant} (hp : track.IsListenOf s p)
    (hq : track.IsListenOf t q) : p.SameTrack q := by
  obtain ⟨_, _, rfl⟩ := hp
  obtain ⟨_, _, rfl⟩ := hq
  exact ⟨rfl, rfl, rfl, rfl, rfl⟩

/-- A listen has the time at which it began. -/
theorem Play.IsListenOf.playedAt_eq {track p : Play} {t : Instant} (h : track.IsListenOf t p) :
    p.playedAt = some t := by
  obtain ⟨_, _, rfl⟩ := h
  rfl

namespace Player

variable {platform : String} {p p' : Player} {now : Instant}

/-! ## Sound players -/

/-- **A player of a platform whose data can be relied on.** -/
structure Sound (platform : String) (p : Player) : Prop where
  /-- The play tracked is typed and of the platform. -/
  tracks : ∀ play, p.current = some play → play.Typed ∧ play.platform.name = platform
  /-- It is known since when it is tracked. -/
  started : ∀ play, p.current = some play → ∃ t, p.firstSeen = some t ∧ t.offset.isSome = true
  /-- The closed stretches have times with an offset. -/
  closed : ∀ r ∈ p.closed, r.isClocked = true
  /-- So has the open one, and it does not end before it starts. -/
  opened : ∀ r, p.opened = some r →
    r.isClocked = true ∧ r.start.time.micros ≤ r.stop.time.micros

/-- **Whether the play tracked is still the same.** -/
structure Keeps (p p' : Player) : Prop where
  /-- The same track is tracked. -/
  current : p'.current = p.current
  /-- Since the same time. -/
  firstSeen : p'.firstSeen = p.firstSeen
  /-- No other play was begun. -/
  begun : p'.begun = p.begun

/-- **Whether a play was begun.** -/
structure Begins (now : Instant) (play : Play) (p p' : Player) : Prop where
  /-- The play is tracked. -/
  current : p'.current = some play
  /-- It is tracked since now. -/
  firstSeen : p'.firstSeen = some now
  /-- It is one more. -/
  begun : p'.begun = p.begun + 1

theorem Keeps.refl (p : Player) : p.Keeps p := ⟨rfl, rfl, rfl⟩

theorem Keeps.trans {p'' : Player} (h : p.Keeps p') (h' : p'.Keeps p'') : p.Keeps p'' :=
  ⟨h'.current.trans h.current, h'.firstSeen.trans h.firstSeen, h'.begun.trans h.begun⟩

/-- A player of which nothing is known is sound. -/
theorem sound_fresh (platform : Platform) (limits : Limits) (now : Instant) :
    (fresh platform limits now).Sound platform.name :=
  ⟨(fun _ h => nomatch h), (fun _ h => nomatch h), (fun _ h => absurd h List.not_mem_nil),
    (fun _ h => nomatch h)⟩

/-- The stretches of a sound player have times with an offset. -/
theorem Sound.ranges (hs : p.Sound platform) : ∀ r ∈ p.ranges, r.isClocked = true := by
  intro r hr
  rcases List.mem_append.mp hr with hr | hr
  · exact hs.closed r hr
  · exact (hs.opened r (Option.mem_toList.mp hr)).1

/-- **The play tracked by a sound player** is a listen of what was first
reported, and a ledger can hold it. -/
theorem Sound.played (hs : p.Sound platform) {play : Play} (hcurrent : p.current = some play)
    {start : Instant} (hstart : p.firstSeen = some start) :
    ∃ x, p.played = some x ∧ play.IsListenOf start x ∧ x.Entry ∧ x.platform.name = platform := by
  obtain ⟨htyped, hplatform⟩ := hs.tracks play hcurrent
  obtain ⟨t, ht, hoffset⟩ := hs.started play hcurrent
  have hplayed : p.played = some
      { play with
        playedAt := some start
        listenedFor := .seconds p.listened
        ranges := some p.ranges } := by
    unfold Player.played
    rw [hcurrent, hstart]
    rfl
  refine ⟨_, hplayed, ⟨_, _, rfl⟩, ⟨⟨htyped.title, htyped.artists, htyped.album, htyped.duration,
    htyped.source, htyped.trackId⟩, ⟨start, rfl, ?_⟩, hs.ranges, rfl⟩, hplatform⟩
  rw [hstart] at ht
  obtain rfl := Option.some.inj ht
  exact hoffset

/-! ## Stretches -/

/-- Settling the last position of a stretch never fails for a typed play. -/
theorem Sound.exists_settled? (hs : p.Sound platform) (r : Range) :
    ∃ position, p.settled? r = .ok (r.finalize position) := by
  unfold settled?
  cases hcurrent : p.current with
  | none => exact ⟨none, rfl⟩
  | some play =>
    cases hposition : r.position with
    | none => exact ⟨none, rfl⟩
    | some last =>
      obtain ⟨length, hlength⟩ :=
        Amount.number?_of_isNumeric (hs.tracks play hcurrent).1.duration
      simp only [hlength, Bind.bind, Except.bind]
      cases length with
      | none => exact ⟨none, rfl⟩
      | some length =>
        by_cases hend : length - last < endTolerance
        · exact ⟨some length, congrArg Except.ok (if_pos hend)⟩
        · exact ⟨none, congrArg Except.ok (if_neg hend)⟩

/-- **Closing the open stretch** never fails and keeps the play. -/
theorem Sound.closeRange (hs : p.Sound platform) :
    ∃ p', p.closeRange = .ok () p' ∧ p'.Sound platform ∧ p.Keeps p' := by
  unfold Player.closeRange
  cases hopened : p.opened with
  | none => exact ⟨p, rfl, hs, Keeps.refl p⟩
  | some r =>
    by_cases hlong : 0 < r.wallclock
    · obtain ⟨position, hsettled⟩ := hs.exists_settled? r
      have hclocked : (r.finalize position).isClocked = true := by
        cases position <;> exact (hs.opened r hopened).1
      simp only [if_pos hlong, hsettled]
      refine ⟨_, rfl, ⟨hs.tracks, hs.started, fun r' hr' => ?_, (fun _ h => nomatch h)⟩,
        ⟨rfl, rfl, rfl⟩⟩
      rcases List.mem_append.mp hr' with hr' | hr'
      · exact hs.closed r' hr'
      · rw [List.mem_singleton.mp hr']
        exact hclocked
    · simp only [if_neg hlong]
      exact ⟨_, rfl, ⟨hs.tracks, hs.started, hs.closed, (fun _ h => nomatch h)⟩,
        ⟨rfl, rfl, rfl⟩⟩

/-- **Opening a stretch** keeps the play. -/
theorem Sound.openRange (hs : p.Sound platform) (hnow : now.offset.isSome = true)
    (position : Option Float) : (p.openRange position now).Sound platform := by
  refine ⟨hs.tracks, hs.started, hs.closed, fun r hr => ?_⟩
  obtain rfl := Option.some.inj hr
  refine ⟨?_, Int.le_refl _⟩
  show (now.offset.isSome && now.offset.isSome) = true
  rw [hnow]
  rfl

/-- **Extending the open stretch** never fails, as its end is held. -/
theorem Sound.extend (hs : p.Sound platform) (hnow : now.offset.isSome = true) {r : Range}
    (hopened : p.opened = some r) (position : Option Float) :
    ∃ p', p.extend r position now = .ok () p' ∧ p'.Sound platform ∧ p.Keeps p' := by
  obtain ⟨hclocked, horder⟩ := hs.opened r hopened
  obtain ⟨hstart, hstop⟩ := Bool.and_eq_true_iff.mp hclocked
  have hheld : (heldTime r now).offset.isSome = true := by
    unfold heldTime
    split
    · exact hstop
    · exact hnow
  -- the clock may have gone back, the end of the stretch never does
  have hlater : ¬ (heldTime r now).micros < r.start.time.micros :=
    Int.not_lt.mpr (Int.le_trans horder (stop_le_heldTime r now))
  have hset : r.setStop? ⟨heldTime r now, position, none⟩
      = .ok { r with stop := ⟨heldTime r now, position, none⟩ } := by
    unfold Range.setStop?
    rw [Instant.before?_of_comparable (Instant.comparable_of_isSome hheld hstart),
      decide_eq_false hlater]
    rfl
  unfold Player.extend
  rw [hset]
  refine ⟨_, rfl, ⟨hs.tracks, hs.started, hs.closed, fun r' hr' => ?_⟩, ⟨rfl, rfl, rfl⟩⟩
  obtain rfl := Option.some.inj hr'
  exact ⟨Bool.and_eq_true_iff.mpr ⟨hstart, hheld⟩, Int.not_lt.mp hlater⟩

/-! ## One play after the other -/

/-- A player that has just begun a play. -/
def beginning (play : Play) (now : Instant) (p : Player) : Player :=
  { p with
    current := some play
    firstSeen := some now
    closed := []
    opened := none
    begun := p.begun + 1
    former := p.played }

/-- Beginning a typed play, a player that plays opens a stretch. -/
theorem begin_eq {play : Play} (hplay : play.Typed) (position : Option Float) (now : Instant)
    (p : Player) :
    p.begin play position now
      = if (p.beginning play now).status = .playing then
          .ok () ((p.beginning play now).openRange (position <|> play.position) now)
        else .ok () (p.beginning play now) := by
  obtain ⟨line, hline⟩ := hplay.exists_describe?
  unfold Player.begin
  rw [hline]
  rfl

/-- **Beginning a play** never fails, and leaves the one before as it was. -/
theorem Sound.begin {play : Play} (hplay : play.Typed ∧ play.platform.name = platform)
    (hnow : now.offset.isSome = true) (position : Option Float) (p : Player) :
    ∃ p', p.begin play position now = .ok () p' ∧ p'.Sound platform ∧ p.Begins now play p'
      ∧ p'.former = p.played := by
  have hs : (p.beginning play now).Sound platform := by
    refine ⟨fun track htrack => ?_, fun track _ => ⟨now, rfl, hnow⟩, ?_, ?_⟩
    · obtain rfl := Option.some.inj htrack
      exact hplay
    · exact fun r hr => absurd hr List.not_mem_nil
    · exact fun r hr => nomatch hr
  rw [begin_eq hplay.1]
  split
  · exact ⟨_, rfl, hs.openRange hnow _, ⟨rfl, rfl, rfl⟩, rfl⟩
  · exact ⟨_, rfl, hs, ⟨rfl, rfl, rfl⟩, rfl⟩

/-- Whether the listener moved within the track. -/
theorem exists_seek? {r : Range} (hr : r.isClocked = true) (hnow : now.offset.isSome = true)
    (position : Option Float) : ∃ moved, r.seek? position now = .ok moved := by
  obtain ⟨-, hstop⟩ := Bool.and_eq_true_iff.mp hr
  unfold Range.seek?
  cases position with
  | none => exact ⟨none, rfl⟩
  | some x =>
    dsimp only
    split
    · exact ⟨none, rfl⟩
    · split
      · exact ⟨_, rfl⟩
      · rw [Instant.minus?_of_comparable (Instant.comparable_of_isSome hnow hstop)]
        exact ⟨_, rfl⟩

/-- Whether a position means that the track began again. -/
theorem exists_isRepeat? {play : Play} (hplay : play.Typed) (p : Player) (r : Range)
    (position : Float) : ∃ again, p.isRepeat? play r position = .ok again := by
  obtain ⟨length, hlength⟩ := Amount.counted?_of_isNumeric hplay.duration
  unfold isRepeat? Threshold.closeToStart? Threshold.closeToEnd? Threshold.repeatPlayed?
  rw [hlength]
  cases length with
  | none =>
    simp only [Bind.bind, Except.bind]
    split <;> exact ⟨_, rfl⟩
  | some length =>
    simp only [Bind.bind, Except.bind]
    split <;> exact ⟨_, rfl⟩

/-- If a track begins again, it is the one tracked. -/
theorem Sound.exists_repeated? (hs : p.Sound platform) (r : Range) (position : Option Float)
    (moved : Float) : ∃ again, p.repeated? r position moved = .ok again
      ∧ ∀ play, again = some play → p.current = some play := by
  unfold repeated?
  cases position with
  | none => exact ⟨none, rfl, fun _ h => nomatch h⟩
  | some x =>
    cases hcurrent : p.current with
    | none => exact ⟨none, rfl, fun _ h => nomatch h⟩
    | some play =>
      obtain ⟨again, hagain⟩ := exists_isRepeat? (hs.tracks play hcurrent).1 p r x
      dsimp only
      split
      · rw [hagain]
        refine ⟨_, rfl, fun track htrack => ?_⟩
        cases again with
        | true => exact htrack
        | false => exact nomatch htrack
      · exact ⟨none, rfl, fun _ h => nomatch h⟩

/-! ## Turns -/

/-- **What is handed out of a play that ended**: all that was heard of it,
which is what the player keeps as the play before. -/
structure Ends (platform : String) (p p' : Player) (y : Play) : Prop where
  /-- It is the play tracked. -/
  listen : ∃ track start, p.current = some track ∧ p.firstSeen = some start
    ∧ track.IsListenOf start y
  /-- A ledger can hold it. -/
  entry : y.Entry
  /-- It is of the platform of the player. -/
  platform : y.platform.name = platform
  /-- It is the play before. -/
  former : p'.former = some y

/-- **What a report does to the play tracked**, and what is handed out. -/
inductive Turn (platform : String) (now : Instant) (p p' : Player) (u : Update) : Prop where
  /-- It is the same, or there is still none. -/
  | keeps (same : p.Keeps p') (soFar : u.soFar = none ∨ u.soFar = p'.played)
      (finished : u.finished = none)
  /-- One is begun where there was none. -/
  | begins (play : Play) (idle : p.current = none) (begun : p.Begins now play p')
      (soFar : u.soFar = p'.played) (finished : u.finished = none)
  /-- It ends, and there is none afterwards or another one. -/
  | ends (y : Play) (ended : Ends platform p p' y)
      (after : p'.current = none ∨ ∃ play, p.Begins now play p') (finished : u.finished = some y)

/-- A play is begun no matter how the one before was kept. -/
theorem Keeps.begins {q : Player} {play : Play} (h : p.Keeps q) (h' : q.Begins now play p') :
    p.Begins now play p' :=
  ⟨h'.current, h'.firstSeen, by rw [h'.begun, h.begun]⟩

/-- What a sound player tracks, when it ends. -/
theorem Sound.ends {q : Player} (hq : q.Sound platform) (hkeeps : p.Keeps q) {track : Play}
    (hcurrent : p.current = some track) (hformer : p'.former = q.played) :
    ∃ y, q.played = some y ∧ Ends platform p p' y := by
  have hcurrent' : q.current = some track := hkeeps.current.trans hcurrent
  obtain ⟨start, hstart, -⟩ := hq.started track hcurrent'
  obtain ⟨y, hy, hlisten, hentry, hplatform⟩ := hq.played hcurrent' hstart
  exact ⟨y, hy, ⟨track, start, hcurrent, hkeeps.firstSeen.symm.trans hstart, hlisten⟩, hentry,
    hplatform, hformer.trans hy⟩

/-- **Going on with the play tracked** never fails. It is the same, or it
ends as the track begins again. -/
theorem Sound.goOn (hs : p.Sound platform) (hnow : now.offset.isSome = true) {track : Play}
    (hcurrent : p.current = some track) (position : Option Float) :
    ∃ finished p', p.goOn position now = .ok finished p' ∧ p'.Sound platform
      ∧ ((finished = none ∧ p.Keeps p')
        ∨ ∃ y, finished = some y ∧ Ends platform p p' y ∧ p.Begins now track p') := by
  unfold Player.goOn
  cases hopened : p.opened with
  | none => exact ⟨none, _, rfl, hs.openRange hnow position, Or.inl ⟨rfl, ⟨rfl, rfl, rfl⟩⟩⟩
  | some r =>
    obtain ⟨moved, hmoved⟩ := exists_seek? (hs.opened r hopened).1 hnow position
    simp only [hmoved, Step.of]
    cases moved with
    | none =>
      obtain ⟨q, hq, hsound, hkeeps⟩ := hs.extend hnow hopened position
      exact ⟨none, q, by simp only [Step.andThen, hq, Step.ok], hsound, Or.inl ⟨rfl, hkeeps⟩⟩
    | some moved =>
      obtain ⟨again, hagain, htrack⟩ := hs.exists_repeated? r position moved
      obtain ⟨q, hq, hsound, hkeeps⟩ := hs.closeRange
      cases again with
      | none =>
        exact ⟨none, q.openRange position now, by simp only [Step.andThen, hagain, hq, Step.ok],
          hsound.openRange hnow position, Or.inl ⟨rfl, ⟨hkeeps.current, hkeeps.firstSeen,
            hkeeps.begun⟩⟩⟩
      | some play =>
        obtain rfl := Option.some.inj ((htrack play rfl).symm.trans hcurrent)
        obtain ⟨p', hp', hsound', hbegins, hformer⟩ :=
          Sound.begin (hs.tracks _ hcurrent) hnow position q
        obtain ⟨y, hy, hends⟩ := hsound.ends hkeeps hcurrent hformer
        refine ⟨some y, p', ?_, hsound', Or.inr ⟨y, rfl, hends, hkeeps.begins hbegins⟩⟩
        simp only [Step.andThen, hagain, hq, hp', hy, Step.ok]

/-- The open stretch extended to now, if there is one. -/
def hold (now : Instant) (p : Player) : Step Player Unit :=
  match p.opened with
  | some r => p.extend r r.position now
  | none => .ok () p

/-- Holding on to the play never fails. -/
theorem Sound.hold (hs : p.Sound platform) (hnow : now.offset.isSome = true) :
    ∃ p', p.hold now = .ok () p' ∧ p'.Sound platform ∧ p.Keeps p' := by
  unfold Player.hold
  cases hopened : p.opened with
  | none => exact ⟨p, rfl, hs, Keeps.refl p⟩
  | some r => exact hs.extend hnow hopened r.position

/-- Replacing a typed play by another one. -/
theorem replace_eq {old play : Play} (hold : old.Typed) (hplay : play.Typed) (now : Instant)
    (p : Player) :
    p.replace old play now = (p.hold now).andThen fun _ p => p.closeRange.andThen fun _ p =>
      (p.begin play none now).andThen fun _ p' => .ok ⟨p'.played, p.played⟩ p' := by
  obtain ⟨line, hline⟩ := hplay.exists_describe?
  obtain ⟨line', hline'⟩ := hold.exists_describe?
  unfold replace
  rw [hline]
  show Step.andThen (Step.of old.describe? p) _ = _
  rw [hline']
  rfl

/-- **Replacing the play tracked** never fails and ends it. -/
theorem Sound.replace (hs : p.Sound platform) (hnow : now.offset.isSome = true) {old : Play}
    (hcurrent : p.current = some old) {play : Play}
    (hplay : play.Typed ∧ play.platform.name = platform) :
    ∃ u p', p.replace old play now = .ok u p' ∧ p'.Sound platform
      ∧ ∃ y, u.finished = some y ∧ Ends platform p p' y ∧ p.Begins now play p' := by
  obtain ⟨held, hheld, hsound, hkeeps⟩ := hs.hold hnow
  obtain ⟨q, hq, hsound', hkeeps'⟩ := hsound.closeRange
  obtain ⟨p', hp', hsound'', hbegins, hformer⟩ := Sound.begin hplay hnow none q
  obtain ⟨y, hy, hends⟩ := hsound'.ends (hkeeps.trans hkeeps') hcurrent hformer
  refine ⟨⟨p'.played, some y⟩, p', ?_, hsound'', y, rfl, hends,
    (hkeeps.trans hkeeps').begins hbegins⟩
  rw [replace_eq (hs.tracks old hcurrent).1 hplay.1, hheld, Step.andThen_ok, hq, Step.andThen_ok,
    hp', Step.andThen_ok, hy]

/-! ## Reports -/

/-- A player that has noted down that a track is shown. -/
def noted (status : Status) (now : Instant) (p : Player) : Player :=
  { p with updated := some now, heard := now, status := status, isStale := false }

/-- A track is shown where there was none. -/
theorem observe_of_none (h : p.current = none) (play : Play) (status : Status) (now : Instant) :
    p.observe play status now = ((p.noted status now).begin play none now).andThen
      fun _ p' => .ok ⟨p'.played, none⟩ p' := by
  unfold observe noted
  simp only [h]

/-- A track that is shown is another one than that tracked, or the same. -/
theorem observe_of_some {old : Play} (h : p.current = some old) {play : Play} {same : Bool}
    (hsame : Match.content? old play = .ok same) (status : Status) (now : Instant) :
    p.observe play status now
      = if !same then (p.noted status now).replace old play now
        else if status = .playing then
          ((p.noted status now).goOn play.position now).andThen
            fun finished p' => .ok ⟨p'.played, finished⟩ p'
        else (p.noted status now).closeRange.andThen fun _ p' => .ok ⟨p'.played, none⟩ p' := by
  unfold observe noted
  simp only [h, hsame]
  rfl

/-- **A track that is shown** never makes a player fail, and is a turn. -/
theorem Sound.observe (hs : p.Sound platform) (hnow : now.offset.isSome = true) {play : Play}
    (hplay : play.Typed ∧ play.platform.name = platform) (status : Status) :
    ∃ u p', p.observe play status now = .ok u p' ∧ p'.Sound platform
      ∧ Turn platform now p p' u := by
  -- what is noted down of a report does not touch the play
  have hkeeps : p.Keeps (p.noted status now) := ⟨rfl, rfl, rfl⟩
  have hs' : (p.noted status now).Sound platform := ⟨hs.tracks, hs.started, hs.closed, hs.opened⟩
  have hends : ∀ {p' y}, Ends platform (p.noted status now) p' y → Ends platform p p' y :=
    fun h => ⟨h.listen, h.entry, h.platform, h.former⟩
  cases hcurrent : p.current with
  | none =>
    obtain ⟨p', hp', hsound, hbegins, -⟩ := Sound.begin hplay hnow none (p.noted status now)
    refine ⟨⟨p'.played, none⟩, p', ?_, hsound,
      .begins play hcurrent (hkeeps.begins hbegins) rfl rfl⟩
    rw [observe_of_none hcurrent, hp', Step.andThen_ok]
  | some old =>
    rw [observe_of_some hcurrent (Match.content?_of_typed (hs.tracks old hcurrent).1 hplay.1)]
    split
    · obtain ⟨u, p', hp', hsound, y, hfinished, hended, hbegins⟩ :=
        hs'.replace hnow hcurrent hplay
      exact ⟨u, p', hp', hsound, .ends y (hends hended)
        (Or.inr ⟨play, hkeeps.begins hbegins⟩) hfinished⟩
    · split
      · obtain ⟨finished, p', hp', hsound, hturn⟩ := hs'.goOn hnow hcurrent play.position
        refine ⟨⟨p'.played, finished⟩, p', by rw [hp', Step.andThen_ok], hsound, ?_⟩
        rcases hturn with ⟨rfl, hkept⟩ | ⟨y, rfl, hended, hbegins⟩
        · exact .keeps (hkeeps.trans hkept) (Or.inr rfl) rfl
        · exact .ends y (hends hended) (Or.inr ⟨old, hkeeps.begins hbegins⟩) rfl
      · obtain ⟨p', hp', hsound, hkept⟩ := hs'.closeRange
        exact ⟨⟨p'.played, none⟩, p', by rw [hp', Step.andThen_ok], hsound,
          .keeps (hkeeps.trans hkept) (Or.inr rfl) rfl⟩

/-- **Every report of a typed play is a turn**, and none fails. -/
theorem Sound.report (hs : p.Sound platform) (hnow : now.offset.isSome = true)
    (status : Option Status) {shown : Option Play}
    (hshown : ∀ play, shown = some play → play.Typed ∧ play.platform.name = platform) :
    ∃ u p', p.report status shown now = .ok u p' ∧ p'.Sound platform
      ∧ Turn platform now p p' u := by
  have hs' : ({ p with heard := now } : Player).Sound platform :=
    ⟨hs.tracks, hs.started, hs.closed, hs.opened⟩
  cases shown with
  | some play =>
    obtain ⟨u, p', hp', hsound, hturn⟩ :=
      hs'.observe hnow (hshown play rfl) (status.getD .playing)
    refine ⟨u, p', hp', hsound, ?_⟩
    cases hturn with
    | keeps same soFar finished =>
      exact .keeps ⟨same.current, same.firstSeen, same.begun⟩ soFar finished
    | begins track idle begun soFar finished =>
      exact .begins track idle ⟨begun.current, begun.firstSeen, begun.begun⟩ soFar finished
    | ends y ended after finished =>
      exact .ends y ⟨ended.listen, ended.entry, ended.platform, ended.former⟩ (after.imp id
        fun ⟨track, begun⟩ => ⟨track, begun.current, begun.firstSeen, begun.begun⟩) finished
  | none =>
    -- without a track, only a stop ends what is tracked
    cases status with
    | none => exact ⟨{}, _, rfl, hs', .keeps ⟨rfl, rfl, rfl⟩ (Or.inl rfl) rfl⟩
    | some status =>
      by_cases hstops : status = .stopped ∧ p.status ≠ .stopped ∧ p.current.isSome = true
      · obtain ⟨track, hcurrent⟩ := Option.isSome_iff_exists.mp hstops.2.2
        have hstopped : ({ p with heard := now, status := .stopped, updated := some now } :
            Player).Sound platform := ⟨hs.tracks, hs.started, hs.closed, hs.opened⟩
        obtain ⟨q, hq, hsound, hkeeps⟩ := hstopped.closeRange
        have hkeeps' : p.Keeps q := ⟨hkeeps.current, hkeeps.firstSeen, hkeeps.begun⟩
        obtain ⟨y, hy, hends⟩ : ∃ y, q.played = some y ∧ Ends platform p q.clear y :=
          hsound.ends hkeeps' hcurrent rfl
        refine ⟨⟨q.played, q.played⟩, q.clear, ?_, ?_, .ends y hends (Or.inl rfl) hy⟩
        · unfold Player.report
          dsimp only
          rw [if_pos hstops]
          show Step.andThen (Player.closeRange _) _ = _
          rw [hq]
          rfl
        · exact ⟨(fun _ h => nomatch h), (fun _ h => nomatch h),
            (fun _ h => absurd h List.not_mem_nil), (fun _ h => nomatch h)⟩
      · have hchanged : ({ p with heard := now, status := status } : Player).Sound platform :=
          ⟨hs.tracks, hs.started, hs.closed, hs.opened⟩
        unfold Player.report
        dsimp only
        rw [if_neg hstops]
        split
        · exact ⟨_, _, rfl, hchanged, .keeps ⟨rfl, rfl, rfl⟩ (Or.inr rfl) rfl⟩
        · obtain ⟨q, hq, hsound, hkeeps⟩ := hchanged.closeRange
          rw [hq]
          exact ⟨_, _, rfl, hsound, .keeps ⟨hkeeps.current, hkeeps.firstSeen, hkeeps.begun⟩
            (Or.inr rfl) rfl⟩

/-- **Looking after a player without news** never fails and keeps the
play. -/
theorem Sound.checkStale (hs : p.Sound platform) (now : Instant) :
    ∃ stale p', p.checkStale now = .ok stale p' ∧ p'.Sound platform ∧ p.Keeps p' := by
  have hmarked : ({ p with isStale := true } : Player).Sound platform :=
    ⟨hs.tracks, hs.started, hs.closed, hs.opened⟩
  obtain ⟨q, hq, hsound, hkeeps⟩ := hmarked.closeRange
  unfold Player.checkStale
  dsimp only
  split
  · rw [hq]
    exact ⟨_, _, rfl, hsound, ⟨hkeeps.current, hkeeps.firstSeen, hkeeps.begun⟩⟩
  · exact ⟨_, _, rfl, hs, Keeps.refl p⟩

end Player

end Listening
