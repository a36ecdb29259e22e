import Listening.Proofs.PollerLooks

/-!
# Every session is handed over exactly once

A session is the time in which a player tracks one play: from the look at
which it was begun to the one at which another one was, or at which the
player forgot it or was removed. At every look until it ends, and at that one,
its play is a candidate as soon as it was listened to for long enough. The
ledger is what makes one handover of them – and it is no more than a row of
plays known lately, so that another session may stand in for this one.

`Poller.ExactlyOnce` says what comes of it, and it holds of every run of looks
at a source of players that keeps its promise. What carries it is an
invariant (`Poller.Tally`): a session that is open and was handed over is the
play known last of its platform, which is one listen with whatever else the
session will show. Nothing else can become known meanwhile, as it would have
to be shown by the same player.
-/

namespace Listening

/-- **A session**: the time in which a player tracks one play. -/
structure Session where
  /-- The platform of the player. -/
  platform : String
  /-- How many looks there were before the one at which it began. -/
  number : Nat
  /-- The play, as it was first reported. -/
  track : Play
  /-- When it began. -/
  start : Instant

/-- **A play that was handed over**, and the session it is a listen of. -/
structure Handover where
  /-- The session. -/
  session : Option Session
  /-- The play. -/
  play : Play

namespace Players

/-! ## What begins and ends -/

variable {before after : Option Player}

/-- Nothing begins where nothing is tracked afterwards. -/
theorem began_of_idle (h : after.bind Player.current = none) : began before after = false := by
  cases after with
  | none => rfl
  | some q =>
    have hq : q.current = none := h
    unfold began
    simp only [hq, Option.isSome_none, Bool.false_and]

/-- Nothing ends where nothing was tracked before. -/
theorem ended_of_idle (h : before.bind Player.current = none) : ended before after = false := by
  cases before with
  | none => rfl
  | some p =>
    have hp : p.current = none := h
    unfold ended
    simp only [hp, Option.isSome_none, Bool.false_and]

/-- A play that was begun is tracked, and not the one from before. -/
theorem began_of_begins {q : Player} {track : Play} (hq : q.current = some track)
    (hnew : ∀ p, before = some p → p.begun ≠ q.begun) : began before (some q) = true := by
  unfold began
  cases before with
  | none => simp only [hq, Option.isSome_some, Bool.true_and]
  | some p =>
    have hne : (p.begun != q.begun) = true := bne_iff_ne.mpr (hnew p rfl)
    simp only [hq, Option.isSome_some, Bool.true_and, hne]

/-- A play that goes on neither begins nor ends. -/
theorem not_began_and_not_ended {p q : Player} {track : Play} (hp : p.current = some track)
    (h : p.Keeps q) : began (some p) (some q) = false ∧ ended (some p) (some q) = false := by
  unfold began ended
  simp only [h.begun, h.current, hp, bne_self_eq_false, beq_self_eq_true, Option.isSome_some,
    Bool.and_false, Bool.and_self, Bool.not_true, and_self]

/-- A play ends when there is none afterwards or another one. -/
theorem ended_of_next {p : Player} {track : Play} (hp : p.current = some track)
    (hnext : ∀ q, after = some q → q.current = none ∨ p.begun ≠ q.begun) :
    ended (some p) after = true := by
  unfold ended
  cases after with
  | none => simp only [hp, Option.isSome_some, Bool.and_self]
  | some q =>
    rcases hnext q rfl with hq | hne
    · simp only [hp, hq, Option.isSome_some, Option.isSome_none, Bool.false_and, Bool.not_false,
        Bool.and_self]
    · have hne' : (p.begun == q.begun) = false := beq_eq_false_iff_ne.mpr hne
      simp only [hp, hne', Option.isSome_some, Bool.and_false, Bool.not_false, Bool.and_self]

end Players

namespace Poller

variable {σ ω : Type} [Host ω] {p : Poller σ ω}

/-! ## Sessions -/

/-- The player of a platform after a look. -/
def after (p : Poller σ ω) (s : State σ ω) (name : String) : Option Player :=
  (p.poll s).state.player? name

/-- Whether the play tracked on a platform ended at a look. -/
def ends (p : Poller σ ω) (s : State σ ω) (name : String) : Bool :=
  Players.ended (s.player? name) (p.after s name)

/-- **The session open on a platform** after some looks, the latest first. -/
def openSession (p : Poller σ ω) (name : String) : List (State σ ω) → Option Session
  | [] => none
  | s :: earlier =>
    if Players.began (s.player? name) (p.after s name) then
      (p.after s name).bind fun q =>
        q.current.map fun track => ⟨name, earlier.length, track, p.clock s⟩
    else if p.ends s name then none
    else p.openSession name earlier

/-- **The session that ended on a platform** at the latest of some looks. -/
def endedSession (p : Poller σ ω) (name : String) : List (State σ ω) → Option Session
  | [] => none
  | s :: earlier => if p.ends s name then p.openSession name earlier else none

/-- **The session of a play** found at the latest of some looks: the one that
ended then, or else the one that is open. -/
def sessionOf (p : Poller σ ω) (looks : List (State σ ω)) (x : Play) : Option Session :=
  (p.endedSession x.platform.name looks).or (p.openSession x.platform.name looks)

/-- **All that was handed over** at some looks, the latest first. -/
def handovers (p : Poller σ ω) : List (State σ ω) → List Handover
  | [] => []
  | s :: earlier =>
    ((p.found s).map fun x => ⟨p.sessionOf (s :: earlier) x, x⟩) ++ p.handovers earlier

/-- What was handed over at the latest look, or before. -/
theorem mem_handovers_cons {s : State σ ω} {earlier : List (State σ ω)} {h : Handover} :
    h ∈ p.handovers (s :: earlier)
      ↔ (∃ x ∈ p.found s, h = ⟨p.sessionOf (s :: earlier) x, x⟩) ∨ h ∈ p.handovers earlier := by
  rw [handovers, List.mem_append, List.mem_map]
  simp only [eq_comm]

/-- **What a player tracks is the session open on its platform.** -/
def IsTracked (name : String) (count : Nat) (player : Option Player) : Option Session → Prop
  | none => player.bind Player.current = none
  | some S => S.platform = name ∧ S.number < count
    ∧ ∃ q, player = some q ∧ q.current = some S.track ∧ q.firstSeen = some S.start

/-- No session is open where nothing is tracked. -/
theorem IsTracked.eq_none {name : String} {count : Nat} {player : Option Player}
    {S? : Option Session} (h : IsTracked name count player S?)
    (hidle : player.bind Player.current = none) : S? = none := by
  cases S? with
  | none => rfl
  | some S =>
    obtain ⟨-, -, q, rfl, hq, -⟩ := h
    exact nomatch hq.symm.trans hidle

/-- Where something is tracked, a session is open. -/
theorem IsTracked.exists_session {name : String} {count : Nat} {q : Player}
    {S? : Option Session} (h : IsTracked name count (some q) S?) {track : Play}
    (htrack : q.current = some track) {start : Instant} (hstart : q.firstSeen = some start) :
    ∃ S, S? = some S ∧ S.track = track ∧ S.start = start ∧ S.platform = name
      ∧ S.number < count := by
  cases S? with
  | none => exact nomatch htrack.symm.trans h
  | some S =>
    obtain ⟨hplatform, hnumber, q', hq', htrack', hstart'⟩ := h
    obtain rfl := Option.some.inj hq'
    exact ⟨S, rfl, Option.some.inj (htrack'.symm.trans htrack),
      Option.some.inj (hstart'.symm.trans hstart), hplatform, hnumber⟩

/-- A session that is open is of its platform, and has begun. -/
theorem IsTracked.session {name : String} {count : Nat} {player : Option Player} {S : Session}
    (h : IsTracked name count player (some S)) : S.platform = name ∧ S.number < count :=
  ⟨h.1, h.2.1⟩

/-- **What a look does to the session of a platform**, and the candidate it
makes. -/
inductive Passage (p : Poller σ ω) (s : State σ ω) (earlier : List (State σ ω)) (name : String)
    (c : Option Play) : Prop where
  /-- There was none and there is none. -/
  | idle (quiet : p.ends s name = false) (isNone : p.openSession name (s :: earlier) = none)
      (silent : c = none)
  /-- One begins where there was none. -/
  | begins (S : Session) (quiet : p.ends s name = false)
      (isOpen : p.openSession name (s :: earlier) = some S) (number : S.number = earlier.length)
      (candidate : s.reconciler.players.IsCandidate name S.track S.start c)
  /-- It goes on. -/
  | goesOn (S : Session) (quiet : p.ends s name = false)
      (wasOpen : p.openSession name earlier = some S)
      (isOpen : p.openSession name (s :: earlier) = some S)
      (candidate : s.reconciler.players.IsCandidate name S.track S.start c)
  /-- It ends, and it is the candidate if it was listened to for long
  enough. -/
  | ends (S : Session) (y : Play) (isEnd : p.ends s name = true)
      (wasOpen : p.openSession name earlier = some S)
      (next : ∀ S', p.openSession name (s :: earlier) = some S' → S'.number = earlier.length)
      (isLeft : Players.left (s.player? name) (p.after s name) = some y)
      (listen : S.track.IsListenOf S.start y) (entry : y.Entry)
      (platform : y.platform.name = name)
      (candidate : ∀ x, c = some x ↔ x = y ∧ s.reconciler.players.passes? y = .ok true)

/-- The session that a look begins. -/
theorem openSession_of_began {s : State σ ω} {name : String} {q : Player} {track : Play}
    (earlier : List (State σ ω))
    (hbegan : Players.began (s.player? name) (p.after s name) = true)
    (hq : p.after s name = some q) (htrack : q.current = some track) :
    p.openSession name (s :: earlier) = some ⟨name, earlier.length, track, p.clock s⟩ := by
  rw [openSession, if_pos hbegan, hq]
  simp only [Option.bind_some, htrack, Option.map_some]

/-- Without a beginning and an end, the session is the one from before. -/
theorem openSession_of_quiet {s : State σ ω} {name : String}
    (hbegan : Players.began (s.player? name) (p.after s name) = false)
    (hends : p.ends s name = false) (earlier : List (State σ ω)) :
    p.openSession name (s :: earlier) = p.openSession name earlier := by
  rw [openSession, hbegan, hends, if_neg Bool.false_ne_true, if_neg Bool.false_ne_true]

/-- A value that may come before itself is that value. -/
theorem ite_some_none_or {α : Type} (c : Prop) [Decidable c] (a : α) :
    (if c then some a else none).or (some a) = some a := by
  by_cases h : c
  · rw [if_pos h, Option.some_or]
  · rw [if_neg h, Option.none_or]

/-- A session that ended was open before. -/
theorem openSession_of_endedSession {s : State σ ω} {earlier : List (State σ ω)} {name : String}
    {S : Session} (h : p.endedSession name (s :: earlier) = some S) :
    p.openSession name earlier = some S := by
  rw [endedSession] at h
  split at h
  · exact h
  · exact nomatch h

/-- **The session after an end** is none, or one that has just begun. -/
theorem openSession_of_ends {s : State σ ω} {name : String} (earlier : List (State σ ω))
    (hends : p.ends s name = true)
    (hnext : ∀ q, p.after s name = some q → q.current = none
      ∨ (∃ track, q.current = some track) ∧ q.firstSeen = some (p.clock s)
        ∧ ∀ q₀, s.player? name = some q₀ → q₀.begun ≠ q.begun) :
    (∀ S, p.openSession name (s :: earlier) = some S → S.number = earlier.length)
      ∧ IsTracked name (earlier.length + 1) (p.after s name)
        (p.openSession name (s :: earlier)) := by
  have hnothing : (p.after s name).bind Player.current = none →
      p.openSession name (s :: earlier) = none := by
    intro hidle
    rw [openSession, Players.began_of_idle hidle, if_neg Bool.false_ne_true, if_pos hends]
  cases hafter : p.after s name with
  | none =>
    rw [hnothing (by rw [hafter]; rfl)]
    exact ⟨(fun _ h => nomatch h), rfl⟩
  | some q =>
    rcases hnext q hafter with hidle | ⟨⟨track, htrack⟩, hstart, hnew⟩
    · rw [hnothing (by rw [hafter]; exact hidle)]
      exact ⟨(fun _ h => nomatch h), hidle⟩
    · have hbegan : Players.began (s.player? name) (p.after s name) = true := by
        rw [hafter]
        exact Players.began_of_begins htrack hnew
      rw [openSession_of_began earlier hbegan hafter htrack]
      exact ⟨fun S hS => (congrArg Session.number (Option.some.inj hS)).symm,
        rfl, Nat.lt_succ_self _, q, rfl, htrack, hstart⟩

/-- **Every look is a passage** on every platform, and the session afterwards
is the one tracked afterwards. -/
theorem Look.passage {s : State σ ω} {found : List Play}
    {candidate answer : String → Option Play}
    (hlook : Look (p.clock s) s (p.poll s).state found candidate answer)
    {earlier : List (State σ ω)} {name : String}
    (htracked : IsTracked name earlier.length (s.player? name) (p.openSession name earlier)) :
    p.Passage s earlier name (candidate name)
      ∧ IsTracked name (earlier.length + 1) (p.after s name)
        (p.openSession name (s :: earlier)) := by
  have houtcome := hlook.outcome name
  change s.reconciler.players.Outcome name (p.clock s) (s.player? name) (p.after s name)
    (candidate name) at houtcome
  cases houtcome with
  | idle wasIdle isIdle silent =>
    have hquiet : p.ends s name = false := Players.ended_of_idle wasIdle
    have hnone : p.openSession name (s :: earlier) = none :=
      (openSession_of_quiet (Players.began_of_idle isIdle) hquiet earlier).trans
        (htracked.eq_none wasIdle)
    rw [hnone]
    exact ⟨.idle hquiet hnone silent, isIdle⟩
  | begins q track wasIdle isAfter current since isNew hcandidate =>
    have hbegan : Players.began (s.player? name) (p.after s name) = true := by
      rw [isAfter]
      exact Players.began_of_begins current isNew
    have hopen := openSession_of_began earlier hbegan isAfter current
    rw [hopen]
    exact ⟨.begins _ (Players.ended_of_idle wasIdle) hopen rfl hcandidate,
      rfl, Nat.lt_succ_self _, q, isAfter, current, since⟩
  | goesOn q q' track start isBefore isAfter current since keeps hcandidate =>
    rw [isBefore] at htracked
    obtain ⟨S, hS, rfl, rfl, hplatform, hnumber⟩ := htracked.exists_session current since
    obtain ⟨hbegan, hquiet⟩ := Players.not_began_and_not_ended current keeps
    rw [← isBefore, ← isAfter] at hbegan hquiet
    have hopen := (openSession_of_quiet hbegan hquiet earlier).trans hS
    rw [hopen]
    exact ⟨.goesOn S hquiet hS hopen hcandidate, hplatform,
      Nat.lt_succ_of_lt hnumber, q', isAfter,
      keeps.current.trans current, keeps.firstSeen.trans since⟩
  | ends q track start y isBefore current since next isLeft listen entry platform hcandidate =>
    rw [isBefore] at htracked
    obtain ⟨S, hS, rfl, rfl, hplatform, hnumber⟩ := htracked.exists_session current since
    have hends : p.ends s name = true := by
      unfold ends
      rw [isBefore]
      exact Players.ended_of_next current fun q' hq' => (next q' hq').imp id fun h => h.2.2
    obtain ⟨hnext, hisTracked⟩ := openSession_of_ends earlier hends fun q' hq' =>
      (next q' hq').imp id fun ⟨htrack', hstart', hnew⟩ =>
        ⟨htrack', hstart', fun q₀ hq₀ => Option.some.inj (isBefore.symm.trans hq₀) ▸ hnew⟩
    exact ⟨.ends S y hends hS hnext isLeft listen entry platform hcandidate, hisTracked⟩

/-- **The session of a candidate**: a session of the platform that was open or
has just begun, and of which the candidate is a listen. -/
theorem Passage.session_of_candidate {s : State σ ω} {earlier : List (State σ ω)} {name : String}
    {c : Option Play} (h : p.Passage s earlier name c) {x : Play} (hx : c = some x) :
    ∃ S, p.sessionOf (s :: earlier) x = some S ∧ S.track.IsListenOf S.start x ∧ x.Entry
      ∧ x.platform.name = name ∧ s.reconciler.players.passes? x = .ok true
      ∧ (p.openSession name earlier = some S ∨ S.number = earlier.length) := by
  have hsession : x.platform.name = name → p.sessionOf (s :: earlier) x
      = (p.endedSession name (s :: earlier)).or (p.openSession name (s :: earlier)) := by
    rintro rfl
    rfl
  cases h with
  | idle quiet isNone silent => exact nomatch silent.symm.trans hx
  | begins S quiet isOpen number candidate =>
    obtain ⟨hlisten, hentry, hplatform, hpasses⟩ := candidate x hx
    refine ⟨S, ?_, hlisten, hentry, hplatform, hpasses, Or.inr number⟩
    rw [hsession hplatform, endedSession, quiet, if_neg Bool.false_ne_true, isOpen]
    rfl
  | goesOn S quiet wasOpen isOpen candidate =>
    obtain ⟨hlisten, hentry, hplatform, hpasses⟩ := candidate x hx
    refine ⟨S, ?_, hlisten, hentry, hplatform, hpasses, Or.inl wasOpen⟩
    rw [hsession hplatform, endedSession, quiet, if_neg Bool.false_ne_true, isOpen]
    rfl
  | ends S y isEnd wasOpen next isLeft listen entry platform candidate =>
    obtain ⟨rfl, hpasses⟩ := (candidate x).mp hx
    refine ⟨S, ?_, listen, entry, platform, hpasses, Or.inl wasOpen⟩
    rw [hsession platform, endedSession, if_pos isEnd, wasOpen]
    rfl

/-! ## Runs -/

/-- **A run of looks**, the latest first, and the state it leaves. It begins
with nothing known, and between two looks the source and the host may change
in any way. -/
inductive Run (p : Poller σ ω) : List (State σ ω) → State σ ω → Prop where
  /-- No looks yet. -/
  | start (s : State σ ω) (players : s.reconciler.players.players = [])
      (follower : s.reconciler.follower = none) (windows : s.ledger.windows = [])
      (size : 1 ≤ s.ledger.size) : Run p [] s
  /-- One more look. -/
  | look {looks : List (State σ ω)} {s : State σ ω} (run : Run p looks s) (source : σ) (host : ω)
      (promised : p.Promised { s with source := source, host := host }) :
      Run p ({ s with source := source, host := host } :: looks)
        (p.poll { s with source := source, host := host }).state

/-- **What is true of the handovers after some looks**, and of what is known
and tracked then. -/
structure Tally (p : Poller σ ω) (looks : List (State σ ω)) (s : State σ ω) : Prop where
  /-- The poller can be relied on. -/
  sound : s.Sound
  /-- What is tracked is the session that is open. -/
  tracked : ∀ name, IsTracked name looks.length (s.player? name) (p.openSession name looks)
  /-- Every play handed over is one of a session that has begun. -/
  numbered : ∀ h ∈ p.handovers looks, ∃ S, h.session = some S ∧ S.number < looks.length
  /-- What is known was handed over. -/
  known : ∀ name, ∀ x ∈ s.known name, ∃ h ∈ p.handovers looks, h.play = x
  /-- The play of a session that is open is the one known last. -/
  newest : ∀ name S, p.openSession name looks = some S → ∀ h ∈ p.handovers looks,
    h.session = some S →
      (s.known name).getLast? = some h.play ∧ S.track.IsListenOf S.start h.play
  /-- No session was handed over twice. -/
  once : ((p.handovers looks).map Handover.session).Nodup

/-- Nothing was handed over at first. -/
theorem tally_start {s : State σ ω} (players : s.reconciler.players.players = [])
    (follower : s.reconciler.follower = none) (windows : s.ledger.windows = [])
    (size : 1 ≤ s.ledger.size) : p.Tally [] s := by
  have hplayer : ∀ name, s.player? name = none := by
    intro name
    unfold State.player? Players.player?
    rw [players]
    rfl
  have hknown : ∀ name, s.known name = [] := by
    intro name
    unfold State.known Ledger.known
    rw [windows]
    rfl
  refine ⟨⟨⟨?_, fun name q hq => ?_, rfl⟩, follower,
    Ledger.sound_of_windows_eq_nil size windows⟩,
    fun name => ?_, fun h hh => ?_, fun name x hx => ?_, fun name S hS => ?_, List.nodup_nil⟩
  · rw [players]
    exact List.nodup_nil
  · exact nomatch (hplayer name).symm.trans hq
  · rw [hplayer]
    exact rfl
  · exact absurd hh List.not_mem_nil
  · rw [hknown] at hx
    exact absurd hx List.not_mem_nil
  · exact nomatch hS

/-- The tally is about what a poller knows, not about its source and its
host. -/
theorem Tally.congr {looks : List (State σ ω)} {s : State σ ω} (h : p.Tally looks s) (source : σ)
    (host : ω) : p.Tally looks { s with source := source, host := host } :=
  ⟨⟨h.sound.players, h.sound.follower, h.sound.ledger⟩, h.tracked, h.numbered, h.known, h.newest,
    h.once⟩

/-- **A session that was handed over and is open is known**: the play known
last of its platform is one listen with whatever it shows. -/
theorem Tally.exists_known {looks : List (State σ ω)} {s : State σ ω} (ht : p.Tally looks s)
    {h : Handover} (hh : h ∈ p.handovers looks) {S : Session} (hS : h.session = some S)
    {name : String} (hopen : p.openSession name looks = some S) {x : Play}
    (hlisten : S.track.IsListenOf S.start x) (hx : x.Entry) :
    ∃ known ∈ s.known name, Match.sameListen? known x = .ok true := by
  obtain ⟨hnewest, hlisten'⟩ := ht.newest name S hopen h hh hS
  have hmem : h.play ∈ s.known name := List.mem_of_getLast? hnewest
  have htime : h.play.playedAt = x.playedAt :=
    hlisten'.playedAt_eq.trans hlisten.playedAt_eq.symm
  exact ⟨h.play, hmem, Match.sameListen?_of_same (ht.sound.ledger.entry name _ hmem).1 hx
    (hlisten'.sameTrack hlisten) htime⟩

/-- **What is not known is of a session that was not handed over yet.** -/
theorem Tally.session_ne {looks : List (State σ ω)} {s : State σ ω} (ht : p.Tally looks s)
    {name : String} {S : Session}
    (hS : p.openSession name looks = some S ∨ S.number = looks.length) {x : Play}
    (hlisten : S.track.IsListenOf S.start x) (hx : x.Entry)
    (hunknown : ∀ known ∈ s.known name, Match.sameListen? known x = .ok false) :
    ∀ h ∈ p.handovers looks, h.session ≠ some S := by
  intro h hh hsession
  rcases hS with hopen | hnumber
  · obtain ⟨known, hknown, hsame⟩ := ht.exists_known hh hsession hopen hlisten hx
    exact nomatch (hunknown known hknown).symm.trans hsame
  · obtain ⟨S', hS', hlt⟩ := ht.numbered h hh
    obtain rfl := Option.some.inj (hS'.symm.trans hsession)
    exact absurd hnumber (Nat.ne_of_lt hlt)

omit [Host ω] in
/-- **What a look finds** is the candidate of its platform, it was not known
before, and it is the play known last afterwards. -/
theorem Look.of_mem_found {now : Instant} {s s' : State σ ω} {found : List Play}
    {candidate answer : String → Option Play} (hlook : Look now s s' found candidate answer)
    {x : Play} (hx : x ∈ found) :
    candidate x.platform.name = some x
      ∧ (∀ known ∈ s.known x.platform.name, Match.sameListen? known x = .ok false)
      ∧ (s'.known x.platform.name).getLast? = some x := by
  have hanswer := (hlook.mem_found x).mp hx
  cases hc : candidate x.platform.name with
  | none => exact nomatch (hlook.silent _ hc).2.symm.trans hanswer
  | some y =>
    cases hlook.verdict _ y hc with
    | knew known isKnown same unchanged kept => exact nomatch kept.symm.trans hanswer
    | isNew unknown newest others through =>
      obtain rfl := Option.some.inj (through.symm.trans hanswer)
      exact ⟨rfl, unknown, newest⟩

/-- **The session of what a look finds** has begun, and was not handed over
before. -/
theorem Tally.session_of_found {earlier : List (State σ ω)} {s : State σ ω}
    (ht : p.Tally earlier s) {candidate answer : String → Option Play}
    (hlook : Look (p.clock s) s (p.poll s).state (p.found s) candidate answer) {x : Play}
    (hx : x ∈ p.found s) :
    ∃ S, p.sessionOf (s :: earlier) x = some S ∧ S.track.IsListenOf S.start x
      ∧ s.reconciler.players.passes? x = .ok true ∧ S.platform = x.platform.name
      ∧ S.number < earlier.length + 1 ∧ ∀ h ∈ p.handovers earlier, h.session ≠ some S := by
  obtain ⟨hcandidate, hunknown, -⟩ := hlook.of_mem_found hx
  obtain ⟨hpassage, htracked⟩ := hlook.passage (ht.tracked x.platform.name)
  obtain ⟨S, hS, hlisten, hentry, -, hpasses, hopen⟩ := hpassage.session_of_candidate hcandidate
  have hwas := ht.tracked x.platform.name
  have hbegun : S.platform = x.platform.name ∧ S.number < earlier.length + 1 := by
    rcases Option.or_eq_some_iff.mp hS with hended | ⟨-, hisOpen⟩
    · rw [openSession_of_endedSession hended] at hwas
      exact hwas.session.imp id Nat.lt_succ_of_lt
    · rw [hisOpen] at htracked
      exact htracked.session
  exact ⟨S, hS, hlisten, hpasses, hbegun.1, hbegun.2,
    ht.session_ne hopen hlisten hentry hunknown⟩

/-- What is known after a look was handed over by then. -/
theorem Tally.known_look {earlier : List (State σ ω)} {s : State σ ω} (ht : p.Tally earlier s)
    {candidate answer : String → Option Play}
    (hlook : Look (p.clock s) s (p.poll s).state (p.found s) candidate answer) (name : String) :
    ∀ x ∈ (p.poll s).state.known name, ∃ h ∈ p.handovers (s :: earlier), h.play = x := by
  intro x hx
  have hold : x ∈ s.known name → ∃ h ∈ p.handovers (s :: earlier), h.play = x := by
    intro hx
    obtain ⟨h, hh, rfl⟩ := ht.known name x hx
    exact ⟨h, mem_handovers_cons.mpr (Or.inr hh), rfl⟩
  cases hc : candidate name with
  | none =>
    rw [(hlook.silent name hc).1] at hx
    exact hold hx
  | some y =>
    cases hlook.verdict name y hc with
    | knew known isKnown same unchanged kept =>
      rw [unchanged] at hx
      exact hold hx
    | isNew unknown newest others through =>
      rcases others x hx with hx | rfl
      · exact hold hx
      · obtain rfl := (hlook.outcome name).platform_eq hc
        exact ⟨_, mem_handovers_cons.mpr (Or.inl ⟨x, (hlook.mem_found x).mpr through, rfl⟩), rfl⟩

/-- The play of a session that is open after a look is the one known last. -/
theorem Tally.newest_look {earlier : List (State σ ω)} {s : State σ ω} (ht : p.Tally earlier s)
    {candidate answer : String → Option Play}
    (hlook : Look (p.clock s) s (p.poll s).state (p.found s) candidate answer) {name : String}
    {S : Session} (hS : p.openSession name (s :: earlier) = some S) :
    ∀ h ∈ p.handovers (s :: earlier), h.session = some S →
      ((p.poll s).state.known name).getLast? = some h.play
      ∧ S.track.IsListenOf S.start h.play := by
  intro h hh hsession
  obtain ⟨hpassage, htracked⟩ := hlook.passage (ht.tracked name)
  rw [hS] at htracked
  -- it is handed over at this look, or was before
  rcases mem_handovers_cons.mp hh with ⟨x, hx, rfl⟩ | hh
  · obtain ⟨S', hS', hlisten, -, hplatform, -⟩ := ht.session_of_found hlook hx
    obtain rfl := Option.some.inj (hS'.symm.trans hsession)
    have hname : x.platform.name = name := hplatform.symm.trans htracked.session.1
    exact ⟨hname ▸ (hlook.of_mem_found hx).2.2, hlisten⟩
  · obtain ⟨S', hS', hlt⟩ := ht.numbered h hh
    obtain rfl := Option.some.inj (hS'.symm.trans hsession)
    -- it was handed over before, so it did not begin at this look
    have hopen : p.openSession name earlier = some S' := by
      cases hpassage with
      | idle quiet isNone silent => exact nomatch isNone.symm.trans hS
      | begins S quiet isOpen number candidate =>
        obtain rfl := Option.some.inj (isOpen.symm.trans hS)
        exact absurd number (Nat.ne_of_lt hlt)
      | goesOn S quiet wasOpen isOpen candidate => exact wasOpen.trans (isOpen.symm.trans hS)
      | ends S y isEnd wasOpen next isLeft listen entry platform candidate =>
        exact absurd (next S' hS) (Nat.ne_of_lt hlt)
    obtain ⟨hnewest, hlisten⟩ := ht.newest name S' hopen h hh hsession
    refine ⟨?_, hlisten⟩
    cases hc : candidate name with
    | none => rw [(hlook.silent name hc).1, hnewest]
    | some y =>
      cases hlook.verdict name y hc with
      | knew known isKnown same unchanged kept => rw [unchanged, hnewest]
      | isNew unknown newest others through =>
        obtain rfl := (hlook.outcome name).platform_eq hc
        -- something new would be of the same session, which was handed over already
        obtain ⟨S'', hS'', -, -, -, -, hfresh⟩ :=
          ht.session_of_found hlook ((hlook.mem_found y).mpr through)
        have hsame : p.sessionOf (s :: earlier) y = some S' := by
          unfold sessionOf
          rw [hS, endedSession, hopen]
          exact ite_some_none_or _ S'
        exact absurd (hsession.trans (hsame.symm.trans hS'')) (hfresh h hh)

/-- **A look keeps the tally.** -/
theorem Tally.look {earlier : List (State σ ω)} {s : State σ ω} (ht : p.Tally earlier s)
    {candidate answer : String → Option Play}
    (hlook : Look (p.clock s) s (p.poll s).state (p.found s) candidate answer) :
    p.Tally (s :: earlier) (p.poll s).state where
  sound := hlook.sound
  tracked name := (hlook.passage (ht.tracked name)).2
  numbered := by
    intro h hh
    rcases mem_handovers_cons.mp hh with ⟨x, hx, rfl⟩ | hh
    · obtain ⟨S, hS, -, -, -, hlt, -⟩ := ht.session_of_found hlook hx
      exact ⟨S, hS, hlt⟩
    · obtain ⟨S, hS, hlt⟩ := ht.numbered h hh
      exact ⟨S, hS, Nat.lt_succ_of_lt hlt⟩
  known := ht.known_look hlook
  newest _ _ := ht.newest_look hlook
  once := by
    rw [handovers, List.map_append, List.map_map]
    refine List.nodup_append.mpr ⟨?_, ht.once, fun a ha b hb hab => ?_⟩
    · -- sessions of different platforms are different
      refine List.Nodup.of_map (Option.map Session.platform) ?_
      have hplatforms : ((p.found s).map (Handover.session ∘ fun x =>
          (⟨p.sessionOf (s :: earlier) x, x⟩ : Handover))).map (Option.map Session.platform)
          = ((p.found s).map fun x => x.platform.name).map some := by
        rw [List.map_map, List.map_map]
        refine List.map_congr_left fun x hx => ?_
        obtain ⟨S, hS, -, -, hplatform, -⟩ := ht.session_of_found hlook hx
        show (p.sessionOf (s :: earlier) x).map Session.platform = some x.platform.name
        rw [hS, Option.map_some, hplatform]
      rw [hplatforms]
      exact hlook.names.map fun _ _ => Option.some.inj
    · obtain ⟨x, hx, rfl⟩ := List.mem_map.mp ha
      obtain ⟨h, hh, rfl⟩ := List.mem_map.mp hb
      obtain ⟨S, hS, -, -, -, -, hfresh⟩ := ht.session_of_found hlook hx
      exact hfresh h hh (hab.symm.trans hS)

/-- **Every session is handed over exactly once**, unless another session
stands in for it: a play that was discovered earlier, is known still, and is
one listen with it at a time that lines up as closely as expected. -/
structure ExactlyOnce (p : Poller σ ω) (expected : List Match.Accuracy)
    (looks : List (State σ ω)) : Prop where
  /-- No look fails, and what it finds is delivered, if it is anything. -/
  delivered : ∀ s ∈ looks, (p.poll s).result = .ok (p.found s)
    ∧ (p.found s ≠ [] → ∃ w, p.deliver (p.found s) w = .ok () (p.poll s).state.host)
  /-- No session is handed over twice. -/
  once : ((p.handovers looks).map Handover.session).Nodup
  /-- What is found at a look is a listen of a session, with the time at which
  that began, and was listened to for long enough. -/
  faithful : ∀ s earlier, s :: earlier <:+ looks → ∀ x ∈ p.found s,
    ∃ S, p.sessionOf (s :: earlier) x = some S ∧ S.track.IsListenOf S.start x
      ∧ s.reconciler.players.passes? x = .ok true
  /-- A session that ends at a look, after its play was listened to for long
  enough, was handed over by then, or another one stands in for it. -/
  complete : ∀ s earlier, s :: earlier <:+ looks → ∀ name, p.ends s name = true →
    ∃ S y, p.endedSession name (s :: earlier) = some S
      ∧ Players.left (s.player? name) (p.after s name) = some y ∧ S.track.IsListenOf S.start y
      ∧ (s.reconciler.players.passes? y = .ok true →
        (∃ h ∈ p.handovers (s :: earlier), h.session = some S)
        ∨ ∃ h ∈ p.handovers earlier, h.session ≠ some S ∧ h.play ∈ s.known name
          ∧ Match.sameListen? h.play y expected = .ok true)

/-- **A session that ends at a look** was handed over by then, or another one
stands in for it. -/
theorem Tally.complete {earlier : List (State σ ω)} {s : State σ ω} (ht : p.Tally earlier s)
    {candidate answer : String → Option Play}
    (hlook : Look (p.clock s) s (p.poll s).state (p.found s) candidate answer) {name : String}
    (hends : p.ends s name = true) :
    ∃ S y, p.endedSession name (s :: earlier) = some S
      ∧ Players.left (s.player? name) (p.after s name) = some y ∧ S.track.IsListenOf S.start y
      ∧ (s.reconciler.players.passes? y = .ok true →
        (∃ h ∈ p.handovers (s :: earlier), h.session = some S)
        ∨ ∃ h ∈ p.handovers earlier, h.session ≠ some S ∧ h.play ∈ s.known name
          ∧ Match.sameListen? h.play y = .ok true) := by
  obtain ⟨hpassage, -⟩ := hlook.passage (ht.tracked name)
  have hquiet : p.ends s name ≠ false := fun h => Bool.noConfusion (hends.symm.trans h)
  cases hpassage with
  | idle quiet => exact absurd quiet hquiet
  | begins S quiet => exact absurd quiet hquiet
  | goesOn S quiet => exact absurd quiet hquiet
  | ends S y isEnd wasOpen next isLeft listen entry platform hcandidate =>
    have hended : p.endedSession name (s :: earlier) = some S := by
      rw [endedSession, if_pos isEnd, wasOpen]
    refine ⟨S, y, hended, isLeft, listen, fun hpasses => ?_⟩
    -- it is the candidate, so the ledger lets it through or knows another play in its place
    cases hlook.verdict name y ((hcandidate y).mpr ⟨rfl, hpasses⟩) with
    | isNew unknown newest others through =>
      obtain rfl := platform
      refine Or.inl
        ⟨_, mem_handovers_cons.mpr (Or.inl ⟨y, (hlook.mem_found y).mpr through, rfl⟩),
        ?_⟩
      show (p.endedSession _ (s :: earlier)).or _ = some S
      rw [hended, Option.some_or]
    | knew known isKnown same unchanged kept =>
      obtain ⟨h, hh, rfl⟩ := ht.known name known isKnown
      by_cases hsession : h.session = some S
      · exact Or.inl ⟨h, mem_handovers_cons.mpr (Or.inr hh), hsession⟩
      · exact Or.inr ⟨h, hh, hsession, isKnown, same⟩

/-- **The tally is right after every run.** -/
theorem Run.tally {looks : List (State σ ω)} {s : State σ ω} (h : p.Run looks s) :
    p.Tally looks s := by
  induction h with
  | start s players follower windows size => exact tally_start players follower windows size
  | look run source host promised ih =>
    have ht := ih.congr source host
    obtain ⟨candidate, answer, hlook⟩ := ht.sound.look promised
    exact ht.look hlook

/-- Whatever happened at a look of a run, it happened after a run that ended
there. -/
theorem Run.look_of_suffix {looks : List (State σ ω)} {s' : State σ ω} (h : p.Run looks s')
    {s : State σ ω} {earlier : List (State σ ω)} (hsuffix : s :: earlier <:+ looks) :
    p.Tally earlier s ∧ p.Promised s := by
  induction h with
  | start s players follower windows size =>
    exact nomatch List.suffix_nil.mp hsuffix
  | look run source host promised ih =>
    rcases List.suffix_cons_iff.mp hsuffix with heq | hsuffix
    · obtain ⟨rfl, rfl⟩ := List.cons.inj heq
      exact ⟨run.tally.congr source host, promised⟩
    · exact ih hsuffix

/-- **Every session is handed over exactly once**, at every run of looks at a
source of players that keeps its promise, unless the ledger knew a play of
another session that is one listen with it at the same time or close to
it. What is said of the plays found has to be plain: a console may be unable to
print anything else, and what could not be announced is not delivered. -/
theorem Run.exactlyOnce (hconsole : Host.PrintsPlain ω)
    (hdeliver : ∀ plays w, ∃ w', p.deliver plays w = .ok () w') {looks : List (State σ ω)}
    {s : State σ ω} (h : p.Run looks s)
    (hplain : ∀ s ∈ looks, ∀ x ∈ p.found s, p.SaysPlainly x) :
    p.ExactlyOnce [.exact, .close] looks where
  delivered s₀ hs₀ := by
    obtain ⟨later, earlier, rfl⟩ := List.append_of_mem hs₀
    obtain ⟨ht, hpromised⟩ := h.look_of_suffix (List.suffix_append later (s₀ :: earlier))
    exact ht.sound.delivers hconsole hdeliver hpromised (hplain s₀ hs₀)
  once := h.tally.once
  faithful s₀ earlier hsuffix x hx := by
    obtain ⟨ht, hpromised⟩ := h.look_of_suffix hsuffix
    obtain ⟨candidate, answer, hlook⟩ := ht.sound.look hpromised
    obtain ⟨S, hS, hlisten, hpasses, -⟩ := ht.session_of_found hlook hx
    exact ⟨S, hS, hlisten, hpasses⟩
  complete s₀ earlier hsuffix name hends := by
    obtain ⟨ht, hpromised⟩ := h.look_of_suffix hsuffix
    obtain ⟨candidate, answer, hlook⟩ := ht.sound.look hpromised
    exact ht.complete hlook hends

/-! ## Looks played back -/

/-- **A host with a console that refuses some lines**, and on which nothing
else happens. -/
structure Terminal (refuses : Console.Line → Bool) where
  /-- What the clock shows. -/
  clock : Instant

instance (refuses : Console.Line → Bool) : Host (Terminal refuses) where
  now w := w.clock
  isStopping _ := false
  say line w :=
    if refuses line then
      .fail (.outside { nature := .other, name := "MarkupError", message := "no tag to close" })
        w
    else .ok () w
  notify _ w := w
  wait _ w := .ok () w
  load _ _ := none
  save _ _ w := w

/-- A console that refuses nothing. -/
def lenient : Console.Line → Bool := fun _ => false

/-- A console that refuses lines which close a tag `b`. -/
def strict : Console.Line → Bool
  | .text s => Text.contains "[/b]".toList s.toList
  | _ => false

/-- A console that refuses nothing prints what is plain. -/
theorem printsPlain_lenient : Host.PrintsPlain (Terminal lenient) := fun _ _ w _ => ⟨w, rfl⟩

section Replay

variable (refuses : Console.Line → Bool)

/-- A poller whose source is the snapshot that it brings. -/
def replay : Poller Snapshot (Terminal refuses) where
  name := "replay"
  fetch snapshot w := .ok snapshot (snapshot, w)
  deliver _ w := .ok () w

/-- The state after snapshots, the latest first, each at its time. -/
def reached : List (Snapshot × Instant) → State Snapshot (Terminal refuses)
  | [] => { source := {}, host := ⟨Instant.epoch⟩ }
  | (snapshot, t) :: earlier =>
    ((replay refuses).poll { reached earlier with source := snapshot, host := ⟨t⟩ }).state

/-- The looks at snapshots, the latest first, each at its time. -/
def replayed : List (Snapshot × Instant) → List (State Snapshot (Terminal refuses))
  | [] => []
  | (snapshot, t) :: earlier =>
    { reached refuses earlier with source := snapshot, host := ⟨t⟩ } :: replayed earlier

/-- Snapshots as promised make a run. -/
theorem run_replayed {rows : List (Snapshot × Instant)}
    (h : ∀ row ∈ rows, row.1.Promised ∧ row.2.offset.isSome = true) :
    (replay refuses).Run (replayed refuses rows) (reached refuses rows) := by
  induction rows with
  | nil => exact .start _ rfl rfl rfl (show (1 : Int) ≤ 30 by decide)
  | cons row earlier ih =>
    obtain ⟨hsnapshot, ht⟩ := h row List.mem_cons_self
    exact .look (ih fun r hr => h r (List.mem_cons_of_mem row hr)) row.1 ⟨row.2⟩
      ⟨⟨row.1, rfl, hsnapshot⟩, ht⟩

end Replay

/-- A player that plays a track of four seconds. -/
def jingle (title : String) : Snapshot where
  players := [
    { platform := { device := "d", user := "u" }
      status := some .playing
      play := some
        { title := .text title
          duration := .seconds 4
          device := .text "d"
          user := .text "u" } }]

/-- A source keeps its promise with it, if there is a title. -/
theorem promised_jingle (title : String) (hvalid : (jingle title).validate?.isOk = true) :
    (jingle title).Promised := by
  refine ⟨?_, rfl, fun r hr play hplay => ?_, List.nodup_singleton _⟩
  · cases h : (jingle title).validate? with
    | ok => rfl
    | error e =>
      rw [h] at hvalid
      exact nomatch hvalid
  · obtain rfl := List.mem_singleton.mp hr
    obtain rfl := Option.some.inj hplay
    exact ⟨⟨rfl, (fun _ h => absurd h List.not_mem_nil), rfl, rfl, rfl, rfl⟩, rfl⟩

/-- Two such tracks take turns, every two seconds. -/
def jingles : List (Snapshot × Instant) :=
  [(jingle "b", ⟨6000000, some 0⟩), (jingle "a", ⟨4000000, some 0⟩),
    (jingle "b", ⟨2000000, some 0⟩), (jingle "a", ⟨0, some 0⟩)]

theorem promised_jingles : ∀ row ∈ jingles, row.1.Promised ∧ row.2.offset.isSome = true := by
  have ha := promised_jingle "a" (by decide +kernel)
  have hb := promised_jingle "b" (by decide +kernel)
  exact List.forall_mem_cons.mpr ⟨⟨hb, rfl⟩, List.forall_mem_cons.mpr ⟨⟨ha, rfl⟩,
    List.forall_mem_cons.mpr ⟨⟨hb, rfl⟩, List.forall_mem_singleton.mpr ⟨ha, rfl⟩⟩⟩⟩

/-- **The sessions of two tracks that take turns are handed over exactly once**,
or stood in for. -/
theorem exactlyOnce_jingles :
    (replay lenient).Run (replayed lenient jingles) (reached lenient jingles)
      ∧ (replay lenient).ExactlyOnce [.exact, .close] (replayed lenient jingles) := by
  have hrun := run_replayed lenient promised_jingles
  exact ⟨hrun, Run.exactlyOnce printsPlain_lenient (fun _ w => ⟨w, rfl⟩) hrun
    (by decide +kernel)⟩

/-- The last of the looks at them. -/
def lastLook : State Snapshot (Terminal lenient) :=
  { reached lenient jingles.tail with source := jingle "b", host := ⟨⟨6000000, some 0⟩⟩ }

/-- Whether an answer is yes. -/
def holds : Except Fault Bool → Bool
  | .ok b => b
  | .error _ => false

theorem holds_iff {answer : Except Fault Bool} : holds answer = true ↔ answer = .ok true := by
  cases answer with
  | ok b => exact ⟨congrArg Except.ok, Except.ok.inj⟩
  | error e => exact iff_of_false Bool.false_ne_true fun h => nomatch h

/-- **A session may be stood in for by one that is only close.** The third
session ends after half of its track was heard, and is not handed over: the
first one began four seconds before it. -/
theorem not_exactlyOnce_exact :
    ¬ (replay lenient).ExactlyOnce [.exact] (replayed lenient jingles) := by
  intro h
  obtain ⟨S, y, hS, hy, -, hstood⟩ :=
    h.complete lastLook (replayed lenient jingles.tail) (List.suffix_refl _) "d-u"
      (by decide +kernel)
  have hnumber : S.number = 2 := by
    have hended :
        ((replay lenient).endedSession "d-u" (lastLook :: replayed lenient jingles.tail)).map
        Session.number = some 2 := by decide +kernel
    rw [hS] at hended
    exact Option.some.inj hended
  have hpasses :
      (Players.left (lastLook.player? "d-u") ((replay lenient).after lastLook "d-u")).map
      (fun y => holds (lastLook.reconciler.players.passes? y)) = some true := by decide +kernel
  rw [hy] at hpasses
  rcases hstood (holds_iff.mp (Option.some.inj hpasses)) with
    ⟨h, hh, hsession⟩ | ⟨h, hh, -, -, hsame⟩
  · have hfresh :
        (((replay lenient).handovers (lastLook :: replayed lenient jingles.tail)).all fun h =>
        h.session.map Session.number != some 2) = true := by decide +kernel
    have hne := List.all_eq_true.mp hfresh h hh
    rw [hsession, Option.map_some, hnumber] at hne
    exact absurd hne (by decide)
  · have hapart :
        (Players.left (lastLook.player? "d-u") ((replay lenient).after lastLook "d-u")).map
        (fun y => ((replay lenient).handovers (replayed lenient jingles.tail)).all fun h =>
          !holds (Match.sameListen? h.play y [.exact])) = some true := by decide +kernel
    rw [hy] at hapart
    have hnot := List.all_eq_true.mp (Option.some.inj hapart) h hh
    rw [holds_iff.mpr hsame] at hnot
    exact absurd hnot (by decide)

/-- A track with such a tag in its title, after half of it was heard. -/
def tagged : List (Snapshot × Instant) :=
  [(jingle "Tune [/b]", ⟨2000000, some 0⟩), (jingle "Tune [/b]", ⟨0, some 0⟩)]

/-- The second of the looks at it. -/
def taggedLook : State Snapshot (Terminal strict) :=
  { reached strict tagged.tail with
    source := jingle "Tune [/b]"
    host := ⟨⟨2000000, some 0⟩⟩ }

/-- **A session that cannot be announced is not handed over.** It counts at the
second look, which fails. -/
theorem not_exactlyOnce_tagged :
    ¬ (replay strict).ExactlyOnce [.exact, .close] (replayed strict tagged) := by
  intro h
  obtain ⟨hpolled, -⟩ := h.delivered taggedLook List.mem_cons_self
  have hfailed : ((replay strict).poll taggedLook).result.isOk = false := by decide +kernel
  rw [hpolled] at hfailed
  exact nomatch hfailed

/-- **Neither the plainness of what is announced nor the accuracy can be left
out.** -/
theorem not_exactlyOnce :
    ((replay lenient).Run (replayed lenient jingles) (reached lenient jingles)
      ∧ ¬ (replay lenient).ExactlyOnce [.exact] (replayed lenient jingles))
    ∧ (replay strict).Run (replayed strict tagged) (reached strict tagged)
      ∧ ¬ (replay strict).ExactlyOnce [.exact, .close] (replayed strict tagged) := by
  have htagged := promised_jingle "Tune [/b]" (by decide +kernel)
  exact ⟨⟨run_replayed lenient promised_jingles, not_exactlyOnce_exact⟩,
    run_replayed strict (List.forall_mem_cons.mpr ⟨⟨htagged, rfl⟩,
      List.forall_mem_singleton.mpr ⟨htagged, rfl⟩⟩), not_exactlyOnce_tagged⟩

end Poller

end Listening
