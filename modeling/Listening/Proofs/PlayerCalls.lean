import Listening.Proofs.ListeningStretches

/-!
# What one call does to a player

A player is told something, or looked after: `Player.Call` is what it can be
asked to do. For a sound player and typed plays no call fails, and `Player.Move`
is the inversion of a call: every way in which it can change the play tracked
and its stretches, with the condition under which it does, what it hands out,
and the player it leaves. What holds of players from one call to the next is
read off it, and no operation has to be opened again.

Besides that, a call notes down when and what was reported. That touches
neither the play nor its stretches; `Player.Notes` says so.
-/

namespace Listening.Player

/-- **What a player is asked to do.** -/
inductive Call where
  /-- To take in what the player reports. -/
  | report (status : Option Status) (play : Option Play)
  /-- To take in the track that the player shows. -/
  | observe (play : Play) (status : Status)
  /-- To see whether there was no news for too long. -/
  | checkStale

namespace Call

/-- The track that is shown, and what the player is doing. -/
def shown : Call → Option (Play × Status)
  | .report status (some play) => some (play, status.getD .playing)
  | .observe play status => some (play, status)
  | _ => none

/-- Whether the track that is shown, if one is, is typed. -/
def Typed (call : Call) : Prop := ∀ play status, call.shown = some (play, status) → play.Typed

/-- A typed track that is shown is typed. -/
theorem typed_observe {play : Play} (h : play.Typed) (status : Status) :
    (Call.observe play status).Typed := by
  intro play' status' hshown
  obtain ⟨rfl, -⟩ := Prod.mk.inj (Option.some.inj hshown)
  exact h

/-- **A call**, and what it hands out. -/
def perform (call : Call) (now : Instant) (p : Player) : Step Player Update :=
  match call with
  | .report status play => p.report status play now
  | .observe play status => p.observe play status now
  | .checkStale => (p.checkStale now).andThen fun _ p => .ok {} p

end Call

/-- **A player with other notes**: the play tracked and its stretches are the
same, and so are its limits. -/
structure Notes (p q : Player) : Prop where
  /-- The play is the same. -/
  current : q.current = p.current
  /-- It is tracked since the same time. -/
  firstSeen : q.firstSeen = p.firstSeen
  /-- No other was begun. -/
  begun : q.begun = p.begun
  /-- The closed stretches are the same. -/
  closed : q.closed = p.closed
  /-- So is the open one. -/
  opened : q.opened = p.opened
  /-- So are the limits. -/
  limits : q.limits = p.limits

/-- A player that was heard until now. -/
def heldOpen (now : Instant) (p : Player) : Player :=
  match p.opened with
  | some r => p.holding r r.position now
  | none => p

/-- **The track tracked is shown again**, and the player plays. -/
structure Again (call : Call) (p q : Player) (old play : Play) : Prop where
  /-- It is noted down. -/
  noted : p.Notes q
  /-- The player plays. -/
  playing : q.status = .playing
  /-- A play is tracked. -/
  tracked : p.current = some old
  /-- One is shown. -/
  shown : call.shown = some (play, .playing)
  /-- They are plays of one track. -/
  same : Match.content? old play = .ok true

/-- **What a call does**: what it hands out, and the player it leaves. -/
inductive Move (call : Call) (now : Instant) (p : Player) : Update → Player → Prop where
  /-- Nothing happens to the play. -/
  | rests {q : Player} {u : Update} (noted : p.Notes q) (quiet : call.shown = none)
      (soFar : u.soFar = none ∨ u.soFar = q.played) (finished : u.finished = none) :
      Move call now p u q
  /-- The open stretch is closed: the player does not play, or there was no
  news for too long. -/
  | pauses {q : Player} {u : Update} (noted : p.Notes q)
      (idle : ∀ play status, call.shown = some (play, status) →
        status ≠ .playing ∧ ∃ old, p.current = some old ∧ Match.content? old play = .ok true)
      (soFar : u.soFar = none ∧ call.shown = none ∨ u.soFar = q.shut.played)
      (finished : u.finished = none) :
      Move call now p u q.shut
  /-- A stretch is opened. -/
  | resumes {q : Player} {old play : Play} (again : Again call p q old play)
      (closed : p.opened = none) :
      Move call now p ⟨(q.openRange play.position now).played, none⟩
        (q.openRange play.position now)
  /-- The open stretch goes on. -/
  | goesOn {q : Player} {old play : Play} {r : Range} (again : Again call p q old play)
      (opened : p.opened = some r) (steady : r.seek? play.position now = .ok none) :
      Move call now p ⟨(q.holding r play.position now).played, none⟩
        (q.holding r play.position now)
  /-- The listener moved within the track. -/
  | seeks {q : Player} {old play : Play} {r : Range} {moved : Float}
      (again : Again call p q old play) (opened : p.opened = some r)
      (seek : r.seek? play.position now = .ok (some moved))
      (noRepeat : q.repeated? r play.position moved = .ok none) :
      Move call now p ⟨(q.shut.openRange play.position now).played, none⟩
        (q.shut.openRange play.position now)
  /-- The track begins again, as a new play of what was tracked. -/
  | repeats {q : Player} {old play : Play} {r : Range} {moved : Float}
      (again : Again call p q old play) (opened : p.opened = some r)
      (seek : r.seek? play.position now = .ok (some moved))
      (isRepeat : q.repeated? r play.position moved = .ok (some old)) :
      Move call now p ⟨(q.shut.tracking old play.position now).played, q.shut.played⟩
        (q.shut.tracking old play.position now)
  /-- Another track takes the place of the one tracked, which was heard until
  now. -/
  | replaces {q : Player} {old play : Play} {status : Status} (noted : p.Notes q)
      (doing : q.status = status) (tracked : p.current = some old)
      (shown : call.shown = some (play, status)) (other : Match.content? old play = .ok false) :
      Move call now p
        ⟨((q.heldOpen now).shut.tracking play none now).played, (q.heldOpen now).shut.played⟩
        ((q.heldOpen now).shut.tracking play none now)
  /-- A play is begun where there was none. -/
  | begins {q : Player} {play : Play} {status : Status} (noted : p.Notes q)
      (doing : q.status = status) (untracked : p.current = none)
      (shown : call.shown = some (play, status)) :
      Move call now p ⟨(q.tracking play none now).played, none⟩ (q.tracking play none now)
  /-- The player stops, and the play is forgotten. -/
  | stops {q : Player} {old : Play} (noted : p.Notes q) (tracked : p.current = some old)
      (stopped : call = .report (some .stopped) none) :
      Move call now p ⟨q.shut.played, q.shut.played⟩ q.shut.clear

/-! ## Notes -/

section Notes

variable {platform : String} {p q : Player} {now : Instant}

theorem Notes.sound (h : p.Notes q) (hs : p.Sound platform) : q.Sound platform :=
  ⟨fun play hplay => hs.tracks play (h.current.symm.trans hplay),
    fun play hplay => by
      obtain ⟨t, ht, hoffset⟩ := hs.started play (h.current.symm.trans hplay)
      exact ⟨t, h.firstSeen.trans ht, hoffset⟩,
    fun r hr => hs.closed r (h.closed ▸ hr),
    fun r hr => hs.opened r (h.opened.symm.trans hr)⟩

theorem Notes.keeps (h : p.Notes q) : p.Keeps q := ⟨h.current, h.firstSeen, h.begun⟩

theorem Notes.listenedMicros (h : p.Notes q) : q.listenedMicros = p.listenedMicros := by
  rw [listenedMicros_eq, listenedMicros_eq, h.closed, h.opened]

end Notes

/-! ## Every call is a move -/

section Perform

variable {platform : String} {p q : Player} {now : Instant} {call : Call}

theorem Sound.heldOpen (hs : p.Sound platform) (hnow : now.offset.isSome = true) :
    (p.heldOpen now).Sound platform := by
  unfold Player.heldOpen
  cases hopened : p.opened with
  | none => exact hs
  | some r => exact hs.holding hnow hopened r.position

theorem Sound.hold_eq (hs : p.Sound platform) (hnow : now.offset.isSome = true) :
    p.hold now = .ok () (p.heldOpen now) := by
  unfold Player.hold Player.heldOpen
  cases hopened : p.opened with
  | none => rfl
  | some r => exact hs.extend_eq hnow hopened r.position

@[simp] theorem status_heldOpen (p : Player) (now : Instant) :
    (p.heldOpen now).status = p.status := by
  unfold Player.heldOpen
  split <;> rfl

/-- Replacing the play tracked. -/
theorem Sound.replace_eq (hs : p.Sound platform) (hnow : now.offset.isSome = true) {old : Play}
    (hcurrent : p.current = some old) {play : Play} (hplay : play.Typed) :
    p.replace old play now
      = .ok ⟨((p.heldOpen now).shut.tracking play none now).played,
          (p.heldOpen now).shut.played⟩ ((p.heldOpen now).shut.tracking play none now) := by
  rw [Player.replace_eq (hs.tracks old hcurrent).1 hplay, hs.hold_eq hnow, Step.andThen_ok,
    (hs.heldOpen hnow).closeRange_eq, Step.andThen_ok, begin_eq_tracking hplay, Step.andThen_ok]

/-- **Going on with the play tracked** is one of four moves. -/
theorem Sound.move_goOn (hs : q.Sound platform) (hnow : now.offset.isSome = true)
    {old play : Play} (again : Again call p q old play) :
    ∃ finished p', q.goOn play.position now = .ok finished p'
      ∧ (∃ platform, p'.Sound platform) ∧ Move call now p ⟨p'.played, finished⟩ p' := by
  have hcurrent : q.current = some old := again.noted.current.trans again.tracked
  unfold Player.goOn
  cases hopened : q.opened with
  | none =>
    exact ⟨none, _, rfl, ⟨platform, hs.openRange hnow _⟩,
      .resumes again (again.noted.opened.symm.trans hopened)⟩
  | some r =>
    have hopened' : p.opened = some r := again.noted.opened.symm.trans hopened
    obtain ⟨moved, hmoved⟩ := exists_seek? (hs.opened r hopened).1 hnow play.position
    simp only [hmoved, Step.of]
    cases moved with
    | none =>
      refine ⟨none, q.holding r play.position now, ?_, ⟨platform, hs.holding hnow hopened _⟩,
        .goesOn again hopened' hmoved⟩
      simp only [Step.andThen, hs.extend_eq hnow hopened, Step.ok]
    | some moved =>
      obtain ⟨repeated, hrepeated, htrack⟩ := hs.exists_repeated? r play.position moved
      cases repeated with
      | none =>
        refine ⟨none, q.shut.openRange play.position now, ?_,
          ⟨platform, hs.shut.openRange hnow _⟩, .seeks again hopened' hmoved hrepeated⟩
        simp only [Step.andThen, hrepeated, hs.closeRange_eq, Step.ok]
      | some track =>
        obtain rfl := Option.some.inj ((htrack track rfl).symm.trans hcurrent)
        have htyped := (hs.tracks _ hcurrent).1
        refine ⟨q.shut.played, q.shut.tracking track play.position now, ?_,
          ⟨_, sound_tracking htyped play.position hnow q.shut⟩,
          .repeats again hopened' hmoved hrepeated⟩
        simp only [Step.andThen, hrepeated, hs.closeRange_eq, begin_eq_tracking htyped, Step.ok]

/-- **Every track that is shown is a move.** -/
theorem Sound.move_observe (hs : q.Sound platform) (hnow : now.offset.isSome = true)
    (hnotes : p.Notes q) {play : Play} {status : Status}
    (hshown : call.shown = some (play, status)) (hplay : play.Typed) :
    ∃ u p', q.observe play status now = .ok u p' ∧ (∃ platform, p'.Sound platform)
      ∧ Move call now p u p' := by
  have hnoted : p.Notes (q.noted status now) :=
    ⟨hnotes.current, hnotes.firstSeen, hnotes.begun, hnotes.closed, hnotes.opened, hnotes.limits⟩
  have hs' : (q.noted status now).Sound platform := ⟨hs.tracks, hs.started, hs.closed, hs.opened⟩
  cases hcurrent : q.current with
  | none =>
    refine ⟨_, _, ?_, ⟨_, sound_tracking hplay none hnow (q.noted status now)⟩,
      .begins hnoted rfl (hnotes.current.symm.trans hcurrent) hshown⟩
    rw [observe_of_none hcurrent, begin_eq_tracking hplay, Step.andThen_ok]
  | some old =>
    have htracked : p.current = some old := hnotes.current.symm.trans hcurrent
    have hsame := Match.content?_of_typed (hs.tracks old hcurrent).1 hplay
    rw [observe_of_some hcurrent hsame]
    generalize (!Match.idsDiffer old play && _ && _ && _) = same at hsame
    cases same with
    | false =>
      refine ⟨_, _, hs'.replace_eq hnow hcurrent hplay,
        ⟨_, sound_tracking hplay none hnow _⟩, .replaces hnoted rfl htracked hshown hsame⟩
    | true =>
      by_cases hplaying : status = .playing
      · subst hplaying
        obtain ⟨finished, p', hgoOn, hsound, hmove⟩ :=
          hs'.move_goOn hnow ⟨hnoted, rfl, htracked, hshown, hsame⟩
        refine ⟨⟨p'.played, finished⟩, p', ?_, hsound, hmove⟩
        rw [if_neg (by decide), if_pos rfl, hgoOn, Step.andThen_ok]
      · refine ⟨⟨(q.noted status now).shut.played, none⟩, (q.noted status now).shut, ?_,
          ⟨platform, hs'.shut⟩,
          .pauses hnoted (fun play' status' hshown' => ?_) (Or.inr rfl) rfl⟩
        · rw [if_neg (by decide), if_neg hplaying, hs'.closeRange_eq, Step.andThen_ok]
        · obtain ⟨rfl, rfl⟩ := Prod.mk.inj (Option.some.inj (hshown.symm.trans hshown'))
          exact ⟨hplaying, old, htracked, hsame⟩

/-- **A report without a track is a move.** -/
theorem Sound.move_report (hs : p.Sound platform) (status : Option Status) (now : Instant) :
    ∃ u p', p.report status none now = .ok u p' ∧ (∃ platform, p'.Sound platform)
      ∧ Move (.report status none) now p u p' := by
  cases status with
  | none =>
    have hnoted : p.Notes { p with heard := now } := ⟨rfl, rfl, rfl, rfl, rfl, rfl⟩
    exact ⟨_, _, rfl, ⟨platform, hnoted.sound hs⟩, .rests hnoted rfl (Or.inl rfl) rfl⟩
  | some status =>
    by_cases hstops : status = .stopped ∧ p.status ≠ .stopped ∧ p.current.isSome = true
    · obtain ⟨old, hcurrent⟩ := Option.isSome_iff_exists.mp hstops.2.2
      have hnoted : p.Notes { p with heard := now, status := .stopped, updated := some now } :=
        ⟨rfl, rfl, rfl, rfl, rfl, rfl⟩
      have hs' := hnoted.sound hs
      refine ⟨_, _, ?_, ⟨platform, ?_⟩, .stops hnoted hcurrent (by rw [hstops.1])⟩
      · unfold Player.report
        dsimp only
        rw [if_pos hstops]
        show Step.andThen (Player.closeRange _) _ = _
        rw [hs'.closeRange_eq, Step.andThen_ok]
      · exact ⟨(fun _ h => nomatch h), (fun _ h => nomatch h),
          (fun _ h => absurd h List.not_mem_nil), (fun _ h => nomatch h)⟩
    · have hnoted : p.Notes { p with heard := now, status := status } :=
        ⟨rfl, rfl, rfl, rfl, rfl, rfl⟩
      have hs' := hnoted.sound hs
      unfold Player.report
      dsimp only
      rw [if_neg hstops]
      split
      · exact ⟨_, _, rfl, ⟨platform, hs'⟩, .rests hnoted rfl (Or.inr rfl) rfl⟩
      · rw [hs'.closeRange_eq, Step.andThen_ok]
        exact ⟨_, _, rfl, ⟨platform, hs'.shut⟩,
          .pauses hnoted (fun _ _ h => nomatch h) (Or.inr rfl) rfl⟩

/-- **A look after a player is a move**, whether or not nothing was heard of it
for too long. -/
theorem Sound.move_checkStale (hs : p.Sound platform) (now : Instant) :
    ∃ u p', Call.checkStale.perform now p = .ok u p' ∧ (∃ platform, p'.Sound platform)
      ∧ Move .checkStale now p u p' := by
  have hnoted : p.Notes { p with isStale := true } := ⟨rfl, rfl, rfl, rfl, rfl, rfl⟩
  have hs' := hnoted.sound hs
  unfold Call.perform Player.checkStale
  dsimp only
  split
  · rw [hs'.closeRange_eq, Step.andThen_ok, Step.andThen_ok]
    exact ⟨_, _, rfl, ⟨platform, hs'.shut⟩,
      .pauses hnoted (fun _ _ h => nomatch h) (Or.inl ⟨rfl, rfl⟩) rfl⟩
  · exact ⟨_, _, rfl, ⟨platform, hs⟩, .rests ⟨rfl, rfl, rfl, rfl, rfl, rfl⟩ rfl (Or.inl rfl) rfl⟩

/-- **Every call is a move**, and none fails. -/
theorem Sound.move_perform (hs : p.Sound platform) (hnow : now.offset.isSome = true)
    (htyped : call.Typed) :
    ∃ u p', call.perform now p = .ok u p' ∧ (∃ platform, p'.Sound platform)
      ∧ Move call now p u p' := by
  cases call with
  | report status play =>
    cases play with
    | none => exact hs.move_report status now
    | some play =>
      have hnoted : p.Notes { p with heard := now } := ⟨rfl, rfl, rfl, rfl, rfl, rfl⟩
      exact (hnoted.sound hs).move_observe hnow hnoted rfl (htyped play _ rfl)
  | observe play status =>
    exact hs.move_observe hnow ⟨rfl, rfl, rfl, rfl, rfl, rfl⟩ rfl (htyped play status rfl)
  | checkStale => exact hs.move_checkStale now

/-- **A call that was made was a move.** -/
theorem Sound.move_of_performed (hs : p.Sound platform) (hnow : now.offset.isSome = true)
    (htyped : call.Typed) {u : Update} {p' : Player}
    (performed : call.perform now p = .ok u p') :
    (∃ platform, p'.Sound platform) ∧ Move call now p u p' := by
  obtain ⟨v, q, hperformed, hsound, hmove⟩ := hs.move_perform hnow htyped
  have he := performed.symm.trans hperformed
  obtain rfl := Except.ok.inj (congrArg Step.result he)
  obtain rfl := congrArg Step.state he
  exact ⟨hsound, hmove⟩

end Perform

end Listening.Player
