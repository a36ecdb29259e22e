import Listening.Players
import Listening.Proofs.SessionReports
import Mathlib.Data.List.Nodup

/-!
# What one look brings

A look at the players of a source hands every report to its own player and
tends the players that were not reported; then the ledger lets those plays
through that it does not know. Every one of these steps is about one platform
and leaves the others alone, so that a row of steps for different platforms
can be told step by step: `Step.forEach_of_names` is that in general.

`Players.Outcome` says what a look did to the play tracked on one platform.
-/

namespace Listening

/-! ## Rows of steps -/

/-- **A row of steps, each for a name of its own.** If every step succeeds,
keeps what is relied on and leaves the other names alone, then the row
succeeds, and each step has had its effect on its name and given its
answer. -/
theorem Step.forEach_of_names {σ α β γ : Type} {f : α → σ → Step σ (Option β)}
    {name : α → String} (get : σ → String → γ) (good : σ → Prop)
    (effect : α → γ → γ → Option β → Prop) {as : List α}
    (hstep : ∀ a ∈ as, ∀ s, good s → ∃ b s', f a s = .ok b s' ∧ good s'
      ∧ (∀ n, n ≠ name a → get s' n = get s n) ∧ effect a (get s (name a)) (get s' (name a)) b)
    (hnames : (as.map name).Nodup) {s : σ} (hs : good s) :
    ∃ (answer : String → Option β) (s' : σ),
      Step.forEach f as s = .ok (as.map fun a => answer (name a)) s' ∧ good s'
      ∧ (∀ n, n ∉ as.map name → get s' n = get s n ∧ answer n = none)
      ∧ ∀ a ∈ as, effect a (get s (name a)) (get s' (name a)) (answer (name a)) := by
  induction as generalizing s with
  | nil =>
    exact ⟨fun _ => none, s, rfl, hs, fun _ _ => ⟨rfl, rfl⟩,
      fun _ h => absurd h List.not_mem_nil⟩
  | cons a rest ih =>
    obtain ⟨hfresh, hrest⟩ := List.nodup_cons.mp hnames
    obtain ⟨b, s₁, hb, hs₁, hothers, heffect⟩ := hstep a List.mem_cons_self s hs
    obtain ⟨answer, s', hanswer, hs', hothers', heffects⟩ :=
      ih (fun a' ha' => hstep a' (List.mem_cons_of_mem a ha')) hrest hs₁
    -- what the first step has done to its name, the others leave as it is
    have hne : ∀ a' ∈ rest, name a' ≠ name a := by
      intro a' ha' e
      exact hfresh (e ▸ List.mem_map_of_mem ha')
    refine ⟨fun n => if n = name a then b else answer n, s', ?_, hs', fun n hn => ?_,
      fun a' ha' => ?_⟩
    · have hmap : (rest.map fun a' => if name a' = name a then b else answer (name a'))
          = rest.map fun a' => answer (name a') :=
        List.map_congr_left (fun a' ha' => if_neg (hne a' ha'))
      rw [Step.forEach, hb, Step.andThen_ok, hanswer, Step.andThen_ok, List.map_cons, hmap]
      exact congrArg (fun c => Step.ok (c :: _) s') (if_pos rfl).symm
    · obtain ⟨hn', hn''⟩ := not_or.mp (fun h => hn (List.mem_cons.mpr h))
      obtain ⟨hget, hnone⟩ := hothers' n hn''
      exact ⟨hget.trans (hothers n hn'), (if_neg hn').trans hnone⟩
    · dsimp only
      rcases List.mem_cons.mp ha' with rfl | ha'
      · rw [if_pos rfl, (hothers' _ hfresh).1]
        exact heffect
      · rw [if_neg (hne a' ha'), ← hothers _ (hne a' ha')]
        exact heffects a' ha'

namespace Players

/-! ## Candidates -/

variable {ps : Players} {name : String} {now : Instant}

/-- What counts as listened to long enough does not depend on the players. -/
theorem passes?_congr {ps ps' : Players} (h : ps'.listened = ps.listened) (play : Play) :
    ps'.passes? play = ps.passes? play := by
  unfold passes?
  rw [h]

/-- What is a candidate does not depend on the players. -/
theorem candidate?_congr {ps ps' : Players} (h : ps'.listened = ps.listened)
    (play : Option Play) : ps'.candidate? play = ps.candidate? play := by
  cases play with
  | none => rfl
  | some play =>
    unfold candidate?
    simp only [passes?_congr h]

/-- Whether an entry was listened to for long enough. -/
theorem exists_passes? {play : Play} (h : play.Entry) (ps : Players) :
    ∃ passes, ps.passes? play = .ok passes := by
  obtain ⟨elapsed, helapsed⟩ := Amount.counted?_of_isNumeric h.listened
  obtain ⟨length, hlength⟩ := Amount.counted?_of_isNumeric h.duration
  obtain ⟨line, hline⟩ := h.exists_describe?
  unfold passes? Threshold.check?
  rw [helapsed, hlength, hline]
  exact ⟨_, rfl⟩

/-- **An entry is a candidate exactly if it was listened to for long
enough.** -/
theorem candidate?_of_entry {play : Play} (h : play.Entry) (ps : Players) :
    ∃ c, ps.candidate? (some play) = .ok c
      ∧ ∀ x, c = some x ↔ x = play ∧ ps.passes? play = .ok true := by
  obtain ⟨passes, hpasses⟩ := exists_passes? h ps
  refine ⟨if passes = true then some play else none, ?_, fun x => ?_⟩
  · unfold candidate?
    simp only [hpasses, Bind.bind, Except.bind]
  · cases passes with
    | true =>
      exact ⟨fun e => ⟨(Option.some.inj e).symm, hpasses⟩, fun e => congrArg some e.1.symm⟩
    | false =>
      refine iff_of_false (fun e => nomatch e) (fun e => ?_)
      rw [hpasses] at e
      exact nomatch e.2

/-! ## Plays that begin and end -/

/-- Whether a play was begun on a platform, by its player before and
after. -/
def began (before after : Option Player) : Bool :=
  match after with
  | none => false
  | some q => q.current.isSome && match before with
    | none => true
    | some p => p.begun != q.begun

/-- Whether the play tracked on a platform ended. -/
def ended (before after : Option Player) : Bool :=
  match before with
  | none => false
  | some p => p.current.isSome && match after with
    | none => true
    | some q => !(q.current.isSome && p.begun == q.begun)

/-- **The play that ended on a platform, as it was left**: what its player
keeps as the play before, or knew when it was removed. -/
def left (before after : Option Player) : Option Play :=
  match after with
  | some q => q.former
  | none => before.bind fun p => p.closeRange.state.played

/-- Whether a candidate is a listen of a play that was listened to for long
enough. -/
def IsCandidate (ps : Players) (name : String) (track : Play) (start : Instant)
    (c : Option Play) : Prop :=
  ∀ x, c = some x → track.IsListenOf start x ∧ x.Entry ∧ x.platform.name = name
    ∧ ps.passes? x = .ok true

/-- **What a look did to the play tracked on a platform**, and the candidate
it made. -/
inductive Outcome (ps : Players) (name : String) (now : Instant) (before after : Option Player)
    (c : Option Play) : Prop where
  /-- There was none and there is none. -/
  | idle (wasIdle : before.bind Player.current = none)
    (isIdle : after.bind Player.current = none)
      (silent : c = none)
  /-- One was begun where there was none. -/
  | begins (q : Player) (track : Play) (wasIdle : before.bind Player.current = none)
      (isAfter : after = some q) (current : q.current = some track)
      (since : q.firstSeen = some now)
      (isNew : ∀ p, before = some p → p.begun ≠ q.begun)
      (candidate : ps.IsCandidate name track now c)
  /-- It is the same. -/
  | goesOn (p q : Player) (track : Play) (start : Instant) (isBefore : before = some p)
      (isAfter : after = some q) (current : p.current = some track)
      (since : p.firstSeen = some start) (keeps : p.Keeps q)
      (candidate : ps.IsCandidate name track start c)
  /-- It ended, and it is the candidate if it was listened to for long
  enough. -/
  | ends (p : Player) (track : Play) (start : Instant) (y : Play) (isBefore : before = some p)
      (current : p.current = some track) (since : p.firstSeen = some start)
      (next : ∀ q, after = some q → q.current = none
        ∨ (∃ track', q.current = some track') ∧ q.firstSeen = some now ∧ p.begun ≠ q.begun)
      (isLeft : left before after = some y) (listen : track.IsListenOf start y) (entry : y.Entry)
      (platform : y.platform.name = name)
      (candidate : ∀ x, c = some x ↔ x = y ∧ ps.passes? y = .ok true)

/-! ## Looks -/

/-- **Players that can be relied on**: one for each platform, and all of them
sound. -/
structure Sound (listened : Threshold.Listened) (ps : Players) : Prop where
  /-- There is one player for each platform. -/
  keys : (ps.players.map Prod.fst).Nodup
  /-- Every player is sound. -/
  player : ∀ name p, ps.player? name = some p → p.Sound name
  /-- From when on a play counts. -/
  counts : ps.listened = listened

/-- A player that was put is found. -/
theorem player?_put_self (name : String) (ps : Players) (p : Player) :
    (ps.put name p).player? name = some p :=
  Entries.lookup_put_self name p ps.players

/-- Players of other names are as they were when one is put. -/
theorem player?_put_of_ne {name other : String} (h : other ≠ name) (ps : Players) (p : Player) :
    (ps.put name p).player? other = ps.player? other :=
  Entries.lookup_put_of_ne h p ps.players

/-- Putting a sound player keeps the players sound. -/
theorem Sound.put {listened : Threshold.Listened} (hs : ps.Sound listened) {p : Player}
    (hp : p.Sound name) : (ps.put name p).Sound listened where
  keys := by
    by_cases hmem : name ∈ ps.players.map Prod.fst
    · show ((Entries.put name p ps.players).map Prod.fst).Nodup
      rw [Entries.keys_put_of_mem hmem]
      exact hs.keys
    · show ((Entries.put name p ps.players).map Prod.fst).Nodup
      rw [Entries.put_of_notMem hmem, List.map_append]
      refine List.nodup_append.mpr ⟨hs.keys, List.nodup_singleton _, fun a ha b hb => ?_⟩
      obtain rfl : b = name := List.mem_singleton.mp hb
      rintro rfl
      exact hmem ha
  player := by
    intro other q hq
    by_cases hne : other = name
    · subst hne
      rw [player?_put_self] at hq
      exact Option.some.inj hq ▸ hp
    · rw [player?_put_of_ne hne] at hq
      exact hs.player other q hq
  counts := hs.counts

/-- What is removed is not found, and everything else as it was. -/
theorem lookup_filter_ne {α : Type} (name n : String) (entries : List (String × α)) :
    (entries.filter (·.1 != name)).lookup n = if n = name then none else entries.lookup n := by
  induction entries with
  | nil => exact (ite_self _).symm
  | cons e rest ih =>
    obtain ⟨k, v⟩ := e
    by_cases hk : k = name
    · subst hk
      have hdrop : ((k, v).1 != k) = false := by simp
      rw [List.filter_cons, hdrop, if_neg Bool.false_ne_true, ih]
      by_cases hn : n = k
      · rw [if_pos hn, if_pos hn]
      · have hapart : (n == k) = false := by simpa using hn
        rw [if_neg hn, if_neg hn, List.lookup_cons, hapart]
    · have hkeep : ((k, v).1 != name) = true := by simpa using hk
      rw [List.filter_cons, if_pos hkeep, List.lookup_cons, List.lookup_cons, ih]
      by_cases hnk : n = k
      · subst hnk
        rw [beq_self_eq_true, if_neg hk, if_neg hk]
      · have hapart : (n == k) = false := by simpa using hnk
        rw [hapart]

/-- A player that was removed is not found, and others are as they were. -/
theorem player?_remove (name n : String) (ps : Players) :
    (ps.remove name).player? n = if n = name then none else ps.player? n :=
  lookup_filter_ne name n ps.players

/-- Removing a player keeps the players sound. -/
theorem Sound.remove {listened : Threshold.Listened} (hs : ps.Sound listened) (name : String) :
    (ps.remove name).Sound listened where
  keys := hs.keys.sublist (List.filter_sublist.map Prod.fst)
  player := by
    intro n p hp
    rw [player?_remove] at hp
    split at hp
    · exact nomatch hp
    · exact hs.player n p hp
  counts := hs.counts

/-- The player of a platform is sound: the one there is, or a new one. -/
theorem Sound.playerFor {listened : Threshold.Listened} (hs : ps.Sound listened)
    (platform : Platform) (now : Instant) :
    (ps.playerFor platform now).Sound platform.name
      ∧ (ps.player? platform.name = some (ps.playerFor platform now)
        ∨ ps.player? platform.name = none ∧ (ps.playerFor platform now).current = none) := by
  unfold Players.playerFor
  cases hp : ps.player? platform.name with
  | none => exact ⟨Player.sound_fresh platform ps.limits now, Or.inr ⟨rfl, rfl⟩⟩
  | some p => exact ⟨hs.player platform.name p hp, Or.inl rfl⟩

/-- **A report as a source promises it**: the play it shows is typed and of
the platform of the player. -/
def IsPromised (r : Report) : Prop :=
  ∀ play, r.play = some play → play.Typed ∧ play.platform.name = r.platform.name

/-- The position of a report makes no difference to what is promised. -/
theorem IsPromised.positioned {r : Report} (hr : IsPromised r) {shown : Play}
    (h : positioned r = some shown) :
    shown.Typed ∧ shown.platform.name = r.platform.name := by
  obtain ⟨play, hplay, rfl⟩ := Option.map_eq_some_iff.mp h
  obtain ⟨htyped, hplatform⟩ := hr play hplay
  exact ⟨⟨htyped.title, htyped.artists, htyped.album, htyped.duration, htyped.source,
    htyped.trackId⟩, hplatform⟩

/-- What a player shows of its play makes a candidate or none. -/
theorem exists_candidate? {q : Player} (hq : q.Sound name) {track : Play}
    (hcurrent : q.current = some track) {start : Instant} (hstart : q.firstSeen = some start)
    {soFar : Option Play} (hsoFar : soFar = none ∨ soFar = q.played) (ps : Players) :
    ∃ c, ps.candidate? soFar = .ok c ∧ ps.IsCandidate name track start c := by
  obtain ⟨x, hx, hlisten, hentry, hplatform⟩ := hq.played hcurrent hstart
  rcases hsoFar with rfl | rfl
  · exact ⟨none, rfl, fun _ h => nomatch h⟩
  · obtain ⟨c, hc, hiff⟩ := candidate?_of_entry hentry ps
    refine ⟨c, by rw [hx, hc], fun y hy => ?_⟩
    obtain ⟨rfl, hpasses⟩ := (hiff y).mp hy
    exact ⟨hlisten, hentry, hplatform, hpasses⟩

/-- **A turn of a player has an outcome**, and its candidate is the play that
ended, or else the one that goes on. -/
theorem Outcome.of_turn {before : Option Player} {p p' : Player} {u : Player.Update}
    (hbefore : before = some p ∨ before = none ∧ p.current = none) (hp : p.Sound name)
    (hp' : p'.Sound name) (hturn : Player.Turn name now p p' u) (ps : Players) :
    ∃ c, ps.candidate? (u.finished <|> u.soFar) = .ok c
      ∧ ps.Outcome name now before (some p') c := by
  -- a player that is new to the look tracks nothing yet
  have hidle : p.current = none → before.bind Player.current = none := by
    intro h
    rcases hbefore with rfl | ⟨rfl, -⟩
    · exact h
    · rfl
  have hknown : ∀ {track}, p.current = some track → before = some p := by
    intro track h
    rcases hbefore with hb | ⟨-, hnone⟩
    · exact hb
    · exact absurd (h.symm.trans hnone) (Option.some_ne_none track)
  cases hturn with
  | keeps same soFar finished =>
    rw [finished]
    cases hcurrent : p.current with
    | none =>
      have hcurrent' : p'.current = none := same.current.trans hcurrent
      have hnothing : u.soFar = none := by
        rcases soFar with h | h
        · exact h
        · rw [h, Player.played, hcurrent']
          rfl
      rw [hnothing]
      exact ⟨none, rfl, .idle (hidle hcurrent) hcurrent' rfl⟩
    | some track =>
      obtain ⟨start, hstart, -⟩ := hp.started track hcurrent
      obtain ⟨c, hc, hcandidate⟩ := exists_candidate? hp' (same.current.trans hcurrent)
        (same.firstSeen.trans hstart) soFar ps
      exact ⟨c, hc, .goesOn p p' track start (hknown hcurrent) rfl hcurrent hstart same
        hcandidate⟩
  | begins track idle begun soFar finished =>
    rw [finished]
    obtain ⟨c, hc, hcandidate⟩ :=
      exists_candidate? hp' begun.current begun.firstSeen (Or.inr soFar) ps
    refine ⟨c, hc, .begins p' track (hidle idle) rfl begun.current begun.firstSeen
      (fun p₀ hp₀ => ?_) hcandidate⟩
    rcases hbefore with rfl | ⟨rfl, -⟩
    · obtain rfl := Option.some.inj hp₀
      rw [begun.begun]
      exact Nat.ne_of_lt (Nat.lt_succ_self _)
    · exact absurd hp₀.symm (Option.some_ne_none p₀)
  | ends y ended after finished =>
    obtain ⟨track, start, hcurrent, hstart, hlisten⟩ := ended.listen
    obtain ⟨c, hc, hcandidate⟩ := candidate?_of_entry ended.entry ps
    rw [finished]
    refine ⟨c, hc, .ends p track start y (hknown hcurrent) hcurrent hstart (fun q hq => ?_)
      ended.former hlisten ended.entry ended.platform hcandidate⟩
    obtain rfl := Option.some.inj hq
    refine after.imp id ?_
    rintro ⟨track', begun⟩
    refine ⟨⟨track', begun.current⟩, begun.firstSeen, ?_⟩
    rw [begun.begun]
    exact Nat.ne_of_lt (Nat.lt_succ_self _)

/-- **Taking in a report** never fails, and has an outcome on its
platform. -/
theorem Sound.take {ps₀ : Players} (hs : ps.Sound ps₀.listened) (hnow : now.offset.isSome = true)
    {r : Report} (hr : IsPromised r) :
    ∃ c ps', ps.take now r = .ok c ps' ∧ ps'.Sound ps₀.listened
      ∧ (∀ n, n ≠ r.platform.name → ps'.player? n = ps.player? n)
      ∧ ps₀.Outcome r.platform.name now (ps.player? r.platform.name)
        (ps'.player? r.platform.name) c := by
  obtain ⟨hp, hbefore⟩ := hs.playerFor r.platform now
  obtain ⟨u, p', hreport, hp', hturn⟩ :=
    hp.report hnow r.status (fun shown h => hr.positioned h)
  obtain ⟨c, hc, houtcome⟩ := Outcome.of_turn hbefore hp hp' hturn ps₀
  have hs' := hs.put hp'
  refine ⟨c, ps.put r.platform.name p', ?_, hs', fun n hn => player?_put_of_ne hn ps p', ?_⟩
  · unfold Players.take
    dsimp only
    rw [hreport]
    show Step.of ((ps.put r.platform.name p').candidate? _) _ = _
    rw [candidate?_congr hs'.counts, hc]
    rfl
  · rw [player?_put_self]
    exact houtcome

/-- A player that keeps its play has no news of it. -/
theorem Outcome.of_keeps {p q : Player} (hp : p.Sound name) (hkeeps : p.Keeps q) (ps : Players)
    (now : Instant) : ps.Outcome name now (some p) (some q) none := by
  cases hcurrent : p.current with
  | none => exact .idle hcurrent (hkeeps.current.trans hcurrent) rfl
  | some track =>
    obtain ⟨start, hstart, -⟩ := hp.started track hcurrent
    exact .goesOn p q track start rfl rfl hcurrent hstart hkeeps (fun _ h => nomatch h)

/-- Where nothing happens, nothing begins or ends. -/
theorem Sound.outcome_self (hs : ps.Sound ps.listened) (name : String) (now : Instant) :
    ps.Outcome name now (ps.player? name) (ps.player? name) none := by
  cases hplayer : ps.player? name with
  | none => exact .idle rfl rfl rfl
  | some q => exact .of_keeps (hs.player name q hplayer) (Player.Keeps.refl q) ps now

/-- **A player that is removed** loses its play, which is left as it was when
the open stretch was closed. -/
theorem Outcome.of_removed {p q : Player} (hp : p.Sound name) (hq : p.closeRange = .ok () q)
    (hq' : q.Sound name) (hkeeps : p.Keeps q) (ps : Players) (now : Instant) :
    ∃ c, ps.candidate? q.played = .ok c ∧ ps.Outcome name now (some p) none c := by
  cases hcurrent : p.current with
  | none =>
    have hnothing : q.played = none := by
      rw [Player.played, hkeeps.current, hcurrent]
      rfl
    exact ⟨none, by rw [hnothing]; rfl, .idle hcurrent rfl rfl⟩
  | some track =>
    obtain ⟨start, hstart, -⟩ := hp.started track hcurrent
    obtain ⟨y, hy, hlisten, hentry, hplatform⟩ :=
      hq'.played (hkeeps.current.trans hcurrent) (hkeeps.firstSeen.trans hstart)
    obtain ⟨c, hc, hcandidate⟩ := candidate?_of_entry hentry ps
    have hleft : left (some p) none = some y := by
      show p.closeRange.state.played = some y
      rw [hq]
      exact hy
    exact ⟨c, by rw [hy, hc], .ends p track start y rfl hcurrent hstart
      (fun _ h => absurd h.symm (Option.some_ne_none _)) hleft hlisten hentry
      hplatform hcandidate⟩

/-- Putting a player and removing it removes it. -/
theorem player?_put_remove (name n : String) (ps : Players) (p : Player) :
    ((ps.put name p).remove name).player? n = if n = name then none else ps.player? n := by
  rw [player?_remove]
  by_cases hn : n = name
  · rw [if_pos hn, if_pos hn]
  · rw [if_neg hn, if_neg hn, player?_put_of_ne hn]

/-- **Tending a player that was not reported** never fails. It keeps its play
or, if it is gone for good, loses it and is removed. -/
theorem Sound.tend {ps₀ : Players} (hs : ps.Sound ps₀.listened) (now : Instant)
    (name : String) :
    ∃ c ps', ps.tend now name = .ok c ps' ∧ ps'.Sound ps₀.listened
      ∧ (∀ n, n ≠ name → ps'.player? n = ps.player? n)
      ∧ ps₀.Outcome name now (ps.player? name) (ps'.player? name) c := by
  unfold Players.tend
  cases hplayer : ps.player? name with
  | none =>
    refine ⟨none, ps, rfl, hs, fun _ _ => rfl, ?_⟩
    rw [hplayer]
    exact .idle rfl rfl rfl
  | some p =>
    have hp := hs.player name p hplayer
    dsimp only
    by_cases hdead : p.isDead now = true
    · rw [if_pos hdead]
      obtain ⟨q, hq, hq', hkeeps⟩ := hp.closeRange
      obtain ⟨c, hc, houtcome⟩ := Outcome.of_removed hp hq hq' hkeeps ps₀ now
      refine ⟨c, (ps.put name q).remove name, ?_, (hs.put hq').remove name, fun n hn => ?_, ?_⟩
      · simp only [hq, Step.ok, Step.within, Step.andThen, Step.of, player?_put_self,
          Option.bind_some, candidate?_congr (hs.put hq').counts, hc]
      · rw [player?_put_remove, if_neg hn]
      · rw [player?_put_remove, if_pos rfl]
        exact houtcome
    · rw [if_neg hdead]
      obtain ⟨stale, p', hstale, hp', hkeeps⟩ := hp.checkStale now
      rw [hstale]
      refine ⟨none, ps.put name p', rfl, hs.put hp', fun n hn => player?_put_of_ne hn ps p', ?_⟩
      rw [player?_put_self]
      exact .of_keeps hp hkeeps ps₀ now

/-- The candidate of a platform is of that platform. -/
theorem Outcome.platform_eq {before after : Option Player} {c : Option Play}
    (h : ps.Outcome name now before after c) {x : Play} (hx : c = some x) :
    x.platform.name = name := by
  cases h with
  | idle wasIdle isIdle silent => exact nomatch silent.symm.trans hx
  | begins q track wasIdle isAfter current since isNew candidate => exact (candidate x hx).2.2.1
  | goesOn p q track start isBefore isAfter current since keeps candidate =>
    exact (candidate x hx).2.2.1
  | ends p track start y isBefore current since next isLeft listen entry platform candidate =>
    rw [((candidate x).mp hx).1]
    exact platform

/-- A candidate is an entry that was listened to for long enough. -/
theorem Outcome.entry_of_candidate {before after : Option Player} {c : Option Play}
    (h : ps.Outcome name now before after c) {x : Play} (hx : c = some x) :
    x.Entry ∧ ps.passes? x = .ok true := by
  cases h with
  | idle wasIdle isIdle silent => exact nomatch silent.symm.trans hx
  | begins q track wasIdle isAfter current since isNew candidate =>
    exact ⟨(candidate x hx).2.1, (candidate x hx).2.2.2⟩
  | goesOn p q track start isBefore isAfter current since keeps candidate =>
    exact ⟨(candidate x hx).2.1, (candidate x hx).2.2.2⟩
  | ends p track start y isBefore current since next isLeft listen entry platform candidate =>
    obtain ⟨rfl, hpasses⟩ := (candidate x).mp hx
    exact ⟨entry, hpasses⟩

/-- At most one play for each of some names, in the order of the names. -/
theorem sublist_of_names {answer : String → Option Play}
    (h : ∀ n x, answer n = some x → x.platform.name = n) (names : List String) :
    (((names.map answer).filterMap id).map fun x => x.platform.name).Sublist names := by
  induction names with
  | nil => exact List.Sublist.refl _
  | cons n rest ih =>
    rw [List.map_cons]
    cases ha : answer n with
    | none => exact (List.filterMap_cons_none (f := id) rfl ▸ ih).cons n
    | some x =>
      rw [List.filterMap_cons_some (f := id) rfl, List.map_cons, h n x ha]
      exact ih.cons_cons n

/-- The plays collected from names are those that the names have for an answer.
-/
theorem mem_filterMap_of_names {answer : String → Option Play}
    (h : ∀ n x, answer n = some x → x.platform.name = n) {names : List String}
    (hnone : ∀ n, n ∉ names → answer n = none) (x : Play) :
    x ∈ (names.map answer).filterMap id ↔ answer x.platform.name = some x := by
  simp only [List.mem_filterMap, List.mem_map, id_eq, exists_eq_right]
  constructor
  · rintro ⟨n, -, hn⟩
    rw [h n x hn]
    exact hn
  · intro hx
    refine ⟨x.platform.name, ?_, hx⟩
    by_contra hn
    exact nomatch (hnone _ hn).symm.trans hx

/-- The platforms that are known but not among some names. -/
def silent (ps : Players) (names : List String) : List String :=
  (ps.players.map (·.1)).filter fun name => !names.contains name

/-- No platform that is known but not among some names is one of these. -/
theorem notMem_of_mem_silent {names : List String} (h : name ∈ ps.silent names) :
    name ∉ names := by
  have hname := (List.mem_filter.mp h).2
  rw [Bool.not_eq_true', List.contains_eq_mem, decide_eq_false_iff_not] at hname
  exact hname

/-- Whoever is neither among the names nor silent is not known. -/
theorem player?_of_notMem_silent {names : List String} (hname : name ∉ names)
    (h : name ∉ ps.silent names) : ps.player? name = none := by
  refine List.lookup_eq_none_iff.mpr fun entry hentry => bne_iff_ne.mpr ?_
  rintro rfl
  refine h (List.mem_filter.mpr ⟨List.mem_map_of_mem hentry, ?_⟩)
  rw [Bool.not_eq_true', List.contains_eq_mem]
  exact decide_eq_false hname

/-- No platform is silent twice. -/
theorem Sound.nodup_silent {listened : Threshold.Listened} (hs : ps.Sound listened)
    (names : List String) : (ps.silent names).Nodup :=
  hs.keys.sublist List.filter_sublist

/-- **What one look does to the players**: it never fails, and it has an
outcome on every platform, whose candidates are those of the look. -/
theorem Sound.process (hs : ps.Sound ps.listened) (hnow : now.offset.isSome = true)
    {reports : List Report} (hreports : ∀ r ∈ reports, IsPromised r)
    (hnames : (reports.map fun r => r.platform.name).Nodup) :
    ∃ (candidate : String → Option Play) (cs : List Play) (ps' : Players),
      ps.process reports now = .ok cs ps' ∧ ps'.Sound ps.listened
      ∧ (∀ n, ps.Outcome n now (ps.player? n) (ps'.player? n) (candidate n))
      ∧ (∀ x, x ∈ cs ↔ candidate x.platform.name = some x)
      ∧ (cs.map fun x => x.platform.name).Nodup := by
  obtain ⟨shown, ps₁, htake, hs₁, hothers₁, heffect₁⟩ :=
    Step.forEach_of_names player? (Players.Sound ps.listened)
      (fun r before after c => ps.Outcome r.platform.name now before after c)
      (fun r hr s hs => hs.take hnow (hreports r hr)) hnames hs
  obtain ⟨names, hnames'⟩ : ∃ names, names = reports.map fun r => r.platform.name := ⟨_, rfl⟩
  rw [← hnames'] at hothers₁ hnames
  have hsilent : ((ps₁.silent names).map fun n => n).Nodup :=
    (List.map_id' _).symm ▸ hs₁.nodup_silent names
  obtain ⟨kept, ps₂, htend, hs₂, hothers₂, heffect₂⟩ :=
    Step.forEach_of_names player? (Players.Sound ps.listened)
      (fun n before after c => ps.Outcome n now before after c)
      (fun n _ s hs => hs.tend now n) hsilent hs₁
  simp only [List.map_id'] at hothers₂ hsilent
  -- a platform is reported, or silent, or was never seen
  have houtcome : ∀ n, ps.Outcome n now (ps.player? n) (ps₂.player? n)
      ((shown n).or (kept n)) := by
    intro n
    by_cases hn : n ∈ names
    · have hquiet : n ∉ ps₁.silent names := fun h => notMem_of_mem_silent h hn
      rw [hnames'] at hn
      obtain ⟨r, hr, rfl⟩ := List.mem_map.mp hn
      rw [(hothers₂ _ hquiet).1, (hothers₂ _ hquiet).2, Option.or_none]
      exact heffect₁ r hr
    · rw [(hothers₁ n hn).2, ← (hothers₁ n hn).1]
      by_cases hn' : n ∈ ps₁.silent names
      · exact heffect₂ n hn'
      · rw [(hothers₂ n hn').1, (hothers₂ n hn').2, player?_of_notMem_silent hn hn']
        exact .idle rfl rfl rfl
  have hplatform : ∀ n x, (shown n).or (kept n) = some x → x.platform.name = n :=
    fun n x hx => (houtcome n).platform_eq hx
  have hcs : (reports.map fun r => shown r.platform.name) ++ (ps₁.silent names).map kept
      = (names ++ ps₁.silent names).map fun n => (shown n).or (kept n) := by
    rw [List.map_append, hnames', List.map_map, ← hnames']
    refine congrArg₂ _ (List.map_congr_left fun r hr => ?_) (List.map_congr_left fun n hn => ?_)
    · have hr' : r.platform.name ∈ names := hnames' ▸ List.mem_map_of_mem hr
      show _ = (shown _).or (kept _)
      rw [(hothers₂ _ fun h => notMem_of_mem_silent h hr').2, Option.or_none]
    · rw [(hothers₁ n (notMem_of_mem_silent hn)).2, Option.none_or]
  refine ⟨fun n => (shown n).or (kept n), _, ps₂, ?_, hs₂, houtcome,
    mem_filterMap_of_names hplatform (fun n (hn : n ∉ names ++ ps₁.silent names) => ?_),
    List.Sublist.nodup (sublist_of_names hplatform (names ++ ps₁.silent names)) ?_⟩
  · unfold Players.process
    rw [htake, Step.andThen_ok, ← hnames']
    show Step.andThen (Step.forEach (Players.tend now) (ps₁.silent names) ps₁) _ = _
    rw [htend, Step.andThen_ok, hcs]
  · rw [List.mem_append, not_or] at hn
    rw [(hothers₁ n hn.1).2, (hothers₂ n hn.2).2, Option.none_or]
  · exact List.nodup_append.mpr
      ⟨hnames, hsilent, fun a ha b hb hab => notMem_of_mem_silent hb (hab ▸ ha)⟩

end Players

end Listening
