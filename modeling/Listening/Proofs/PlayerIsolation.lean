import Listening.Proofs.PlayerCalls
import Listening.Proofs.PlayerLooks

/-!
# Players do not disturb each other

All players of a source are looked after together: one row of reports is
taken in, the players that are missing from it are tended, and some are
removed on the way. Yet what becomes of one player is decided by its own
reports alone. If those of all other platforms had never been made, its state
would be the same after every look, and so would its candidates
(`Players.isolated`).

Two runs are compared for this, and `Players.only` relates them: the players
of the run without the other platforms are those of the full run, cut down to
the one. A step that is about the platform commutes with the cut, and a step
about another one does not touch what the cut leaves; `Step.forEach_filter`
takes that from one step to a row of steps. A candidate does not say which
player it comes from – the play that a player shows may name another platform
– so `Players.trace` is a look that notes it down.
-/

namespace Listening

/-! ## Rows of steps, seen in part -/

namespace Step

variable {σ α β γ : Type}

/-- A row of steps with something read off every answer. -/
theorem forEach_eq_andThen_map {f : α → σ → Step σ β} {g : α → σ → Step σ γ} (read : β → γ)
    (h : ∀ a s, g a s = (f a s).andThen fun b s => .ok (read b) s) (as : List α) (s : σ) :
    forEach g as s = (forEach f as s).andThen fun bs s => .ok (bs.map read) s := by
  induction as generalizing s with
  | nil => rfl
  | cons a rest ih =>
    rw [forEach, forEach, h a s, andThen_assoc, andThen_assoc]
    refine congrArg (Step.andThen _) (funext fun b => funext fun s₁ => ?_)
    rw [andThen_ok, ih s₁, andThen_assoc, andThen_assoc]
    rfl

/-- **A row of steps, seen in part.** If the steps of one kind can be made on
a part of the state as well, with the same answers, and all others leave that
part alone, then the steps of that kind alone bring the part to where the
whole row brings it, and their answers are the same. -/
theorem forEach_filter {f : α → σ → Step σ (Option β)} (part : σ → σ) (own : α → Bool)
    (mine : β → Bool)
    (inside : ∀ a, own a = true → ∀ s b s', f a s = .ok b s' →
      f a (part s) = .ok b (part s') ∧ ∀ x, b = some x → mine x = true)
    (outside : ∀ a, own a = false → ∀ s b s', f a s = .ok b s' →
      part s' = part s ∧ ∀ x, b = some x → mine x = false)
    {as : List α} {bs : List (Option β)} {s s' : σ} (h : forEach f as s = .ok bs s') :
    ∃ bs', forEach f (as.filter own) (part s) = .ok bs' (part s')
      ∧ bs'.filterMap id = (bs.filterMap id).filter mine := by
  induction as generalizing s bs with
  | nil =>
    obtain ⟨rfl, rfl⟩ := ok_inj h
    exact ⟨[], rfl, rfl⟩
  | cons a rest ih =>
    obtain ⟨b, s₁, bs₁, hb, hbs₁, rfl⟩ := exists_of_forEach_cons_eq_ok h
    obtain ⟨bs', hbs', hanswers⟩ := ih hbs₁
    cases ha : own a with
    | true =>
      obtain ⟨hpart, hmine⟩ := inside a ha s b s₁ hb
      refine ⟨b :: bs', ?_, ?_⟩
      · rw [List.filter_cons_of_pos ha, forEach, hpart, andThen_ok, hbs', andThen_ok]
      · cases b with
        | none => exact hanswers
        | some x =>
          rw [List.filterMap_cons_some (f := id) rfl, List.filterMap_cons_some (f := id) rfl,
            List.filter_cons_of_pos (hmine x rfl), hanswers]
    | false =>
      obtain ⟨hpart, hmine⟩ := outside a ha s b s₁ hb
      refine ⟨bs', ?_, ?_⟩
      · rw [List.filter_cons_of_neg (by rw [ha]; exact Bool.false_ne_true), ← hpart, hbs']
      · cases b with
        | none => exact hanswers
        | some x =>
          rw [List.filterMap_cons_some (f := id) rfl, List.filter_cons_of_neg
            (by rw [hmine x rfl]; exact Bool.false_ne_true), hanswers]

end Step

/-! ## Entries under one key -/

namespace Entries

/-- An entry that is kept is found as before. -/
theorem lookup_filter_eq {α : Type} (name : String) (entries : List (String × α)) :
    (entries.filter (·.1 == name)).lookup name = entries.lookup name := by
  induction entries with
  | nil => rfl
  | cons e rest ih =>
    obtain ⟨k, v⟩ := e
    by_cases hk : k = name
    · subst hk
      rw [List.filter_cons, if_pos (beq_self_eq_true k), List.lookup_cons, List.lookup_cons,
        beq_self_eq_true]
    · have hdrop : ¬ (k == name) = true := fun h => hk (eq_of_beq h)
      have hapart : (name == k) = false := by simpa using Ne.symm hk
      rw [List.filter_cons, if_neg hdrop, List.lookup_cons, hapart, ih]

/-- Cutting down the entries commutes with setting one that is kept. -/
theorem filter_put_self {α : Type} (name : String) (value : α) (entries : List (String × α)) :
    (put name value entries).filter (·.1 == name)
      = put name value (entries.filter (·.1 == name)) := by
  induction entries with
  | nil =>
    exact List.filter_cons_of_pos (beq_self_eq_true name)
  | cons e rest ih =>
    obtain ⟨k, v⟩ := e
    by_cases hk : (k == name) = true
    · rw [put, if_pos hk, List.filter_cons, if_pos hk, List.filter_cons, if_pos hk,
        put, if_pos hk]
    · rw [put, if_neg hk, List.filter_cons, if_neg hk, List.filter_cons, if_neg hk, ih]

/-- Setting an entry that is not kept is not seen. -/
theorem filter_put_of_ne {α : Type} {name other : String} (h : other ≠ name) (value : α)
    (entries : List (String × α)) :
    (put other value entries).filter (·.1 == name)
      = entries.filter (·.1 == name) := by
  have hapart : ¬ (other == name) = true := fun e => h (eq_of_beq e)
  induction entries with
  | nil => exact List.filter_cons_of_neg hapart
  | cons e rest ih =>
    obtain ⟨k, v⟩ := e
    by_cases hk : (k == other) = true
    · obtain rfl := eq_of_beq hk
      rw [put, if_pos hk, List.filter_cons, if_neg hapart, List.filter_cons,
        if_neg hapart]
    · rw [put, if_neg hk, List.filter_cons, List.filter_cons, ih]

end Entries

/-! ## What a player hands out -/

namespace Player

variable {p p' : Player} {platform : String} {now : Instant} {call : Call} {u : Update}

/-- A ledger can hold the play that a sound player tracks. -/
theorem Sound.entry_of_played (hs : p.Sound platform) {x : Play} (h : p.played = some x) :
    x.Entry := by
  obtain ⟨track, hcurrent, -⟩ := Option.map_eq_some_iff.mp h
  obtain ⟨start, hstart, -⟩ := hs.started track hcurrent
  obtain ⟨y, hy, -, hentry, -⟩ := hs.played hcurrent hstart
  obtain rfl := Option.some.inj (h.symm.trans hy)
  exact hentry

/-- Of two values, the first that is there is one of them. -/
theorem exists_of_orElse {a b : Option Play} {x : Play} (h : (a <|> b) = some x) :
    a = some x ∨ b = some x := by
  cases a with
  | none => exact Or.inr h
  | some y => exact Or.inl h

/-- **Whatever a call hands out was tracked by a sound player**: the one left
or, where a play ended, the one that closed its last stretch. So a ledger can
hold it, also where it names another platform than the player. -/
theorem Move.entry (hmove : Move call now p u p') (hs : p.Sound platform)
    (hs' : p'.Sound platform') (hnow : now.offset.isSome = true) {x : Play}
    (hx : (u.finished <|> u.soFar) = some x) : x.Entry := by
  have hshut : ∀ {q}, p.Notes q → ∀ {y}, q.shut.played = some y → y.Entry :=
    fun hnoted _ hy => (hnoted.sound hs).shut.entry_of_played hy
  have hleft : ∀ {soFar}, soFar = none ∨ soFar = p'.played → soFar = some x → x.Entry := by
    intro soFar h hsoFar
    rcases h with rfl | rfl
    · exact nomatch hsoFar
    · exact hs'.entry_of_played hsoFar
  cases hmove with
  | rests noted quiet soFar finished =>
    rw [finished] at hx
    exact hleft soFar hx
  | pauses noted idle soFar finished =>
    rw [finished] at hx
    exact hleft (soFar.imp_left And.left) hx
  | resumes again closed => exact hleft (Or.inr rfl) hx
  | goesOn again opened steady => exact hleft (Or.inr rfl) hx
  | seeks again opened seek noRepeat => exact hleft (Or.inr rfl) hx
  | begins noted doing untracked shown => exact hleft (Or.inr rfl) hx
  | repeats again opened seek isRepeat =>
    rcases exists_of_orElse hx with h | h
    · exact hshut again.noted h
    · exact hs'.entry_of_played h
  | replaces noted doing tracked shown other =>
    rcases exists_of_orElse hx with h | h
    · exact ((noted.sound hs).heldOpen hnow).shut.entry_of_played h
    · exact hs'.entry_of_played h
  | stops noted tracked stopped =>
    rcases exists_of_orElse hx with h | h
    · exact hshut noted h
    · exact hshut noted h

end Player

namespace Players

variable {ps ps' : Players} {name : String} {now : Instant}

/-! ## The player of one platform -/

/-- **The players, cut down to one platform.** -/
def only (name : String) (ps : Players) : Players :=
  { ps with players := ps.players.filter (·.1 == name) }

@[simp] theorem player?_only (name : String) (ps : Players) :
    (ps.only name).player? name = ps.player? name := Entries.lookup_filter_eq name ps.players

theorem only_put_self (name : String) (ps : Players) (p : Player) :
    (ps.put name p).only name = (ps.only name).put name p :=
  congrArg (fun players => { ps with players := players })
    (Entries.filter_put_self name p ps.players)

theorem only_put_of_ne {other : String} (h : other ≠ name) (ps : Players) (p : Player) :
    (ps.put other p).only name = ps.only name :=
  congrArg (fun players => { ps with players := players })
    (Entries.filter_put_of_ne h p ps.players)

theorem only_remove_self (name : String) (ps : Players) :
    (ps.remove name).only name = (ps.only name).remove name := by
  unfold only remove
  rw [List.filter_filter, List.filter_filter]
  simp only [Bool.and_comm]

theorem only_remove_of_ne {other : String} (h : other ≠ name) (ps : Players) :
    (ps.remove other).only name = ps.only name := by
  unfold only remove
  rw [List.filter_filter]
  congr 1
  refine List.filter_congr fun e _ => ?_
  by_cases he : e.1 = name
  · have hkept : (e.1 != other) = true := bne_iff_ne.mpr (he ▸ Ne.symm h)
    rw [hkept, Bool.and_true]
  · have hdropped : (e.1 == name) = false := beq_eq_false_iff_ne.mpr he
    rw [hdropped, Bool.false_and]

/-! ## Steps about one platform -/

/-- **A report of the platform** does to its player what it does among all,
and makes the same candidate. -/
theorem take_only {r : Report} (h : r.platform.name = name) (now : Instant) (ps : Players) :
    (ps.only name).take now r = (ps.take now r).within (only name) := by
  subst h
  have hplayer : (ps.only r.platform.name).playerFor r.platform now
      = ps.playerFor r.platform now := by
    unfold playerFor
    rw [player?_only]
    rfl
  unfold take
  dsimp only
  rw [hplayer]
  cases (ps.playerFor r.platform now).report r.status (positioned r) now with
  | mk result p =>
    cases result with
    | error e => exact congrArg (Step.fail e) (only_put_self _ ps p).symm
    | ok u =>
      show Step.of (((ps.only r.platform.name).put r.platform.name p).candidate? _)
          ((ps.only r.platform.name).put r.platform.name p)
        = Step.of ((ps.put r.platform.name p).candidate? _) ((ps.put r.platform.name p).only _)
      rw [← only_put_self]
      exact congrArg (fun c => Step.of c _) (candidate?_congr rfl _)

/-- A report of another platform leaves the player alone. -/
theorem only_take_of_ne {r : Report} (h : r.platform.name ≠ name) (now : Instant)
    (ps : Players) : (ps.take now r).state.only name = ps.only name := by
  unfold take
  exact Step.state_andThen (P := fun s : Players => s.only name = ps.only name)
    (only_put_of_ne h ps _) (fun _ _ hs => hs)

/-- **Tending the player of the platform** does what it does among all. -/
theorem tend_only (name : String) (now : Instant) (ps : Players) :
    (ps.only name).tend now name = (ps.tend now name).within (only name) := by
  unfold tend
  rw [player?_only]
  cases ps.player? name with
  | none => rfl
  | some p =>
    dsimp only
    split
    · cases p.closeRange with
      | mk result q =>
        cases result with
        | error e => exact congrArg (Step.fail e) (only_put_self _ ps q).symm
        | ok u =>
          have hclosed : ((ps.only name).put name q).candidate?
                ((((ps.only name).put name q).player? name).bind Player.played)
              = (ps.put name q).candidate?
                (((ps.put name q).player? name).bind Player.played) := by
            rw [player?_put_self, player?_put_self]
            exact candidate?_congr rfl _
          show (Step.of (((ps.only name).put name q).candidate?
                ((((ps.only name).put name q).player? name).bind Player.played))
              ((ps.only name).put name q)).andThen (fun c s => .ok c (s.remove name))
            = ((Step.of ((ps.put name q).candidate?
                (((ps.put name q).player? name).bind Player.played))
              (ps.put name q)).andThen fun c s => .ok c (s.remove name)).within (only name)
          rw [hclosed, ← only_put_self]
          cases (ps.put name q).candidate?
            (((ps.put name q).player? name).bind Player.played) with
          | error e => rfl
          | ok c => exact congrArg (Step.ok c) (only_remove_self name _).symm
    · cases p.checkStale now with
      | mk result q =>
        cases result with
        | error e => exact congrArg (Step.fail e) (only_put_self _ ps q).symm
        | ok u => exact congrArg (Step.ok none) (only_put_self _ ps q).symm

/-- Tending another one leaves it alone. -/
theorem only_tend_of_ne {other : String} (h : other ≠ name) (now : Instant) (ps : Players) :
    (ps.tend now other).state.only name = ps.only name := by
  unfold tend
  cases ps.player? other with
  | none => rfl
  | some p =>
    dsimp only
    split
    · refine Step.state_andThen (P := fun s : Players => s.only name = ps.only name)
        (only_put_of_ne h ps _) (fun _ s hs => ?_)
      exact Step.state_andThen (P := fun s : Players => s.only name = ps.only name) hs
        (fun _ s hs => (only_remove_of_ne h s).trans hs)
    · exact Step.state_andThen (P := fun s : Players => s.only name = ps.only name)
        (only_put_of_ne h ps _) (fun _ _ hs => hs)

/-! ## Looks that tell where a candidate comes from -/

/-- A candidate with the platform of the player that it comes from. -/
def named (name : String) (x : Step Players (Option Play)) :
    Step Players (Option (String × Play)) :=
  x.andThen fun c ps => .ok (c.map fun play => (name, play)) ps

/-- **A look that notes of every candidate which player it comes from**, by
the platform of that player. -/
def trace (reports : List Report) (now : Instant) (ps : Players) :
    Step Players (List (String × Play)) :=
  (Step.forEach (fun r ps => named r.platform.name (ps.take now r)) reports ps).andThen
    fun reported ps =>
      (Step.forEach (fun n ps => named n (ps.tend now n))
        (ps.silent (reports.map fun r => r.platform.name)) ps).andThen
        fun tended ps => .ok ((reported ++ tended).filterMap id) ps

/-- Without the platform, it is the candidate. -/
theorem andThen_named (name : String) (x : Step Players (Option Play)) :
    x = (named name x).andThen fun c ps => .ok (c.map Prod.snd) ps := by
  obtain ⟨result, s⟩ := x
  cases result with
  | error e => rfl
  | ok c => cases c <;> rfl

/-- The candidates noted down, without the platforms. -/
theorem filterMap_map_snd (cs : List (Option (String × Play))) :
    (cs.map (Option.map Prod.snd)).filterMap id = (cs.filterMap id).map Prod.snd := by
  rw [List.filterMap_map, List.map_filterMap]
  rfl

/-- **A look is a look that notes down platforms**, without them. -/
theorem process_eq_trace (reports : List Report) (now : Instant) (ps : Players) :
    ps.process reports now
      = (ps.trace reports now).andThen fun cs ps => .ok (cs.map Prod.snd) ps := by
  unfold process trace
  rw [Step.forEach_eq_andThen_map (f := fun r ps => named r.platform.name (ps.take now r))
    (Option.map Prod.snd) (fun r ps => andThen_named r.platform.name (ps.take now r)),
    Step.andThen_assoc, Step.andThen_assoc]
  refine congrArg (Step.andThen _) (funext fun reported => funext fun ps₁ => ?_)
  rw [Step.andThen_ok, Step.andThen_assoc]
  dsimp only
  rw [Step.forEach_eq_andThen_map (f := fun n ps => named n (ps.tend now n))
    (Option.map Prod.snd) (fun n ps => andThen_named n (ps.tend now n)), Step.andThen_assoc]
  refine congrArg (Step.andThen _) (funext fun tended => funext fun ps₂ => ?_)
  rw [Step.andThen_ok, Step.andThen_ok, ← List.map_append, filterMap_map_snd]

/-- What is noted down of a candidate. -/
theorem exists_of_named_eq_ok {x : Step Players (Option Play)} {b : Option (String × Play)}
    (h : named name x = .ok b ps') :
    ∃ c, x = .ok c ps' ∧ b = c.map fun play => (name, play) := by
  obtain ⟨c, ps₁, hc, hb⟩ := Step.exists_of_andThen_eq_ok h
  obtain ⟨rfl, rfl⟩ := Step.ok_inj hb
  exact ⟨c, hc, rfl⟩

/-- The candidates of a step about one platform are noted under it. -/
theorem fst_eq_of_named {c : Option Play} {e : String × Play}
    (h : (c.map fun play => (name, play)) = some e) : e.1 = name := by
  obtain ⟨play, -, rfl⟩ := Option.map_eq_some_iff.mp h
  rfl

/-- A step about the platform, with its candidate noted down. -/
theorem named_inside {f : Players → Step Players (Option Play)} (n : String)
    (hf : ∀ ps, f (ps.only name) = (f ps).within (only name)) (hn : (n == name) = true)
    (ps : Players) (b : Option (String × Play)) (ps' : Players)
    (h : named n (f ps) = .ok b ps') :
    named n (f (ps.only name)) = .ok b (ps'.only name)
      ∧ ∀ e, b = some e → (e.1 == name) = true := by
  obtain ⟨c, hc, rfl⟩ := exists_of_named_eq_ok h
  refine ⟨?_, fun e he => (fst_eq_of_named he).symm ▸ hn⟩
  rw [hf, hc]
  rfl

/-- A step about another one, with its candidate noted down. -/
theorem named_outside {f : Players → Step Players (Option Play)} (n : String)
    (hf : ∀ ps, (f ps).state.only name = ps.only name) (hn : (n == name) = false)
    (ps : Players) (b : Option (String × Play)) (ps' : Players)
    (h : named n (f ps) = .ok b ps') :
    ps'.only name = ps.only name ∧ ∀ e, b = some e → (e.1 == name) = false := by
  obtain ⟨c, hc, rfl⟩ := exists_of_named_eq_ok h
  refine ⟨?_, fun e he => (fst_eq_of_named he).symm ▸ hn⟩
  rw [← hf ps, hc]
  rfl

/-- The silent players, cut down to the platform, are those of the players
cut down. -/
theorem filter_silent (name : String) (reports : List Report) (ps : Players) :
    (ps.silent (reports.map fun r => r.platform.name)).filter (· == name)
      = (ps.only name).silent
        ((reports.filter fun r => r.platform.name == name).map fun r => r.platform.name) := by
  unfold silent only
  dsimp only
  rw [List.filter_filter, List.filter_map, List.filter_map, List.filter_filter]
  congr 1
  refine List.filter_congr fun e _ => ?_
  dsimp only [Function.comp]
  by_cases he : (e.1 == name) = true
  · have hsame : (reports.map fun r => r.platform.name).contains e.1
        = ((reports.filter fun r => r.platform.name == name).map
          fun r => r.platform.name).contains e.1 := by
      rw [eq_of_beq he, Bool.eq_iff_iff, List.contains_iff_mem, List.contains_iff_mem]
      simp
    rw [he, hsame, Bool.true_and, Bool.and_true]
  · rw [Bool.not_eq_true] at he
    rw [he, Bool.false_and, Bool.and_false]

/-- **A look without the reports of other platforms**, at the players without
those of other platforms, does to the player of the platform what the look at
all of them does, and its candidates are the ones that came from there. -/
theorem trace_only {reports : List Report} {cs : List (String × Play)}
    (h : ps.trace reports now = .ok cs ps') (name : String) :
    (ps.only name).trace (reports.filter fun r => r.platform.name == name) now
      = .ok (cs.filter (·.1 == name)) (ps'.only name) := by
  obtain ⟨reported, ps₁, hreported, hrest⟩ := Step.exists_of_andThen_eq_ok h
  obtain ⟨tended, ps₂, htended, hlast⟩ := Step.exists_of_andThen_eq_ok hrest
  obtain ⟨rfl, rfl⟩ := Step.ok_inj hlast
  obtain ⟨reported', hreported', hshown⟩ := Step.forEach_filter (only name)
    (fun r => r.platform.name == name) (fun e => e.1 == name)
    (fun r hr => named_inside r.platform.name (take_only (eq_of_beq hr) now) hr)
    (fun r hr => named_outside r.platform.name (only_take_of_ne (ne_of_beq_false hr) now) hr)
    hreported
  obtain ⟨tended', htended', hleft⟩ := Step.forEach_filter (only name)
    (fun n => n == name) (fun e => e.1 == name)
    (fun n hn => named_inside n (eq_of_beq hn ▸ tend_only n now) hn)
    (fun n hn => named_outside n (only_tend_of_ne (ne_of_beq_false hn) now) hn)
    htended
  rw [filter_silent] at htended'
  unfold trace
  rw [hreported', Step.andThen_ok, htended', Step.andThen_ok, List.filterMap_append, hshown,
    hleft, ← List.filter_append, ← List.filterMap_append]

/-! ## Looks that do not fail -/

/-- **Players that can be asked anything**: each of them is sound, whichever
platform its play names. -/
def AllSound (ps : Players) : Prop :=
  ∀ name p, ps.player? name = some p → ∃ platform, p.Sound platform

theorem AllSound.put (hs : ps.AllSound) {p : Player} (hp : ∃ platform, p.Sound platform)
    (name : String) : (ps.put name p).AllSound := by
  intro n q hq
  by_cases hn : n = name
  · subst hn
    rw [player?_put_self] at hq
    exact Option.some.inj hq ▸ hp
  · rw [player?_put_of_ne hn] at hq
    exact hs n q hq

theorem AllSound.remove (hs : ps.AllSound) (name : String) : (ps.remove name).AllSound := by
  intro n q hq
  rw [player?_remove] at hq
  split at hq
  · exact nomatch hq
  · exact hs n q hq

theorem AllSound.playerFor (hs : ps.AllSound) (platform : Platform) (now : Instant) :
    ∃ name, (ps.playerFor platform now).Sound name := by
  unfold Players.playerFor
  cases hp : ps.player? platform.name with
  | none => exact ⟨_, Player.sound_fresh platform ps.limits now⟩
  | some p => exact hs platform.name p hp

/-- Whether a play is a candidate can be told of all that is handed out. -/
theorem exists_candidate?_of_entry (ps : Players) {play : Option Play}
    (h : ∀ x, play = some x → x.Entry) : ∃ c, ps.candidate? play = .ok c := by
  cases play with
  | none => exact ⟨none, rfl⟩
  | some x =>
    obtain ⟨c, hc, -⟩ := candidate?_of_entry (h x rfl) ps
    exact ⟨c, hc⟩

/-- Whatever is a candidate was handed out. -/
theorem eq_of_candidate?_eq_ok {play : Option Play} {c : Option Play}
    (h : ps.candidate? play = .ok c) {x : Play} (hx : c = some x) : play = some x := by
  subst hx
  cases play with
  | none => exact nomatch Except.ok.inj h
  | some y =>
    obtain ⟨passes, -, hc⟩ := exists_of_bind_eq_ok h
    split at hc
    · exact Except.ok.inj hc
    · exact nomatch Except.ok.inj hc

/-- **No report of a typed play fails**, and a ledger can hold the candidate. -/
theorem AllSound.take (hs : ps.AllSound) (hnow : now.offset.isSome = true) {r : Report}
    (hr : ∀ play, r.play = some play → play.Typed) :
    ∃ c ps', ps.take now r = .ok c ps' ∧ ps'.AllSound ∧ ∀ x, c = some x → x.Entry := by
  obtain ⟨_, hp⟩ := hs.playerFor r.platform now
  have htyped : (Player.Call.report r.status (positioned r)).Typed := by
    intro play status hshown
    cases hplay : r.play with
    | none =>
      rw [positioned, hplay] at hshown
      exact nomatch hshown
    | some shown =>
      rw [positioned, hplay] at hshown
      obtain ⟨rfl, -⟩ := Prod.mk.inj (Option.some.inj hshown)
      have h := hr shown hplay
      exact ⟨h.title, h.artists, h.album, h.duration, h.source, h.trackId⟩
  obtain ⟨u, p', hreport, ⟨_, hp'⟩, hmove⟩ := hp.move_perform hnow htyped
  obtain ⟨c, hc⟩ := (ps.put r.platform.name p').exists_candidate?_of_entry
    (fun x hx => hmove.entry hp hp' hnow hx)
  refine ⟨c, ps.put r.platform.name p', ?_, hs.put ⟨_, hp'⟩ _,
    fun x hx => hmove.entry hp hp' hnow (eq_of_candidate?_eq_ok hc hx)⟩
  unfold Players.take
  dsimp only
  rw [show (ps.playerFor r.platform now).report r.status (positioned r) now = .ok u p'
    from hreport]
  show Step.of ((ps.put r.platform.name p').candidate? _) _ = _
  rw [hc]
  rfl

/-- **Tending a player never fails**, and a ledger can hold the candidate. -/
theorem AllSound.tend (hs : ps.AllSound) (now : Instant) (name : String) :
    ∃ c ps', ps.tend now name = .ok c ps' ∧ ps'.AllSound ∧ ∀ x, c = some x → x.Entry := by
  unfold Players.tend
  cases hplayer : ps.player? name with
  | none => exact ⟨none, ps, rfl, hs, fun _ hx => nomatch hx⟩
  | some p =>
    obtain ⟨_, hp⟩ := hs name p hplayer
    dsimp only
    split
    · obtain ⟨q, hq, hq', -⟩ := hp.closeRange
      obtain ⟨c, hc⟩ := (ps.put name q).exists_candidate?_of_entry
        (fun x (hx : q.played = some x) => hq'.entry_of_played hx)
      refine ⟨c, (ps.put name q).remove name, ?_, (hs.put ⟨_, hq'⟩ name).remove name,
        fun x hx => hq'.entry_of_played (eq_of_candidate?_eq_ok hc hx)⟩
      simp only [hq, Step.ok, Step.within, Step.andThen, Step.of, player?_put_self,
        Option.bind_some, hc]
    · obtain ⟨stale, p', hstale, hp', -⟩ := hp.checkStale now
      rw [hstale]
      exact ⟨none, ps.put name p', rfl, hs.put ⟨_, hp'⟩ name, fun _ hx => nomatch hx⟩

/-- What does not fail does not fail for being noted down. -/
theorem exists_named {good : Players → Prop} {x : Step Players (Option Play)}
    (h : ∃ c ps', x = .ok c ps' ∧ good ps' ∧ ∀ y, c = some y → y.Entry) (name : String) :
    ∃ b ps', named name x = .ok b ps' ∧ good ps' := by
  obtain ⟨c, ps', rfl, hps', -⟩ := h
  exact ⟨_, ps', rfl, hps'⟩

/-- **A look as it can be relied on**: the clock shows an offset, and the
plays are typed. They may name any platform, and a platform may be listed
twice. -/
structure IsTyped (look : List Report × Instant) : Prop where
  /-- The time has an offset. -/
  clocked : look.2.offset.isSome = true
  /-- Every play that is shown is typed. -/
  shown : ∀ r ∈ look.1, ∀ play, r.play = some play → play.Typed

/-- **No look at typed plays fails.** -/
theorem AllSound.trace (hs : ps.AllSound) {look : List Report × Instant} (hlook : IsTyped look) :
    ∃ cs ps', ps.trace look.1 look.2 = .ok cs ps' ∧ ps'.AllSound := by
  obtain ⟨reported, ps₁, hreported, hs₁⟩ := Step.exists_forEach AllSound
    (fun r hr s (hs : s.AllSound) =>
      exists_named (hs.take hlook.clocked (hlook.shown r hr)) r.platform.name) hs
  -- whoever was not reported is tended, and those are known only now
  have htend : ∀ n ∈ ps₁.silent (look.1.map fun r => r.platform.name), ∀ s : Players,
      s.AllSound → ∃ b s', named n (s.tend look.2 n) = .ok b s' ∧ s'.AllSound :=
    fun n _ s hs => exists_named (hs.tend look.2 n) n
  obtain ⟨tended, ps₂, htended, hs₂⟩ := Step.exists_forEach AllSound htend hs₁
  have htrace : ps.trace look.1 look.2 = .ok ((reported ++ tended).filterMap id) ps₂ := by
    unfold Players.trace
    rw [hreported, Step.andThen_ok, htended, Step.andThen_ok]
  exact ⟨_, ps₂, htrace, hs₂⟩

/-! ## Two runs -/

/-- **What a look shows of one platform**: the candidates that come from its
player, and its player afterwards, if there is one. -/
def view (name : String) (look : List Report × Instant) (ps : Players) :
    Step Players (List Play × Option Player) :=
  (ps.trace look.1 look.2).andThen fun cs ps =>
    .ok ((cs.filter (·.1 == name)).map Prod.snd, ps.player? name) ps

/-- A look without the reports of other platforms. -/
def onlyOf (name : String) (look : List Report × Instant) : List Report × Instant :=
  (look.1.filter fun r => r.platform.name == name, look.2)

/-- One platform is seen the same where all others are missing. -/
theorem view_only {look : List Report × Instant} {v : List Play × Option Player}
    (h : ps.view name look = .ok v ps') :
    (ps.only name).view name (onlyOf name look) = .ok v (ps'.only name) := by
  obtain ⟨cs, ps₁, hcs, hv⟩ := Step.exists_of_andThen_eq_ok h
  obtain ⟨rfl, rfl⟩ := Step.ok_inj hv
  unfold view onlyOf
  rw [trace_only hcs name, Step.andThen_ok, player?_only, List.filter_filter]
  simp only [Bool.and_self]

/-- One platform is seen the same where all others are missing, look after look.
-/
theorem views_only {looks : List (List Report × Instant)}
    {views : List (List Play × Option Player)}
    (h : Step.forEach (view name) looks ps = .ok views ps') :
    Step.forEach (view name) (looks.map (onlyOf name)) (ps.only name)
      = .ok views (ps'.only name) := by
  induction looks generalizing ps views with
  | nil =>
    obtain ⟨rfl, rfl⟩ := Step.ok_inj h
    rfl
  | cons look rest ih =>
    obtain ⟨v, ps₁, views₁, hv, hviews₁, rfl⟩ := Step.exists_of_forEach_cons_eq_ok h
    rw [List.map_cons, Step.forEach, view_only hv, Step.andThen_ok, ih hviews₁, Step.andThen_ok]

/-- **Players are isolated from each other.** From the first look on,
whatever the reports and the clock, leaving out of every look all reports of
other platforms changes neither the candidates that come from the player of a
platform, look by look, nor that player itself, nor whether there is one. The
looks at typed plays have candidates, as none of them fails; and the
candidates noted down are those of the look. -/
theorem isolated (listened : Threshold.Listened) (limits : Player.Limits)
    (looks : List (List Report × Instant)) (name : String) :
    (∀ views ps, Step.forEach (view name) looks ⟨listened, limits, []⟩ = .ok views ps →
      Step.forEach (view name) (looks.map (onlyOf name)) ⟨listened, limits, []⟩
        = .ok views (ps.only name))
    ∧ ((∀ look ∈ looks, IsTyped look) →
      ∃ views ps, Step.forEach (view name) looks ⟨listened, limits, []⟩ = .ok views ps)
    ∧ ∀ (reports : List Report) (now : Instant) (ps : Players),
      ps.process reports now
        = (ps.trace reports now).andThen fun cs ps => .ok (cs.map Prod.snd) ps := by
  refine ⟨fun views ps h => views_only h, fun htyped => ?_, process_eq_trace⟩
  have hview : ∀ look ∈ looks, ∀ s : Players, s.AllSound →
      ∃ v s', s.view name look = .ok v s' ∧ s'.AllSound := by
    intro look hlook s hs
    obtain ⟨cs, ps', hcs, hs'⟩ := hs.trace (htyped look hlook)
    have hv : s.view name look
        = .ok ((cs.filter (·.1 == name)).map Prod.snd, ps'.player? name) ps' := by
      unfold view
      rw [hcs, Step.andThen_ok]
    exact ⟨_, ps', hv, hs'⟩
  have hstart : AllSound ⟨listened, limits, []⟩ := fun _ _ h => nomatch h
  obtain ⟨views, ps, h, -⟩ := Step.exists_forEach AllSound hview hstart
  exact ⟨views, ps, h⟩

/-- A room in which a track plays. -/
def plays (room title : String) : Report :=
  { platform := ⟨room, "ann"⟩, status := some .playing, play := some { title := .text title } }

/-- Two rooms: of one nothing is heard any more after the second look. -/
def twoRooms : List (List Report × Instant) :=
  [([plays "kitchen" "Tune", plays "study" "Jingle"], ⟨0, some 0⟩),
    ([plays "kitchen" "Tune", plays "study" "Jingle"], ⟨240000000, some 0⟩),
    ([plays "kitchen" "Tune"], ⟨900000000, some 0⟩)]

/-- What was played there is a candidate twice, the second time as the player
is removed – with the other room or without. -/
theorem isolated_twoRooms : ∃ views ps,
    Step.forEach (view "study-ann") twoRooms ⟨{}, {}, []⟩ = .ok views ps
    ∧ Step.forEach (view "study-ann") (twoRooms.map (onlyOf "study-ann")) ⟨{}, {}, []⟩
      = .ok views (ps.only "study-ann")
    ∧ views.map (fun v => (v.1.length, v.2.isSome)) = [(0, true), (1, true), (1, false)] := by
  have htyped : ∀ look ∈ twoRooms, IsTyped look := by
    have hplays : ∀ room title play, (plays room title).play = some play → play.Typed := by
      intro room title play h
      obtain rfl := Option.some.inj h
      exact ⟨rfl, fun _ h => absurd h List.not_mem_nil, rfl, rfl, rfl, rfl⟩
    have hboth : ∀ r ∈ [plays "kitchen" "Tune", plays "study" "Jingle"],
        ∀ play, r.play = some play → play.Typed := List.forall_mem_cons.mpr
      ⟨hplays "kitchen" "Tune", List.forall_mem_singleton.mpr (hplays "study" "Jingle")⟩
    simp only [twoRooms, List.forall_mem_cons]
    exact ⟨⟨rfl, hboth⟩, ⟨rfl, hboth⟩, ⟨rfl, List.forall_mem_singleton.mpr (hplays _ _)⟩,
      fun _ h => absurd h List.not_mem_nil⟩
  obtain ⟨hsame, hviews, -⟩ := isolated {} {} twoRooms "study-ann"
  obtain ⟨views, ps, h⟩ := hviews htyped
  refine ⟨views, ps, h, hsame views ps h, ?_⟩
  have hshape : ((Step.forEach (view "study-ann") twoRooms ⟨{}, {}, []⟩).result.toOption.map
      (·.map fun v => (v.1.length, v.2.isSome))) = some [(0, true), (1, true), (1, false)] := by
    decide +kernel
  rw [h] at hshape
  exact Option.some.inj hshape

end Players

end Listening
