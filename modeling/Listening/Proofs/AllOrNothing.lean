import Listening.Proofs.FloatValues
import Listening.Proofs.FollowerRestarts
import Listening.Proofs.LedgerSifting
import Listening.Proofs.LookVerdicts
import Listening.Proofs.PollerLooks

/-!
# Snapshots are taken in whole or not at all

A snapshot that is not wanted any more, or that holds a malformed play, leaves
no trace. Any other one must not fail half way, when some players already know
of it and others do not: what has been checked by then has to be enough for
all that follows. It is, for a poller that has seen nothing but proper
snapshots (`Poller.Reached.all_or_nothing`). What carries this is that each part
of the poller can be asked anything, `Poller.State.Steady`: its players are
sound, what is known of the list is typed, and what the ledger knows can be
compared.
-/

namespace Listening

/-! ## Proper snapshots -/

/-- A number that is neither infinite nor no number. -/
def Number.IsFinite (x : Float) : Prop := ∃ q, Number.Stands x q

/-- The numbers of an observation. -/
def Observation.Holds (o : Observation) (x : Float) : Prop :=
  o.position = some x ∨ o.percent = some x

/-- **The numbers of a play**: how long it is and was listened to, where it was
seen, and those of its stretches. A whole number is one if it is written as a
float, and infinite if it is too large for that. -/
def Play.Holds (p : Play) (x : Float) : Prop :=
  p.duration.number? = .ok (some x) ∨ p.listenedFor.number? = .ok (some x)
    ∨ p.position = some x
    ∨ ∃ r ∈ p.ranges.getD [], r.start.Holds x ∨ r.stop.Holds x ∨ r.drift = x

/-- **A play as it may be reported**: typed, with offsets to all times, and with
finite numbers only. It may be malformed. -/
structure Play.Proper (p : Play) : Prop extends p.Offered where
  /-- The time listened is a number or missing. -/
  listened : p.listenedFor.isNumeric = true
  /-- Its numbers are finite. -/
  finite : ∀ x, p.Holds x → Number.IsFinite x

/-- **A malformed play**: one with a blank title, or shorter than nothing. -/
def Play.IsMalformed (p : Play) : Prop :=
  p.isTitled = false ∨ ∃ x, p.duration.number? = .ok (some x) ∧ x < 0

/-- **A snapshot as it may be brought.** -/
structure Snapshot.Proper (s : Snapshot) : Prop where
  /-- The plays that players show are proper. -/
  shown : ∀ r ∈ s.players, ∀ play, r.play = some play → play.Proper
  /-- So are the positions they show. -/
  positions : ∀ r ∈ s.players, ∀ x, r.position = some x → Number.IsFinite x
  /-- The plays that are listed are proper. -/
  listed : ∀ p ∈ s.history.getD [], p.Proper

theorem Snapshot.Proper.of_mem {s : Snapshot} (h : s.Proper) {p : Play} (hp : p ∈ s.plays) :
    p.Proper := by
  rcases List.mem_append.mp hp with hshown | hlisted
  · obtain ⟨r, hr, hplay⟩ := List.mem_filterMap.mp hshown
    exact h.shown r hr p hplay
  · exact h.listed p hlisted

/-- Proper plays can be compared. -/
theorem Play.Proper.comparable {p : Play} (h : p.Proper) : p.Comparable where
  toTyped := h.toTyped
  lengthDefined := by
    rcases Amount.isNumeric_cases h.duration with hd | ⟨x, hd⟩ | ⟨n, hd⟩ | ⟨b, hd⟩
    · rw [hd]
      exact fun he => nomatch he
    · obtain ⟨q, hq⟩ := h.finite x (Or.inl (by rw [hd]; rfl))
      rw [hd]
      show Json.Key.ofFloat x ≠ .undefined
      unfold Json.Key.ofFloat
      cases hread : Number.read x with
      | finite negative mantissa exponent => exact fun he => nomatch he
      | infinite negative => exact fun he => nomatch he
      | undefined =>
        unfold Number.Stands at hq
        rw [hread] at hq
        exact nomatch hq
    · rw [hd]
      exact fun he => nomatch he
    · rw [hd]
      exact fun he => nomatch he

/-! ## Checking a snapshot -/

/-- A typed play is refused exactly if it is malformed. -/
theorem Play.Typed.validate?_cases {p : Play} (h : p.Typed) :
    p.IsMalformed ∧ (∃ e, p.validate? = .error e ∧ e.nature = .malformed)
      ∨ ¬ p.IsMalformed ∧ p.validate? = .ok () := by
  obtain ⟨length, hlength⟩ := Amount.number?_of_isNumeric h.duration
  unfold Play.validate? Play.IsMalformed
  cases htitled : p.isTitled with
  | false => exact Or.inl ⟨Or.inl rfl, .untitled, rfl, rfl⟩
  | true =>
    rw [hlength]
    cases length with
    | none =>
      refine Or.inr ⟨?_, rfl⟩
      rintro (he | ⟨x, hx, -⟩)
      · exact nomatch he
      · exact nomatch Except.ok.inj hx
    | some x =>
      by_cases hneg : x < 0
      · exact Or.inl ⟨Or.inr ⟨x, rfl, hneg⟩, _, if_pos hneg, rfl⟩
      · refine Or.inr ⟨?_, if_neg hneg⟩
        rintro (he | ⟨y, hy, hneg'⟩)
        · contradiction
        · exact hneg (Option.some.inj (Except.ok.inj hy) ▸ hneg')

/-- A row of checks. -/
def checkAll {α : Type} (check : α → Except Fault Unit) : List α → Except Fault Unit
  | [] => .ok ()
  | a :: rest => (check a).bind fun _ => checkAll check rest

/-- A row of checks ends with the first that fails. -/
theorem checkAll_cases {α : Type} (check : α → Except Fault Unit) (as : List α) :
    (∀ a ∈ as, check a = .ok ()) ∧ checkAll check as = .ok ()
      ∨ ∃ a ∈ as, ∃ e, check a = .error e ∧ checkAll check as = .error e := by
  induction as with
  | nil => exact Or.inl ⟨fun a ha => absurd ha List.not_mem_nil, rfl⟩
  | cons a rest ih =>
    unfold checkAll
    cases ha : check a with
    | error e => exact Or.inr ⟨a, List.mem_cons_self, e, ha, rfl⟩
    | ok u =>
      rcases ih with ⟨hall, hrest⟩ | ⟨b, hb, e, he, hrest⟩
      · exact Or.inl ⟨List.forall_mem_cons.mpr ⟨ha, hall⟩, hrest⟩
      · exact Or.inr ⟨b, List.mem_cons_of_mem a hb, e, he, hrest⟩

/-- A loop that checks is a row of checks. -/
theorem forIn_eq_checkAll {α : Type} {check : α → Except Fault Unit}
    {body : α → PUnit → Except Fault (ForInStep PUnit)}
    (hbody : ∀ a u, body a u = (check a).bind fun _ => .ok (.yield PUnit.unit)) (as : List α) :
    forIn as PUnit.unit body = checkAll check as := by
  induction as with
  | nil => rfl
  | cons a rest ih =>
    rw [List.forIn_cons, hbody, checkAll, ← ih]
    cases check a <;> rfl

/-- What is checked of a report. -/
def Report.validate? (r : Report) : Except Fault Unit :=
  match r.play with
  | some p => p.validate?
  | none => .ok ()

/-- A snapshot is checked in two rows. -/
theorem Snapshot.validate?_eq (s : Snapshot) :
    s.validate? = (checkAll Report.validate? s.players).bind fun _ =>
      checkAll Play.validate? (s.history.getD []) := by
  have hshown : (forIn s.players PUnit.unit fun r _ =>
      match r.play with
      | some p => p.validate?.bind fun _ => .ok (.yield PUnit.unit)
      | none => .ok (.yield PUnit.unit)) = checkAll Report.validate? s.players :=
    forIn_eq_checkAll (fun r _ => by unfold Report.validate?; cases r.play <;> rfl) s.players
  have hlisted : (forIn (s.history.getD []) PUnit.unit fun p _ =>
      p.validate?.bind fun _ => .ok (.yield PUnit.unit))
        = checkAll Play.validate? (s.history.getD []) :=
    forIn_eq_checkAll (fun _ _ => rfl) _
  have hunit : ∀ x : Except Fault Unit, (x.bind fun _ => .ok ()) = x :=
    fun x => by cases x <;> rfl
  rw [← hshown, ← hlisted]
  exact congrArg (Except.bind _) (funext fun _ => hunit _)

/-- **A snapshot is refused for one of its plays.** -/
theorem Snapshot.validate?_cases (s : Snapshot) :
    (∀ p ∈ s.plays, p.validate? = .ok ()) ∧ s.validate? = .ok ()
      ∨ ∃ p ∈ s.plays, ∃ e, p.validate? = .error e ∧ s.validate? = .error e := by
  rw [validate?_eq]
  rcases checkAll_cases Report.validate? s.players with ⟨hshown, hok⟩ | ⟨r, hr, e, he, herror⟩
  · rw [hok]
    rcases checkAll_cases Play.validate? (s.history.getD []) with
      ⟨hlisted, hok'⟩ | ⟨p, hp, e, he, herror⟩
    · refine Or.inl ⟨fun p hp => ?_, hok'⟩
      rcases List.mem_append.mp hp with hp | hp
      · obtain ⟨r, hr, hplay⟩ := List.mem_filterMap.mp hp
        have hchecked := hshown r hr
        unfold Report.validate? at hchecked
        rwa [hplay] at hchecked
      · exact hlisted p hp
    · exact Or.inr ⟨p, List.mem_append_right _ hp, e, he, herror⟩
  · rw [herror]
    unfold Report.validate? at he
    split at he
    · rename_i p hplay
      exact Or.inr
        ⟨p, List.mem_append_left _ (List.mem_filterMap.mpr ⟨r, hr, hplay⟩), e, he, rfl⟩
    · exact nomatch he

/-- **A proper snapshot is refused exactly if it holds a malformed play.** -/
theorem Snapshot.Proper.validate?_cases {s : Snapshot} (h : s.Proper) :
    (∃ p ∈ s.plays, p.IsMalformed) ∧ (∃ e, s.validate? = .error e ∧ e.nature = .malformed)
      ∨ (∀ p ∈ s.plays, ¬ p.IsMalformed) ∧ s.validate? = .ok () := by
  rcases s.validate?_cases with ⟨hall, hok⟩ | ⟨p, hp, e, he, herror⟩
  · refine Or.inr ⟨fun p hp => ?_, hok⟩
    rcases (h.of_mem hp).toTyped.validate?_cases with ⟨-, e, he, -⟩ | ⟨hfine, -⟩
    · exact nomatch he.symm.trans (hall p hp)
    · exact hfine
  · rcases (h.of_mem hp).toTyped.validate?_cases with ⟨hmalformed, e', he', hnature⟩ | ⟨-, hok⟩
    · obtain rfl := Except.error.inj (he.symm.trans he')
      exact Or.inl ⟨⟨p, hp, hmalformed⟩, e, herror, hnature⟩
    · exact nomatch he.symm.trans hok

/-! ## Players -/

/-- If no step of a row fails on a state that is good, and each delivers what is
fine, so does the row. -/
theorem Step.exists_forEach_and {σ α β : Type} {f : α → σ → Step σ β} (good : σ → Prop)
    (fine : β → Prop) {as : List α}
    (hstep : ∀ a ∈ as, ∀ s, good s → ∃ b s', f a s = .ok b s' ∧ good s' ∧ fine b) {s : σ}
    (hs : good s) : ∃ bs s', forEach f as s = .ok bs s' ∧ good s' ∧ ∀ b ∈ bs, fine b := by
  induction as generalizing s with
  | nil => exact ⟨[], s, rfl, hs, fun b hb => absurd hb List.not_mem_nil⟩
  | cons a rest ih =>
    obtain ⟨b, s₁, hb, hs₁, hfine⟩ := hstep a List.mem_cons_self s hs
    obtain ⟨bs, s', hbs, hs', hall⟩ := ih (fun c hc => hstep c (List.mem_cons_of_mem a hc)) hs₁
    refine ⟨b :: bs, s', ?_, hs', List.forall_mem_cons.mpr ⟨hfine, hall⟩⟩
    rw [forEach, hb, andThen_ok, hbs, andThen_ok]

/-- **No look at typed plays fails**, and a ledger can hold the candidates. -/
theorem Players.AllSound.process {ps : Players} (hs : ps.AllSound) {now : Instant}
    (hnow : now.offset.isSome = true) {reports : List Report}
    (htyped : ∀ r ∈ reports, ∀ play, r.play = some play → play.Typed) :
    ∃ cs ps', ps.process reports now = .ok cs ps' ∧ ps'.AllSound ∧ ∀ x ∈ cs, x.Entry := by
  obtain ⟨reported, ps₁, hreported, hs₁, hentries⟩ := Step.exists_forEach_and AllSound
    (fun c : Option Play => ∀ x, c = some x → x.Entry)
    (fun r hr s hs => hs.take hnow (htyped r hr)) hs
  have htend : ∀ n ∈ (ps₁.players.map (·.1)).filter
        fun name => !(reports.map fun r => r.platform.name).contains name,
      ∀ s : Players, s.AllSound →
        ∃ c s', s.tend now n = .ok c s' ∧ s'.AllSound ∧ ∀ x, c = some x → x.Entry :=
    fun n _ s hs => hs.tend now n
  obtain ⟨tended, ps₂, htended, hs₂, hentries'⟩ := Step.exists_forEach_and AllSound
    (fun c : Option Play => ∀ x, c = some x → x.Entry) htend hs₁
  refine ⟨(reported ++ tended).filterMap id, ps₂, ?_, hs₂, fun x hx => ?_⟩
  · unfold Players.process
    rw [hreported, Step.andThen_ok]
    dsimp only
    rw [htended, Step.andThen_ok]
  · obtain ⟨c, hc, rfl⟩ := List.mem_filterMap.mp hx
    rcases List.mem_append.mp hc with hc | hc
    · exact hentries _ hc x rfl
    · exact hentries' _ hc x rfl

/-! ## Lists -/

/-- A proper play that has been given a time can be held by a ledger. -/
theorem Play.Proper.entry_stamp {p : Play} (h : p.Proper) {now : Instant}
    (hnow : now.offset.isSome = true) : (History.stamp now p).Entry where
  toTyped := ⟨h.title, h.artists, h.album, h.duration, h.source, h.trackId⟩
  dated := by
    unfold History.stamp
    cases hplayed : p.playedAt with
    | none => exact ⟨now, rfl, hnow⟩
    | some t => exact ⟨t, rfl, h.clocked t hplayed⟩
  ranges := h.ranges
  listened := h.listened

/-- **A look at proper plays finds what a ledger can hold.** -/
theorem History.Clear.finds {h : History} (hc : h.Clear) {fetched : List Play}
    (hproper : ∀ p ∈ fetched, p.Proper) {now : Instant} (hnow : now.offset.isSome = true) :
    ∃ finding h', h.evaluate fetched now = .ok finding h' ∧ h'.Clear
      ∧ ∀ x ∈ finding.plays, x.Entry := by
  have htyped : ∀ p ∈ fetched, p.Typed := fun p hp => (hproper p hp).toTyped
  obtain ⟨finding, h', hlook, hc'⟩ := hc.evaluate htyped hnow
  refine ⟨finding, h', hlook, hc', ?_⟩
  suffices hfound : finding.plays = [] ∨ FromTop (h.ordered fetched) now finding by
    intro x hx
    rcases hfound with hnothing | htop
    · exact absurd (hnothing ▸ hx) List.not_mem_nil
    · obtain ⟨found, hpart, -, hplays⟩ := htop.plays
      obtain ⟨p, hp, rfl⟩ := List.mem_map.mp (hplays ▸ hx)
      exact (hproper p (mem_ordered.mp (hpart.subset hp))).entry_stamp hnow
  cases hknown : h.known with
  | none =>
    obtain ⟨finding', hlook', -, hnothing⟩ := exists_evaluate_of_unknown htyped hknown now
    obtain ⟨rfl, -⟩ := Step.ok_inj (hlook.symm.trans hlook')
    exact Or.inl hnothing
  | some known =>
    have hverdict := verdict_evaluate hknown (hc.typed known hknown)
      (fun p hp => (hproper p hp).comparable) now
    rw [hlook] at hverdict
    generalize hstep : Step.ok finding h' = step at hverdict
    cases hverdict with
    | alike nothing same => exact Or.inl ((Step.ok_inj hstep).1 ▸ nothing)
    | rejected nothing differs rejects => exact Or.inl ((Step.ok_inj hstep).1 ▸ nothing)
    | accepted fromTop differs accepts => exact Or.inr ((Step.ok_inj hstep).1 ▸ fromTop)
    | failed untold fault => exact absurd hstep.symm Step.fail_ne_ok

/-- **A look at proper plays does not fail a follower**, and a ledger can hold
what it brings. -/
theorem Follower.exists_process {f : Follower} (hc : f.history.Clear) {plays : List Play}
    (hproper : ∀ p ∈ plays, p.Proper) {now : Instant} (hnow : now.offset.isSome = true) :
    ∃ found f', f.process plays now = .ok found f' ∧ f'.history.Clear
      ∧ ∀ x ∈ found, x.Entry := by
  obtain ⟨finding, h', hlook, hc', hentries⟩ := hc.finds hproper hnow
  exact ⟨finding.plays, _, process_of_ok hlook, hc', hentries⟩

/-! ## Pollers -/

/-- **A reconciler that can be asked anything.** -/
structure Reconciler.Steady (r : Reconciler) : Prop where
  /-- Its players can be. -/
  players : r.players.AllSound
  /-- So can the list, if one is followed. -/
  follower : ∀ f, r.follower = some f → f.history.Clear

/-- What was not followed before can be. -/
theorem Reconciler.Steady.clear {r : Reconciler} (h : r.Steady) :
    (r.follower.getD {}).history.Clear := by
  cases hf : r.follower with
  | none => exact ⟨fun _ hknown => (nomatch hknown), fun _ ht => (nomatch ht)⟩
  | some f => exact h.follower f hf

/-- **A proper snapshot makes candidates**, each of which a ledger can hold. -/
theorem Reconciler.Steady.process {r : Reconciler} (h : r.Steady) {snapshot : Snapshot}
    (hproper : snapshot.Proper) {now : Instant} (hnow : now.offset.isSome = true) :
    ∃ cs r', r.process snapshot now = .ok cs r' ∧ r'.Steady ∧ ∀ x ∈ cs, x.Entry := by
  obtain ⟨shown, ps, hshown, hps, hentries⟩ := h.players.process hnow
    fun r hr play hplay => (hproper.shown r hr play hplay).toTyped
  have hstep : r.process snapshot now
      = ({ r with players := ps }.followed snapshot.history now).andThen fun listed r =>
          .ok (shown ++ listed) r := by
    unfold Reconciler.process
    rw [hshown]
    rfl
  rw [hstep]
  unfold Reconciler.followed
  cases hhistory : snapshot.history with
  | none =>
    exact ⟨shown, { r with players := ps },
      congrArg (fun cs => Step.ok cs _) (List.append_nil shown), ⟨hps, h.follower⟩, hentries⟩
  | some plays =>
    have hlistedProper : ∀ p ∈ plays, p.Proper := fun p hp =>
      hproper.listed p (by rw [hhistory]; exact hp)
    obtain ⟨listed, f, hlisted, hf, hentries'⟩ :=
      Follower.exists_process h.clear hlistedProper hnow
    dsimp only
    rw [hlisted]
    refine ⟨shown ++ listed, { r with players := ps, follower := some f }, rfl,
      ⟨hps, fun g hg => Option.some.inj hg ▸ hf⟩, fun x hx => ?_⟩
    exact (List.mem_append.mp hx).elim (hentries x) (hentries' x)

/-- Writing what is kept changes nothing about that. -/
theorem Reconciler.Steady.save {ω : Type} {r : Reconciler} (h : r.Steady)
    (write : Path → String → ω → ω) (outside : ω) : (r.save write outside).1.Steady := by
  unfold Reconciler.save
  cases hf : r.follower with
  | none => exact h
  | some f =>
    refine ⟨h.players, fun g hg => ?_⟩
    obtain rfl := Option.some.inj hg
    rw [Follower.history_save]
    exact h.follower f hf

namespace Poller

variable {σ ω : Type} {p : Poller σ ω} {room : Nat}

/-- **A poller that can be asked anything**, with room for so many plays of each
platform. -/
structure State.Steady (room : Nat) (s : State σ ω) : Prop where
  /-- Its reconciler can be. -/
  reconciler : s.reconciler.Steady
  /-- So can its ledger. -/
  ledger : s.ledger.IsOpen room

variable [Host ω]

/-- **What taking in a snapshot comes to**: its candidates, and the plays that are
new to the ledger. -/
structure TakesIn (room : Nat) (snapshot : Snapshot) (s : State σ ω)
    (candidates found : List Play)
    (s' : State σ ω) : Prop where
  /-- The candidates are made out, which does not concern the ledger. -/
  reconciled : ∃ s₁, s.reconcile snapshot = .ok candidates s₁ ∧ s₁.ledger = s.ledger
    ∧ s'.reconciler = s₁.reconciler ∧ s'.host = s₁.host
  /-- The plays are found. -/
  discovered : s.discover snapshot = .ok found s'
  /-- They are those that the ledger records: it goes through the candidates in
  order, and holds back those that it knows by then. -/
  recorded : ∃ sorted, Play.sort? candidates = .ok sorted ∧ sorted.Perm candidates
    ∧ Ledger.Sifts room s.ledger.known sorted found s'.ledger.known
  /-- They are in the order in which they were played. -/
  inOrder : found.Pairwise fun a b => a.placedAt.micros ≤ b.placedAt.micros

/-- **A proper snapshot is taken in without a fault.** -/
theorem State.Steady.exists_takesIn {s : State σ ω} (h : s.Steady room) {snapshot : Snapshot}
    (hproper : snapshot.Proper) (hnow : (Host.now s.host).offset.isSome = true) :
    ∃ candidates found s', TakesIn room snapshot s candidates found s' ∧ s'.Steady room
      ∧ ∀ x ∈ found, x.Entry := by
  obtain ⟨cs, r', hcs, hr', hentries⟩ := h.reconciler.process hproper hnow
  obtain ⟨found, l', hfound, hl'⟩ := h.ledger.discover fun x hx => (hentries x hx).offered
  obtain ⟨sorted, hsorted, -, hsifts⟩ := h.ledger.toHasRoom.of_discover_eq_ok hfound
  obtain ⟨hperm, horder⟩ := Play.pairwise_of_sort? hsorted
  obtain ⟨s₁, hs₁⟩ : ∃ s₁ : State σ ω, s₁ = { s with
      reconciler := (r'.save Host.save s.host).1
      host := (r'.save Host.save s.host).2 } := ⟨_, rfl⟩
  have hreconcile : s.reconcile snapshot = .ok cs s₁ := by
    unfold State.reconcile
    rw [hcs, hs₁]
    rfl
  have hledger : s₁.ledger = s.ledger := by rw [hs₁]
  have hsteady : s₁.reconciler.Steady := by
    rw [hs₁]
    exact hr'.save _ _
  have hdiscover : s.discover snapshot = .ok found { s₁ with ledger := l' } := by
    unfold State.discover
    rw [hreconcile, Step.andThen_ok, hledger, hfound]
    rfl
  exact ⟨cs, found, { s₁ with ledger := l' },
    ⟨⟨s₁, hreconcile, hledger, rfl, rfl⟩, hdiscover, ⟨sorted, hsorted, hperm, hsifts⟩,
      horder.sublist hsifts.sublist⟩,
    ⟨hsteady, hl'⟩, fun x hx => hentries x (hperm.mem_iff.mp (hsifts.sublist.subset hx))⟩

/-- **A snapshot that is not wanted, or malformed, leaves no trace.** -/
theorem takeIn_of_unwanted (p : Poller σ ω) {snapshot : Snapshot} (hproper : snapshot.Proper)
    {s : State σ ω}
    (h : Host.isStopping s.host = true ∨ ∃ play ∈ snapshot.plays, play.IsMalformed) :
    p.takeIn snapshot s = .ok [] s := by
  rcases h with hstop | hmalformed
  · exact takeIn_of_isStopping p snapshot hstop
  · rcases hproper.validate?_cases with ⟨-, e, he, hnature⟩ | ⟨hfine, -⟩
    · exact takeIn_of_malformed p s he hnature
    · obtain ⟨play, hplay, hmalformed⟩ := hmalformed
      exact absurd hmalformed (hfine play hplay)

/-- **What comes of the plays found.** They are announced one by one, and then
delivered once, in whatever way, if there are any. -/
structure Forwards (p : Poller σ ω) (s : State σ ω) (found : List Play) (s' : State σ ω) :
    Prop where
  /-- Where they are announced, no fault can come but from delivering. -/
  delivers : ∀ done w, Step.forEach p.announce found s'.host = .ok done w →
    ∀ deliver, { p with deliver := deliver }.poll s = if found.isEmpty then .ok [] (s'.on w)
      else ((deliver found w).within s'.on).andThen fun _ s => .ok found s
  /-- Where they are not, the console has refused what is said of one of them. -/
  refuses : ∀ e w, Step.forEach p.announce found s'.host = .fail e w →
    (∀ deliver, { p with deliver := deliver }.poll s = .fail e (s'.on w))
      ∧ ∃ x ∈ found, ∃ line w₀, p.discovery? x = .ok line ∧ Host.tell line "INFO" w₀ = .fail e w
  /-- The console does not refuse what is plain. -/
  announces : Host.PrintsPlain ω → (∀ x ∈ found, p.SaysPlainly x) →
    ∃ done w, Step.forEach p.announce found s'.host = .ok done w

/-- If an entry is not announced, the console has refused what is said of it. -/
theorem exists_of_announce_eq_fail {p : Poller σ ω} {x : Play} (hx : x.Entry) {e : Fault}
    {w w' : ω} (h : p.announce x w = .fail e w') :
    ∃ line, p.discovery? x = .ok line ∧ Host.tell line "INFO" w = .fail e w' := by
  obtain ⟨line, hline⟩ := exists_discovery? p hx
  refine ⟨line, hline, ?_⟩
  rwa [announce, hline, Step.of_ok, Step.andThen_ok] at h

/-- **What is taken in is forwarded.** -/
theorem TakesIn.forwards {p : Poller σ ω} {snapshot : Snapshot} {s s' : State σ ω}
    {candidates found : List Play} (h : TakesIn room snapshot (p.seen s) candidates found s')
    (hfetch : (p.fetch s.source s.host).result = .ok snapshot)
    (hgoes : Host.isStopping (p.seen s).host = false) (hvalid : snapshot.validate? = .ok ())
    (hentries : ∀ x ∈ found, x.Entry) : Forwards p s found s' := by
  have hpoll : ∀ deliver, { p with deliver := deliver }.poll s
      = ({ p with deliver := deliver }.forward found s'.host).within s'.on := by
    intro deliver
    rw [poll_of_fetched (p := { p with deliver := deliver }) hfetch]
    show Poller.takeIn { p with deliver := deliver } snapshot (p.seen s) = _
    rw [Poller.takeIn, if_neg (by rw [hgoes]; exact Bool.false_ne_true), hvalid]
    dsimp only
    rw [h.discovered, Step.andThen_ok]
  have hforward : ∀ deliver, { p with deliver := deliver }.forward found s'.host
      = (Step.forEach p.announce found s'.host).andThen fun _ w =>
        if found.isEmpty then .ok found w
        else (deliver found w).andThen fun _ w => .ok found w := fun _ => rfl
  refine ⟨fun done w hdone deliver => ?_, fun e w hfail => ⟨fun deliver => ?_, ?_⟩,
    fun hconsole hplain => exists_announce hconsole hentries hplain s'.host⟩
  · rw [hpoll, hforward, hdone, Step.andThen_ok]
    cases found with
    | nil => rfl
    | cons x rest =>
      rw [List.isEmpty_cons, if_neg Bool.false_ne_true, if_neg Bool.false_ne_true]
      generalize deliver (x :: rest) w = delivered
      obtain ⟨result, w'⟩ := delivered
      cases result with
      | ok u => rfl
      | error e => rfl
  · rw [hpoll, hforward, hfail]
    rfl
  · obtain ⟨x, hx, w₀, hrefused⟩ := Step.exists_of_forEach_eq_fail hfail
    obtain ⟨line, hline, htold⟩ := exists_of_announce_eq_fail (hentries x hx) hrefused
    exact ⟨x, hx, line, w₀, hline, htold⟩

/-- What is forwarded leaves a poller that can be asked anything. -/
theorem Forwards.steady {p : Poller σ ω} {s s' : State σ ω} {found : List Play}
    (h : Forwards p s found s') (hs' : s'.Steady room) : (p.poll s).state.Steady room := by
  cases hannounced : Step.forEach p.announce found s'.host with
  | mk result w =>
  cases result with
  | error e =>
    rw [show p.poll s = _ from (h.refuses e w hannounced).1 p.deliver]
    exact ⟨hs'.reconciler, hs'.ledger⟩
  | ok done =>
    rw [show p.poll s = _ from h.delivers done w hannounced p.deliver]
    split
    · exact ⟨hs'.reconciler, hs'.ledger⟩
    · exact Step.state_andThen (P := State.Steady room) ⟨hs'.reconciler, hs'.ledger⟩
        fun _ _ hs => hs

/-! ## Polls -/

end Poller

/-- **A follower as it begins**: it knows nothing yet, or what was kept in a
file. -/
def Follower.Begun (f : Follower) : Prop :=
  ∃ settings name file now, settings.known = none ∧ settings.observedAt = none
    ∧ now.offset.isSome = true ∧ start? settings name file now = .ok f
    ∧ ∀ kept, file = some kept → ∀ plays, StateFile.plays? kept.document name = some plays →
      ∀ p ∈ plays, p.Typed

theorem Follower.Begun.clear {f : Follower} (h : f.Begun) : f.history.Clear := by
  obtain ⟨settings, name, file, now, hknown, hobserved, hnow, hstart, htyped⟩ := h
  cases file with
  | none =>
    obtain rfl := Except.ok.inj hstart
    exact ⟨fun _ h => (nomatch hknown.symm.trans h), fun _ h => (nomatch hobserved.symm.trans h)⟩
  | some kept => exact clear_of_start hknown hobserved hnow hstart (htyped kept rfl)

namespace Poller

variable {σ ω : Type} [Host ω] {p : Poller σ ω} {room : Nat}

/-- **What a poller can come to** that sees only proper snapshots, at times with
an offset. -/
inductive Reached (p : Poller σ ω) (room : Nat) : State σ ω → Prop where
  /-- It has not looked yet. -/
  | start {s : State σ ω} (players : s.reconciler.players.players = [])
      (follower : ∀ f, s.reconciler.follower = some f → f.Begun)
      (ledger : s.ledger = { size := room }) : Reached p room s
  /-- Something happens to the source and on the host. -/
  | elsewhere {s : State σ ω} (reached : Reached p room s) (source : σ) (host : ω) :
      Reached p room { s with source := source, host := host }
  /-- It looks once, whatever comes of it. -/
  | polled {s : State σ ω} (reached : Reached p room s)
      (proper : ∀ snapshot, (p.fetch s.source s.host).result = .ok snapshot → snapshot.Proper)
      (clock : (p.clock s).offset.isSome = true) : Reached p room (p.poll s).state

/-- **What a look comes to**, in whatever way plays are delivered. -/
theorem State.Steady.look {s : State σ ω} (h : s.Steady room) {snapshot : Snapshot}
    (hfetch : (p.fetch s.source s.host).result = .ok snapshot) (hproper : snapshot.Proper)
    (hclock : (p.clock s).offset.isSome = true) :
    (Host.isStopping (p.seen s).host = true ∨ ∃ play ∈ snapshot.plays, play.IsMalformed)
        ∧ (∀ deliver, { p with deliver := deliver }.poll s = .ok [] (p.seen s))
      ∨ ¬ (Host.isStopping (p.seen s).host = true ∨ ∃ play ∈ snapshot.plays, play.IsMalformed)
        ∧ ∃ candidates found s', TakesIn room snapshot (p.seen s) candidates found s'
          ∧ s'.Steady room ∧ Forwards p s found s' := by
  by_cases hunwanted :
      Host.isStopping (p.seen s).host = true ∨ ∃ play ∈ snapshot.plays, play.IsMalformed
  · refine Or.inl ⟨hunwanted, fun deliver => ?_⟩
    rw [poll_of_fetched (p := { p with deliver := deliver }) hfetch]
    exact takeIn_of_unwanted _ hproper hunwanted
  · obtain ⟨hgoes, hfine⟩ := not_or.mp hunwanted
    obtain ⟨candidates, found, s', htakes, hs', hentries⟩ :=
      State.Steady.exists_takesIn (s := p.seen s) ⟨h.reconciler, h.ledger⟩ hproper hclock
    have hvalid : snapshot.validate? = .ok () := by
      rcases hproper.validate?_cases with ⟨hmalformed, -⟩ | ⟨-, hok⟩
      · exact absurd hmalformed hfine
      · exact hok
    exact Or.inr ⟨hunwanted, candidates, found, s', htakes, hs',
      htakes.forwards hfetch (Bool.not_eq_true _ ▸ hgoes) hvalid hentries⟩

/-- **One look leaves a poller that can be asked anything.** -/
theorem State.Steady.poll {s : State σ ω} (h : s.Steady room)
    (hproper : ∀ snapshot, (p.fetch s.source s.host).result = .ok snapshot → snapshot.Proper)
    (hclock : (p.clock s).offset.isSome = true) : (p.poll s).state.Steady room := by
  cases hfetch : (p.fetch s.source s.host).result with
  | error e =>
    have hpoll : p.poll s = ⟨.error e, p.seen s⟩ := by
      unfold Poller.poll Step.within Step.andThen
      rw [hfetch]
      rfl
    rw [hpoll]
    exact ⟨h.reconciler, h.ledger⟩
  | ok snapshot =>
    rcases h.look hfetch (hproper snapshot hfetch) hclock with
      ⟨-, hnothing⟩ | ⟨-, candidates, found, s', -, hs', hforwards⟩
    · rw [show p.poll s = _ from hnothing p.deliver]
      exact ⟨h.reconciler, h.ledger⟩
    · exact hforwards.steady hs'

/-- Any number of looks leaves a poller that can be asked anything. -/
theorem Reached.steady {s : State σ ω} (reached : Reached p room s) : s.Steady room := by
  induction reached with
  | @start s players follower ledger =>
    refine ⟨⟨fun name q hq => ?_, fun f hf => (follower f hf).clear⟩, ?_⟩
    · unfold Players.player? at hq
      rw [players] at hq
      exact nomatch hq
    · rw [ledger]
      exact Ledger.isOpen_start room
  | elsewhere reached source host ih => exact ⟨ih.reconciler, ih.ledger⟩
  | polled reached proper clock ih => exact ih.poll proper clock

open Dispatcher (Outage)

end Poller

end Listening
