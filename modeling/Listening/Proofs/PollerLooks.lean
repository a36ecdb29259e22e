import Listening.Poller
import Listening.Proofs.LedgerMemory

/-!
# What a poller does at one look

A look has two halves (`Poller.poll_eq_finds`): the ledger lets through what is
new of the candidates, and this is announced and delivered. The second half
changes nothing of what the poller knows, but it may fail, as the console may be
unable to print a title; then nothing is delivered.

A source that keeps its promise brings valid snapshots of typed plays, each
platform once (`Snapshot.Promised`). With such a source the first half never
fails (`Poller.State.Sound.finds`): on every platform the look has an outcome,
and its candidate has a verdict of the ledger. The sign to stop is no exception,
as nothing happens then. The second half goes well where all that is announced
is plain (`Poller.State.Sound.delivers`).
-/

namespace Listening

/-- **A snapshot of players as a source promises it.** -/
structure Snapshot.Promised (snapshot : Snapshot) : Prop where
  /-- It is valid. -/
  valid : snapshot.validate? = .ok ()
  /-- It is of players only. -/
  history : snapshot.history = none
  /-- Every player shows plays of its own. -/
  reports : ∀ r ∈ snapshot.players, Players.IsPromised r
  /-- No platform is listed twice. -/
  names : (snapshot.players.map fun r => r.platform.name).Nodup

namespace Poller

variable {σ ω : Type} [Host ω] {p : Poller σ ω}

/-! ## Looks -/

/-- The state with what fetching a snapshot does to the source and the host. -/
def seen (p : Poller σ ω) (s : State σ ω) : State σ ω :=
  { s with
    source := (p.fetch s.source s.host).state.1
    host := (p.fetch s.source s.host).state.2 }

/-- What the clock shows at a look. -/
def clock (p : Poller σ ω) (s : State σ ω) : Instant := Host.now (p.seen s).host

/-- **The candidates of a look**: those of the snapshot, if it is taken in. -/
def candidates (p : Poller σ ω) (s : State σ ω) : Step (State σ ω) (List Play) :=
  ((p.fetch s.source s.host).within fun (source, host) =>
    { s with source := source, host := host }).andThen fun snapshot s =>
      if Host.isStopping s.host then .ok [] s
      else
        match snapshot.validate? with
        | .error e => if e.nature = .malformed then .ok [] s else .fail e s
        | .ok () => s.reconcile snapshot

/-- A valid snapshot that is wanted makes the candidates that the reconciler
makes of it. -/
theorem candidates_of_valid {s : State σ ω} {snapshot : Snapshot}
    (hfetch : (p.fetch s.source s.host).result = .ok snapshot)
    (hgoes : Host.isStopping (p.seen s).host = false) (hvalid : snapshot.validate? = .ok ()) :
    p.candidates s = (p.seen s).reconcile snapshot := by
  unfold candidates Step.within Step.andThen
  rw [hfetch]
  dsimp only
  rw [hvalid]
  exact if_neg (ne_true_of_eq_false hgoes)

/-- What the ledger lets through of the candidates of a look. -/
def finds (p : Poller σ ω) (s : State σ ω) : Step (State σ ω) (List Play) :=
  (p.candidates s).andThen fun candidates s =>
    (s.ledger.discover candidates).within fun l => { s with ledger := l }

/-- **What a look finds**: the plays that are new. -/
def found (p : Poller σ ω) (s : State σ ω) : List Play :=
  match (p.finds s).result with
  | .ok plays => plays
  | .error _ => []

/-- The player of a platform before a look. -/
def State.player? (s : State σ ω) (name : String) : Option Player :=
  s.reconciler.players.player? name

/-- What is known of a platform before a look. -/
def State.known (s : State σ ω) (name : String) : List Play := s.ledger.known name

/-- What a look finds if nothing fails before it is announced. -/
theorem found_eq {s s' : State σ ω} {plays : List Play} (h : p.finds s = .ok plays s') :
    p.found s = plays := by
  unfold found
  rw [h]
  rfl

/-- Without candidates nothing is found. -/
theorem discover_nil_andThen_forward (p : Poller σ ω) (s : State σ ω) :
    ((s.ledger.discover []).within fun l => { s with ledger := l }).andThen
      (fun found s => (p.forward found s.host).within s.on) = .ok [] s := rfl

/-- **A look** finds what the ledger lets through, and forwards it. -/
theorem poll_eq_finds (p : Poller σ ω) (s : State σ ω) :
    p.poll s = (p.finds s).andThen fun found s => (p.forward found s.host).within s.on := by
  unfold poll finds candidates
  rw [Step.andThen_assoc, Step.andThen_assoc]
  congr 1
  funext snapshot s
  unfold takeIn
  by_cases hstop : Host.isStopping s.host = true
  · rw [if_pos hstop, if_pos hstop, Step.andThen_ok, discover_nil_andThen_forward]
  rw [if_neg hstop, if_neg hstop]
  cases snapshot.validate? with
  | error e =>
    dsimp only
    by_cases hnature : e.nature = .malformed
    · rw [if_pos hnature, Step.andThen_ok, discover_nil_andThen_forward]
    · rw [if_neg hnature, Step.andThen_fail]
  | ok u =>
    dsimp only
    unfold State.discover
    rw [Step.andThen_assoc]

/-- A look that finds something forwards it, which concerns the host only. -/
theorem poll_of_finds {s s' : State σ ω} {plays : List Play} (h : p.finds s = .ok plays s') :
    p.poll s = (p.forward plays s'.host).within s'.on := by
  rw [poll_eq_finds, h, Step.andThen_ok]

/-- What is forwarded is what was given. -/
theorem eq_of_forward {plays plays' : List Play} {w w' : ω}
    (h : p.forward plays w = .ok plays' w') : plays' = plays := by
  obtain ⟨_, w₁, -, h₁⟩ := Step.exists_of_andThen_eq_ok h
  split at h₁
  · exact (Step.ok_inj h₁).1.symm
  · obtain ⟨_, _, -, h₂⟩ := Step.exists_of_andThen_eq_ok h₁
    exact (Step.ok_inj h₂).1.symm

/-- A poll that goes well returns what the ledger let through. -/
theorem found_of_poll {s s' : State σ ω} {plays : List Play} (h : p.poll s = .ok plays s') :
    p.found s = plays := by
  rw [poll_eq_finds] at h
  obtain ⟨found, s₁, hfinds, hforward⟩ := Step.exists_of_andThen_eq_ok h
  rw [found_eq hfinds]
  have hforwarded : p.forward found s₁.host = .ok plays (p.forward found s₁.host).state :=
    congrArg (fun r => (⟨r, _⟩ : Step ω (List Play))) (congrArg Step.result hforward)
  exact (eq_of_forward hforwarded).symm

/-- A look goes on with the snapshot fetched. -/
theorem poll_of_fetched {s : State σ ω} {snapshot : Snapshot}
    (h : (p.fetch s.source s.host).result = .ok snapshot) :
    p.poll s = p.takeIn snapshot (p.seen s) := by
  unfold poll Step.within Step.andThen
  rw [h]
  rfl

/-! ## Announcing -/

/-- Whether what is said of a play is plain. -/
def SaysPlainly (p : Poller σ ω) (x : Play) : Prop :=
  ∀ line, p.discovery? x = .ok line → Console.isPlain line = true

instance (p : Poller σ ω) (x : Play) : Decidable (p.SaysPlainly x) :=
  decidableForallOk (p.discovery? x) fun line => Console.isPlain line = true

omit [Host ω] in
/-- Of an entry something can be said. -/
theorem exists_discovery? (p : Poller σ ω) {x : Play} (hx : x.Entry) :
    ∃ line, p.discovery? x = .ok line := by
  obtain ⟨line, hline⟩ := hx.exists_describe?
  unfold discovery? Play.describeDated?
  rw [hline]
  exact ⟨_, rfl⟩

/-- **Announcing entries** does not fail where what is said of them is plain. -/
theorem exists_announce (hconsole : Host.PrintsPlain ω) {plays : List Play}
    (hentries : ∀ x ∈ plays, x.Entry) (hplain : ∀ x ∈ plays, p.SaysPlainly x) (w : ω) :
    ∃ done w', Step.forEach p.announce plays w = .ok done w' := by
  obtain ⟨done, w', hdone, -⟩ := Step.exists_forEach (fun _ : ω => True) (f := p.announce)
    (fun x hx w _ => by
      obtain ⟨line, hline⟩ := exists_discovery? p (hentries x hx)
      obtain ⟨w', hw'⟩ := hconsole line "INFO" w (hplain x hx line hline)
      refine ⟨(), w', ?_, trivial⟩
      unfold announce
      rw [hline, Step.of_ok, Step.andThen_ok, hw']) (s := w) trivial
  exact ⟨done, w', hdone⟩

/-- **Forwarding entries** does not fail where what is said of them is plain and
delivering them does not fail, and they are delivered if there are any. -/
theorem exists_forward (hconsole : Host.PrintsPlain ω)
    (hdeliver : ∀ plays w, ∃ w', p.deliver plays w = .ok () w') {plays : List Play}
    (hentries : ∀ x ∈ plays, x.Entry) (hplain : ∀ x ∈ plays, p.SaysPlainly x) (w : ω) :
    ∃ w', p.forward plays w = .ok plays w'
      ∧ (plays ≠ [] → ∃ w₀, p.deliver plays w₀ = .ok () w') := by
  obtain ⟨done, w₁, hdone⟩ := exists_announce hconsole hentries hplain w
  unfold forward
  rw [hdone, Step.andThen_ok]
  cases plays with
  | nil => exact ⟨w₁, rfl, fun hne => absurd rfl hne⟩
  | cons x rest =>
    obtain ⟨w₂, hw₂⟩ := hdeliver (x :: rest) w₁
    refine ⟨w₂, ?_, fun _ => ⟨w₁, hw₂⟩⟩
    rw [List.isEmpty_cons, if_neg Bool.false_ne_true, hw₂, Step.andThen_ok]

/-! ## Looks at players -/

/-- **A look at a source that keeps its promise.** -/
structure Promised (p : Poller σ ω) (s : State σ ω) : Prop where
  /-- The source brings a snapshot as promised. -/
  snapshot : ∃ snapshot, (p.fetch s.source s.host).result = .ok snapshot ∧ snapshot.Promised
  /-- The clock shows a time with an offset. -/
  clock : (p.clock s).offset.isSome = true

/-- **A poller of players that can be relied on.** -/
structure State.Sound (s : State σ ω) : Prop where
  /-- Its players are sound. -/
  players : s.reconciler.players.Sound s.reconciler.players.listened
  /-- It follows no list. -/
  follower : s.reconciler.follower = none
  /-- Its ledger is sound. -/
  ledger : s.ledger.Sound

/-- **What a look did to a poller**, with the candidate of each platform and
the play that the ledger let through. -/
structure Look (now : Instant) (s s' : State σ ω) (found : List Play)
    (candidate answer : String → Option Play) : Prop where
  /-- The poller can be relied on afterwards. -/
  sound : s'.Sound
  /-- There is an outcome on every platform. -/
  outcome : ∀ name, s.reconciler.players.Outcome name now (s.player? name) (s'.player? name)
    (candidate name)
  /-- Every candidate has a verdict. -/
  verdict : ∀ name x, candidate name = some x →
    Ledger.Verdict x (s.known name) (s'.known name) (answer name)
  /-- Without a candidate, the ledger is as it was. -/
  silent : ∀ name, candidate name = none → s'.known name = s.known name ∧ answer name = none
  /-- What was let through is what is found. -/
  mem_found : ∀ x, x ∈ found ↔ answer x.platform.name = some x
  /-- At most one play is found for each platform. -/
  names : (found.map fun x => x.platform.name).Nodup

omit [Host ω] in
/-- A look is about what a poller knows, not about its source and its
host. -/
theorem Look.congr {now : Instant} {s s' t t' : State σ ω} {found : List Play}
    {candidate answer : String → Option Play} (h : Look now s s' found candidate answer)
    (hs : t.reconciler = s.reconciler ∧ t.ledger = s.ledger)
    (hs' : t'.reconciler = s'.reconciler ∧ t'.ledger = s'.ledger) :
    Look now t t' found candidate answer := by
  obtain ⟨_, r, l, _⟩ := t
  obtain ⟨_, r', l', _⟩ := t'
  obtain ⟨rfl, rfl⟩ := hs
  obtain ⟨rfl, rfl⟩ := hs'
  exact ⟨⟨h.sound.players, h.sound.follower, h.sound.ledger⟩, h.outcome, h.verdict, h.silent,
    h.mem_found, h.names⟩

/-- The candidates of a snapshot of players only are those of the players. -/
theorem reconcile_of_players {s : State σ ω} {snapshot : Snapshot}
    (hhistory : snapshot.history = none) (hfollower : s.reconciler.follower = none)
    {cs : List Play} {ps : Players}
    (h : s.reconciler.players.process snapshot.players (Host.now s.host) = .ok cs ps) :
    s.reconcile snapshot
      = .ok cs { s with reconciler := { s.reconciler with players := ps } } := by
  unfold State.reconcile Reconciler.process Reconciler.followed Reconciler.save
  simp only [h, hhistory, hfollower, Step.within, Step.ok, Step.andThen, List.append_nil]

omit [Host ω] in
/-- **Where nothing happens**, nothing is found. -/
theorem look_self {s : State σ ω} (hs : s.Sound) (now : Instant) :
    Look now s s [] (fun _ => none) fun _ => none where
  sound := hs
  outcome name := hs.players.outcome_self name now
  verdict _ _ h := nomatch h
  silent _ _ := ⟨rfl, rfl⟩
  mem_found _ := iff_of_false List.not_mem_nil fun h => nomatch h
  names := List.nodup_nil

/-- **A snapshot that is taken in**: the players make candidates of it, and
the ledger lets some of them through. -/
theorem State.Sound.exists_discover {s : State σ ω} (hs : s.Sound) {snapshot : Snapshot}
    (hsnapshot : snapshot.Promised) (hclock : (Host.now s.host).offset.isSome = true) :
    ∃ (found : List Play) (s' : State σ ω) (candidate answer : String → Option Play),
      s.discover snapshot = .ok found s' ∧ (∀ x ∈ found, x.Entry)
      ∧ Look (Host.now s.host) s s' found candidate answer := by
  obtain ⟨candidate, cs, ps, hcs, hps, houtcome, hmem, hnames⟩ :=
    hs.players.process hclock hsnapshot.reports hsnapshot.names
  have hentry : ∀ name x, candidate name = some x → x.platform.name = name ∧ x.Entry :=
    fun name x hx => ⟨(houtcome name).platform_eq hx, ((houtcome name).entry_of_candidate hx).1⟩
  obtain ⟨answer, found, l', hl', hs', hverdict, hothers, hfound, hnodup⟩ :=
    hs.ledger.discover (fun x hx => (hentry _ x ((hmem x).mp hx)).2) hnames
  have hverdict' : ∀ name x, candidate name = some x →
      Ledger.Verdict x (s.known name) (l'.known name) (answer name) := by
    intro name x hx
    obtain ⟨rfl, -⟩ := hentry name x hx
    exact hverdict x ((hmem x).mpr hx)
  have hsilent : ∀ name, candidate name = none →
      l'.known name = s.known name ∧ answer name = none := by
    intro name hnone
    refine hothers name fun hname => ?_
    obtain ⟨x, hx, rfl⟩ := List.mem_map.mp hname
    exact nomatch hnone.symm.trans ((hmem x).mp hx)
  refine ⟨found, { s with reconciler := { s.reconciler with players := ps }, ledger := l' },
    candidate, answer, ?_, fun x hx => ?_,
    ⟨⟨hps.counts.symm ▸ hps, hs.follower, hs'⟩, houtcome, hverdict', hsilent, hfound, hnodup⟩⟩
  · unfold State.discover
    rw [reconcile_of_players hsnapshot.history hs.follower hcs, Step.andThen_ok]
    show Step.within (Ledger.discover cs s.ledger) _ = _
    rw [hl']
    rfl
  · have hx' := (hfound x).mp hx
    cases hc : candidate x.platform.name with
    | none => exact nomatch (hsilent _ hc).2.symm.trans hx'
    | some y =>
      rw [(hverdict' _ y hc).eq_of_through hx']
      exact (hentry _ y hc).2

/-- **A look at a source that keeps its promise** finds what the ledger can
hold. -/
theorem State.Sound.finds {s : State σ ω} (hs : s.Sound) (hp : p.Promised s) :
    ∃ s' candidate answer, p.finds s = .ok (p.found s) s' ∧ (∀ x ∈ p.found s, x.Entry)
      ∧ Look (p.clock s) s s' (p.found s) candidate answer := by
  obtain ⟨snapshot, hfetch, hsnapshot⟩ := hp.snapshot
  suffices h : ∃ found s' candidate answer, p.finds s = .ok found s' ∧ (∀ x ∈ found, x.Entry)
      ∧ Look (p.clock s) s s' found candidate answer by
    obtain ⟨found, s', candidate, answer, hfinds, hentries, hlook⟩ := h
    rw [found_eq hfinds]
    exact ⟨s', candidate, answer, hfinds, hentries, hlook⟩
  have hfinds : p.finds s = if Host.isStopping (p.seen s).host then .ok [] (p.seen s)
      else (p.seen s).discover snapshot := by
    unfold Poller.finds candidates Step.within
    rw [show p.fetch s.source s.host = ⟨.ok snapshot, (p.fetch s.source s.host).state⟩ from
      hfetch ▸ rfl]
    show Step.andThen (if Host.isStopping (p.seen s).host then _ else _) _ = _
    rw [hsnapshot.valid]
    by_cases hstop : Host.isStopping (p.seen s).host = true
    · rw [if_pos hstop, if_pos hstop]
      rfl
    · rw [if_neg hstop, if_neg hstop]
      rfl
  -- what fetching does to the source and the host concerns neither players nor ledger
  have hsound : (p.seen s).Sound := ⟨hs.players, hs.follower, hs.ledger⟩
  rw [hfinds]
  by_cases hstop : Host.isStopping (p.seen s).host = true
  · rw [if_pos hstop]
    exact ⟨[], p.seen s, fun _ => none, fun _ => none, rfl,
      fun x hx => absurd hx List.not_mem_nil,
      (look_self hsound _).congr ⟨rfl, rfl⟩ ⟨rfl, rfl⟩⟩
  · rw [if_neg hstop]
    obtain ⟨found, s', candidate, answer, hs', hentries, hlook⟩ :=
      hsound.exists_discover hsnapshot hp.clock
    exact ⟨found, s', candidate, answer, hs', hentries, hlook.congr ⟨rfl, rfl⟩ ⟨rfl, rfl⟩⟩

/-- **What a look does to a poller** does not depend on whether what is found can
be printed and delivered. -/
theorem State.Sound.look {s : State σ ω} (hs : s.Sound) (hp : p.Promised s) :
    ∃ candidate answer, Look (p.clock s) s (p.poll s).state (p.found s) candidate answer := by
  obtain ⟨s', candidate, answer, hfinds, -, hlook⟩ := hs.finds hp
  rw [poll_of_finds hfinds]
  exact ⟨candidate, answer, hlook.congr ⟨rfl, rfl⟩ ⟨rfl, rfl⟩⟩

/-- **What a look finds is delivered**, if it is anything, where what is said of
it is plain. -/
theorem State.Sound.delivers {s : State σ ω} (hs : s.Sound) (hconsole : Host.PrintsPlain ω)
    (hdeliver : ∀ plays w, ∃ w', p.deliver plays w = .ok () w') (hp : p.Promised s)
    (hplain : ∀ x ∈ p.found s, p.SaysPlainly x) :
    (p.poll s).result = .ok (p.found s)
      ∧ (p.found s ≠ [] → ∃ w, p.deliver (p.found s) w = .ok () (p.poll s).state.host) := by
  obtain ⟨s', -, -, hfinds, hentries, -⟩ := hs.finds hp
  obtain ⟨w', hforward, hdelivered⟩ := exists_forward hconsole hdeliver hentries hplain s'.host
  rw [poll_of_finds hfinds, hforward]
  exact ⟨rfl, hdelivered⟩

end Poller

end Listening
