import Listening.Proofs.ClaimReleases
import Listening.Proofs.LedgerSifting
import Listening.Proofs.PollerLooks
import Listening.Watch

/-!
# Whether a refused play is submitted again

Two windows decide what a client is sent: the ledger of the poller and,
behind it, the window that the dispatcher keeps for the client. A refusal
releases a play from the second one (`Orderly.left_since`) and leaves it
in the first. So a session that is a candidate again is submitted again only
if the ledger has forgotten it by then; that is the one thing that may come
in between (`Poller.Course.resubmits`), and as a rule it does
(`Poller.not_forall_resubmitted`).

A `Course` is any row of polls of a poller that hands what it discovers to a
dispatcher, with whatever others dispatch and whatever happens on the host
in between. A poll may fail, and so may a dispatch, at a line that cannot be
printed (`Course.exists_poll`).
-/

namespace Listening

/-! ## What a ledger holds back -/

namespace Ledger

variable {room : Nat} {l : Ledger}

/-- **Whether a ledger holds a candidate back**: at its turn a play of its
platform is known that is one listen with it. -/
def HoldsBack (room : Nat) (l : Ledger) (candidates : List Play) (y : Play) : Prop :=
  ∃ done later found known, Play.sort? candidates = .ok (done ++ y :: later)
    ∧ Sifts room l.known done found known
    ∧ ∃ x ∈ known y.platform.name, Match.sameListen? x y = .ok true

/-- **A candidate is held back or let through.** -/
theorem Sifts.holdsBack_or_mem {candidates sorted found : List Play}
    {after : String → List Play} (h : Sifts room l.known sorted found after)
    (horder : Play.sort? candidates = .ok sorted) {y : Play} (hy : y ∈ candidates) :
    l.HoldsBack room candidates y ∨ y ∈ found := by
  have hmem : y ∈ sorted := (Play.pairwise_of_sort? horder).1.mem_iff.mpr hy
  obtain ⟨done, later, rfl⟩ := List.append_of_mem hmem
  obtain ⟨found₁, known, found₂, hdone, hturn, rfl⟩ := h.of_append
  cases hturn with
  | heldBack isKnown same next => exact Or.inl ⟨done, later, found₁, known, horder, hdone, _,
      isKnown, same⟩
  | letThrough isNew next => exact Or.inr (List.mem_append_right _ List.mem_cons_self)

end Ledger

namespace Dispatcher

variable {ω : Type} {clients : List (Client ω)}

/-- **What was submitted at a time**, and whether it was taken. -/
structure Batch (ω : Type) where
  /-- What was to be submitted, and to whom. -/
  pending : List (Claim × Client ω)
  /-- Whether it was taken, as far as it was submitted. -/
  taken : List Bool

namespace Batch

/-- What was claimed for the client of a name. -/
def claims (name : String) (b : Batch ω) : List Claim := claimsFor name b.pending

/-- What came of it for the client of a name. -/
def outcomes (name : String) (b : Batch ω) : List (Claim × Bool) :=
  outcomesFor name b.pending b.taken

/-- Whether submitting was broken off, so that nothing came of the last claims. -/
def IsCutOff (b : Batch ω) : Prop := b.taken.length < b.pending.length

/-- The claims of a batch are those of which something came, and a rest if it
was cut off. -/
theorem exists_claims (name : String) (b : Batch ω) :
    ∃ rest, b.claims name = (b.outcomes name).map (·.1) ++ rest
      ∧ (∀ e ∈ rest, b.IsCutOff) := by
  obtain ⟨rest, hrest⟩ := isPrefix_map_outcomesFor name b.pending b.taken
  refine ⟨rest, hrest.symm, fun e he => Nat.lt_of_not_le fun hall => ?_⟩
  have hnone : rest = [] :=
    List.append_right_eq_self.mp (hrest.trans (map_outcomesFor name hall).symm)
  exact absurd (hnone ▸ he) List.not_mem_nil

/-- Something came of every claim of a batch that was not cut off. -/
theorem mem_outcomes {b : Batch ω} {name : String} {e : Claim} (he : e ∈ b.claims name)
    (hkept : (e, false) ∉ b.outcomes name) : (e, true) ∈ b.outcomes name ∨ b.IsCutOff := by
  obtain ⟨rest, hclaims, hcut⟩ := b.exists_claims name
  rcases List.mem_append.mp (hclaims ▸ he) with hmade | hrest
  · exact Or.inl (mem_of_not_refused hmade hkept)
  · exact Or.inr (hcut e hrest)

end Batch

variable [Host ω]

/-- **A dispatch that came to submitting a batch**: it is a round, or it broke
off. -/
def Dispatched (clients : List (Client ω)) (plays : List Play) (d : Dispatcher ω) (b : Batch ω)
    (d' : Dispatcher ω) : Prop :=
  ∃ sorted, Round clients plays d sorted b.pending b.taken d'
    ∨ ∃ e, BreaksOff clients plays d sorted b.pending b.taken e d'

/-- A run goes on with every dispatch. -/
theorem Run.dispatched {start d d' : Dispatcher ω} {history : String → List Turn}
    (run : Run clients start history d) {plays : List Play} (entries : ∀ x ∈ plays, x.Entry)
    (handled : ∀ client ∈ clients, ∀ x ∈ plays, Handles client x) {b : Batch ω}
    (h : Dispatched clients plays d b d') :
    Run clients start (addRound history b.pending b.taken) d' := by
  obtain ⟨sorted, hround | ⟨e, hround⟩⟩ := h
  · exact run.dispatches entries handled hround
  · exact run.breaksOff entries hround

/-- A dispatcher prints what its host prints. -/
theorem printsPlain (hconsole : Host.PrintsPlain ω) : Host.PrintsPlain (Dispatcher ω) := by
  intro message level d hplain
  obtain ⟨w, hw⟩ := hconsole message level d.host hplain
  refine ⟨d.on w, ?_⟩
  show (Host.tell message level d.host).within d.on = _
  rw [hw]
  rfl

end Dispatcher

namespace Poller

open Dispatcher (Knows Handles Round Batch Dispatched claimsFor)

variable {σ ω : Type} [Host ω]

/-! ## Polls that hand plays to a dispatcher -/

variable {clients : List (Client ω)} {p : Poller σ (Dispatcher ω)}
  {s s' start : State σ (Dispatcher ω)} {room : Nat}

/-- **A poller that hands what it discovers to a dispatcher for clients.** -/
structure HandsTo (clients : List (Client ω)) (p : Poller σ (Dispatcher ω)) : Prop where
  /-- It looks at its source on the host of the dispatcher. -/
  fetch : ∃ read, p.fetch = Watch.onHost read
  /-- What it discovers is dispatched. -/
  deliver : p.deliver = Watch.deliver clients

/-- Writing what is kept happens on the host. -/
theorem exists_save (r : Reconciler) (d : Dispatcher ω) :
    ∃ w, (r.save Host.save d).2 = d.on w := by
  unfold Reconciler.save
  cases r.follower with
  | none => exact ⟨d.host, rfl⟩
  | some follower =>
    dsimp only [Follower.save]
    cases follower.file with
    | none => exact ⟨d.host, rfl⟩
    | some file =>
      dsimp only [StateFile.save]
      split
      · exact ⟨Host.save file.path (StateFile.text file.document) d.host, rfl⟩
      · exact ⟨d.host, rfl⟩

/-- Making candidates concerns neither the ledger nor the windows of the
dispatcher. -/
theorem HandsTo.state_candidates (hp : p.HandsTo clients) (s : State σ (Dispatcher ω)) :
    (p.candidates s).state.ledger = s.ledger
      ∧ ∃ w, (p.candidates s).state.host = s.host.on w := by
  obtain ⟨read, hread⟩ := hp.fetch
  unfold candidates
  rw [hread]
  refine Step.state_andThen (P := fun t : State σ (Dispatcher ω) =>
    t.ledger = s.ledger ∧ ∃ w, t.host = s.host.on w) ⟨rfl, _, rfl⟩ fun snapshot t ht => ?_
  obtain ⟨hledger, w, hw⟩ := ht
  split
  · exact ⟨hledger, w, hw⟩
  · split
    · split <;> exact ⟨hledger, w, hw⟩
    · obtain ⟨w', hw'⟩ :=
        exists_save (t.reconciler.process snapshot (Host.now t.host)).state t.host
      refine ⟨hledger, w', hw'.trans ?_⟩
      rw [hw]
      rfl

/-- Announcing plays concerns the host only. -/
theorem state_announce (p : Poller σ (Dispatcher ω)) (plays : List Play) (d : Dispatcher ω) :
    ∃ w, (Step.forEach p.announce plays d).state = d.on w := by
  refine Step.state_forEach (P := fun d' => ∃ w, d' = d.on w)
    (fun x _ d' hd' => ?_) ⟨d.host, rfl⟩
  obtain ⟨w, rfl⟩ := hd'
  refine Step.state_andThen (P := fun d' => ∃ w, d' = d.on w) ⟨w, rfl⟩ fun line d' hd' => ?_
  obtain ⟨w', rfl⟩ := hd'
  exact ⟨_, rfl⟩

/-- **What a poll finds** of candidates that are entries: the ledger sifts them,
which does not concern the windows of the dispatcher. -/
theorem HandsTo.exists_finds (hp : p.HandsTo clients) (hl : s.ledger.IsOpen room)
    {cs : List Play} {s₁ : State σ (Dispatcher ω)} (seen : p.candidates s = .ok cs s₁)
    (entries : ∀ x ∈ cs, x.Entry) :
    ∃ found l w, p.finds s = .ok found { s₁ with ledger := l } ∧ l.IsOpen room
      ∧ s₁.host = s.host.on w ∧ (∀ x ∈ found, x ∈ cs)
      ∧ ∃ sorted, Play.sort? cs = .ok sorted
        ∧ Ledger.Sifts room s.ledger.known sorted found l.known := by
  obtain ⟨hledger, w, hhost⟩ := hp.state_candidates s
  rw [seen, Step.state_ok] at hledger hhost
  obtain ⟨found, l, hfound, hl'⟩ := hl.discover fun x hx => (entries x hx).offered
  obtain ⟨sorted, horder, -, hsifts⟩ := hl.toHasRoom.of_discover_eq_ok hfound
  refine ⟨found, l, w, ?_, hl', hhost, fun x hx => ?_, sorted, horder, hsifts⟩
  · unfold finds
    rw [seen, Step.andThen_ok, hledger, hfound]
    rfl
  · exact (Play.pairwise_of_sort? horder).1.mem_iff.mp (hsifts.sublist.subset hx)

/-- **A poll that goes well**: its candidates, what the ledger let through of
them, and what was submitted. -/
structure Polls (clients : List (Client ω)) (p : Poller σ (Dispatcher ω))
    (s : State σ (Dispatcher ω)) (candidates found : List Play) (batch : Batch ω)
    (s' : State σ (Dispatcher ω)) : Prop where
  /-- These are its candidates. -/
  seen : ∃ s₁, p.candidates s = .ok candidates s₁
  /-- This is what is found. -/
  polled : p.poll s = .ok found s'
  /-- What is found goes to the dispatcher, which submits it. -/
  handed : ∃ w sorted, Round clients found (s.host.on w) sorted batch.pending batch.taken s'.host

/-- What is delivered is dispatched. -/
theorem HandsTo.forward_of_announced (hp : p.HandsTo clients) {x : Play} {rest : List Play}
    {done : List Unit} {d d₁ : Dispatcher ω}
    (announced : Step.forEach p.announce (x :: rest) d = .ok done d₁) :
    p.forward (x :: rest) d = (Dispatcher.dispatch clients (x :: rest) d₁).andThen
      fun _ d => .ok (x :: rest) d := by
  unfold forward
  rw [announced, Step.andThen_ok, List.isEmpty_cons, if_neg Bool.false_ne_true, hp.deliver,
    Watch.deliver, Step.andThen_assoc]
  rfl

/-- **A poll that announced what it found** dispatches it. -/
theorem HandsTo.poll_of_announced (hp : p.HandsTo clients) {x : Play} {rest : List Play}
    {s₂ : State σ (Dispatcher ω)} (hfinds : p.finds s = .ok (x :: rest) s₂) {done : List Unit}
    {d₁ : Dispatcher ω}
    (announced : Step.forEach p.announce (x :: rest) s₂.host = .ok done d₁) :
    p.poll s = ((Dispatcher.dispatch clients (x :: rest) d₁).andThen
      fun _ d => .ok (x :: rest) d).within s₂.on := by
  rw [poll_of_finds hfinds, hp.forward_of_announced announced]

/-- **A poll whose candidates are entries** goes well if the clients can
handle them and what is said of them is plain. -/
theorem HandsTo.exists_polls (hp : p.HandsTo clients) (hconsole : Host.PrintsPlain ω)
    (hl : s.ledger.IsOpen room) (hd : Knows clients s.host) {cs : List Play}
    {s₁ : State σ (Dispatcher ω)} (seen : p.candidates s = .ok cs s₁)
    (entries : ∀ x ∈ cs, x.Entry) (handled : ∀ client ∈ clients, ∀ x ∈ cs, Handles client x)
    (announced : ∀ x ∈ cs, p.SaysPlainly x)
    (receipts : ∀ client ∈ clients, ∀ x ∈ cs, client.SaysPlainly x) :
    ∃ found batch s', Polls clients p s cs found batch s' ∧ s'.ledger.IsOpen room
      ∧ ∃ sorted, Play.sort? cs = .ok sorted
        ∧ Ledger.Sifts room s.ledger.known sorted found s'.ledger.known := by
  obtain ⟨found, l, w, hfinds, hl', hhost, hmem, hsifts⟩ := hp.exists_finds hl seen entries
  obtain ⟨done, d₁, hdone⟩ := exists_announce (Dispatcher.printsPlain hconsole)
    (fun x hx => entries x (hmem x hx)) (fun x hx => announced x (hmem x hx)) s₁.host
  obtain ⟨w₁, hd₁⟩ := state_announce p found s₁.host
  rw [hdone, Step.state_ok, hhost] at hd₁
  subst hd₁
  cases found with
  | nil =>
    refine ⟨[], ⟨[], []⟩, { s₁ with ledger := l, host := s.host.on w₁ },
      ⟨⟨s₁, seen⟩, ?_, w₁, [], ⟨rfl, s.host.on w₁, rfl, rfl⟩⟩, hl', hsifts⟩
    rw [poll_of_finds hfinds, forward, hdone]
    rfl
  | cons x rest =>
    obtain ⟨sorted, pending, taken, d', hround | ⟨e, -, hno⟩⟩ :=
      Dispatcher.exists_dispatch (show Knows clients (s.host.on w₁) from hd)
        (fun y hy => entries y (hmem y hy)) fun client hclient y hy =>
          handled client hclient y (hmem y hy)
    · refine ⟨x :: rest, ⟨pending, taken⟩, { s₁ with ledger := l, host := d' },
        ⟨⟨s₁, seen⟩, ?_, w₁, sorted, hround⟩, hl', hsifts⟩
      rw [hp.poll_of_announced hfinds hdone]
      show Step.within (Step.andThen (Dispatcher.dispatch clients _ (s.host.on w₁)) _) _ = _
      rw [hround.dispatch_eq]
      rfl
    · exact absurd (fun client hclient y hy => receipts client hclient y (hmem y hy))
        (hno hconsole)

/-! ## Courses -/

/-- **A course of events**, with what was submitted at each of them: polls of
a poller, and dispatches of others in between. -/
inductive Course (clients : List (Client ω)) (p : Poller σ (Dispatcher ω))
    (start : State σ (Dispatcher ω)) : List (Batch ω) → State σ (Dispatcher ω) → Prop where
  /-- Nothing was done yet. -/
  | start : Course clients p start [] start
  /-- Something happens on the host. -/
  | elsewhere {batches : List (Batch ω)} {s : State σ (Dispatcher ω)}
      (course : Course clients p start batches s) (w : ω) :
      Course clients p start batches (s.on (s.host.on w))
  /-- Others dispatch plays. -/
  | others {batches : List (Batch ω)} {s : State σ (Dispatcher ω)}
      (course : Course clients p start batches s) {plays : List Play} {batch : Batch ω}
      {d : Dispatcher ω} (entries : ∀ x ∈ plays, x.Entry)
      (handled : ∀ client ∈ clients, ∀ x ∈ plays, Handles client x)
      (dispatched : Dispatched clients plays s.host batch d) :
      Course clients p start (batches ++ [batch]) (s.on d)
  /-- A poll does not come to dispatching anything. -/
  | idles {batches : List (Batch ω)} {s : State σ (Dispatcher ω)}
      (course : Course clients p start batches s)
      (entries : ∀ cs s₁, p.candidates s = .ok cs s₁ → ∀ x ∈ cs, x.Entry)
      (idle : ∃ w, (p.poll s).state.host = s.host.on w) :
      Course clients p start batches (p.poll s).state
  /-- A poll dispatches what it finds. -/
  | polls {batches : List (Batch ω)} {s : State σ (Dispatcher ω)}
      (course : Course clients p start batches s) {cs : List Play} {s₁ : State σ (Dispatcher ω)}
      (seen : p.candidates s = .ok cs s₁) (entries : ∀ x ∈ cs, x.Entry)
      (handled : ∀ client ∈ clients, ∀ x ∈ cs, Handles client x) {w : ω} {batch : Batch ω}
      (dispatched : Dispatched clients (p.found s) (s.host.on w) batch (p.poll s).state.host) :
      Course clients p start (batches ++ [batch]) (p.poll s).state

/-- A poll that finds something leaves the ledger with which it was found. -/
theorem HandsTo.ledger_poll (hp : p.HandsTo clients) (hl : s.ledger.IsOpen room)
    (entries : ∀ cs s₁, p.candidates s = .ok cs s₁ → ∀ x ∈ cs, x.Entry) :
    (p.poll s).state.ledger.IsOpen room := by
  cases hseen : p.candidates s with
  | mk result s₁ =>
  cases result with
  | ok cs =>
    obtain ⟨found, l, w, hfinds, hl', -⟩ := hp.exists_finds hl hseen (entries cs s₁ hseen)
    rw [poll_of_finds hfinds]
    exact hl'
  | error e =>
    obtain ⟨hledger, -⟩ := hp.state_candidates s
    rw [hseen] at hledger
    rw [poll_eq_finds, finds, hseen]
    exact (show s₁.ledger = s.ledger from hledger) ▸ hl

/-- **What a course is for the dispatcher**: a run, with one round for each
batch. -/
theorem Course.run {d₀ : Dispatcher ω}
    {past : String → List Dispatcher.Turn} {batches : List (Batch ω)} (hp : p.HandsTo clients)
    (hpast : Dispatcher.Run clients d₀ past start.host) (hledger : start.ledger.IsOpen room)
    (course : Course clients p start batches s) :
    s.ledger.IsOpen room ∧ Dispatcher.Run clients d₀
      (fun name => past name ++ batches.map fun b => .round (b.claims name) (b.outcomes name))
      s.host := by
  have hconcat : ∀ (batches : List (Batch ω)) (b : Batch ω),
      (fun name => past name ++ (batches ++ [b]).map fun b =>
        Dispatcher.Turn.round (b.claims name) (b.outcomes name))
      = Dispatcher.addRound (fun name => past name ++ batches.map fun b =>
          .round (b.claims name) (b.outcomes name)) b.pending b.taken := by
    intro batches b
    funext name
    rw [List.map_append, ← List.append_assoc]
    rfl
  induction course with
  | start =>
    simp only [List.map_nil, List.append_nil]
    exact ⟨hledger, hpast⟩
  | elsewhere course w ih => exact ⟨ih.1, ih.2.elsewhere w⟩
  | others course entries handled dispatched ih =>
    rw [hconcat]
    exact ⟨ih.1, ih.2.dispatched entries handled dispatched⟩
  | idles course entries idle ih =>
    obtain ⟨w, hhost⟩ := idle
    rw [hhost]
    exact ⟨hp.ledger_poll ih.1 entries, ih.2.elsewhere w⟩
  | @polls batches s course cs s₁ seen entries handled w batch dispatched ih =>
    obtain ⟨found, l, w₁, hfinds, hl, -, hmem, -⟩ := hp.exists_finds ih.1 seen entries
    rw [found_eq hfinds] at dispatched
    rw [hconcat]
    refine ⟨?_, (ih.2.elsewhere w).dispatched (fun x hx => entries x (hmem x hx))
      (fun client hclient x hx => handled client hclient x (hmem x hx)) dispatched⟩
    rw [poll_of_finds hfinds]
    exact hl

/-- **A poll dispatches what it finds, or it leaves the windows of the dispatcher
alone**: it fails before, finds nothing or cannot announce what it found. -/
theorem HandsTo.idles_or_dispatches (hp : p.HandsTo clients) (hl : s.ledger.IsOpen room)
    (hd : Knows clients s.host)
    (entries : ∀ cs s₁, p.candidates s = .ok cs s₁ → ∀ x ∈ cs, x.Entry)
    (handled : ∀ cs s₁, p.candidates s = .ok cs s₁ →
      ∀ client ∈ clients, ∀ x ∈ cs, Handles client x) :
    (∃ w, (p.poll s).state.host = s.host.on w)
      ∨ ∃ cs s₁ w batch, p.candidates s = .ok cs s₁
        ∧ Dispatched clients (p.found s) (s.host.on w) batch (p.poll s).state.host := by
  cases hseen : p.candidates s with
  | mk result s₁ =>
  cases result with
  | error e =>
    obtain ⟨-, w, hhost⟩ := hp.state_candidates s
    rw [hseen] at hhost
    rw [poll_eq_finds, finds, hseen]
    exact Or.inl ⟨w, hhost⟩
  | ok cs =>
    obtain ⟨found, l, w, hfinds, -, hhost, hmem, -⟩ :=
      hp.exists_finds hl hseen (entries cs s₁ hseen)
    obtain ⟨w₁, hannounced⟩ := state_announce p found s₁.host
    rw [hhost] at hannounced
    change Step.state (Step.forEach p.announce found (s.host.on w)) = s.host.on w₁ at hannounced
    have hpoll : (p.poll s).state.host = (p.forward found s₁.host).state := by
      rw [poll_of_finds hfinds]
      rfl
    cases hdone : Step.forEach p.announce found s₁.host with
    | mk result d₁ =>
    obtain rfl : d₁ = s.host.on w₁ := by
      rw [← hannounced, ← hhost, hdone]
    cases result with
    | error e =>
      refine Or.inl ⟨w₁, ?_⟩
      rw [hpoll, forward, hdone]
      rfl
    | ok done =>
      cases found with
      | nil =>
        refine Or.inl ⟨w₁, ?_⟩
        rw [hpoll, forward, hdone]
        rfl
      | cons x rest =>
        obtain ⟨sorted, pending, taken, d', hround⟩ :=
          Dispatcher.exists_dispatch (show Knows clients (s.host.on w₁) from hd)
            (fun y hy => entries cs s₁ hseen y (hmem y hy)) fun client hclient y hy =>
              handled cs s₁ hseen client hclient y (hmem y hy)
        refine Or.inr ⟨cs, s₁, w₁, ⟨pending, taken⟩, rfl, sorted, ?_⟩
        have hdispatched : (p.poll s).state.host = d' := by
          rw [hp.poll_of_announced hfinds hdone]
          rcases hround with hround | ⟨e, hround, -⟩
          · rw [hround.dispatch_eq]
            rfl
          · rw [hround.dispatch_eq]
            rfl
        rw [found_eq hfinds, hdispatched]
        exact hround.imp id fun ⟨e, hround, _⟩ => ⟨e, hround⟩

/-- **A course goes on with every poll**, whether it goes well, finds nothing,
cannot announce what it found or breaks off dispatching it. -/
theorem Course.exists_poll {bound : Int} {host : ω} {d₀ : Dispatcher ω}
    {past : String → List Dispatcher.Turn} {batches : List (Batch ω)} (hp : p.HandsTo clients)
    (hnames : (clients.map Client.name).Nodup) (hbound : 0 ≤ bound)
    (hdispatcher : Dispatcher.ofClients? clients bound host = .ok d₀)
    (hpast : Dispatcher.Run clients d₀ past start.host) (hledger : start.ledger.IsOpen room)
    (course : Course clients p start batches s)
    (entries : ∀ cs s₁, p.candidates s = .ok cs s₁ → ∀ x ∈ cs, x.Entry)
    (handled : ∀ cs s₁, p.candidates s = .ok cs s₁ →
      ∀ client ∈ clients, ∀ x ∈ cs, Handles client x) :
    Course clients p start batches (p.poll s).state
      ∨ ∃ batch, Course clients p start (batches ++ [batch]) (p.poll s).state := by
  obtain ⟨hopen, hrun⟩ := course.run hp hpast hledger
  have hknows := (hrun.kept hnames (Dispatcher.kept_start hbound hdispatcher)).knows
  rcases hp.idles_or_dispatches hopen hknows entries handled with
    hidle | ⟨cs, s₁, w, batch, hseen, hdispatched⟩
  · exact Or.inl (course.idles entries hidle)
  · exact Or.inr ⟨batch, course.polls hseen (entries cs s₁ hseen) (handled cs s₁ hseen)
      hdispatched⟩

/-- **What keeps a refused play from being claimed came after the refusal**: it
was taken since, or it was claimed in a batch that was cut off. -/
theorem Course.claimed_since {bound : Int} {host : ω} {d₀ : Dispatcher ω}
    {past : String → List Dispatcher.Turn} {earlier since : List (Batch ω)} {batch : Batch ω}
    (hp : p.HandsTo clients) (hnames : (clients.map Client.name).Nodup)
    (hdispatcher : Dispatcher.ofClients? clients bound host = .ok d₀)
    (hpast : Dispatcher.Run clients d₀ past start.host) (hledger : start.ledger.IsOpen room)
    (course : Course clients p start (earlier ++ batch :: since) s)
    {client : Client ω} (hclient : client ∈ clients) {c : Claim}
    {before after : List (Claim × Bool)}
    (refused : batch.outcomes client.name = before ++ (c, false) :: after) {y : Play}
    (hy : y.Entry) (track : c.play.SameTrack y) (time : c.play.playedAt = y.playedAt)
    {e : Claim} (he : e ∈ s.host.claims client.name)
    (hsame : Match.sameListen? e.play y = .ok true) :
    (e, true) ∈ after ∨ (∃ b ∈ since, (e, true) ∈ b.outcomes client.name)
      ∨ ∃ b ∈ batch :: since, b.IsCutOff ∧ e ∈ b.claims client.name := by
  obtain ⟨-, hrun⟩ := course.run hp hpast hledger
  have hkept := hrun.kept hnames
    (Dispatcher.kept_start (Dispatcher.nonneg_of_ofClients? hdispatcher hclient) hdispatcher)
  have horderly := hkept.orderly client hclient
  have hwindow : e ∈ (Dispatcher.windowAfter bound.toNat (past client.name
      ++ (earlier ++ batch :: since).map fun b =>
        .round (b.claims client.name) (b.outcomes client.name))).items := by
    rw [← Dispatcher.claims_of_lookup (hkept.window client hclient)]
    exact he
  obtain ⟨rest, hclaims, hcut⟩ := batch.exists_claims client.name
  rw [refused, List.map_append, List.map_cons, List.append_assoc, List.cons_append] at hclaims
  rw [List.map_append, List.map_cons, refused, hclaims, ← List.append_assoc] at horderly hwindow
  have hc : c.play.Entry := by
    refine horderly.entry_of_added (d := .claimed c) (List.mem_flatMap.mpr ⟨_,
      List.mem_append_right _ List.mem_cons_self, Dispatcher.mem_round.mpr (Or.inl
        ⟨c, List.mem_append_right _ List.mem_cons_self, rfl⟩)⟩) rfl
  have hentry := horderly.entry_of_mem (List.append_nil _).symm hwindow
  have hsame' : Match.sameListen? e.play c.play = .ok true :=
    (Match.sameListen?_congr hentry hc hy track time).trans hsame
  -- it was claimed later in the same round, or left by a round since
  rcases horderly.left_since hwindow hsame' with ⟨hlater, hkeeps⟩ | ⟨t, ht, hleaves⟩
  · rcases List.mem_append.mp hlater with hafter | hrest
    · exact Or.inl (Dispatcher.mem_of_not_refused hafter hkeeps)
    · refine Or.inr (Or.inr ⟨batch, List.mem_cons_self, hcut e hrest, ?_⟩)
      rw [hclaims]
      exact List.mem_append_right _ (List.mem_cons_of_mem _ hlater)
  · obtain ⟨b, hb, rfl⟩ := List.mem_map.mp ht
    obtain ⟨hclaimed, hkeeps⟩ := Dispatcher.mem_of_leaves hleaves
    rcases Batch.mem_outcomes hclaimed hkeeps with htaken | hcutOff
    · exact Or.inr (Or.inl ⟨b, hb, htaken⟩)
    · exact Or.inr (Or.inr ⟨b, List.mem_cons_of_mem _ hb, hcutOff, hclaimed⟩)

/-- **A refused play is submitted again** once its session is a candidate
again, unless the ledger of the poller holds it back: then, or one that is
one listen with it in its place. It is not if the client has taken such a one
since the refusal, or if such a one was claimed in a batch that was cut off. -/
theorem Course.resubmits {bound : Int} {host : ω} {d₀ : Dispatcher ω}
    {past : String → List Dispatcher.Turn} {earlier since : List (Batch ω)} {batch : Batch ω}
    (hp : p.HandsTo clients) (hconsole : Host.PrintsPlain ω)
    (hnames : (clients.map Client.name).Nodup)
    (hdispatcher : Dispatcher.ofClients? clients bound host = .ok d₀)
    (hpast : Dispatcher.Run clients d₀ past start.host) (hledger : start.ledger.IsOpen room)
    (course : Course clients p start (earlier ++ batch :: since) s)
    {client : Client ω} (hclient : client ∈ clients) {c : Claim}
    {before after : List (Claim × Bool)}
    (refused : batch.outcomes client.name = before ++ (c, false) :: after)
    {cs : List Play} {s₁ : State σ (Dispatcher ω)} (seen : p.candidates s = .ok cs s₁)
    (entries : ∀ x ∈ cs, x.Entry) (handled : ∀ client ∈ clients, ∀ x ∈ cs, Handles client x)
    (announced : ∀ x ∈ cs, p.SaysPlainly x)
    (receipts : ∀ client ∈ clients, ∀ x ∈ cs, client.SaysPlainly x)
    {y : Play} (hy : y ∈ cs) (track : c.play.SameTrack y) (time : c.play.playedAt = y.playedAt)
    (own : client.isOwn y = .ok false) :
    ∃ found batch' s', Polls clients p s cs found batch' s'
      ∧ (s.ledger.HoldsBack room cs y
        ∨ (∃ c' ∈ batch'.claims client.name,
            c'.play = y ∨ Match.sameListen? c'.play y = .ok true)
        ∨ ∃ e : Claim, Match.sameListen? e.play y = .ok true
          ∧ ((e, true) ∈ after ∨ (∃ b ∈ since, (e, true) ∈ b.outcomes client.name)
            ∨ ∃ b ∈ batch :: since, b.IsCutOff ∧ e ∈ b.claims client.name)) := by
  have hbound := Dispatcher.nonneg_of_ofClients? hdispatcher hclient
  obtain ⟨hopen, hrun⟩ := course.run hp hpast hledger
  have hkept := hrun.kept hnames (Dispatcher.kept_start hbound hdispatcher)
  obtain ⟨found, batch', s', hpolls, -, sorted, horder, hsifts⟩ :=
    hp.exists_polls hconsole hopen hkept.knows seen entries handled announced receipts
  refine ⟨found, batch', s', hpolls, ?_⟩
  rcases hsifts.holdsBack_or_mem horder hy with hheld | hfound
  · exact Or.inl hheld
  refine Or.inr ?_
  obtain ⟨w, inOrder, hround⟩ := hpolls.handed
  rcases hround.submits hclient hfound own with hsubmitted | ⟨e, he, hsame⟩
  · exact Or.inl hsubmitted
  exact Or.inr ⟨e, hsame, course.claimed_since hp hnames hdispatcher hpast hledger hclient
    refused (entries y hy) track time he hsame⟩

/-- A poll leaves the source and the reconciler as making out its candidates
does. -/
theorem Polls.state_eq {cs found : List Play} {batch : Batch ω} {s₁ : State σ (Dispatcher ω)}
    (h : Polls clients p s cs found batch s') (seen : p.candidates s = .ok cs s₁) :
    s'.source = s₁.source ∧ s'.reconciler = s₁.reconciler := by
  have hpolled := h.polled
  rw [poll_eq_finds, finds, seen, Step.andThen_ok] at hpolled
  obtain ⟨found', s₂, hdiscovered, hforwarded⟩ := Step.exists_of_andThen_eq_ok hpolled
  have hs₂ := congrArg Step.state hdiscovered
  have hs' := congrArg Step.state hforwarded
  rw [Step.state_ok] at hs₂ hs'
  rw [← hs', ← hs₂]
  exact ⟨rfl, rfl⟩

/-! ## A client that is never reached -/

open Dispatcher (Outage)

/-- A client that refuses everything. -/
def unreachable : Client Outage where
  name := "c"
  isOwn _ := .ok false
  recent w := .ok [] w
  submit _ w := .fail (.refused .unreachable "") w

/-- One snapshot after the other, until there are none left. -/
def unroll (snapshots : List Snapshot) (w : Outage) : Step (List Snapshot × Outage) Snapshot :=
  match snapshots with
  | [] => .ok {} ([], w)
  | snapshot :: rest => .ok snapshot (rest, w)

/-- A poller that is shown them. -/
def showing : Poller (List Snapshot) (Dispatcher Outage) where
  name := "showing"
  fetch := Watch.onHost unroll
  deliver := Watch.deliver [unreachable]

/-- In one room a track is played, and then in another room another one. -/
def rooms : List Snapshot :=
  [("kitchen", "Tune"), ("study", "Song"), ("kitchen", "Tune")].map fun (room, title) =>
    { players := [Players.plays room title] }

/-- What has seen the first of them, and lets every play count at once. -/
def looked (count : Nat) : Reconciler :=
  (rooms.take count).foldl (fun r snapshot => (r.process snapshot Instant.epoch).state)
    { players := { listened := { duration := some 0 } } }

/-- A poller that is about to see them, with a ledger that has room for so many
plays. -/
def around (room : Nat) : State (List Snapshot) (Dispatcher Outage) where
  source := rooms
  reconciler := looked 0
  ledger := { size := room }
  host := { windows := [("c", { size := 50 })], host := ⟨0⟩ }

/-- The listen that is made out in a room. -/
def heard (room title : String) : Play where
  title := .text title
  playedAt := some Instant.epoch
  listenedFor := .seconds 0
  ranges := some [.opened { time := Instant.epoch } defaultDrift
    (some ⟨room ++ "-ann", Instant.epoch, 0⟩)]

/-- The listen of the kitchen. -/
def tune : Play := heard "kitchen" "Tune"

/-- The listen of the study. -/
def song : Play := heard "study" "Song"

theorem entry_heard (room title : String) : (heard room title).Entry :=
  ⟨⟨rfl, fun _ h => absurd h List.not_mem_nil, rfl, rfl, rfl, rfl⟩, ⟨_, rfl, rfl⟩,
    List.forall_mem_singleton.mpr rfl, rfl⟩

theorem sameListen?_tune_tune : Match.sameListen? tune tune = .ok true :=
  Match.sameListen?_of_same (entry_heard _ _) (entry_heard _ _) ⟨rfl, rfl, rfl, rfl, rfl⟩ rfl

theorem sameListen?_tune_song :
    Match.sameListen? tune song = .ok false ∧ Match.sameListen? song tune = .ok false :=
  ⟨rfl, rfl⟩

theorem handles_unreachable (x : Play) : Handles unreachable x :=
  ⟨⟨false, rfl⟩, fun _ => Or.inr ⟨.unreachable, "", rfl⟩⟩

theorem handsTo_showing : showing.HandsTo [unreachable] := ⟨⟨unroll, rfl⟩, rfl⟩

theorem ofClients?_around (room : Nat) :
    Dispatcher.ofClients? [unreachable] 50 ⟨0⟩ = .ok (around room).host := rfl

/-- A look at a room makes the candidates that the reconciler makes. -/
theorem candidates_showing {snapshot : Snapshot} {r r' : Reconciler} {cs : List Play}
    (hvalid : snapshot.validate? = .ok ())
    (hprocess : r.process snapshot Instant.epoch = .ok cs r') (hfollower : r'.follower = none)
    (rest : List Snapshot) (l : Ledger) (d : Dispatcher Outage) :
    showing.candidates ⟨snapshot :: rest, r, l, d⟩ = .ok cs ⟨rest, r', l, d⟩ := by
  have hnow : r.process snapshot (Host.now d) = .ok cs r' := hprocess
  have hsave : r'.save Host.save d = (r', d) := by
    unfold Reconciler.save
    rw [hfollower]
  refine (candidates_of_valid rfl rfl hvalid).trans ?_
  show State.reconcile snapshot ⟨rest, r, l, d⟩ = _
  simp only [State.reconcile, hnow, Step.state_ok, Step.result_ok, hsave]
  rfl

section Looks

variable {s : State (List Snapshot) (Dispatcher Outage)}

/-- At each look it is the listen of the room. -/
theorem candidates_first (hsource : s.source = rooms) (hreconciler : s.reconciler = looked 0) :
    showing.candidates s = .ok [tune] ⟨rooms.drop 1, looked 1, s.ledger, s.host⟩ := by
  obtain ⟨_, _, l, d⟩ := s
  obtain rfl := hsource
  obtain rfl := hreconciler
  exact candidates_showing rfl rfl rfl _ l d

theorem candidates_second (hsource : s.source = rooms.drop 1)
    (hreconciler : s.reconciler = looked 1) :
    showing.candidates s = .ok [song] ⟨rooms.drop 2, looked 2, s.ledger, s.host⟩ := by
  obtain ⟨_, _, l, d⟩ := s
  obtain rfl := hsource
  obtain rfl := hreconciler
  exact candidates_showing rfl rfl rfl _ l d

theorem candidates_third (hsource : s.source = rooms.drop 2)
    (hreconciler : s.reconciler = looked 2) :
    showing.candidates s = .ok [tune] ⟨[], looked 3, s.ledger, s.host⟩ := by
  obtain ⟨_, _, l, d⟩ := s
  obtain rfl := hsource
  obtain rfl := hreconciler
  exact candidates_showing rfl rfl rfl _ l d

end Looks

/-- There is only one order for one play. -/
theorem sort?_singleton (x : Play) : Play.sort? [x] = .ok [x] :=
  congrArg Except.ok (List.mergeSort_singleton x)

/-- **A client that refuses everything takes nothing.** -/
theorem refused_of_deliveries {pending : List (Claim × Client Outage)} {taken : List Bool}
    {result : Except Fault Unit} {w w' : Outage}
    (h : Dispatcher.Deliveries pending w taken result w')
    (hclients : ∀ pair ∈ pending, pair.2 ∈ [unreachable]) : ∀ b ∈ taken, b = false := by
  have hno : ∀ {client : Client Outage} {x : Play} {v v' : Outage}, client ∈ [unreachable] →
      client.submit x v ≠ .ok () v' := by
    intro client x v v' hclient hyes
    obtain rfl := List.mem_singleton.mp hclient
    exact absurd hyes Step.fail_ne_ok
  induction h with
  | nothing w => exact fun b hb => absurd hb List.not_mem_nil
  | taken said submitted printed others ih =>
    exact absurd submitted (hno (hclients _ List.mem_cons_self))
  | refused described submitted others ih =>
    exact List.forall_mem_cons.mpr ⟨rfl, ih fun pair hpair =>
      hclients pair (List.mem_cons_of_mem _ hpair)⟩
  | unprinted said submitted unprinted =>
    exact absurd submitted (hno (hclients _ List.mem_cons_self))

/-- **The first round of a client** is about the one play that is dispatched. -/
theorem exists_outcome_of_round {x : Play} {d d' : Dispatcher Outage} {batch : Batch Outage}
    (hround : Round [unreachable] [x] d [x] batch.pending batch.taken d')
    (hempty : d.claims "c" = []) (hrefused : ∀ o ∈ batch.outcomes "c", o.2 = false)
    (hall : ¬ batch.IsCutOff) : ∃ c : Claim, c.play = x ∧ batch.outcomes "c" = [(c, false)] := by
  obtain ⟨claimed, hclaims, -⟩ := hround.parts
  -- no entry stands in the way, so it is claimed
  obtain ⟨c, hc⟩ : ∃ c, c ∈ batch.claims "c" := by
    rcases hround.submits List.mem_cons_self List.mem_cons_self rfl with
      ⟨c, hc, -⟩ | ⟨e, he, -⟩
    · exact ⟨c, hc⟩
    · exact absurd (hempty ▸ he) List.not_mem_nil
  have hone : batch.claims "c" = [⟨x, some d.next⟩] :=
    (hclaims.sublist (List.nodup_singleton _) List.mem_cons_self).eq_of_length_le
      (List.length_pos_of_mem hc)
  have hmade : (batch.outcomes "c").map (·.1) = batch.claims "c" :=
    Dispatcher.map_outcomesFor "c" (Nat.le_of_not_lt hall)
  obtain ⟨⟨c', b⟩, houtcome, hplay⟩ := List.map_eq_singleton_iff.mp (hmade.trans hone)
  obtain rfl : b = false := hrefused (c', b) (houtcome ▸ List.mem_cons_self)
  exact ⟨c', congrArg Claim.play hplay, houtcome⟩

/-- **A poll with one new candidate** hands it over, and the client refuses it. -/
theorem exists_refusing (room : Nat) {batches : List (Batch Outage)}
    {s s₁ : State (List Snapshot) (Dispatcher Outage)} {x : Play}
    (course : Course [unreachable] showing (around room) batches s)
    (seen : showing.candidates s = .ok [x] s₁) (hx : x.Entry) (announced : showing.SaysPlainly x)
    (receipt : unreachable.SaysPlainly x)
    (hnew : ∀ known ∈ s.ledger.known x.platform.name, Match.sameListen? known x = .ok false) :
    ∃ batch s', Course [unreachable] showing (around room) (batches ++ [batch]) s'
      ∧ s'.source = s₁.source ∧ s'.reconciler = s₁.reconciler
      ∧ s'.ledger.known = Ledger.remembering room x s.ledger.known
      ∧ (∀ o ∈ batch.outcomes "c", o.2 = false) ∧ ¬ batch.IsCutOff
      ∧ (s.host.claims "c" = [] →
        ∃ c : Claim, c.play = x ∧ batch.outcomes "c" = [(c, false)]) := by
  have hentries : ∀ y ∈ [x], y.Entry := List.forall_mem_singleton.mpr hx
  have hhandles : ∀ client ∈ [unreachable], ∀ y ∈ [x], Handles client y :=
    fun client hclient y _ => List.mem_singleton.mp hclient ▸ handles_unreachable y
  have hnames : ([unreachable].map Client.name).Nodup := List.nodup_singleton _
  obtain ⟨hledger, hrun⟩ := course.run handsTo_showing .start (Ledger.isOpen_start room)
  have hkept := hrun.kept hnames (Dispatcher.kept_start (by decide) (ofClients?_around room))
  obtain ⟨found, batch, s', hpolls, -, sorted, horder, hsifts⟩ :=
    handsTo_showing.exists_polls Outage.printsPlain hledger hkept.knows seen hentries hhandles
      (List.forall_mem_singleton.mpr announced)
      (List.forall_mem_singleton.mpr (List.forall_mem_singleton.mpr receipt))
  obtain ⟨hsource, hreconciler⟩ := hpolls.state_eq seen
  obtain rfl := Except.ok.inj ((sort?_singleton x).symm.trans horder)
  obtain ⟨rfl, hknown⟩ : found = [x]
      ∧ s'.ledger.known = Ledger.remembering room x s.ledger.known := by
    rcases hsifts.of_singleton with ⟨⟨y, hy, hsame⟩, -⟩ | ⟨-, hthrough⟩
    · exact nomatch (hnew y hy).symm.trans hsame
    · exact hthrough
  obtain ⟨w, inOrder, hround⟩ := hpolls.handed
  obtain rfl := Except.ok.inj ((sort?_singleton x).symm.trans hround.inOrder)
  obtain ⟨claimed, hclaims, hsubmits⟩ := hround.parts
  have hrefused : ∀ o ∈ batch.outcomes "c", o.2 = false := fun o ho =>
    refused_of_deliveries hsubmits.deliveries (fun pair hpair => (hclaims.mem hpair).2) _
      (Dispatcher.taken_of_mem_outcomesFor ho)
  have hall : ¬ batch.IsCutOff := fun hcut => absurd (hsubmits.length rfl) (Nat.ne_of_lt hcut)
  refine ⟨batch, s', ?_, hsource, hreconciler, hknown, hrefused, hall, fun hempty =>
    exists_outcome_of_round hround hempty hrefused hall⟩
  have hfound : showing.found s = [x] := found_of_poll hpolls.polled
  have hstate : (showing.poll s).state = s' := congrArg Step.state hpolls.polled
  have hdispatched : Dispatched [unreachable] (showing.found s) (s.host.on w) batch
      (showing.poll s).state.host :=
    ⟨[x], Or.inl (by rw [hfound, hstate]; exact hround)⟩
  have hcourse := course.polls seen hentries hhandles hdispatched
  rwa [hstate] at hcourse

/-- **The first look and the second one**: both listens are refused. -/
theorem exists_two {room : Nat} (hroom : 0 < room) : ∃ first second s c,
    Course [unreachable] showing (around room) [first, second] s
      ∧ showing.candidates s = .ok [tune] ⟨[], looked 3, s.ledger, s.host⟩
      ∧ s.ledger.known song.platform.name = Window.lastOf room [tune, song]
      ∧ first.outcomes "c" = [(c, false)] ∧ c.play = tune ∧ ¬ first.IsCutOff
      ∧ (∀ o ∈ second.outcomes "c", o.2 = false) ∧ ¬ second.IsCutOff := by
  obtain ⟨first, s₁, hcourse₁, hsource₁, hreconciler₁, hknown₁, -, hall₁, hclaim⟩ :=
    exists_refusing room .start (candidates_first rfl rfl) (entry_heard _ _)
      (by decide +kernel) (by decide +kernel) fun known hmem => absurd hmem List.not_mem_nil
  obtain ⟨c, hplay, houtcome⟩ := hclaim rfl
  have hone : s₁.ledger.known song.platform.name = [tune] := by
    rw [hknown₁]
    exact (if_pos rfl).trans (congrArg (List.drop · [tune]) (Nat.sub_eq_zero_of_le hroom))
  obtain ⟨second, s₂, hcourse₂, hsource₂, hreconciler₂, hknown₂, hrefused, hall₂, -⟩ :=
    exists_refusing room hcourse₁ (candidates_second hsource₁ hreconciler₁) (entry_heard _ _)
      (by decide +kernel) (by decide +kernel)
      (by rw [hone]; exact List.forall_mem_singleton.mpr sameListen?_tune_song.1)
  refine ⟨first, second, s₂, c, hcourse₂, candidates_third hsource₂ hreconciler₂, ?_, houtcome,
    hplay, hall₁, hrefused, hall₂⟩
  rw [hknown₂, Ledger.remembering, if_pos rfl, hone]
  rfl

/-- Where the second round brought refusals only and neither was cut off, nothing
was taken after the first refusal. -/
theorem not_claimed_since {first second : Batch Outage} (hall₁ : ¬ first.IsCutOff)
    (hrefused : ∀ o ∈ second.outcomes "c", o.2 = false) (hall₂ : ¬ second.IsCutOff) (e : Claim) :
    ¬ ((e, true) ∈ ([] : List (Claim × Bool)) ∨ (∃ b ∈ [second], (e, true) ∈ b.outcomes "c")
      ∨ ∃ b ∈ [first, second], b.IsCutOff ∧ e ∈ b.claims "c") := by
  rintro (he | ⟨b, hb, he⟩ | ⟨b, hb, hcut, -⟩)
  · exact absurd he List.not_mem_nil
  · obtain rfl := List.mem_singleton.mp hb
    exact nomatch hrefused _ he
  · rcases List.mem_cons.mp hb with rfl | hb
    · exact absurd hcut hall₁
    · exact absurd (List.mem_singleton.mp hb ▸ hcut) hall₂

/-- **A ledger that has forgotten the play** does not stand in the way. There is
room for one play only, which is the listen of the other room by then, so it
is submitted again. -/
theorem resubmits_twice : ∃ first second s c found batch' s',
    Course [unreachable] showing (around 1) [first, second] s
      ∧ first.outcomes "c" = [(c, false)] ∧ c.play = tune
      ∧ Polls [unreachable] showing s [tune] found batch' s'
      ∧ ∃ c' ∈ batch'.claims "c",
        c'.play = tune ∨ Match.sameListen? c'.play tune = .ok true := by
  obtain ⟨first, second, s, c, hcourse, hseen, hknown, houtcome, hplay, hall₁,
    hrefused, hall₂⟩ :=
    exists_two Nat.one_pos
  have hsplit : Course [unreachable] showing (around 1) ([] ++ first :: [second]) s := hcourse
  have hfailed : first.outcomes unreachable.name = [] ++ (c, false) :: [] := houtcome
  have htrack : c.play.SameTrack tune := hplay ▸ ⟨rfl, rfl, rfl, rfl, rfl⟩
  obtain ⟨found, batch', s', hpolls, hresult⟩ :=
    Course.resubmits handsTo_showing Outage.printsPlain (List.nodup_singleton _)
      (ofClients?_around 1) .start (Ledger.isOpen_start 1) hsplit
      List.mem_cons_self hfailed hseen
      (List.forall_mem_singleton.mpr (entry_heard _ _))
      (fun client hclient x _ => List.mem_singleton.mp hclient ▸ handles_unreachable x)
      (List.forall_mem_singleton.mpr (by decide +kernel))
      (List.forall_mem_singleton.mpr (List.forall_mem_singleton.mpr (by decide +kernel)))
      List.mem_cons_self htrack (congrArg Play.playedAt hplay) rfl
  refine ⟨first, second, s, c, found, batch', s', hcourse, houtcome, hplay, hpolls, ?_⟩
  rcases hresult with
    ⟨done, later, found₁, known, horder, hdone, x, hx, hsame⟩ | hagain | ⟨e, -, he⟩
  · -- only the other listen is known at its turn
    have hturn := (Except.ok.inj ((sort?_singleton tune).symm.trans horder)).symm
    cases done with
    | nil =>
      cases hdone
      have honly : s.ledger.known tune.platform.name = [song] := hknown
      obtain rfl := List.mem_singleton.mp (honly ▸ hx)
      exact nomatch sameListen?_tune_song.2.symm.trans hsame
    | cons other rest =>
      have hlength := congrArg List.length hturn
      simp at hlength
  · exact hagain
  · exact absurd he (not_claimed_since hall₁ hrefused hall₂ e)

/-- **A ledger of the usual size does.** The client refuses the play, and when
its session is a candidate again, nothing is submitted. -/
theorem not_forall_resubmitted :
    ¬ ∀ (earlier since : List (Batch Outage)) (batch : Batch Outage)
        (s : State (List Snapshot) (Dispatcher Outage)),
      Course [unreachable] showing (around 30) (earlier ++ batch :: since) s →
      ∀ (c : Claim) (before after : List (Claim × Bool)),
        batch.outcomes "c" = before ++ (c, false) :: after →
      ∀ cs s₁, showing.candidates s = .ok cs s₁ →
      ∀ y ∈ cs, c.play.SameTrack y → c.play.playedAt = y.playedAt →
        ∃ found batch' s', Polls [unreachable] showing s cs found batch' s'
          ∧ ((∃ c' ∈ batch'.claims "c",
              c'.play = y ∨ Match.sameListen? c'.play y = .ok true)
            ∨ ∃ e : Claim, Match.sameListen? e.play y = .ok true
              ∧ ((e, true) ∈ after ∨ (∃ b ∈ since, (e, true) ∈ b.outcomes "c")
                ∨ ∃ b ∈ batch :: since, b.IsCutOff ∧ e ∈ b.claims "c")) := by
  intro hall
  obtain ⟨first, second, s, c, hcourse, hseen, hknown, houtcome, hplay, hall₁,
    hrefused, hall₂⟩ :=
    exists_two (show 0 < 30 by decide)
  have htrack : c.play.SameTrack tune := hplay ▸ ⟨rfl, rfl, rfl, rfl, rfl⟩
  obtain ⟨found, batch', s', hpolls, hresult⟩ :=
    hall [] [second] first s hcourse c [] [] houtcome
    [tune] _ hseen tune List.mem_cons_self htrack (congrArg Play.playedAt hplay)
  -- the ledger still knows the play that was refused
  have hmem : tune ∈ s.ledger.known tune.platform.name := by
    rw [show s.ledger.known tune.platform.name = [tune, song] from hknown]
    exact List.mem_cons_self
  obtain ⟨hopen, -⟩ := hcourse.run handsTo_showing .start (Ledger.isOpen_start 30)
  obtain ⟨found', l, w', hfinds, -, -, -, sorted, horder, hsifts⟩ :=
    handsTo_showing.exists_finds hopen hseen (List.forall_mem_singleton.mpr (entry_heard _ _))
  obtain rfl := Except.ok.inj ((sort?_singleton tune).symm.trans horder)
  have hnothing : found' = [] := by
    rcases hsifts.of_singleton with ⟨-, hheld, -⟩ | ⟨hnew, -⟩
    · exact hheld
    · exact nomatch sameListen?_tune_tune.symm.trans (hnew tune hmem)
  obtain rfl : found = [] :=
    ((found_of_poll hpolls.polled).symm.trans (found_eq hfinds)).trans hnothing
  obtain ⟨w, inOrder, hround⟩ := hpolls.handed
  obtain ⟨claimed, hclaimed, -⟩ := hround.performed
  obtain rfl := Except.ok.inj hround.inOrder
  have hnone : batch'.pending = [] := (Step.ok_inj hclaimed).1.symm
  rcases hresult with ⟨c', hc', -⟩ | ⟨e, -, he⟩
  · rw [Batch.claims, hnone] at hc'
    exact absurd hc' List.not_mem_nil
  · exact absurd he (not_claimed_since hall₁ hrefused hall₂ e)

end Poller

end Listening
