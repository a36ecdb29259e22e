import Listening.Proofs.ClaimsAndSubmissions

/-!
# No listen is sent twice

A `Run` is any row of recalls and dispatches for clients of different names,
with whatever happens on the host in between and with any refusals. A dispatch
may break off, at a play that was taken and cannot be printed. The run keeps
a history for each client: its turns. The history is orderly, and the window
of the client is what the history makes of an empty one (`Run.kept`). So what
holds of orderly histories holds of what clients are sent, and no call of a
run fails unless it breaks off (`Run.sends_once`).

What is sent twice is only what was crowded out: a window that is too small
for a batch forgets a play that was sent, if an equal play of the same batch
is refused (`not_forall_apart`).
-/

namespace Listening

/-- Sorted plays are the plays, in the order in which they were played. -/
theorem Play.pairwise_of_sort? {plays sorted : List Play} (h : Play.sort? plays = .ok sorted) :
    sorted.Perm plays ∧ sorted.Pairwise fun a b => a.placedAt.micros ≤ b.placedAt.micros := by
  cases plays with
  | nil =>
    obtain rfl := Except.ok.inj h
    exact ⟨List.Perm.nil, List.Pairwise.nil⟩
  | cons first rest =>
    unfold Play.sort? at h
    dsimp only at h
    split at h
    · obtain rfl := Except.ok.inj h
      refine ⟨List.mergeSort_perm _ _, ?_⟩
      have hsorted := @List.pairwise_mergeSort _
        (fun a b : Play => decide (a.placedAt.micros ≤ b.placedAt.micros))
        (fun a b c hab hbc => decide_eq_true
          (Int.le_trans (of_decide_eq_true hab) (of_decide_eq_true hbc)))
        (fun a b => by
          simp only [Bool.or_eq_true, decide_eq_true_eq]
          exact Int.le_total a.placedAt.micros b.placedAt.micros) (first :: rest)
      exact hsorted.imp fun hle => of_decide_eq_true hle
    · exact nomatch h

namespace Dispatcher

variable {ω : Type} {clients : List (Client ω)} {d d' start : Dispatcher ω} {size : Nat}
  {history : String → List Turn}

/-! ## Tickets for a batch -/

/-- A batch with tickets. -/
def ticketed (next : Nat) (plays : List Play) : List Claim :=
  (plays.zipIdx next).map fun (p, ticket) => ⟨p, some ticket⟩

/-- The plays of a batch with tickets are the batch. -/
theorem map_play_ticketed (next : Nat) (plays : List Play) :
    (ticketed next plays).map (·.play) = plays := by
  unfold ticketed
  rw [List.map_map]
  exact List.zipIdx_map_fst next plays

/-- The tickets are given one after the other. -/
theorem map_ticket_ticketed (next : Nat) (plays : List Play) :
    (ticketed next plays).map (·.ticket) = (List.range' next plays.length).map some := by
  unfold ticketed
  rw [← List.zipIdx_map_snd next plays, List.map_map, List.map_map]
  rfl

/-- Every play of the batch is claimed for every client, if it can be. -/
def allPairs (claims : List Claim) (clients : List (Client ω)) : List (Claim × Client ω) :=
  claims.flatMap fun claim => clients.map fun client => (claim, client)

/-- What may be claimed for one client is the batch. -/
theorem claimsFor_allPairs (hnames : (clients.map Client.name).Nodup) {client : Client ω}
    (hclient : client ∈ clients) (claims : List Claim) :
    claimsFor client.name (allPairs claims clients) = claims := by
  have hone : ∀ c : Claim,
      claimsFor client.name (clients.map fun client => (c, client)) = [c] := by
    intro c
    induction clients with
    | nil => exact absurd hclient List.not_mem_nil
    | cons first rest ih =>
      obtain ⟨hfirst, hrest⟩ := List.nodup_cons.mp hnames
      rw [List.map_cons, claimsFor_cons]
      rcases List.mem_cons.mp hclient with rfl | hclient
      · have hnone : claimsFor client.name (rest.map fun client => (c, client)) = [] := by
          refine List.filterMap_eq_nil_iff.mpr fun pair hpair => ?_
          obtain ⟨other, hother, rfl⟩ := List.mem_map.mp hpair
          have hne : other.name ≠ client.name := fun e => hfirst (e ▸ List.mem_map_of_mem hother)
          exact if_neg hne
        rw [if_pos rfl, hnone]
      · have hne : first.name ≠ client.name := fun e => hfirst (e ▸ List.mem_map_of_mem hclient)
        rw [if_neg hne]
        exact ih hrest hclient
  unfold allPairs
  induction claims with
  | nil => rfl
  | cons c claims ih =>
    rw [List.flatMap_cons]
    unfold claimsFor at ih hone ⊢
    rw [List.filterMap_append, ih, hone, List.singleton_append]

/-- What is claimed for one client is part of the batch. -/
theorem Claims.sublist {claims : List Claim} {pending : List (Claim × Client ω)}
    (h : Claims d (allPairs claims clients) pending d')
    (hnames : (clients.map Client.name).Nodup)
    {client : Client ω} (hclient : client ∈ clients) :
    (claimsFor client.name pending).Sublist claims := by
  rw [← claimsFor_allPairs hnames hclient claims]
  exact h.part.filterMap _

/-- What is claimed is of the batch, for one of the clients. -/
theorem Claims.mem {claims : List Claim} {pending : List (Claim × Client ω)}
    (h : Claims d (allPairs claims clients) pending d') {pair : Claim × Client ω}
    (hpair : pair ∈ pending) : pair.1 ∈ claims ∧ pair.2 ∈ clients := by
  obtain ⟨c, hc, hmem⟩ := List.mem_flatMap.mp (h.part.subset hpair)
  obtain ⟨client, hclient, rfl⟩ := List.mem_map.mp hmem
  exact ⟨hc, hclient⟩

/-- Nothing that is claimed for a client is the client's own. -/
theorem Claims.notOwn_of_mem {claims : List Claim} {pending : List (Claim × Client ω)}
    (h : Claims d (allPairs claims clients) pending d')
    (hnames : (clients.map Client.name).Nodup)
    {client : Client ω} (hclient : client ∈ clients) {c : Claim}
    (hc : c ∈ claimsFor client.name pending) : client.isOwn c.play = .ok false := by
  obtain ⟨⟨c', other⟩, hpair, hsome⟩ := List.mem_filterMap.mp hc
  by_cases hname : other.name = client.name
  · obtain rfl := Option.some.inj ((if_pos hname).symm.trans hsome)
    obtain rfl := List.inj_on_of_nodup_map hnames (h.mem hpair).2 hclient hname
    exact h.notOwn _ hpair
  · exact nomatch (if_neg hname).symm.trans hsome

/-! ## A round -/

/-- **Claiming a batch** never fails. -/
theorem exists_claimAll (hd : Knows clients d) {plays : List Play}
    (hplays : ∀ p ∈ plays, p.Entry)
    (hown : ∀ client ∈ clients, ∀ p ∈ plays, ∃ own, client.isOwn p = .ok own) :
    ∃ pending d', claimAll clients plays d = .ok pending d'
      ∧ Claims { d with next := d.next + plays.length }
      (allPairs (ticketed d.next plays) clients)
        pending d' := by
  have hpairs : ∀ pair ∈ allPairs (ticketed d.next plays) clients, pair.2 ∈ clients
      ∧ pair.1.play.Entry ∧ ∃ own, pair.2.isOwn pair.1.play = .ok own := by
    intro pair hpair
    obtain ⟨c, hc, hpair⟩ := List.mem_flatMap.mp hpair
    obtain ⟨client, hclient, rfl⟩ := List.mem_map.mp hpair
    have hplay : c.play ∈ plays := by
      rw [← map_play_ticketed d.next plays]
      exact List.mem_map_of_mem hc
    exact ⟨hclient, hplays _ hplay, hown client hclient _ hplay⟩
  obtain ⟨answers, d', hanswers, hclaims⟩ := exists_claims hpairs
    (show Knows clients { d with next := d.next + plays.length } from hd)
  refine ⟨answers.filterMap id, d', ?_, hclaims⟩
  show Step.andThen (Step.forEach claim (allPairs (ticketed d.next plays) clients) _) _ = _
  rw [hanswers, Step.andThen_ok]

variable [Host ω]

/-- **A round**: a batch in order, what of it is claimed, and what of that is
taken. -/
structure Round (clients : List (Client ω)) (plays : List Play) (d : Dispatcher ω)
    (sorted : List Play) (pending : List (Claim × Client ω)) (taken : List Bool)
    (d' : Dispatcher ω) : Prop where
  /-- The batch in order. -/
  inOrder : Play.sort? plays = .ok sorted
  /-- It is claimed, and what is claimed is submitted. -/
  performed : ∃ claimed, claimAll clients sorted d = .ok pending claimed
    ∧ Step.forEach submit pending claimed = .ok taken d'

/-- A dispatch is a round, and counts what was taken. -/
theorem Round.dispatch_eq {plays sorted : List Play} {pending : List (Claim × Client ω)}
    {taken : List Bool} (h : Round clients plays d sorted pending taken d') :
    dispatch clients plays d = .ok (taken.count true) d' := by
  obtain ⟨claimed, hclaimed, hsubmitted⟩ := h.performed
  unfold dispatch
  rw [h.inOrder, Step.of_ok, Step.andThen_ok, hclaimed, Step.andThen_ok, hsubmitted,
    Step.andThen_ok]

omit [Host ω] in
/-- The claims of a batch, if claiming it returned. -/
theorem claims_of_claimAll {plays : List Play} {pending : List (Claim × Client ω)}
    {claimed : Dispatcher ω} (h : claimAll clients plays d = .ok pending claimed) :
    Claims { d with next := d.next + plays.length } (allPairs (ticketed d.next plays) clients)
      pending claimed := by
  obtain ⟨answers, _, hanswers, hlast⟩ := Step.exists_of_andThen_eq_ok h
  obtain ⟨rfl, rfl⟩ := Step.ok_inj hlast
  exact claims_of_forEach hanswers

/-- **What a round has done to the windows**, whatever the plays: its claims were
added, and what came of them followed. -/
theorem Round.parts {plays sorted : List Play} {pending : List (Claim × Client ω)}
    {taken : List Bool} (h : Round clients plays d sorted pending taken d') :
    ∃ claimed, Claims { d with next := d.next + sorted.length }
        (allPairs (ticketed d.next sorted) clients) pending claimed
      ∧ Submits claimed pending taken (.ok ()) d' := by
  obtain ⟨claimed, hclaimed, hsubmitted⟩ := h.performed
  exact ⟨claimed, claims_of_claimAll hclaimed, submits_of_forEach hsubmitted⟩

/-- **A round that breaks off**: a batch in order, what of it is claimed, and what
of that is taken until something that was taken cannot be printed. -/
structure BreaksOff (clients : List (Client ω)) (plays : List Play) (d : Dispatcher ω)
    (sorted : List Play) (pending : List (Claim × Client ω)) (taken : List Bool) (e : Fault)
    (d' : Dispatcher ω) : Prop where
  /-- The batch in order. -/
  inOrder : Play.sort? plays = .ok sorted
  /-- It is claimed, and submitting it fails. -/
  performed : ∃ claimed, claimAll clients sorted d = .ok pending claimed
    ∧ Step.forEach submit pending claimed = .fail e d'
    ∧ Deliveries pending claimed.host taken (.error e) d'.host

/-- A round that breaks off is a dispatch that fails. -/
theorem BreaksOff.dispatch_eq {plays sorted : List Play} {pending : List (Claim × Client ω)}
    {taken : List Bool} {e : Fault} (h : BreaksOff clients plays d sorted pending taken e d') :
    dispatch clients plays d = .fail e d' := by
  obtain ⟨claimed, hclaimed, hsubmitted, -⟩ := h.performed
  unfold dispatch
  rw [h.inOrder, Step.of_ok, Step.andThen_ok, hclaimed, Step.andThen_ok, hsubmitted,
    Step.andThen_fail]

/-- **What a round that broke off has done to the windows**: its claims were added,
and what came of some of them followed. -/
theorem BreaksOff.parts {plays sorted : List Play} {pending : List (Claim × Client ω)}
    {taken : List Bool} {e : Fault} (h : BreaksOff clients plays d sorted pending taken e d') :
    ∃ claimed, Claims { d with next := d.next + sorted.length }
        (allPairs (ticketed d.next sorted) clients) pending claimed
      ∧ Submits claimed pending taken (.error e) d' := by
  obtain ⟨claimed, hclaimed, hsubmitted, hdeliveries⟩ := h.performed
  obtain ⟨d'', hsubmitted', -, hsubmits⟩ := hdeliveries.submits
  have hsame : d'' = d' := congrArg Step.state (hsubmitted'.symm.trans hsubmitted)
  exact ⟨claimed, claims_of_claimAll hclaimed, hsame ▸ hsubmits⟩

/-- A dispatch that returned was a round. -/
theorem exists_round_of_dispatch_eq_ok {plays : List Play} {count : Nat}
    (h : dispatch clients plays d = .ok count d') :
    ∃ sorted pending taken, Round clients plays d sorted pending taken d'
      ∧ count = taken.count true := by
  unfold dispatch at h
  obtain ⟨sorted, s, hof, hrest⟩ := Step.exists_of_andThen_eq_ok h
  obtain ⟨hsorted, rfl⟩ := Step.of_eq_ok hof
  obtain ⟨pending, claimed, hclaimed, hsubmitted⟩ := Step.exists_of_andThen_eq_ok hrest
  obtain ⟨taken, s', htaken, hlast⟩ := Step.exists_of_andThen_eq_ok hsubmitted
  obtain ⟨rfl, rfl⟩ := Step.ok_inj hlast
  exact ⟨sorted, pending, taken, ⟨hsorted, claimed, hclaimed, htaken⟩, rfl⟩

/-- **Entries can be dispatched** to clients that can handle them: the dispatch is
a round, or it is one that breaks off; but it is none where what is said of them is
plain. -/
theorem exists_dispatch (hd : Knows clients d) {plays : List Play}
    (hplays : ∀ p ∈ plays, p.Entry)
    (hhandles : ∀ client ∈ clients, ∀ p ∈ plays, Handles client p) :
    ∃ sorted pending taken d', Round clients plays d sorted pending taken d'
      ∨ ∃ e, BreaksOff clients plays d sorted pending taken e d'
        ∧ (Host.PrintsPlain ω →
          ¬ ∀ client ∈ clients, ∀ p ∈ plays, client.SaysPlainly p) := by
  obtain ⟨sorted, hsorted, hperm⟩ := Play.exists_sort? hplays
  have hentries : ∀ p ∈ sorted, p.Entry := fun p hp => hplays p (hperm.mem_iff.mp hp)
  obtain ⟨pending, claimed, hclaimed, hclaims⟩ := exists_claimAll hd hentries
    fun client hclient p hp => (hhandles client hclient p (hperm.mem_iff.mp hp)).own
  have hpending : ∀ pair ∈ pending, pair.2 ∈ clients ∧ pair.1.play ∈ plays := by
    intro pair hpair
    obtain ⟨hc, hclient⟩ := hclaims.mem hpair
    refine ⟨hclient, hperm.mem_iff.mp ?_⟩
    rw [← map_play_ticketed d.next sorted]
    exact List.mem_map_of_mem hc
  obtain ⟨taken, result, w, hdeliveries, hok⟩ := exists_deliveries (fun pair hpair =>
    ⟨hplays _ (hpending pair hpair).2,
      hhandles _ (hpending pair hpair).1 _ (hpending pair hpair).2⟩) claimed.host
  obtain ⟨d', hsubmitted, rfl, -⟩ := hdeliveries.submits
  refine ⟨sorted, pending, taken, d', ?_⟩
  cases result with
  | ok u => exact Or.inl ⟨hsorted, claimed, hclaimed, hsubmitted⟩
  | error e =>
    refine Or.inr
      ⟨e, ⟨hsorted, claimed, hclaimed, hsubmitted, hdeliveries⟩, fun hconsole hplain => ?_⟩
    exact nomatch hok hconsole fun pair hpair =>
      hplain _ (hpending pair hpair).1 _ (hpending pair hpair).2

/-! ## Runs -/

omit [Host ω] in
/-- The histories of all clients with one more round. -/
def addRound (history : String → List Turn) (pending : List (Claim × Client ω))
    (taken : List Bool) (name : String) : List Turn :=
  history name ++ [.round (claimsFor name pending) (outcomesFor name pending taken)]

/-- **A run** of a dispatcher, with the history of each client by its name. -/
inductive Run (clients : List (Client ω)) (start : Dispatcher ω) :
    (String → List Turn) → Dispatcher ω → Prop where
  /-- Nothing was done yet. -/
  | start : Run clients start (fun _ => []) start
  /-- Something happens on the host. -/
  | elsewhere {history : String → List Turn} {d : Dispatcher ω}
    (run : Run clients start history d)
      (w : ω) : Run clients start history (d.on w)
  /-- What a client has is put into its window. -/
  | recalls {history : String → List Turn} {d d' : Dispatcher ω}
      (run : Run clients start history d) {client : Client ω} (isClient : client ∈ clients)
      {plays sorted : List Play} {w : ω} (told : client.recent d.host = .ok plays w)
      (entries : ∀ p ∈ plays, p.Entry) (inOrder : Play.sort? plays = .ok sorted)
      (performed : primeOne client d = .ok () d') :
      Run clients start
        (fun name => history name ++ if name = client.name then [.recollect sorted] else []) d'
  /-- Plays are dispatched. -/
  | dispatches {history : String → List Turn} {d d' : Dispatcher ω}
      (run : Run clients start history d) {plays sorted : List Play}
      {pending : List (Claim × Client ω)} {taken : List Bool} (entries : ∀ p ∈ plays, p.Entry)
      (handled : ∀ client ∈ clients, ∀ p ∈ plays, Handles client p)
      (round : Round clients plays d sorted pending taken d') :
      Run clients start (addRound history pending taken) d'
  /-- A dispatch breaks off. -/
  | breaksOff {history : String → List Turn} {d d' : Dispatcher ω}
      (run : Run clients start history d) {plays sorted : List Play}
      {pending : List (Claim × Client ω)} {taken : List Bool} {e : Fault}
      (entries : ∀ p ∈ plays, p.Entry)
      (round : BreaksOff clients plays d sorted pending taken e d') :
      Run clients start (addRound history pending taken) d'

/-- **What a run keeps up** for every client. -/
structure Kept (size : Nat) (clients : List (Client ω)) (history : String → List Turn)
    (d : Dispatcher ω) : Prop where
  /-- The window is what the history makes of an empty one. -/
  window : ∀ client ∈ clients,
    d.windows.lookup client.name = some (windowAfter size (history client.name))
  /-- The history is orderly. -/
  orderly : ∀ client ∈ clients, Orderly size (history client.name) d.next
  /-- Nothing is claimed that is the client's own. -/
  notOwn : ∀ client ∈ clients, ∀ c, .claimed c ∈ deeds (history client.name) →
    client.isOwn c.play = .ok false

omit [Host ω] in
/-- A dispatcher that keeps its windows knows its clients. -/
theorem Kept.knows (h : Kept size clients history d) : Knows clients d :=
  fun client hclient => ⟨_, h.window client hclient, fun _ he =>
    (h.orderly client hclient).entry_of_mem (List.append_nil _).symm he⟩

omit [Host ω] in
/-- Where every client has the same, each of them has it. -/
theorem lookup_map_of_mem {client : Client ω} (hclient : client ∈ clients) (w : Window Claim) :
    (clients.map fun c => (c.name, w)).lookup client.name = some w := by
  induction clients with
  | nil => exact absurd hclient List.not_mem_nil
  | cons first rest ih =>
    rw [List.map_cons, List.lookup_cons]
    by_cases hname : client.name = first.name
    · rw [beq_iff_eq.mpr hname]
    · rw [beq_false_of_ne hname]
      rcases List.mem_cons.mp hclient with rfl | hclient
      · exact absurd rfl hname
      · exact ih hclient

omit [Host ω] in
/-- A dispatcher for a client cannot be made with windows of less than no
room. -/
theorem nonneg_of_ofClients? {bound : Int} {host : ω} {d : Dispatcher ω}
    (h : ofClients? clients bound host = .ok d) {client : Client ω}
    (hclient : client ∈ clients) :
    0 ≤ bound := by
  by_contra hneg
  have hwindow : (Window.ofSize? bound : Except Fault (Window Claim)) = .error .negativeWindow :=
    if_pos (Int.not_le.mp hneg)
  cases clients with
  | nil => exact absurd hclient List.not_mem_nil
  | cons first rest =>
    unfold ofClients? at h
    rw [List.mapM_cons, hwindow] at h
    exact nomatch h

omit [Host ω] in
/-- **A new dispatcher** has an empty window for every client. -/
theorem kept_start {bound : Int} {host : ω} (hbound : 0 ≤ bound)
    (hstart : ofClients? clients bound host = .ok start) :
    Kept bound.toNat clients (fun _ => []) start := by
  have hwindow : (Window.ofSize? bound : Except Fault (Window Claim))
      = .ok { size := bound.toNat } := if_neg (by omega)
  have hwindows : clients.mapM (fun c => do .ok (c.name, ← Window.ofSize? bound))
      = (.ok (clients.map fun c => (c.name, { size := bound.toNat }))
        : Except Fault (List (String × Window Claim))) :=
    mapM_eq_ok fun c _ => by rw [hwindow]; rfl
  unfold ofClients? at hstart
  rw [hwindows] at hstart
  obtain rfl := Except.ok.inj hstart
  refine ⟨fun client hclient => ?_, fun _ _ => .nothing _,
    fun _ _ _ h => absurd h List.not_mem_nil⟩
  exact lookup_map_of_mem hclient _

omit [Host ω] in
/-- What recalling does. -/
theorem primeOne_eq {client : Client ω} {plays sorted : List Play} {w : ω}
    (told : client.recent d.host = .ok plays w) (inOrder : Play.sort? plays = .ok sorted) :
    primeOne client d = .ok () ((d.on w).change client.name
      (Window.pushAll (sorted.map fun p => ⟨p, none⟩))) := by
  unfold primeOne
  simp only [Step.within, told, Step.result_ok, Step.state_ok, inOrder, Step.of_ok,
    Step.andThen_ok]

/-- Plays that are recalled are pushed. -/
theorem Deed.applyAll_recalled (w : Window Claim) (plays : List Play) :
    Deed.applyAll w (plays.map .recalled) = Window.pushAll (plays.map fun p => ⟨p, none⟩) w := by
  unfold Deed.applyAll Window.pushAll
  rw [List.foldl_map, List.foldl_map]
  rfl

omit [Host ω] in
/-- **Recalling plays** adds a turn for one client. -/
theorem Kept.recalls (h : Kept size clients history d) {client : Client ω}
    {plays sorted : List Play} {w : ω} (told : client.recent d.host = .ok plays w)
    (entries : ∀ p ∈ plays, p.Entry) (inOrder : Play.sort? plays = .ok sorted)
    (performed : primeOne client d = .ok () d') :
    Kept size clients
      (fun name =>
        history name ++ if name = client.name then [.recollect sorted] else []) d' := by
  have hd' : d' = _ := congrArg Step.state (performed.symm.trans (primeOne_eq told inOrder))
  subst hd'
  have hsorted : ∀ p ∈ sorted, p.Entry := fun p hp =>
    entries p ((Play.pairwise_of_sort? inOrder).1.mem_iff.mp hp)
  refine ⟨fun other hother => ?_, fun other hother => ?_, fun other hother c hc => ?_⟩
  · rw [Step.state_ok, lookup_change, windows_on, h.window other hother]
    by_cases hname : other.name = client.name
    · rw [if_pos hname, windowAfter_concat]
      exact congrArg some ((if_pos hname).trans (Deed.applyAll_recalled _ _).symm)
    · rw [if_neg hname, List.append_nil]
      exact congrArg some (if_neg hname)
  · by_cases hname : other.name = client.name
    · rw [if_pos hname]
      exact (h.orderly other hother).recollect hsorted
    · rw [if_neg hname, List.append_nil]
      exact h.orderly other hother
  · by_cases hname : other.name = client.name
    · rw [if_pos hname, deeds_concat] at hc
      rcases List.mem_append.mp hc with hc | hc
      · exact h.notOwn other hother c hc
      · obtain ⟨p, -, hp⟩ := eq_recalled_of_mem hc
        exact nomatch hp
    · rw [if_neg hname, List.append_nil] at hc
      exact h.notOwn other hother c hc

/-- **A round** adds a turn for every client, also one that breaks off. -/
theorem Kept.round (h : Kept size clients history d) (hnames : (clients.map Client.name).Nodup)
    {sorted : List Play} {pending : List (Claim × Client ω)} {taken : List Bool}
    {result : Except Fault Unit} {claimed : Dispatcher ω} (entries : ∀ p ∈ sorted, p.Entry)
    (hclaims : Claims { d with next := d.next + sorted.length }
      (allPairs (ticketed d.next sorted) clients) pending claimed)
    (hsubmits : Submits claimed pending taken result d') :
    Kept size clients (addRound history pending taken) d' := by
  have hnext : d'.next = d.next + sorted.length := hsubmits.next.trans hclaims.next
  refine ⟨fun client hclient => ?_, fun client hclient => ?_, fun client hclient c hc => ?_⟩
  · obtain ⟨hclaimed, -⟩ := hclaims.window client.name _ (h.window client hclient)
    rw [hsubmits.window client.name _ hclaimed, addRound, windowAfter_concat,
      ← Deed.applyAll_append]
    rfl
  · obtain ⟨-, hadmits⟩ := hclaims.window client.name _ (h.window client hclient)
    have hpart := hclaims.sublist hnames hclient
    have htickets := hpart.map Claim.ticket
    rw [map_ticket_ticketed] at htickets
    refine (h.orderly client hclient).round (fun c hc => ?_) hadmits (fun c hc => ?_) ?_ ?_
      (isPrefix_map_outcomesFor client.name pending taken)
    · refine entries _ ?_
      rw [← map_play_ticketed d.next sorted]
      exact List.mem_map_of_mem (hpart.subset hc)
    · obtain ⟨ticket, hticket, hsome⟩ := List.mem_map.mp
        (htickets.subset (List.mem_map_of_mem hc))
      rw [List.mem_range'_1] at hticket
      exact ⟨ticket, hsome.symm, hticket.1, hnext ▸ hticket.2⟩
    · exact htickets.nodup (List.Nodup.map (fun _ _ e => Option.some.inj e) List.nodup_range')
    · rw [hnext]
      exact Nat.le_add_right ..
  · rw [addRound, deeds_concat] at hc
    rcases List.mem_append.mp hc with hc | hc
    · exact h.notOwn client hclient c hc
    · exact hclaims.notOwn_of_mem hnames hclient (mem_of_claimed_mem_round hc)

/-- **A run keeps up what it starts with.** -/
theorem Run.kept (hnames : (clients.map Client.name).Nodup) (hstart : Kept size clients
    (fun _ => []) start) (run : Run clients start history d) : Kept size clients history d := by
  have hsorted : ∀ {plays sorted : List Play}, Play.sort? plays = .ok sorted →
      (∀ p ∈ plays, p.Entry) → ∀ p ∈ sorted, p.Entry := fun hsort hentries p hp =>
    hentries p ((Play.pairwise_of_sort? hsort).1.mem_iff.mp hp)
  induction run with
  | start => exact hstart
  | elsewhere run w ih => exact ⟨ih.window, ih.orderly, ih.notOwn⟩
  | recalls run isClient told entries inOrder performed ih =>
    exact ih.recalls told entries inOrder performed
  | dispatches run entries handled round ih =>
    obtain ⟨claimed, hclaims, hsubmits⟩ := round.parts
    exact ih.round hnames (hsorted round.inOrder entries) hclaims hsubmits
  | breaksOff run entries round ih =>
    obtain ⟨claimed, hclaims, hsubmits⟩ := round.parts
    exact ih.round hnames (hsorted round.inOrder entries) hclaims hsubmits

/-! ## What clients are sent -/

/-- **Whether nothing is sent twice to a client**, by the deeds for it. -/
structure SentOnce (size : Nat) (client : Client ω) (ds : List Deed) : Prop where
  /-- Only what was claimed is submitted. -/
  claimed : ∀ c, .taken c ∈ ds ∨ .refused c ∈ ds → .claimed c ∈ ds
  /-- Nothing of it is the client's own. -/
  notOwn : ∀ c, .claimed c ∈ ds → client.isOwn c.play = .ok false
  /-- What is one listen with a play that the client had before, or that it
  took, is claimed only after as many others were added as the window holds –
  or if that play was crowded out. -/
  apart : ∀ (before between after : List Deed) (d : Deed) (c q : Claim), d.added? = some c →
    ds = before ++ d :: (between ++ .claimed q :: after) →
    d = .recalled c.play ∨ .taken c ∈ ds → Match.sameListen? c.play q.play = .ok true →
      size ≤ Deed.additions between ∨ IsCrowdedOut size c before between

/-- **What comes of a dispatch**: plays are submitted, and some of them taken. -/
structure Answers (clients : List (Client ω)) (plays : List Play) (d : Dispatcher ω)
    (pending : List (Claim × Client ω)) (taken : List Bool) (result : Except Fault Unit)
    (d' : Dispatcher ω) : Prop where
  /-- Those that are taken are counted, if the dispatch does not break off. -/
  counts : dispatch clients plays d = ⟨result.map fun _ => taken.count true, d'⟩
  /-- Only to the clients plays are submitted. -/
  known : ∀ pair ∈ pending, pair.2 ∈ clients
  /-- Each client is given each play of the batch at most once, in the order
  in which they were played. -/
  inOrder : ∃ sorted, sorted.Perm plays
    ∧ (sorted.Pairwise fun a b => a.placedAt.micros ≤ b.placedAt.micros)
    ∧ ∀ client ∈ clients, ((claimsFor client.name pending).map (·.play)).Sublist sorted
  /-- They are submitted one after the other, and it is told what became of
  each of them. -/
  deliveries : Deliveries pending d.host taken result d'.host

/-- A batch that was claimed and submitted has its answers. -/
theorem Answers.of_parts (hnames : (clients.map Client.name).Nodup) {plays sorted : List Play}
    {pending : List (Claim × Client ω)} {taken : List Bool} {result : Except Fault Unit}
    {claimed : Dispatcher ω}
    (hcounts : dispatch clients plays d = ⟨result.map fun _ => taken.count true, d'⟩)
    (hsorted : Play.sort? plays = .ok sorted)
    (hclaims : Claims { d with next := d.next + sorted.length }
      (allPairs (ticketed d.next sorted) clients) pending claimed)
    (hsubmits : Submits claimed pending taken result d') :
    Answers clients plays d pending taken result d' := by
  obtain ⟨hperm, hordered⟩ := Play.pairwise_of_sort? hsorted
  refine ⟨hcounts, fun pair hpair => (hclaims.mem hpair).2,
    ⟨sorted, hperm, hordered, fun client hclient => ?_⟩, hclaims.host ▸ hsubmits.deliveries⟩
  rw [← map_play_ticketed d.next sorted]
  exact (hclaims.sublist hnames hclient).map _

/-- **Any batch can be dispatched**, and the run goes on, whether or not the
dispatch breaks off. -/
theorem Run.exists_answers (run : Run clients start history d)
    (hkept : Kept size clients history d) (hnames : (clients.map Client.name).Nodup)
    {plays : List Play} (hplays : ∀ p ∈ plays, p.Entry)
    (hhandles : ∀ client ∈ clients, ∀ p ∈ plays, Handles client p) :
    ∃ pending taken result d', Answers clients plays d pending taken result d'
      ∧ Run clients start (addRound history pending taken) d'
      ∧ (Host.PrintsPlain ω → (∀ client ∈ clients, ∀ p ∈ plays, client.SaysPlainly p) →
        result = .ok ()) := by
  obtain ⟨sorted, pending, taken, d', hround | ⟨e, hround, hplain⟩⟩ :=
    exists_dispatch hkept.knows hplays hhandles
  · obtain ⟨claimed, hclaims, hsubmits⟩ := hround.parts
    exact ⟨pending, taken, .ok (), d',
      .of_parts hnames hround.dispatch_eq hround.inOrder hclaims hsubmits,
      run.dispatches hplays hhandles hround, fun _ _ => rfl⟩
  · obtain ⟨claimed, hclaims, hsubmits⟩ := hround.parts
    exact ⟨pending, taken, .error e, d',
      .of_parts hnames hround.dispatch_eq hround.inOrder hclaims hsubmits,
      run.breaksOff hplays hround, fun hconsole h => absurd h (hplain hconsole)⟩

omit [Host ω] in
/-- **Whether a client can be asked** what it has: it tells, or fails as
clients do. -/
def Tells (client : Client ω) (w : ω) : Prop :=
  (∃ plays w', client.recent w = .ok plays w' ∧ ∀ p ∈ plays, p.Entry)
    ∨ ∃ e w', client.recent w = .fail e w' ∧ e.nature = .client

/-- **What priming adds** to the history of a client: the plays it tells, in
order, and nothing if it does not tell. -/
inductive Primed (client : Client ω) (before after : List Turn) : Prop where
  /-- It tells. -/
  | told {plays sorted : List Play} {w w' : ω} (told : client.recent w = .ok plays w')
      (inOrder : Play.sort? plays = .ok sorted) (added : after = before ++ [.recollect sorted])
  /-- It does not. -/
  | silent {e : Fault} {w w' : ω} (failed : client.recent w = .fail e w') (same : after = before)

omit [Host ω] in
/-- Priming delivers nothing. -/
theorem prime_eq_ok {units : List Unit} (h : Step.forEach primeOne clients d = .ok units d') :
    prime clients d = .ok () d' := by
  unfold prime
  rw [h, Step.andThen_ok]

/-- Clients are asked one after the other. -/
theorem Run.exists_primed (run : Run clients start history d) {asked : List (Client ω)}
    (hasked : ∀ client ∈ asked, client ∈ clients) (hnames : (asked.map Client.name).Nodup)
    (htells : ∀ client ∈ asked, ∀ w, Tells client w) :
    ∃ units history' d', Step.forEach primeOne asked d = .ok units d'
      ∧ Run clients start history' d'
      ∧ (∀ client ∈ asked, Primed client (history client.name) (history' client.name))
      ∧ ∀ name, name ∉ asked.map Client.name → history' name = history name := by
  induction asked generalizing history d with
  | nil => exact ⟨[], history, d, rfl, run, fun _ h => absurd h List.not_mem_nil, fun _ _ => rfl⟩
  | cons client rest ih =>
    obtain ⟨hfirst, hrest⟩ := List.nodup_cons.mp hnames
    have hclients := fun other hother => hasked other (List.mem_cons_of_mem client hother)
    have htold := fun other hother => htells other (List.mem_cons_of_mem client hother)
    -- one client is asked, and its own history is the only one that changes
    have hone : ∃ history₁ d₁, primeOne client d = .ok () d₁ ∧ Run clients start history₁ d₁
        ∧ Primed client (history client.name) (history₁ client.name)
        ∧ ∀ name, name ≠ client.name → history₁ name = history name := by
      rcases htells client List.mem_cons_self d.host with
        ⟨plays, w, hplays, hentries⟩ | ⟨e, w, hfailed, hnature⟩
      · obtain ⟨sorted, hsorted, -⟩ := Play.exists_sort? hentries
        have hprime := primeOne_eq hplays hsorted
        refine ⟨_, _, hprime, run.recalls (hasked client List.mem_cons_self) hplays hentries
          hsorted hprime, .told hplays hsorted (by rw [if_pos rfl]), fun name hname => ?_⟩
        rw [if_neg hname, List.append_nil]
      · refine ⟨history, d.on w, ?_, run.elsewhere w, .silent hfailed rfl, fun _ _ => rfl⟩
        unfold primeOne
        simp only [Step.within, hfailed]
        exact if_pos hnature
    obtain ⟨history₁, d₁, hprime, run₁, hprimed, hothers⟩ := hone
    obtain ⟨units, history', d', hall, run', hprimed', hothers'⟩ := ih run₁ hclients hrest htold
    refine ⟨() :: units, history', d', ?_, run', fun other hother => ?_, fun name hname => ?_⟩
    · unfold Step.forEach
      rw [hprime, Step.andThen_ok, hall, Step.andThen_ok]
    · rcases List.mem_cons.mp hother with rfl | hother
      · rw [hothers' _ hfirst]
        exact hprimed
      · rw [← hothers other.name fun e => hfirst (e ▸ List.mem_map_of_mem hother)]
        exact hprimed' other hother
    · obtain ⟨hne, hnot⟩ := not_or.mp fun h => hname (List.mem_cons.mpr h)
      rw [hothers' name hnot, hothers name hne]

/-- **No listen is sent twice.** Over any run of a dispatcher for clients of
different names, with windows that have room, nothing is sent twice to a
client; any batch can be dispatched, and the dispatch returns where what is said
of its plays is plain; and all clients can be asked what they have. -/
theorem Run.sends_once {bound : Int} {host : ω} (hnames : (clients.map Client.name).Nodup)
    (hbound : 1 ≤ bound) (hstart : ofClients? clients bound host = .ok start)
    (run : Run clients start history d) :
    (∀ client ∈ clients, SentOnce bound.toNat client (deeds (history client.name)))
      ∧ (∀ plays : List Play, (∀ p ∈ plays, p.Entry) →
        (∀ client ∈ clients, ∀ p ∈ plays, Handles client p) →
        ∃ pending taken result d', Answers clients plays d pending taken result d'
          ∧ Run clients start (addRound history pending taken) d'
          ∧ (Host.PrintsPlain ω → (∀ client ∈ clients, ∀ p ∈ plays, client.SaysPlainly p) →
            result = .ok ()))
      ∧ ((∀ client ∈ clients, ∀ w, Tells client w) →
        ∃ history' d', prime clients d = .ok () d' ∧ Run clients start history' d'
          ∧ ∀ client ∈ clients, Primed client (history client.name) (history' client.name)) := by
  have hkept := run.kept hnames (kept_start (by omega) hstart)
  have hroom : 1 ≤ bound.toNat := by omega
  refine ⟨fun client hclient => ?_, fun plays hplays hhandles => ?_, fun htells => ?_⟩
  · have horderly := hkept.orderly client hclient
    exact ⟨fun c => horderly.claimed_of_outcome, hkept.notOwn client hclient,
      fun before between after d c q hadded hdeeds hsent hsame =>
        (horderly.apart hroom hadded hdeeds hsent hsame).imp_right And.right⟩
  · exact run.exists_answers hkept hnames hplays hhandles
  · obtain ⟨units, history', d', hall, run', hprimed, -⟩ :=
      run.exists_primed (fun _ h => h) hnames htells
    exact ⟨history', d', prime_eq_ok hall, run', hprimed⟩

/-! ## A window that is too small -/

/-- A host on which nothing happens, and on which some more submissions
fail. -/
structure Outage where
  /-- How many. -/
  failures : Nat

instance : Host Outage where
  now _ := Instant.epoch
  isStopping _ := false
  say _ w := .ok () w
  notify _ w := w
  wait _ w := .ok () w
  load _ _ := none
  save _ _ w := w

theorem Outage.printsPlain : Host.PrintsPlain Outage := fun _ _ w _ => ⟨w, rfl⟩

/-- A client that cannot be reached for a while. -/
def faltering : Client Outage where
  name := "c"
  isOwn _ := .ok false
  recent w := .ok [] w
  submit _ w := match w.failures with
    | 0 => .ok () w
    | n + 1 => .fail (.refused .unreachable "") ⟨n⟩

/-- A play of some track. -/
def tune (title : String) : Play := { title := .text title, playedAt := some Instant.epoch }

theorem entry_tune (title : String) : (tune title).Entry :=
  ⟨⟨rfl, fun _ h => absurd h List.not_mem_nil, rfl, rfl, rfl, rfl⟩, ⟨_, rfl, rfl⟩,
    fun _ h => absurd h List.not_mem_nil, rfl⟩

theorem handles_faltering (p : Play) : Handles faltering p := by
  refine ⟨⟨false, rfl⟩, fun w => ?_⟩
  obtain ⟨failures⟩ := w
  cases failures with
  | zero => exact Or.inl rfl
  | succ n => exact Or.inr ⟨.unreachable, "", rfl⟩

/-- A dispatcher with room for one play. -/
def narrow : Dispatcher Outage where
  windows := [("c", { size := 1 })]
  host := ⟨1⟩

/-- Two plays of one track at one time, with another play in between. -/
def repetitious : List Play := [tune "a", tune "b", tune "a"]

theorem entry_of_mem_repetitious : ∀ p ∈ repetitious, p.Entry :=
  List.forall_mem_cons.mpr ⟨entry_tune _, List.forall_mem_cons.mpr ⟨entry_tune _,
    List.forall_mem_singleton.mpr (entry_tune _)⟩⟩

theorem ofClients?_narrow : ofClients? [faltering] 1 ⟨1⟩ = .ok narrow := rfl

/-- A batch that repeats a play can be dispatched, and nothing is sent twice but
what was crowded out. -/
theorem sends_once_repetitious :
    ∃ pending taken d', Answers [faltering] repetitious narrow pending taken (.ok ()) d'
      ∧ SentOnce 1 faltering (deeds (addRound (fun _ => []) pending taken "c")) := by
  have hnames : ([faltering].map Client.name).Nodup := List.nodup_singleton _
  obtain ⟨-, hdispatch, -⟩ :=
    Run.sends_once hnames (Int.le_refl 1) ofClients?_narrow (.start : Run [faltering] narrow _ _)
  obtain ⟨pending, taken, result, d', hanswers, run, hok⟩ :=
    hdispatch repetitious entry_of_mem_repetitious
      fun client hclient p _ => List.mem_singleton.mp hclient ▸ handles_faltering p
  have hplain : ∀ p ∈ repetitious, faltering.SaysPlainly p := by decide +kernel
  obtain rfl := hok Outage.printsPlain fun client hclient =>
    List.mem_singleton.mp hclient ▸ hplain
  obtain ⟨hsent, -, -⟩ := Run.sends_once hnames (Int.le_refl 1) ofClients?_narrow run
  exact ⟨pending, taken, d', hanswers, hsent faltering List.mem_cons_self⟩

/-- A round with plays in order, worked out. -/
def roundOf? (clients : List (Client ω)) (sorted : List Play) (d : Dispatcher ω) :
    Option (List (Claim × Client ω) × List Bool × Dispatcher ω) :=
  let claimed := claimAll clients sorted d
  claimed.result.toOption.bind fun pending =>
    let submitted := Step.forEach submit pending claimed.state
    submitted.result.toOption.map fun taken => (pending, taken, submitted.state)

/-- What comes of a round is what is worked out. -/
theorem Round.roundOf?_eq {plays sorted : List Play} {pending : List (Claim × Client ω)}
    {taken : List Bool} (h : Round clients plays d sorted pending taken d') :
    roundOf? clients sorted d = some (pending, taken, d') := by
  obtain ⟨claimed, hclaimed, hsubmitted⟩ := h.performed
  unfold roundOf?
  simp only [hclaimed, Step.result_ok, Step.state_ok, hsubmitted, Except.toOption,
    Option.bind_some, Option.map_some]

/-- Plays that are in order stay as they are. -/
theorem sort?_of_pairwise {plays : List Play}
    (hcomparable : ∀ a ∈ plays, ∀ b ∈ plays, Instant.comparable a.placedAt b.placedAt = true)
    (h : plays.Pairwise fun a b => a.placedAt.micros ≤ b.placedAt.micros) :
    Play.sort? plays = .ok plays := by
  cases plays with
  | nil => rfl
  | cons first rest =>
    have hall : (rest.all fun p => Instant.comparable first.placedAt p.placedAt) = true :=
      List.all_eq_true.mpr fun p hp =>
        hcomparable first List.mem_cons_self p (List.mem_cons_of_mem first hp)
    refine (if_pos hall).trans (congrArg Except.ok (List.mergeSort_of_pairwise ?_))
    exact h.imp fun hle => decide_eq_true hle

/-- Tunes are in order: they are played at one time. -/
theorem sort?_tunes (titles : List String) :
    Play.sort? (titles.map tune) = .ok (titles.map tune) := by
  have hplaced : ∀ p ∈ titles.map tune, p.placedAt = Instant.epoch := fun p hp => by
    obtain ⟨title, -, rfl⟩ := List.mem_map.mp hp
    rfl
  refine sort?_of_pairwise (fun a ha b hb => ?_) (List.pairwise_of_forall_mem_list
    fun a ha b hb => ?_)
  · rw [hplaced a ha, hplaced b hb]
    rfl
  · exact Int.le_of_eq (by rw [hplaced a ha, hplaced b hb])

/-- **Tunes can be dispatched** to a client that falters, if their titles are
plain. -/
theorem Run.exists_roundOf? {d : Dispatcher Outage} (run : Run [faltering] narrow history d)
    (titles : List String) (hplain : ∀ title ∈ titles, faltering.SaysPlainly (tune title)) :
    ∃ pending taken d', roundOf? [faltering] (titles.map tune) d = some (pending, taken, d')
      ∧ (outcomesFor "c" pending taken).map (·.1) = claimsFor "c" pending
      ∧ Run [faltering] narrow (addRound history pending taken) d' := by
  have hnames : ([faltering].map Client.name).Nodup := List.nodup_singleton _
  have hentries : ∀ p ∈ titles.map tune, p.Entry := fun p hp => by
    obtain ⟨title, -, rfl⟩ := List.mem_map.mp hp
    exact entry_tune title
  have hhandles : ∀ client ∈ [faltering], ∀ p ∈ titles.map tune, Handles client p :=
    fun client hclient p _ => List.mem_singleton.mp hclient ▸ handles_faltering p
  have hsaid : ∀ client ∈ [faltering], ∀ p ∈ titles.map tune, client.SaysPlainly p := by
    intro client hclient p hp
    obtain ⟨title, htitle, rfl⟩ := List.mem_map.mp hp
    exact List.mem_singleton.mp hclient ▸ hplain title htitle
  have hknows := (run.kept hnames (kept_start (by decide) ofClients?_narrow)).knows
  obtain ⟨sorted, pending, taken, d', hround | ⟨e, -, hno⟩⟩ :=
    exists_dispatch hknows hentries hhandles
  · obtain ⟨claimed, -, hsubmits⟩ := hround.parts
    refine ⟨pending, taken, d', ?_,
      map_outcomesFor "c" (Nat.le_of_eq (hsubmits.length rfl).symm),
      run.dispatches hentries hhandles hround⟩
    obtain rfl := Except.ok.inj (hround.inOrder.symm.trans (sort?_tunes titles))
    exact hround.roundOf?_eq
  · exact absurd hsaid (hno Outage.printsPlain)

/-- What becomes of the plays, by their tickets, and of the first one of them
that is dispatched once more; and whether that is one listen with the last
one. -/
def resent? : Option (List (Option Nat × Bool) × List (Option Nat × Bool) × Option Bool) :=
  (roundOf? [faltering] (["a", "b", "a"].map tune) narrow).bind fun (pending, taken, d) =>
    (roundOf? [faltering] (["a"].map tune) d).map fun (pending', taken', _) =>
      let first := outcomesFor "c" pending taken
      let second := outcomesFor "c" pending' taken'
      (first.map fun o => (o.1.ticket, o.2), second.map fun o => (o.1.ticket, o.2),
        first[2]?.bind fun o => second[0]?.bind fun o' =>
          (Match.sameListen? o.1.play o'.1.play).toOption)

theorem resent?_eq : resent? = some ([(some 0, false), (some 1, true), (some 2, true)],
    [(some 3, true)], some true) := by decide +kernel

/-- A value that is there is delivered. -/
theorem eq_ok_of_toOption {α : Type} {x : Except Fault α} {a : α} (h : x.toOption = some a) :
    x = .ok a := by
  cases x with
  | ok b => exact congrArg Except.ok (Option.some.inj h)
  | error e => exact nomatch h

/-- **A play that was sent may be forgotten.** The window has room for one
play. The first of two equal plays of a batch is refused, and with it the
second one is released, which was taken: it is sent again, and nothing was
added in between. -/
theorem not_forall_apart :
    ¬ ∀ (history : String → List Turn) (d : Dispatcher Outage),
      Run [faltering] narrow history d →
      ∀ (before between after : List Deed) (x : Deed) (c q : Claim), x.added? = some c →
        deeds (history "c") = before ++ x :: (between ++ .claimed q :: after) →
        x = .recalled c.play ∨ .taken c ∈ deeds (history "c") →
        Match.sameListen? c.play q.play = .ok true → 1 ≤ Deed.additions between := by
  intro hall
  obtain ⟨pending, taken, d, hfirst, hclaims, run⟩ :=
    (Run.start : Run [faltering] narrow _ _).exists_roundOf? ["a", "b", "a"] (by decide +kernel)
  obtain ⟨pending', taken', d', hsecond, hclaims', run'⟩ :=
    run.exists_roundOf? ["a"] (by decide +kernel)
  have hresent := resent?_eq
  unfold resent? at hresent
  simp only [hfirst, Option.bind_some, hsecond, Option.map_some, Option.some.injEq,
    Prod.mk.injEq] at hresent
  obtain ⟨houtcomes, houtcomes', hsame⟩ := hresent
  obtain ⟨o₀, rest, ho, h₀, hrest⟩ := List.map_eq_cons_iff.mp houtcomes
  obtain ⟨o₁, rest, rfl, h₁, hrest⟩ := List.map_eq_cons_iff.mp hrest
  obtain ⟨o₂, rest, rfl, h₂, hrest⟩ := List.map_eq_cons_iff.mp hrest
  obtain rfl := List.map_eq_nil_iff.mp hrest
  obtain ⟨o₃, rest, ho', h₃, hrest⟩ := List.map_eq_cons_iff.mp houtcomes'
  obtain rfl := List.map_eq_nil_iff.mp hrest
  obtain ⟨c₀, b₀⟩ := o₀
  obtain ⟨c₁, b₁⟩ := o₁
  obtain ⟨c₂, b₂⟩ := o₂
  obtain ⟨c₃, b₃⟩ := o₃
  obtain ⟨-, rfl⟩ := Prod.mk.inj h₀
  obtain ⟨-, rfl⟩ := Prod.mk.inj h₁
  obtain ⟨-, rfl⟩ := Prod.mk.inj h₂
  obtain ⟨-, rfl⟩ := Prod.mk.inj h₃
  have hdeeds : deeds (addRound (addRound (fun _ => []) pending taken) pending' taken' "c")
      = [.claimed c₀, .claimed c₁] ++ .claimed c₂
        :: ([.refused c₀, .taken c₁, .taken c₂] ++ .claimed c₃ :: [.taken c₃]) := by
    unfold addRound
    rw [← hclaims, ← hclaims', ho, ho']
    rfl
  rw [ho, ho'] at hsame
  have htaken : Deed.taken c₂
      ∈ deeds (addRound (addRound (fun _ => []) pending taken) pending' taken' "c") := by
    rw [hdeeds]
    simp
  exact absurd (hall _ d' run' _ _ _ _ c₂ c₃ rfl hdeeds (Or.inr htaken)
    (eq_ok_of_toOption hsame)) (Nat.not_succ_le_zero 0)

end Dispatcher

end Listening
