import Listening.Proofs.ClaimReleases
import Mathlib.Data.List.Induction

/-!
# A round in which everything is refused

A claim that a client refuses is forgotten, and so one might expect a round in
which it refuses everything to leave its window as it was. But all plays are
claimed before the first of them is submitted, and a claim takes up room: in a
full window each one drops the oldest entry. What is forgotten later is the
claim; the entry does not come back. `Reached.refused_round` says exactly
what is left of the window, namely all but the oldest entries for which there
was no room beside the claims – so nothing changes only where the window had
room for all of them, or was empty.

The plays may be of any data here, and whatever was dispatched before may have
failed. All that is needed of a window is that it is no fuller than it should
be, and that its tickets were given (`Bounded`), which every operation keeps.
-/

namespace Listening

namespace Dispatcher

variable {ω : Type} {clients : List (Client ω)} {client : Client ω} {d d' : Dispatcher ω}
  {size next : Nat} {w : Window Claim} {c : Claim}

/-! ## What windows are like -/

/-- **A window as it can be**: it is no fuller than its size, and the tickets
in it were given before. -/
structure Bounded (size next : Nat) (w : Window Claim) : Prop where
  /-- It is of the size. -/
  sized : w.size = size
  /-- It is no fuller. -/
  room : w.items.length ≤ size
  /-- Its tickets were given. -/
  given : ∀ e ∈ w.items, ∀ t, e.ticket = some t → t < next

theorem Bounded.push (h : Bounded size next w) (hc : ∀ t, c.ticket = some t → t < next) :
    Bounded size next (w.push c) where
  sized := h.sized
  room := h.sized ▸ Window.length_push_le c w
  given := fun e he => by
    rcases Window.mem_of_mem_push he with he | rfl
    · exact h.given e he
    · exact hc

theorem Bounded.pushAll (h : Bounded size next w) {cs : List Claim}
    (hcs : ∀ c ∈ cs, c.ticket = none) : Bounded size next (Window.pushAll cs w) := by
  induction cs generalizing w with
  | nil => exact h
  | cons c cs ih =>
    have hc := hcs c List.mem_cons_self
    exact ih (h.push fun t ht => nomatch hc.symm.trans ht)
      fun c' hc' => hcs c' (List.mem_cons_of_mem c hc')

theorem Bounded.forget (h : Bounded size next w) (c : Claim) :
    Bounded size next (Dispatcher.forget c w) where
  sized := h.sized
  room := Nat.le_trans List.eraseP_sublist.length_le h.room
  given := fun e he => h.given e (List.mem_of_mem_eraseP he)

theorem Bounded.later (h : Bounded size next w) {next' : Nat} (hle : next ≤ next') :
    Bounded size next' w :=
  ⟨h.sized, h.room, fun e he t ht => Nat.lt_of_lt_of_le (h.given e he t ht) hle⟩

/-- **A dispatcher as it can be**, for some clients: each of them has a window,
and one ticket is the next. -/
structure AllBounded (clients : List (Client ω)) (size next : Nat)
    (d : Dispatcher ω) : Prop where
  /-- Every client has a window as it can be. -/
  windows : ∀ client ∈ clients, ∃ w, d.windows.lookup client.name = some w ∧ Bounded size next w
  /-- The next ticket. -/
  next : d.next = next

theorem AllBounded.change (h : AllBounded clients size next d) (name : String)
    {f : Window Claim → Window Claim} (hf : ∀ w, Bounded size next w → Bounded size next (f w)) :
    AllBounded clients size next (d.change name f) where
  windows := fun client hclient => by
    obtain ⟨w, hw, hbounded⟩ := h.windows client hclient
    refine ⟨if client.name = name then f w else w, by rw [lookup_change, hw]; rfl, ?_⟩
    split
    · exact hf w hbounded
    · exact hbounded
  next := h.next

theorem AllBounded.on (h : AllBounded clients size next d) (host : ω) :
    AllBounded clients size next (d.on host) := ⟨h.windows, h.next⟩

/-- Putting what a client has into its window. -/
theorem AllBounded.primeOne (h : AllBounded clients size next d) (client : Client ω) :
    AllBounded clients size next (primeOne client d).state := by
  unfold Dispatcher.primeOne
  dsimp only
  split
  · refine Step.state_andThen (h.on _) fun plays d hd => hd.change client.name fun w hw => ?_
    refine hw.pushAll fun c hc => ?_
    obtain ⟨_, -, rfl⟩ := List.mem_map.mp hc
    rfl
  · split
    · exact h.on _
    · exact h.on _

/-- Claiming a play whose ticket was given. -/
theorem AllBounded.claim (h : AllBounded clients size next d)
    (hc : ∀ t, c.ticket = some t → t < next) (client : Client ω) :
    AllBounded clients size next (claim (c, client) d).state := by
  unfold Dispatcher.claim
  refine Step.state_andThen h fun own d hd => ?_
  split
  · exact Step.state_andThen hd fun _ _ h => h
  · refine Step.state_andThen hd fun existing d hd => ?_
    split
    · exact Step.state_andThen hd fun _ _ h => h
    · exact hd.change client.name fun w hw => hw.push hc

/-- Claiming a batch, which is given its tickets first. -/
theorem AllBounded.claimAll (h : AllBounded clients size next d) (plays : List Play) :
    AllBounded clients size (next + plays.length) (claimAll clients plays d).state := by
  have hgiven : AllBounded clients size (next + plays.length)
      { d with next := d.next + plays.length } := by
    refine ⟨fun client hclient => ?_, congrArg (· + plays.length) h.next⟩
    obtain ⟨w, hw, hbounded⟩ := h.windows client hclient
    exact ⟨w, hw, hbounded.later (Nat.le_add_right ..)⟩
  unfold Dispatcher.claimAll
  refine Step.state_andThen (Step.state_forEach (fun pair hpair s hs => ?_) hgiven)
    fun _ _ h => h
  obtain ⟨c, hc, hpair⟩ := List.mem_flatMap.mp hpair
  obtain ⟨client, -, rfl⟩ := List.mem_map.mp hpair
  refine hs.claim (fun t ht => ?_) client
  have hticket : some t ∈ (ticketed d.next plays).map (·.ticket) :=
    ht ▸ List.mem_map_of_mem (f := fun c : Claim => c.ticket) hc
  rw [map_ticket_ticketed] at hticket
  obtain ⟨t', ht', hsome⟩ := List.mem_map.mp hticket
  obtain rfl := Option.some.inj hsome
  rw [← h.next]
  exact (List.mem_range'_1.mp ht').2

/-- **A new dispatcher** is as it can be. -/
theorem allBounded_start {bound : Int} {host : ω} {start : Dispatcher ω}
    (hstart : ofClients? clients bound host = .ok start) :
    AllBounded clients bound.toNat 0 start where
  windows := fun client hclient => by
    have hkept := kept_start (nonneg_of_ofClients? hstart hclient) hstart
    exact ⟨_, hkept.window client hclient, rfl, Nat.zero_le _,
      fun _ he => absurd he List.not_mem_nil⟩
  next := by
    have hnext : ∀ windows : Except Fault (List (String × Window Claim)),
        (windows.bind fun windows => .ok { windows := windows, host := host }) = .ok start →
        start.next = 0 := by
      intro windows h
      cases windows with
      | error e => exact nomatch h
      | ok windows =>
        obtain rfl := Except.ok.inj h
        rfl
    exact hnext _ hstart

variable [Host ω]

/-- Submitting a claim. -/
theorem AllBounded.submit (h : AllBounded clients size next d) (pair : Claim × Client ω) :
    AllBounded clients size next (submit pair d).state := by
  unfold Dispatcher.submit report
  dsimp only
  split
  · exact Step.state_andThen (h.on _) fun _ _ hd =>
      Step.state_andThen (hd.on _) fun _ _ hd => hd
  · have hforgot := (h.on (pair.2.submit pair.1.play d.host).state).change pair.2.name
      fun w hw => hw.forget pair.1
    exact Step.state_andThen (Step.state_andThen hforgot fun _ _ hd => hd.on _) fun _ _ h => h
  · exact h.on _

/-! ## Whatever was done before -/

/-- **The dispatchers there can be** for some clients, with windows of a size:
from a new one on, things happen on the host, the clients are asked what they
have, and plays are dispatched, whichever and with whatever outcome. -/
inductive Reached (clients : List (Client ω)) (bound : Int) : Dispatcher ω → Prop where
  /-- Nothing was done yet. -/
  | start {host : ω} {d : Dispatcher ω} (begun : ofClients? clients bound host = .ok d) :
      Reached clients bound d
  /-- Something happens on the host. -/
  | elsewhere {d : Dispatcher ω} (before : Reached clients bound d) (host : ω) :
      Reached clients bound (d.on host)
  /-- The clients are asked what they have. -/
  | primes {d : Dispatcher ω} (before : Reached clients bound d) :
      Reached clients bound (prime clients d).state
  /-- Plays are dispatched. -/
  | dispatches {d : Dispatcher ω} (before : Reached clients bound d) (plays : List Play) :
      Reached clients bound (dispatch clients plays d).state

/-- **The windows of a dispatcher that was reached are bounded.** -/
theorem Reached.allBounded {bound : Int} (h : Reached clients bound d) :
    ∃ next, AllBounded clients bound.toNat next d := by
  induction h with
  | start begun => exact ⟨0, allBounded_start begun⟩
  | elsewhere before host ih =>
    obtain ⟨next, hd⟩ := ih
    exact ⟨next, hd.on host⟩
  | primes before ih =>
    obtain ⟨next, hd⟩ := ih
    unfold prime
    exact ⟨next,
      Step.state_andThen (Step.state_forEach (fun client _ _ hs => hs.primeOne client) hd)
      fun _ _ h => h⟩
  | @dispatches d before plays ih =>
    obtain ⟨next, hd⟩ := ih
    unfold dispatch
    cases hsorted : Play.sort? plays with
    | error e => exact ⟨next, hd⟩
    | ok sorted =>
      refine ⟨next + sorted.length, ?_⟩
      rw [Step.of_ok, Step.andThen_ok]
      refine Step.state_andThen (hd.claimAll sorted) fun pending s hs => ?_
      exact Step.state_andThen (Step.state_forEach (fun pair _ _ hs => hs.submit pair) hs)
        fun _ _ h => h

/-! ## Claims that are all refused -/

section Refusals

omit [Host ω]

/-- **Claims are added one after the other**, and the oldest entries make room
for them. -/
theorem items_applyAll_claimed (hroom : w.items.length ≤ w.size) (cs : List Claim) :
    (Deed.applyAll w (cs.map .claimed)).items = Window.lastOf w.size (w.items ++ cs) := by
  induction cs using List.reverseRecOn with
  | nil =>
    unfold Window.lastOf
    rw [List.append_nil, Nat.sub_eq_zero_of_le hroom]
    rfl
  | append_singleton cs c ih =>
    rw [List.map_append, Deed.applyAll_append]
    show Window.lastOf (Deed.applyAll w (cs.map .claimed)).size (_ ++ [c]) = _
    rw [Deed.size_applyAll, ih, Window.lastOf_lastOf_append, List.append_assoc]

/-- **Forgetting them leaves the entries that were there before**, as far as
they are: those are not taken for any of them. Some of the claims may be gone
already. -/
theorem items_applyAll_refused {kept added cs : List Claim}
    (hkept : ∀ e ∈ kept, ∀ c ∈ cs, isTakenFor c e = false) (hadded : added.Sublist cs)
    (hitems : w.items = kept ++ added) : (Deed.applyAll w (cs.map .refused)).items = kept := by
  induction cs generalizing w added with
  | nil => rw [List.map_nil, List.sublist_nil.mp hadded, List.append_nil] at *; exact hitems
  | cons c cs ih =>
    have herased : (Deed.apply w (.refused c)).items = kept ++ added.eraseP (isTakenFor c) := by
      show w.items.eraseP (isTakenFor c) = _
      rw [hitems]
      refine List.eraseP_append_right _ fun e he => ?_
      rw [hkept e he c List.mem_cons_self]
      exact Bool.false_ne_true
    have hleft : (added.eraseP (isTakenFor c)).Sublist cs := by
      cases hadded with
      | cons _ h => exact List.eraseP_sublist.trans h
      | cons_cons _ h =>
        rw [List.eraseP_cons_of_pos (isTakenFor_self c)]
        exact h
    exact ih (fun e he c' hc' => hkept e he c' (List.mem_cons_of_mem c hc')) hleft herased

/-- **An entry that is still there after some claims** was there when each of
them was made, so none of them is one listen with it. -/
theorem Admits.unmatched_of_mem_drop {cs : List Claim} (h : Admits w cs)
    (hroom : w.items.length ≤ w.size) {e : Claim}
    (he : e ∈ w.items.drop (w.items.length + cs.length - w.size)) (hc : c ∈ cs) :
    Match.sameListen? e.play c.play = .ok false := by
  obtain ⟨earlier, later, rfl⟩ := List.append_of_mem hc
  refine h.unmatched e ?_
  rw [items_applyAll_claimed hroom]
  unfold Window.lastOf
  rw [List.drop_append]
  refine List.mem_append_left _ (List.drop_subset_drop_left _ ?_ he)
  rw [List.length_append, List.length_append]
  omega

/-- **All that is left of a window** in which some claims were made and all of
them refused. -/
theorem Admits.items_refused {cs : List Claim} (h : Admits w cs)
    (hroom : w.items.length ≤ w.size)
    (hnew : ∀ e ∈ w.items, ∀ c ∈ cs, e.ticket ≠ c.ticket)
    (hrecognised : ∀ e ∈ w.items, ∀ c ∈ cs, e.play.alike c.play = true →
      Match.sameListen? e.play c.play = .ok true) :
    (Deed.applyAll (Deed.applyAll w (cs.map .claimed)) (cs.map .refused)).items
      = w.items.drop (w.items.length + cs.length - w.size) := by
  have hitems := items_applyAll_claimed hroom cs
  unfold Window.lastOf at hitems
  rw [List.length_append, List.drop_append] at hitems
  refine items_applyAll_refused (fun e he c hc => ?_) (List.drop_sublist ..) hitems
  have hmem : e ∈ w.items := List.mem_of_mem_drop he
  refine Bool.or_eq_false_iff.mpr ⟨beq_false_of_ne (hnew e hmem c hc), ?_⟩
  cases halike : e.play.alike c.play with
  | false => rfl
  | true =>
    have hsame := hrecognised e hmem c hc halike
    exact nomatch (h.unmatched_of_mem_drop hroom he hc).symm.trans hsame

/-- A claim for a client is for a play of the batch, with a ticket of its own. -/
theorem Claims.mem_ticketed {sorted : List Play} {pending : List (Claim × Client ω)}
    {name : String}
    (h : Claims d (allPairs (ticketed next sorted) clients) pending d')
    (hc : c ∈ claimsFor name pending) :
    c.play ∈ sorted ∧ ∃ t, c.ticket = some t ∧ next ≤ t := by
  obtain ⟨⟨c', other⟩, hpair, hsome⟩ := List.mem_filterMap.mp hc
  obtain ⟨c'', hticketed, hother⟩ := List.mem_flatMap.mp (h.part.subset hpair)
  obtain ⟨other', -, hpair'⟩ := List.mem_map.mp hother
  obtain ⟨rfl, rfl⟩ := Prod.mk.inj hpair'
  have hsame : c'' = c := by
    by_cases hname : other'.name = name
    · exact Option.some.inj ((if_pos hname).symm.trans hsome)
    · exact nomatch (if_neg hname).symm.trans hsome
  obtain rfl := hsame
  have hplay := List.mem_map_of_mem (f := fun c : Claim => c.play) hticketed
  have hticket := List.mem_map_of_mem (f := fun c : Claim => c.ticket) hticketed
  rw [map_play_ticketed] at hplay
  rw [map_ticket_ticketed] at hticket
  obtain ⟨t, ht, hsome⟩ := List.mem_map.mp hticket
  exact ⟨hplay, t, hsome.symm, (List.mem_range'_1.mp ht).1⟩

/-- What comes of claims that are all refused. -/
theorem map_ofOutcome_of_refused {outcomes : List (Claim × Bool)}
    (refused : ∀ o ∈ outcomes, o.2 = false) :
    outcomes.map Deed.ofOutcome = (outcomes.map (·.1)).map .refused := by
  rw [List.map_map]
  refine List.map_congr_left fun o ho => ?_
  unfold Deed.ofOutcome
  rw [refused o ho]
  rfl

/-- Nothing is dropped from a list only if there is nothing to drop. -/
theorem drop_eq_self_iff {α : Type} {xs : List α} {count : Nat} :
    xs.drop count = xs ↔ xs = [] ∨ count = 0 := by
  constructor
  · intro heq
    have hlength := congrArg List.length heq
    rw [List.length_drop] at hlength
    rw [← List.length_eq_zero_iff]
    omega
  · rintro (rfl | rfl)
    · exact List.drop_nil
    · exact List.drop_zero

end Refusals

/-- **What is left of the window of a client** that refused all it was given in
a round. -/
theorem Round.claims_of_refused {plays sorted : List Play} {pending : List (Claim × Client ω)}
    {taken : List Bool} (round : Round clients plays d sorted pending taken d')
    (hd : AllBounded clients size next d) (hclient : client ∈ clients)
    (recognised : ∀ e ∈ d.claims client.name, ∀ p ∈ plays, e.play.alike p = true →
      Match.sameListen? e.play p = .ok true)
    (refused : ∀ o ∈ outcomesFor client.name pending taken, o.2 = false) :
    d'.claims client.name = (d.claims client.name).drop
      ((d.claims client.name).length
        + (outcomesFor client.name pending taken).length - size) := by
  obtain ⟨w, hw, hbounded⟩ := hd.windows client hclient
  obtain ⟨claimed, hclaims, hsubmits⟩ := round.parts
  obtain ⟨hclaimed, hadmits⟩ := hclaims.window client.name w hw
  have houtcomes := map_outcomesFor client.name (Nat.le_of_eq (hsubmits.length rfl).symm)
  have hlength := congrArg List.length houtcomes
  rw [List.length_map] at hlength
  have hafter := hsubmits.window client.name _ hclaimed
  rw [map_ofOutcome_of_refused refused, houtcomes] at hafter
  -- the claims are for plays of the batch, and their tickets are new
  have hclaim : ∀ c ∈ claimsFor client.name pending, c.play ∈ plays
      ∧ ∃ t, c.ticket = some t ∧ next ≤ t := by
    intro c hc
    obtain ⟨hplay, t, ht, hle⟩ := hclaims.mem_ticketed hc
    exact ⟨(Play.pairwise_of_sort? round.inOrder).1.mem_iff.mp hplay, t, ht, hd.next ▸ hle⟩
  have hnew : ∀ e ∈ w.items, ∀ c ∈ claimsFor client.name pending, e.ticket ≠ c.ticket := by
    intro e he c hc heq
    obtain ⟨-, t, ht, hle⟩ := hclaim c hc
    exact absurd (hbounded.given e he t (heq.trans ht)) (Nat.not_lt.mpr hle)
  rw [claims_of_lookup hw] at recognised ⊢
  rw [claims_of_lookup hafter, hlength, ← hbounded.sized]
  exact hadmits.items_refused (hbounded.sized.symm ▸ hbounded.room) hnew
    fun e he c hc => recognised e he c.play (hclaim c hc).1

/-- **What is left of a window where everything is refused.** Take a dispatcher
for some clients in any state it can be in, and any dispatch that returns. If
a client refused all that was submitted to it, its window has lost the oldest
entries for which there was no room beside the claims, and no others; so it is
as it was exactly if it was empty, or had room for all claims. What is equal to
a play of the batch is taken to be one listen with it, as entries are
(`Match.sameListen?_of_alike`). -/
theorem Reached.refused_round {bound : Int} (reached : Reached clients bound d)
    (hclient : client ∈ clients) {plays : List Play} {count : Nat}
    (dispatched : dispatch clients plays d = .ok count d')
    (recognised : ∀ e ∈ d.claims client.name, ∀ p ∈ plays, e.play.alike p = true →
      Match.sameListen? e.play p = .ok true) :
    ∃ sorted pending taken, Round clients plays d sorted pending taken d'
      ∧ ((∀ o ∈ outcomesFor client.name pending taken, o.2 = false) →
        d'.claims client.name = (d.claims client.name).drop ((d.claims client.name).length
            + (outcomesFor client.name pending taken).length - bound.toNat)
          ∧ (d'.claims client.name = d.claims client.name ↔ d.claims client.name = []
            ∨ (d.claims client.name).length + (outcomesFor client.name pending taken).length
              ≤ bound.toNat)) := by
  obtain ⟨sorted, pending, taken, round, -⟩ := exists_round_of_dispatch_eq_ok dispatched
  refine ⟨sorted, pending, taken, round, fun refused => ?_⟩
  obtain ⟨next, hd⟩ := reached.allBounded
  have hleft := round.claims_of_refused hd hclient recognised refused
  refine ⟨hleft, ?_⟩
  rw [hleft, drop_eq_self_iff, Nat.sub_eq_zero_iff_le]

/-! ## A window with room, and one without -/

/-- A dispatcher with windows of a size, which took one play before its client
could no longer be reached. -/
def cutOff (size : Nat) : Dispatcher Outage :=
  let start : Dispatcher Outage := { windows := [("c", { size := size })], host := ⟨0⟩ }
  (dispatch [faltering] (["a"].map tune) start).state.on ⟨1⟩

theorem reached_cutOff (size : Nat) : Reached [faltering] size (cutOff size) := by
  have begun : ofClients? [faltering] size ⟨0⟩
      = .ok ({ windows := [("c", { size := size })], host := ⟨0⟩ } : Dispatcher Outage) := by
    unfold ofClients? Window.ofSize?
    rw [if_neg (Int.not_lt.mpr (Int.natCast_nonneg size))]
    rfl
  exact .elsewhere (.dispatches (.start begun) _) _

/-- One more play for a dispatcher that was cut off, worked out: how much is in
its window before, what becomes of the play, and how much is in the window after
that. -/
def refusal? (size : Nat) : Option (Nat × List Bool × Nat) :=
  (roundOf? [faltering] (["b"].map tune) (cutOff size)).map fun (pending, taken, d') =>
    (((cutOff size).claims "c").length, (outcomesFor "c" pending taken).map (·.2),
      (d'.claims "c").length)

theorem refusal?_two : refusal? 2 = some (1, [false], 1) := by decide +kernel

theorem refusal?_one : refusal? 1 = some (1, [false], 0) := by decide +kernel

/-- A round with it is as worked out. -/
theorem Round.of_refusal? {size before after : Nat} {answers : List Bool} {sorted : List Play}
    {pending : List (Claim × Client Outage)} {taken : List Bool} {d' : Dispatcher Outage}
    (h : Round [faltering] (["b"].map tune) (cutOff size) sorted pending taken d')
    (worked : refusal? size = some (before, answers, after)) :
    ((cutOff size).claims "c").length = before
      ∧ (outcomesFor "c" pending taken).map (·.2) = answers
      ∧ (d'.claims "c").length = after := by
  obtain rfl := Except.ok.inj (h.inOrder.symm.trans (sort?_tunes ["b"]))
  unfold refusal? at worked
  rw [h.roundOf?_eq] at worked
  obtain ⟨hbefore, hrest⟩ := Prod.mk.inj (Option.some.inj worked)
  exact ⟨hbefore, Prod.mk.inj hrest⟩

/-- Answers that are all the same. -/
theorem eq_of_map_snd_eq_singleton {outcomes : List (Claim × Bool)} {b : Bool}
    (h : outcomes.map (·.2) = [b]) : ∀ o ∈ outcomes, o.2 = b :=
  fun _ ho => List.mem_singleton.mp (h ▸ List.mem_map_of_mem ho)

theorem exists_dispatch_cutOff (size : Nat)
    (h : (dispatch [faltering] (["b"].map tune) (cutOff size)).result.toOption = some 0) :
    ∃ d', dispatch [faltering] (["b"].map tune) (cutOff size) = .ok 0 d' :=
  ⟨_, congrArg (Step.mk · _) (eq_ok_of_toOption h)⟩

/-- In a window for two plays there is room for one more, so its refusal leaves
the window as it was. -/
theorem refused_round_roomy : Reached [faltering] 2 (cutOff 2)
    ∧ ∃ d', dispatch [faltering] (["b"].map tune) (cutOff 2) = .ok 0 d'
      ∧ d'.claims "c" = (cutOff 2).claims "c" := by
  obtain ⟨d', dispatched⟩ := exists_dispatch_cutOff 2 (by decide +kernel)
  have hunlike : ((cutOff 2).claims "c").any (·.play.alike (tune "b")) = false := by
    decide +kernel
  have recognised : ∀ e ∈ (cutOff 2).claims "c", ∀ p ∈ ["b"].map tune, e.play.alike p = true →
      Match.sameListen? e.play p = .ok true := by
    intro e he p hp halike
    obtain rfl := List.mem_singleton.mp hp
    exact absurd halike (List.any_eq_false.mp hunlike e he)
  obtain ⟨sorted, pending, taken, round, hleft⟩ :=
    (reached_cutOff 2).refused_round List.mem_cons_self dispatched recognised
  obtain ⟨hbefore, hanswers, -⟩ := round.of_refusal? refusal?_two
  have hone := congrArg List.length hanswers
  rw [List.length_map, List.length_singleton] at hone
  refine ⟨reached_cutOff 2, d', dispatched,
    (hleft (eq_of_map_snd_eq_singleton hanswers)).2.mpr (Or.inr ?_)⟩
  show ((cutOff 2).claims "c").length + (outcomesFor "c" pending taken).length ≤ 2
  exact Nat.le_of_eq (by rw [hbefore, hone])

/-- **A refused play may cost the client what it had before.** The window has
room for one play, and holds one that was taken. A second play is claimed and
refused, and then the window is empty. -/
theorem not_forall_refused_round :
    ¬ ∀ (d d' : Dispatcher Outage) (plays sorted : List Play)
      (pending : List (Claim × Client Outage)) (taken : List Bool), Reached [faltering] 1 d →
        Round [faltering] plays d sorted pending taken d' →
        (∀ o ∈ outcomesFor "c" pending taken, o.2 = false) → d'.claims "c" = d.claims "c" := by
  intro hall
  obtain ⟨d', dispatched⟩ := exists_dispatch_cutOff 1 (by decide +kernel)
  obtain ⟨sorted, pending, taken, round, -⟩ := exists_round_of_dispatch_eq_ok dispatched
  obtain ⟨hbefore, hanswers, hafter⟩ := round.of_refusal? refusal?_one
  have hsame := hall _ d' _ sorted pending taken (reached_cutOff 1) round
    (eq_of_map_snd_eq_singleton hanswers)
  rw [hsame, hbefore] at hafter
  exact nomatch hafter

end Dispatcher

end Listening
