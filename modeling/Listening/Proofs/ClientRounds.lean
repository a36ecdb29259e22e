import Listening.Proofs.ClientDeeds

/-!
# What is done for one client, in turns

The deeds for one client come in turns: all that is recalled at a time, or a
round, in which all plays are claimed before the first of them is taken or
refused. A round may break off, and then nothing comes of its last claims. A row
of turns is `Orderly` if it is one that a dispatcher can have gone through:
nothing is claimed that is one listen with an entry of the window, and every
claim has a ticket of its own.

In an orderly row two plays that are one listen are claimed only if as many
entries were added in between as the window holds (`Orderly.apart`) – unless
the first one was taken and yet released. That needs a round that is too
large for the window: an equal play was claimed earlier in the round, had
already been dropped from the window when this one was claimed, and was then
refused (`IsCrowdedOut`).
-/

namespace Listening

/-! ## Places in lists -/

/-- Where an item of two rows one after the other is. -/
theorem append_cons_eq_append {α : Type} {before after first last : List α} {a : α}
    (h : before ++ a :: after = first ++ last) :
    (∃ rest, first = before ++ a :: rest ∧ after = rest ++ last)
      ∨ ∃ rest, before = first ++ rest ∧ last = rest ++ a :: after := by
  rcases List.append_eq_append_iff.mp h with ⟨rest, hfirst, hlast⟩ | ⟨rest, hbefore, hlast⟩
  · cases rest with
    | nil => exact Or.inr ⟨[], by rw [hfirst, List.append_nil, List.append_nil], hlast.symm⟩
    | cons b rest =>
      obtain ⟨rfl, hafter⟩ := List.cons.inj hlast
      exact Or.inl ⟨rest, hfirst, hafter⟩
  · exact Or.inr ⟨rest, hbefore, hlast⟩

/-- **Which of two items of a row comes first**: they are the same one, or one of
them stands among what follows the other one. -/
theorem append_cons_eq_append_cons_iff {α : Type} {before after before' after' : List α}
    {a b : α} :
    before ++ a :: after = before' ++ b :: after' ↔
      (before = before' ∧ a = b ∧ after = after')
        ∨ (∃ between, before' = before ++ a :: between ∧ after = between ++ b :: after')
        ∨ ∃ between, before = before' ++ b :: between ∧ after' = between ++ a :: after := by
  constructor
  · intro h
    rcases append_cons_eq_append h with ⟨between, hbefore', hafter⟩ | ⟨rest, hbefore, hafter'⟩
    · exact Or.inr (Or.inl ⟨between, hbefore', hafter⟩)
    · cases rest with
      | nil =>
        obtain ⟨rfl, rfl⟩ := List.cons.inj hafter'
        exact Or.inl ⟨by rw [hbefore, List.append_nil], rfl, rfl⟩
      | cons b' between =>
        obtain ⟨rfl, hrest⟩ := List.cons.inj hafter'
        exact Or.inr (Or.inr ⟨between, hbefore, hrest⟩)
  · rintro (⟨rfl, rfl, rfl⟩ | ⟨between, rfl, rfl⟩ | ⟨between, rfl, rfl⟩)
    · rfl
    · rw [List.append_assoc, List.cons_append]
    · rw [List.append_assoc, List.cons_append]

namespace Dispatcher

/-! ## Turns -/

/-- **Deeds that belong together.** -/
inductive Turn where
  /-- Plays that the client had before are recalled. -/
  | recollect (plays : List Play)
  /-- Plays are claimed, and then they are taken or not, one after the other, as
  far as the round goes. -/
  | round (claims : List Claim) (outcomes : List (Claim × Bool))

/-- The deeds of a turn. -/
def Turn.deeds : Turn → List Deed
  | .recollect plays => plays.map .recalled
  | .round claims outcomes => claims.map .claimed ++ outcomes.map Deed.ofOutcome

/-- The deeds of a row of turns. -/
def deeds (ts : List Turn) : List Deed := ts.flatMap Turn.deeds

theorem deeds_concat (ts : List Turn) (t : Turn) : deeds (ts ++ [t]) = deeds ts ++ t.deeds := by
  unfold deeds
  rw [List.flatMap_append, List.flatMap_singleton]

/-- The window of a client after a row of turns. -/
def windowAfter (size : Nat) (ts : List Turn) : Window Claim :=
  Deed.applyAll { size := size } (deeds ts)

theorem windowAfter_concat (size : Nat) (ts : List Turn) (t : Turn) :
    windowAfter size (ts ++ [t]) = Deed.applyAll (windowAfter size ts) t.deeds := by
  unfold windowAfter
  rw [deeds_concat, Deed.applyAll_append]

/-- **Whether claims are made one after the other only where nothing in the
window is one listen with them.** -/
def Admits (w : Window Claim) : List Claim → Prop
  | [] => True
  | c :: rest =>
    (∀ e ∈ w.items, Match.sameListen? e.play c.play = .ok false) ∧ Admits (w.push c) rest

/-- **Whether a client can have gone through some turns**, and which ticket is
the next one. -/
inductive Orderly (size : Nat) : List Turn → Nat → Prop where
  /-- Nothing was done yet. -/
  | nothing (next : Nat) : Orderly size [] next
  /-- Plays are recalled. -/
  | recollect {ts : List Turn} {next : Nat} (past : Orderly size ts next) {plays : List Play}
      (entries : ∀ p ∈ plays, p.Entry) : Orderly size (ts ++ [.recollect plays]) next
  /-- A round is gone through. -/
  | round {ts : List Turn} {next next' : Nat} (past : Orderly size ts next)
      {claims : List Claim} {outcomes : List (Claim × Bool)}
      (entries : ∀ c ∈ claims, c.play.Entry) (admitted : Admits (windowAfter size ts) claims)
      (fresh : ∀ c ∈ claims, ∃ ticket, c.ticket = some ticket ∧ next ≤ ticket ∧ ticket < next')
      (distinct : (claims.map Claim.ticket).Nodup) (later : next ≤ next')
      (made : outcomes.map (·.1) <+: claims) :
        Orderly size (ts ++ [.round claims outcomes]) next'

/-- Claims that are admitted match nothing where their turn comes. -/
theorem Admits.unmatched {w : Window Claim} {earlier later : List Claim} {c : Claim}
    (h : Admits w (earlier ++ c :: later)) :
    ∀ e ∈ (Deed.applyAll w (earlier.map .claimed)).items,
      Match.sameListen? e.play c.play = .ok false := by
  induction earlier generalizing w with
  | nil => exact h.1
  | cons first earlier ih => exact ih h.2

/-! ## The deeds of a turn -/

/-- The deeds of recalling are one for each play. -/
theorem eq_recalled_of_mem {plays : List Play} {d : Deed}
    (h : d ∈ (Turn.recollect plays).deeds) :
    ∃ p ∈ plays, d = .recalled p := by
  obtain ⟨p, hp, rfl⟩ := List.mem_map.mp h
  exact ⟨p, hp, rfl⟩

/-- The deeds of a round are its claims and what comes of them. -/
theorem mem_round {claims : List Claim} {outcomes : List (Claim × Bool)} {d : Deed} :
    d ∈ (Turn.round claims outcomes).deeds ↔
      (∃ c ∈ claims, d = .claimed c) ∨ ∃ o ∈ outcomes, d = Deed.ofOutcome o := by
  unfold Turn.deeds
  simp only [List.mem_append, List.mem_map, eq_comm]

/-- What comes of a claim is that it is taken, or that it is refused. -/
theorem Deed.ofOutcome_cases (o : Claim × Bool) :
    o.2 = true ∧ Deed.ofOutcome o = .taken o.1
      ∨ o.2 = false ∧ Deed.ofOutcome o = .refused o.1 := by
  obtain ⟨c, taken⟩ := o
  cases taken
  · exact Or.inr ⟨rfl, rfl⟩
  · exact Or.inl ⟨rfl, rfl⟩

/-- What comes of a claim claims nothing. -/
theorem Deed.ofOutcome_ne_claimed (o : Claim × Bool) (c : Claim) :
    Deed.ofOutcome o ≠ .claimed c := by
  rcases Deed.ofOutcome_cases o with ⟨-, ho⟩ | ⟨-, ho⟩ <;> rw [ho] <;> exact fun h => nomatch h

/-- What comes of a claim adds nothing. -/
theorem Deed.added?_ofOutcome (o : Claim × Bool) : (Deed.ofOutcome o).added? = none := by
  rcases Deed.ofOutcome_cases o with ⟨-, ho⟩ | ⟨-, ho⟩ <;> rw [ho] <;> rfl

/-- What is claimed in a round is one of its claims. -/
theorem mem_of_claimed_mem_round {claims : List Claim}
    {outcomes : List (Claim × Bool)} {c : Claim}
    (h : .claimed c ∈ (Turn.round claims outcomes).deeds) : c ∈ claims := by
  rcases mem_round.mp h with ⟨c', hc', hc⟩ | ⟨o, -, hc⟩
  · exact Deed.claimed.inj hc ▸ hc'
  · exact absurd hc.symm (Deed.ofOutcome_ne_claimed o c)

/-- What is taken or refused in a round is what it has an outcome for. -/
theorem mem_of_outcome_mem_round {claims : List Claim}
    {outcomes : List (Claim × Bool)} {c : Claim}
    {b : Bool} (h : Deed.ofOutcome (c, b) ∈ (Turn.round claims outcomes).deeds) :
    (c, b) ∈ outcomes := by
  rcases mem_round.mp h with ⟨c', -, hc⟩ | ⟨⟨c', b'⟩, ho, hc⟩
  · exact absurd hc (Deed.ofOutcome_ne_claimed _ c')
  · cases b <;> cases b'
    · obtain rfl : c = c' := Deed.refused.inj hc
      exact ho
    · exact nomatch hc
    · exact nomatch hc
    · obtain rfl : c = c' := Deed.taken.inj hc
      exact ho

/-- The ticket of a deed that is about a claim. -/
def Deed.ticket? : Deed → Option (Option Nat)
  | .recalled _ => none
  | .claimed c => some c.ticket
  | .taken c => some c.ticket
  | .refused c => some c.ticket

/-- **Whether an entry that was taken can be lost**: in the round in which it
was claimed an equal play was claimed earlier, was dropped from the window by
the claims in between, and was then refused. -/
def IsCrowdedOut (size : Nat) (c : Claim) (before after : List Deed) : Prop :=
  ∃ f earlier claims, before = earlier ++ .claimed f :: claims
    ∧ (∀ d ∈ claims, d.isClaim = true) ∧ size ≤ claims.length
    ∧ c.play.alike f.play = true ∧ .refused f ∈ after

namespace Orderly

variable {size next : Nat} {ts : List Turn}

/-! ## What holds of every deed -/

/-- **What is added is an entry.** -/
theorem entry_of_added (h : Orderly size ts next) {d : Deed} (hd : d ∈ deeds ts) {c : Claim}
    (hadded : d.added? = some c) : c.play.Entry := by
  induction h with
  | nothing => exact absurd hd List.not_mem_nil
  | recollect past entries ih =>
    rw [deeds_concat] at hd
    rcases List.mem_append.mp hd with hd | hd
    · exact ih hd
    · obtain ⟨p, hp, rfl⟩ := eq_recalled_of_mem hd
      obtain rfl := Option.some.inj hadded
      exact entries p hp
  | round past entries admitted fresh distinct later made ih =>
    rw [deeds_concat] at hd
    rcases List.mem_append.mp hd with hd | hd
    · exact ih hd
    · rcases mem_round.mp hd with ⟨c', hc', rfl⟩ | ⟨o, -, rfl⟩
      · obtain rfl := Option.some.inj hadded
        exact entries _ hc'
      · exact nomatch (Deed.added?_ofOutcome o).symm.trans hadded

/-- The window holds entries. -/
theorem entry_of_mem (h : Orderly size ts next) {before after : List Deed}
    (hdeeds : deeds ts = before ++ after) {e : Claim}
    (he : e ∈ (Deed.applyAll { size := size } before).items) : e.play.Entry := by
  rcases Deed.mem_of_mem_applyAll he with he | ⟨d, hd, hadded⟩
  · exact absurd he List.not_mem_nil
  · exact h.entry_of_added (hdeeds ▸ List.mem_append_left after hd) hadded

/-- What a round has an outcome for is one of its claims. -/
theorem mem_of_made {claims : List Claim} {outcomes : List (Claim × Bool)}
    (made : outcomes.map (·.1) <+: claims) {o : Claim × Bool} (ho : o ∈ outcomes) :
    o.1 ∈ claims :=
  made.subset (List.mem_map_of_mem ho)

/-- The deeds of a round have new tickets. -/
theorem ticket_of_mem_round {claims : List Claim} {outcomes : List (Claim × Bool)} {next' : Nat}
    (fresh : ∀ c ∈ claims, ∃ ticket, c.ticket = some ticket ∧ next ≤ ticket ∧ ticket < next')
    (made : outcomes.map (·.1) <+: claims) {d : Deed}
    (hd : d ∈ (Turn.round claims outcomes).deeds) :
    ∃ ticket, d.ticket? = some (some ticket) ∧ next ≤ ticket ∧ ticket < next' := by
  rcases mem_round.mp hd with ⟨c, hc, rfl⟩ | ⟨o, ho, rfl⟩
  · obtain ⟨ticket, hticket, hbounds⟩ := fresh c hc
    exact ⟨ticket, congrArg some hticket, hbounds⟩
  · obtain ⟨ticket, hticket, hbounds⟩ := fresh o.1 (mem_of_made made ho)
    rcases Deed.ofOutcome_cases o with ⟨-, ho⟩ | ⟨-, ho⟩ <;> rw [ho] <;>
      exact ⟨ticket, congrArg some hticket, hbounds⟩

/-- **What comes of a claim comes of one that was made.** -/
theorem claimed_of_outcome (h : Orderly size ts next) {c : Claim}
    (hc : .taken c ∈ deeds ts ∨ .refused c ∈ deeds ts) : .claimed c ∈ deeds ts := by
  obtain ⟨b, hb⟩ : ∃ b, Deed.ofOutcome (c, b) ∈ deeds ts :=
    hc.elim (fun h => ⟨true, h⟩) fun h => ⟨false, h⟩
  clear hc
  induction h with
  | nothing => exact absurd hb List.not_mem_nil
  | recollect past entries ih =>
    rw [deeds_concat] at hb ⊢
    rcases List.mem_append.mp hb with hb | hb
    · exact List.mem_append_left _ (ih hb)
    · obtain ⟨p, -, hp⟩ := eq_recalled_of_mem hb
      cases b <;> exact nomatch hp
  | round past entries admitted fresh distinct later made ih =>
    rw [deeds_concat] at hb ⊢
    rcases List.mem_append.mp hb with hb | hb
    · exact List.mem_append_left _ (ih hb)
    · exact List.mem_append_right _ (mem_round.mpr (Or.inl
        ⟨c, mem_of_made made (mem_of_outcome_mem_round hb), rfl⟩))

/-- **Every claim has a ticket**, from before the next one. -/
theorem ticket_lt (h : Orderly size ts next) {d : Deed} (hd : d ∈ deeds ts)
    {ticket? : Option Nat} (hticket : d.ticket? = some ticket?) :
    ∃ ticket, ticket? = some ticket ∧ ticket < next := by
  induction h with
  | nothing => exact absurd hd List.not_mem_nil
  | recollect past entries ih =>
    rw [deeds_concat] at hd
    rcases List.mem_append.mp hd with hd | hd
    · exact ih hd
    · obtain ⟨p, -, rfl⟩ := eq_recalled_of_mem hd
      exact nomatch hticket
  | round past entries admitted fresh distinct later made ih =>
    rw [deeds_concat] at hd
    rcases List.mem_append.mp hd with hd | hd
    · obtain ⟨ticket, rfl, hlt⟩ := ih hd
      exact ⟨ticket, rfl, Nat.lt_of_lt_of_le hlt later⟩
    · obtain ⟨ticket, hsome, -, hlt⟩ := ticket_of_mem_round fresh made hd
      exact ⟨ticket, Option.some.inj (hticket.symm.trans hsome), hlt⟩

/-! ## Tickets tell claims apart -/

/-- **What was taken has another ticket than what was refused.** -/
theorem ticket_ne_of_taken (h : Orderly size ts next) {c f : Claim}
    (hc : .taken c ∈ deeds ts) (hf : .refused f ∈ deeds ts) : c.ticket ≠ f.ticket := by
  induction h with
  | nothing => exact absurd hc List.not_mem_nil
  | recollect past entries ih =>
    rw [deeds_concat] at hc hf
    rcases List.mem_append.mp hc with hc | hc
    · rcases List.mem_append.mp hf with hf | hf
      · exact ih hc hf
      · obtain ⟨p, -, hp⟩ := eq_recalled_of_mem hf
        exact nomatch hp
    · obtain ⟨p, -, hp⟩ := eq_recalled_of_mem hc
      exact nomatch hp
  | round past entries admitted fresh distinct later made ih =>
    rw [deeds_concat] at hc hf
    -- tickets of different rounds differ, as later ones are greater
    rcases List.mem_append.mp hc with hc | hc <;> rcases List.mem_append.mp hf with hf | hf
    · exact ih hc hf
    · obtain ⟨t, ht, hlt⟩ := past.ticket_lt hc rfl
      obtain ⟨u, hu, hle, -⟩ := ticket_of_mem_round fresh made hf
      rw [ht, Option.some.inj hu]
      exact fun e => absurd (Option.some.inj e) (by omega)
    · obtain ⟨t, ht, hlt⟩ := past.ticket_lt hf rfl
      obtain ⟨u, hu, hle, -⟩ := ticket_of_mem_round fresh made hc
      rw [ht, Option.some.inj hu]
      exact fun e => absurd (Option.some.inj e) (by omega)
    · have hc' : (c, true) ∈ _ := mem_of_outcome_mem_round (b := true) hc
      have hf' : (f, false) ∈ _ := mem_of_outcome_mem_round (b := false) hf
      have hnodup := (made.sublist.map Claim.ticket).nodup distinct
      rw [List.map_map] at hnodup
      intro hticket
      have hsame := List.inj_on_of_nodup_map hnodup hc' hf' hticket
      exact nomatch congrArg Prod.snd hsame

/-! ## Claims and what comes of them -/

/-- **Nothing is claimed that is one listen with an entry of the window.** -/
theorem unmatched (h : Orderly size ts next) {before after : List Deed} {c : Claim}
    (hdeeds : deeds ts = before ++ .claimed c :: after) :
    ∀ e ∈ (Deed.applyAll { size := size } before).items,
      Match.sameListen? e.play c.play = .ok false := by
  induction h generalizing after with
  | nothing => exact absurd (List.append_eq_nil_iff.mp hdeeds.symm).2 (List.cons_ne_nil _ _)
  | recollect past entries ih =>
    rw [deeds_concat] at hdeeds
    rcases append_cons_eq_append hdeeds.symm with ⟨rest, hpast, -⟩ | ⟨rest, -, hturn⟩
    · exact ih hpast
    · obtain ⟨p, -, hp⟩ := eq_recalled_of_mem
        (hturn ▸ List.mem_append_right rest List.mem_cons_self)
      exact nomatch hp
  | @round ts next next' past claims outcomes entries admitted fresh distinct later made ih =>
    rw [deeds_concat] at hdeeds
    rcases append_cons_eq_append hdeeds.symm with ⟨rest, hpast, -⟩ | ⟨rest, rfl, hturn⟩
    · exact ih hpast
    rcases append_cons_eq_append hturn.symm with ⟨rest', hclaims, -⟩ | ⟨rest', -, houtcomes⟩
    · obtain ⟨first, last, rfl, rfl, hlast⟩ := List.map_eq_append_iff.mp hclaims
      obtain ⟨c', last, rfl, hc', -⟩ := List.map_eq_cons_iff.mp hlast
      obtain rfl := Deed.claimed.inj hc'
      rw [Deed.applyAll_append]
      exact admitted.unmatched
    · obtain ⟨o, -, ho⟩ := List.mem_map.mp
        (houtcomes ▸ List.mem_append_right rest' List.mem_cons_self)
      exact absurd ho (Deed.ofOutcome_ne_claimed o c)

/-- **What was refused was claimed in the same round**: since then plays were
claimed, and then some taken or refused. -/
theorem claimed_of_refused (h : Orderly size ts next) {before after : List Deed} {f : Claim}
    (hdeeds : deeds ts = before ++ .refused f :: after) :
    ∃ earlier claims outcomes, before = earlier ++ .claimed f :: (claims ++ outcomes)
      ∧ (∀ d ∈ claims, d.isClaim = true) ∧ ∀ d ∈ outcomes, d.isAdding = false := by
  induction h generalizing after with
  | nothing => exact absurd (List.append_eq_nil_iff.mp hdeeds.symm).2 (List.cons_ne_nil _ _)
  | recollect past entries ih =>
    rw [deeds_concat] at hdeeds
    rcases append_cons_eq_append hdeeds.symm with ⟨rest, hpast, -⟩ | ⟨rest, -, hturn⟩
    · exact ih hpast
    · obtain ⟨p, -, hp⟩ := eq_recalled_of_mem
        (hturn ▸ List.mem_append_right rest List.mem_cons_self)
      exact nomatch hp
  | @round ts next next' past claims outcomes entries admitted fresh distinct later made ih =>
    rw [deeds_concat] at hdeeds
    rcases append_cons_eq_append hdeeds.symm with ⟨rest, hpast, -⟩ | ⟨rest, rfl, hturn⟩
    · exact ih hpast
    rcases append_cons_eq_append hturn.symm with ⟨rest', hclaims, -⟩ | ⟨rest', rfl, houtcomes⟩
    · obtain ⟨c, -, hc⟩ := List.mem_map.mp
        (hclaims ▸ List.mem_append_right rest List.mem_cons_self)
      exact nomatch hc
    · obtain ⟨first, last, rfl, rfl, hlast⟩ := List.map_eq_append_iff.mp houtcomes
      obtain ⟨⟨f', b⟩, last, rfl, ho, -⟩ := List.map_eq_cons_iff.mp hlast
      obtain rfl : f = f' := by
        cases b with
        | true => exact nomatch ho
        | false => exact (Deed.refused.inj ho).symm
      obtain ⟨earlier, later, rfl⟩ := List.append_of_mem
        (mem_of_made made (List.mem_append_right first List.mem_cons_self))
      refine ⟨deeds ts ++ earlier.map .claimed, later.map .claimed, first.map Deed.ofOutcome, ?_,
        fun d hd => ?_, fun d hd => ?_⟩
      · rw [List.map_append, List.map_cons]
        simp only [List.append_assoc, List.cons_append]
      · obtain ⟨c, -, rfl⟩ := List.mem_map.mp hd
        rfl
      · obtain ⟨o, -, rfl⟩ := List.mem_map.mp hd
        rw [Deed.isAdding, Deed.added?_ofOutcome]
        rfl

/-! ## Plays that are one listen -/

/-- What is claimed is an entry. -/
theorem entry_of_claimed (h : Orderly size ts next) {before after : List Deed} {c : Claim}
    (hdeeds : deeds ts = before ++ .claimed c :: after) : c.play.Entry :=
  h.entry_of_added (hdeeds ▸ List.mem_append_right before List.mem_cons_self) rfl

/-- A claim is not equal to an entry of the window. -/
theorem not_alike_of_mem (h : Orderly size ts next) {before after : List Deed} {c e : Claim}
    (hdeeds : deeds ts = before ++ .claimed c :: after)
    (he : e ∈ (Deed.applyAll { size := size } before).items) :
    e.play.alike c.play = false ∧ c.play.alike e.play = false := by
  have hunmatched := h.unmatched hdeeds e he
  have hentries := And.intro (h.entry_of_mem hdeeds he) (h.entry_of_claimed hdeeds)
  constructor
  · refine Bool.eq_false_iff.mpr fun halike => ?_
    rw [(Match.sameListen?_of_alike hentries.1 hentries.2 halike).1] at hunmatched
    exact nomatch hunmatched
  · refine Bool.eq_false_iff.mpr fun halike => ?_
    rw [(Match.sameListen?_of_alike hentries.2 hentries.1 halike).2] at hunmatched
    exact nomatch hunmatched

/-- **What is released without having been refused was crowded out**, and was
a claim. -/
theorem isCrowdedOut (h : Orderly size ts next) (hsize : 1 ≤ size)
    {before since rest after : List Deed} {d : Deed} {c f : Claim} (hadded : d.added? = some c)
    (hdeeds : deeds ts = before ++ d :: (since ++ .refused f :: rest ++ after))
    (hkept : d = .recalled c.play ∨ .taken c ∈ deeds ts) (htaken : isTakenFor f c = true)
    (hthere : ∀ early late, since = early ++ late →
      c ∈ (Deed.applyAll (d.apply (Deed.applyAll { size := size } before)) early).items) :
    d = .claimed c ∧ IsCrowdedOut size c before (since ++ .refused f :: rest) := by
  have hrefused : deeds ts = (before ++ d :: since) ++ .refused f :: (rest ++ after) := by
    rw [hdeeds]
    simp only [List.append_assoc, List.cons_append]
  have hwithdrawn : .refused f ∈ deeds ts :=
    hrefused ▸ List.mem_append_right _ List.mem_cons_self
  obtain ⟨earlier, claims, outcomes, hclaimed, hclaims, houtcomes⟩ :=
    h.claimed_of_refused hrefused
  -- if the tickets differ, the plays are equal
  have halike : c.ticket ≠ f.ticket → c.play.alike f.play = true := fun hne =>
    (Bool.or_eq_true_iff.mp htaken).resolve_left fun e => hne (eq_of_beq e)
  have hticket : c.ticket ≠ f.ticket := by
    rcases hkept with rfl | hkept
    · obtain ⟨ticket, hticket, -⟩ := h.ticket_lt hwithdrawn rfl
      rw [hticket, ← Option.some.inj hadded]
      exact fun e => nomatch e
    · exact h.ticket_ne_of_taken hkept hwithdrawn
  rcases append_cons_eq_append_cons_iff.mp hclaimed with
    ⟨rfl, rfl, -⟩ | ⟨early, rfl, hsince⟩ | ⟨others, rfl, hround⟩
  · exact absurd (congrArg Claim.ticket (Option.some.inj hadded).symm) hticket
  · -- the refused claim was made while the entry was there
    have hf : deeds ts = (before ++ d :: early) ++ .claimed f
        :: (claims ++ outcomes ++ .refused f :: (rest ++ after)) := by
      rw [hrefused, hclaimed]
      simp only [List.append_assoc, List.cons_append]
    have hmem := hthere early _ hsince
    rw [← Deed.applyAll_cons, ← Deed.applyAll_append] at hmem
    exact absurd ((halike hticket).symm.trans (h.not_alike_of_mem hf hmem).1) (by decide)
  · -- the refused claim was made before, in the same round
    rcases append_cons_eq_append hround.symm with ⟨later, rfl, -⟩ | ⟨later, -, hlate⟩
    · have hd : d = .claimed c :=
        Deed.eq_claimed (hclaims d (List.mem_append_right _ List.mem_cons_self)) hadded
      refine ⟨hd, f, earlier, others, rfl, fun x hx => hclaims x (List.mem_append_left _ hx), ?_,
        halike hticket, List.mem_append_right _ List.mem_cons_self⟩
      subst hd
      have hholds : Deed.Holds f 0
          ((Deed.claimed f).apply (Deed.applyAll { size := size } earlier)) :=
        Deed.holds_push ((Deed.size_applyAll _ _).symm ▸ hsize) f
      rcases Deed.holds_or_releases hholds others with hstays | hfull | hreleases
      · have hmem := hstays.mem
        rw [← Deed.applyAll_cons, ← Deed.applyAll_append] at hmem
        exact absurd ((halike hticket).symm.trans (h.not_alike_of_mem hdeeds hmem).2) (by decide)
      · rw [Deed.size_apply, Deed.size_applyAll, Nat.zero_add] at hfull
        exact Nat.le_trans hfull List.countP_le_length
      · obtain ⟨_, g, _, rfl, -⟩ := hreleases
        exact nomatch hclaims (.refused g) (List.mem_append_left _
          (List.mem_append_right _ List.mem_cons_self))
    · have hidle := houtcomes d (hlate ▸ List.mem_append_right _ List.mem_cons_self)
      rw [Deed.isAdding, hadded] at hidle
      exact nomatch hidle

/-- **Two claims are one listen only if the window was too small.** After an
entry that is recalled or taken, a play that is one listen with it is claimed
only if as many others were added in between as the window holds, or if the
entry was claimed and crowded out. -/
theorem apart (h : Orderly size ts next) (hsize : 1 ≤ size) {before between after : List Deed}
    {d : Deed} {c q : Claim} (hadded : d.added? = some c)
    (hdeeds : deeds ts = before ++ d :: (between ++ .claimed q :: after))
    (hkept : d = .recalled c.play ∨ .taken c ∈ deeds ts)
    (hsame : Match.sameListen? c.play q.play = .ok true) :
    size ≤ Deed.additions between ∨ d = .claimed c ∧ IsCrowdedOut size c before between := by
  have hholds : Deed.Holds c 0 (d.apply (Deed.applyAll { size := size } before)) := by
    rw [Deed.apply_of_added hadded]
    exact Deed.holds_push ((Deed.size_applyAll _ _).symm ▸ hsize) c
  have hwindow : ∀ early, Deed.applyAll { size := size } (before ++ d :: early)
      = Deed.applyAll (d.apply (Deed.applyAll { size := size } before)) early := fun early => by
    rw [Deed.applyAll_append, Deed.applyAll_cons]
  rcases Deed.holds_or_releases hholds between with hstays | hfull | hreleases
  · have hq : deeds ts = (before ++ d :: between) ++ .claimed q :: after := by
      rw [hdeeds, List.append_assoc, List.cons_append]
    have hunmatched := h.unmatched hq c ((hwindow between).symm ▸ hstays.mem)
    exact nomatch hsame.symm.trans hunmatched
  · rw [Deed.size_apply, Deed.size_applyAll, Nat.zero_add] at hfull
    exact Or.inl hfull
  · obtain ⟨since, f, rest, rfl, htaken, hthere⟩ := hreleases
    exact Or.inr (h.isCrowdedOut hsize hadded hdeeds hkept htaken hthere)

end Orderly

end Dispatcher

end Listening
