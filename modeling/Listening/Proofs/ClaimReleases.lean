import Listening.Proofs.SentOnce

/-!
# What a refusal releases

A claim that a client refuses leaves the window of the client, and with it
goes what kept a play of the same listen from being claimed again. That is
not obvious, as the oldest entry that is *taken for* the claim is released,
which may be an equal one. But nothing that is one listen with the claim was
in the window when it was made, and what was added since stands behind it;
so among the entries taken for it the claim is the first
(`Orderly.not_mem_of_refused`).

An entry of the window that is one listen with a play refused before is
therefore one that was added since and not refused (`Orderly.left_since`): the
client took it or named it, or nothing came of it in a round that broke off. And
a play that no entry is one listen with is submitted in a round, unless one that
is one listen with it is submitted in its place (`Round.submits`).
-/

namespace Listening.Dispatcher

/-! ## Tickets -/

/-- What is claimed by a deed. -/
def Deed.claim? : Deed → Option Claim
  | .claimed c => some c
  | _ => none

/-- Recalling claims nothing. -/
theorem filterMap_claim?_recollect (plays : List Play) :
    (Turn.recollect plays).deeds.filterMap Deed.claim? = [] := by
  refine List.filterMap_eq_nil_iff.mpr fun d hd => ?_
  obtain ⟨p, -, rfl⟩ := eq_recalled_of_mem hd
  rfl

/-- A round claims its claims. -/
theorem filterMap_claim?_round (claims : List Claim) (outcomes : List (Claim × Bool)) :
    (Turn.round claims outcomes).deeds.filterMap Deed.claim? = claims := by
  have hnone : (outcomes.map Deed.ofOutcome).filterMap Deed.claim? = [] := by
    refine List.filterMap_eq_nil_iff.mpr fun d hd => ?_
    obtain ⟨o, -, rfl⟩ := List.mem_map.mp hd
    rcases Deed.ofOutcome_cases o with ⟨-, ho⟩ | ⟨-, ho⟩ <;> rw [ho] <;> rfl
  unfold Turn.deeds
  rw [List.filterMap_append, hnone, List.append_nil, List.filterMap_map]
  exact List.filterMap_some

namespace Orderly

variable {size next : Nat} {ts : List Turn}

/-- **No two claims have the same ticket.** -/
theorem nodup_tickets (h : Orderly size ts next) :
    (((deeds ts).filterMap Deed.claim?).map Claim.ticket).Nodup := by
  induction h with
  | nothing => exact List.nodup_nil
  | recollect past entries ih =>
    rw [deeds_concat, List.filterMap_append, filterMap_claim?_recollect, List.append_nil]
    exact ih
  | round past entries admitted fresh distinct later made ih =>
    rw [deeds_concat, List.filterMap_append, filterMap_claim?_round, List.map_append]
    refine List.nodup_append.mpr ⟨ih, distinct, fun a ha b hb => ?_⟩
    -- the tickets of a round come after all that were given before
    obtain ⟨c, hc, rfl⟩ := List.mem_map.mp ha
    obtain ⟨d, hd, hdc⟩ := List.mem_filterMap.mp hc
    obtain ⟨c', hc', rfl⟩ := List.mem_map.mp hb
    obtain ⟨t, ht, hle, -⟩ := fresh c' hc'
    have hticket : d.ticket? = some c.ticket := by
      cases d with
      | claimed c => rw [Option.some.inj hdc]; rfl
      | recalled p => exact nomatch hdc
      | taken c => exact nomatch hdc
      | refused c => exact nomatch hdc
    obtain ⟨u, hu, hlt⟩ := past.ticket_lt hd hticket
    show c.ticket ≠ c'.ticket
    rw [hu, ht]
    exact fun e => absurd (Option.some.inj e) (by omega)

/-- **Whatever else is added has another ticket** than a claim. -/
theorem ticket_ne_of_added (h : Orderly size ts next) {before after : List Deed} {d : Deed}
    {c e : Claim} (hdeeds : deeds ts = before ++ .claimed c :: after)
    (hd : d ∈ before ∨ d ∈ after) (hadded : d.added? = some e) : e.ticket ≠ c.ticket := by
  cases d with
  | recalled p =>
    obtain rfl := Option.some.inj hadded
    have hc : .claimed c ∈ deeds ts := hdeeds ▸ List.mem_append_right before List.mem_cons_self
    obtain ⟨t, ht, -⟩ := h.ticket_lt hc rfl
    rw [ht]
    exact fun e => nomatch e
  | claimed e' =>
    obtain rfl := Option.some.inj hadded
    have hnodup := h.nodup_tickets
    have hclaims : (deeds ts).filterMap Deed.claim?
        = before.filterMap Deed.claim? ++ c :: after.filterMap Deed.claim? := by
      rw [hdeeds, List.filterMap_append]
      rfl
    rw [hclaims, List.map_append, List.map_cons] at hnodup
    have hmem : ∀ {ds : List Deed}, .claimed e' ∈ ds →
        e'.ticket ∈ (ds.filterMap Deed.claim?).map Claim.ticket :=
      fun hds => List.mem_map_of_mem (List.mem_filterMap.mpr ⟨_, hds, rfl⟩)
    obtain ⟨-, hafter, hbefore⟩ := List.nodup_append.mp hnodup
    rcases hd with hd | hd
    · exact hbefore _ (hmem hd) _ List.mem_cons_self
    · exact fun e => (List.nodup_cons.mp hafter).1 (e ▸ hmem hd)
  | taken c' => exact nomatch hadded
  | refused c' => exact nomatch hadded

end Orderly

/-! ## Releasing the right entry -/

/-- **Whether a claim would be the first one released** for it: nothing that
stands before it is taken for it. -/
def IsFirst (c : Claim) (w : Window Claim) : Prop :=
  w.items.Pairwise fun x y => y = c → isTakenFor c x = false

/-- A claim is taken for itself. -/
theorem isTakenFor_self (c : Claim) : isTakenFor c c = true :=
  Bool.or_eq_true_iff.mpr (Or.inl (beq_self_eq_true c.ticket))

/-- A claim that stands first still does when one more entry comes last. -/
theorem IsFirst.push {c : Claim} {w : Window Claim} (h : IsFirst c w) {e : Claim}
    (he : e = c → ∀ x ∈ w.items, isTakenFor c x = false) : IsFirst c (w.push e) := by
  have hall : (w.items ++ [e]).Pairwise fun x y => y = c → isTakenFor c x = false := by
    refine List.pairwise_append.mpr ⟨h, List.pairwise_singleton _ _, fun x hx y hy hyc => ?_⟩
    obtain rfl := List.mem_singleton.mp hy
    exact he hyc x hx
  exact hall.sublist (List.drop_sublist _ _)

/-- **Deeds that do not add a claim leave it first.** -/
theorem IsFirst.applyAll {c : Claim} {w : Window Claim} (h : IsFirst c w) {ds : List Deed}
    (hds : ∀ d ∈ ds, d.added? ≠ some c) : IsFirst c (Deed.applyAll w ds) := by
  induction ds generalizing w with
  | nil => exact h
  | cons d ds ih =>
    refine ih ?_ fun d' hd' => hds d' (List.mem_cons_of_mem d hd')
    have hd := hds d List.mem_cons_self
    cases d with
    | recalled p => exact h.push fun e => absurd (congrArg some e) hd
    | claimed c' => exact h.push fun e => absurd (congrArg some e) hd
    | taken c' => exact h
    | refused f => exact h.sublist List.eraseP_sublist

/-- **Releasing a claim that stands first leaves nothing of it.** -/
theorem IsFirst.not_mem_forget {c : Claim} {w : Window Claim} (h : IsFirst c w) :
    c ∉ (forget c w).items := by
  show c ∉ w.items.eraseP (isTakenFor c)
  unfold IsFirst at h
  generalize w.items = items at h
  induction items with
  | nil => exact List.not_mem_nil
  | cons x rest ih =>
    obtain ⟨hx, hrest⟩ := List.pairwise_cons.mp h
    by_cases htaken : isTakenFor c x = true
    · rw [List.eraseP_cons_of_pos htaken]
      exact fun hc => nomatch htaken.symm.trans (hx c hc rfl)
    · rw [List.eraseP_cons_of_neg htaken]
      refine List.not_mem_cons_of_ne_of_not_mem (fun hcx => ?_) (ih hrest)
      exact htaken (hcx ▸ isTakenFor_self c)

namespace Orderly

variable {size next : Nat} {ts : List Turn}

/-- **A claim that was refused is not in the window.** -/
theorem not_mem_of_refused (h : Orderly size ts next) {c : Claim}
    (hrefused : .refused c ∈ deeds ts) : c ∉ (windowAfter size ts).items := by
  obtain ⟨before, after, hdeeds⟩ := List.append_of_mem hrefused
  obtain ⟨earlier, claims, outcomes, rfl, -, -⟩ := h.claimed_of_refused hdeeds
  have hsplit : deeds ts
      = earlier ++ .claimed c :: (claims ++ outcomes ++ .refused c :: after) := by
    rw [hdeeds]
    simp only [List.append_assoc, List.cons_append]
  have hother : ∀ d, d ∈ earlier ∨ d ∈ claims ++ outcomes ++ .refused c :: after →
      d.added? ≠ some c := fun d hd hadded => h.ticket_ne_of_added hsplit hd hadded rfl
  -- when it was claimed, nothing in the window was equal to it
  have hfirst : IsFirst c ((Deed.applyAll { size := size } earlier).push c) := by
    refine IsFirst.push ?_ fun _ x hx => ?_
    · exact (show IsFirst c { size := size } from List.Pairwise.nil).applyAll
        fun d hd => hother d (Or.inl hd)
    · rcases Deed.mem_of_mem_applyAll hx with hx' | ⟨d, hd, hadded⟩
      · exact absurd hx' List.not_mem_nil
      · refine Bool.or_eq_false_iff.mpr ⟨beq_false_of_ne ?_, (h.not_alike_of_mem hsplit hx).1⟩
        exact h.ticket_ne_of_added hsplit (Or.inl hd) hadded
  have hstill : IsFirst c (Deed.applyAll ((Deed.applyAll { size := size } earlier).push c)
      (claims ++ outcomes)) :=
    hfirst.applyAll fun d hd => hother d (Or.inr (List.mem_append_left _ hd))
  have hgone := hstill.not_mem_forget
  have hwindow : windowAfter size ts = Deed.applyAll (forget c
      (Deed.applyAll ((Deed.applyAll { size := size } earlier).push c) (claims ++ outcomes)))
      after := by
    unfold windowAfter
    rw [hsplit, Deed.applyAll_append, Deed.applyAll_cons, Deed.applyAll_append,
      Deed.applyAll_cons]
    rfl
  rw [hwindow]
  intro hc
  rcases Deed.mem_of_mem_applyAll hc with hc | ⟨d, hd, hadded⟩
  · exact hgone hc
  · exact hother d (Or.inr (List.mem_append_right _ (List.mem_cons_of_mem _ hd))) hadded

end Orderly

/-! ## What a client has since a refusal -/

/-- **Whether a turn leaves an entry for good**: it adds the entry, and does not
refuse it. -/
def Turn.Leaves (t : Turn) (e : Claim) : Prop :=
  (∃ d ∈ t.deeds, d.added? = some e) ∧ .refused e ∉ t.deeds

/-- What a round leaves is claimed in it, and has no outcome or is taken. -/
theorem mem_of_leaves {claims : List Claim} {outcomes : List (Claim × Bool)} {e : Claim}
    (h : (Turn.round claims outcomes).Leaves e) : e ∈ claims ∧ (e, false) ∉ outcomes := by
  obtain ⟨⟨d, hd, hadded⟩, hkept⟩ := h
  refine ⟨?_, fun he => hkept (mem_round.mpr (Or.inr ⟨_, he, rfl⟩))⟩
  rcases mem_round.mp hd with ⟨c, hc, rfl⟩ | ⟨o, -, rfl⟩
  · exact Option.some.inj hadded ▸ hc
  · exact nomatch (Deed.added?_ofOutcome o).symm.trans hadded

/-- What has an outcome and is not refused is taken. -/
theorem mem_of_not_refused {outcomes : List (Claim × Bool)} {e : Claim}
    (he : e ∈ outcomes.map (·.1)) (hkept : (e, false) ∉ outcomes) : (e, true) ∈ outcomes := by
  obtain ⟨⟨c, b⟩, ho, rfl⟩ := List.mem_map.mp he
  cases b with
  | true => exact ho
  | false => exact absurd ho hkept

/-- **What is in the window after a refusal**, and is one listen with what was
refused, was added since: it was claimed later in the round and not refused, or
some later turn left it. -/
theorem Orderly.left_since {size next : Nat} {past since : List Turn} {c e : Claim}
    {before after : List (Claim × Bool)} {later : List Claim}
    (h : Orderly size (past ++ .round (before.map (·.1) ++ c :: later)
      (before ++ (c, false) :: after) :: since) next)
    (he : e ∈ (windowAfter size (past ++ .round (before.map (·.1) ++ c :: later)
      (before ++ (c, false) :: after) :: since)).items)
    (hsame : Match.sameListen? e.play c.play = .ok true) :
    (e ∈ later ∧ (e, false) ∉ after) ∨ ∃ t ∈ since, t.Leaves e := by
  obtain ⟨turn, hturn⟩ : ∃ turn, turn = Turn.round (before.map (·.1) ++ c :: later)
    (before ++ (c, false) :: after) := ⟨_, rfl⟩
  have hdeeds : deeds (past ++ turn :: since)
      = (deeds past ++ (before.map (·.1)).map .claimed) ++ .claimed c :: (later.map .claimed
        ++ ((before ++ (c, false) :: after).map Deed.ofOutcome ++ deeds since)) := by
    unfold deeds
    rw [List.flatMap_append, List.flatMap_cons, hturn]
    show _ ++ ((List.map _ _ ++ _) ++ _) = _
    rw [List.map_append, List.map_cons]
    simp only [List.append_assoc, List.cons_append]
  rw [← hturn] at h he
  have hin : ∀ {t : Turn} {f : Claim}, t ∈ turn :: since → .refused f ∈ t.deeds →
      .refused f ∈ deeds (past ++ turn :: since) := fun ht hf =>
    List.mem_flatMap.mpr ⟨_, List.mem_append_right past ht, hf⟩
  have hround : ∀ {f : Claim}, (f, false) ∈ before ++ (c, false) :: after →
      .refused f ∈ deeds (past ++ turn :: since) := fun hf =>
    hin List.mem_cons_self (hturn ▸ mem_round.mpr (Or.inr ⟨_, hf, rfl⟩))
  have hrefused := hround (List.mem_append_right before List.mem_cons_self)
  have hthere : .refused e ∉ deeds (past ++ turn :: since) := fun hgone =>
    h.not_mem_of_refused hgone he
  have hunmatched := h.unmatched hdeeds
  rw [windowAfter, hdeeds, Deed.applyAll_append, Deed.applyAll_cons] at he
  rcases Deed.mem_of_mem_applyAll he with hold | ⟨d, hd, hadded⟩
  · rcases Window.mem_of_mem_push hold with hold | rfl
    · exact nomatch hsame.symm.trans (hunmatched e hold)
    · exact absurd hrefused hthere
  rcases List.mem_append.mp hd with hd | hd
  · obtain ⟨f, hf, rfl⟩ := List.mem_map.mp hd
    obtain rfl := Option.some.inj hadded
    exact Or.inl ⟨hf, fun hgone =>
      hthere (hround (List.mem_append_right before (List.mem_cons_of_mem _ hgone)))⟩
  rcases List.mem_append.mp hd with hd | hd
  · obtain ⟨o, -, rfl⟩ := List.mem_map.mp hd
    exact nomatch (Deed.added?_ofOutcome o).symm.trans hadded
  · obtain ⟨t, ht, hdt⟩ := List.mem_flatMap.mp hd
    exact Or.inr ⟨t, ht, ⟨d, hdt, hadded⟩, fun hgone =>
      hthere (hin (List.mem_cons_of_mem _ ht) hgone)⟩

/-! ## What a round submits -/

variable {ω : Type} {clients : List (Client ω)} {d d' : Dispatcher ω}

/-- What is in a window once an entry was added to one: that entry, or what was
in it before. -/
theorem mem_claims_change_push {c e : Claim} {name other : String}
    (he : e ∈ (d.change name (Window.push c)).claims other) : e ∈ d.claims other ∨ e = c := by
  unfold claims at he ⊢
  rw [lookup_change] at he
  cases hw : d.windows.lookup other with
  | none =>
    rw [hw] at he
    exact absurd he List.not_mem_nil
  | some w =>
    rw [hw, Option.map_some] at he
    dsimp only at he ⊢
    split at he
    · exact Window.mem_of_mem_push he
    · exact Or.inl he

/-- **What is not claimed has a reason**: an entry that is one listen with it
was in the window, or was claimed before it. -/
theorem claimed_or_matched {pairs : List (Claim × Client ω)}
    {answers : List (Option (Claim × Client ω))}
    (h : Step.forEach claim pairs d = .ok answers d')
    {c : Claim} {client : Client ω} (hc : (c, client) ∈ pairs)
    (hown : client.isOwn c.play = .ok false) :
    c ∈ claimsFor client.name (answers.filterMap id)
      ∨ ∃ e, (e ∈ d.claims client.name ∨ e ∈ claimsFor client.name (answers.filterMap id))
        ∧ Match.sameListen? e.play c.play = .ok true := by
  induction pairs generalizing d answers with
  | nil => exact absurd hc List.not_mem_nil
  | cons pair rest ih =>
    obtain ⟨answer, d₁, answers₁, hfirst, hrest, rfl⟩ := Step.exists_of_forEach_cons_eq_ok h
    obtain ⟨c₁, client₁⟩ := pair
    rcases claim_eq_ok hfirst with ⟨rfl, rfl, hreason⟩ | ⟨rfl, rfl, -, -⟩
    · rw [List.filterMap_cons_none rfl]
      rcases List.mem_cons.mp hc with hpair | hc
      · obtain ⟨rfl, rfl⟩ := Prod.mk.inj hpair
        rcases hreason with hyes | ⟨e, he, hsame⟩
        · exact nomatch hyes.symm.trans hown
        · exact Or.inr ⟨e, Or.inl he, hsame⟩
      · exact ih hrest hc
    · have hpending : ((some (c₁, client₁) :: answers₁).filterMap id)
          = (c₁, client₁) :: answers₁.filterMap id := rfl
      rw [hpending, claimsFor_cons]
      rcases List.mem_cons.mp hc with hpair | hc
      · obtain ⟨rfl, rfl⟩ := Prod.mk.inj hpair
        rw [if_pos rfl]
        exact Or.inl List.mem_cons_self
      · -- what the first claim adds to the window counts as claimed before
        have hlater := ih hrest hc
        by_cases hname : client₁.name = client.name
        · rw [if_pos hname]
          refine hlater.imp (List.mem_cons_of_mem _) fun ⟨e, he, hsame⟩ => ⟨e, ?_, hsame⟩
          rcases he with he | he
          · exact (mem_claims_change_push he).imp_right fun h => List.mem_cons.mpr (Or.inl h)
          · exact Or.inr (List.mem_cons_of_mem _ he)
        · rw [if_neg hname]
          rwa [claims_change_of_ne fun e => hname e.symm] at hlater

variable [Host ω]

/-- **A play of a batch is submitted**, or one that is one listen with it in
its place – unless an entry of the window is one listen with it. -/
theorem Round.submits {plays sorted : List Play} {pending : List (Claim × Client ω)}
    {taken : List Bool} (h : Round clients plays d sorted pending taken d') {client : Client ω}
    (hclient : client ∈ clients) {y : Play} (hy : y ∈ plays)
    (hown : client.isOwn y = .ok false) :
    (∃ c ∈ claimsFor client.name pending,
        c.play = y ∨ Match.sameListen? c.play y = .ok true)
      ∨ ∃ e ∈ d.claims client.name, Match.sameListen? e.play y = .ok true := by
  obtain ⟨claimed, hclaimed, -⟩ := h.performed
  obtain ⟨answers, d₁, hanswers, hlast⟩ := Step.exists_of_andThen_eq_ok hclaimed
  obtain ⟨rfl, rfl⟩ := Step.ok_inj hlast
  obtain ⟨c, hc, rfl⟩ : ∃ c ∈ ticketed d.next sorted, c.play = y := by
    refine List.mem_map.mp ?_
    rw [map_play_ticketed]
    exact (Play.pairwise_of_sort? h.inOrder).1.mem_iff.mpr hy
  have hpair : (c, client) ∈ allPairs (ticketed d.next sorted) clients :=
    List.mem_flatMap.mpr ⟨c, hc, List.mem_map_of_mem hclient⟩
  rcases claimed_or_matched hanswers hpair hown with hclaim | ⟨e, he | he, hsame⟩
  · exact Or.inl ⟨c, hclaim, Or.inl rfl⟩
  · exact Or.inr ⟨e, he, hsame⟩
  · exact Or.inl ⟨e, he, Or.inr hsame⟩

end Listening.Dispatcher
