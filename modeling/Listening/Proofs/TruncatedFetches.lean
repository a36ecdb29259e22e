import Listening.Proofs.FlappingSources

/-!
# Fetches that are cut short

A source may return only the top of its list, and the next time more of it
again. What is known then is as long as the last list that was accepted, which
may have been a short one: plays on top are new even if the list below them
has been cut off. So a later list may go on below the oldest play that is
known. To a history that is an addition at both ends, and not one it can make
sense of. The list is accepted, but brings nothing, and the plays on top are
not new to any later one.

Nothing else costs a play. `Loses` says when a list with new plays goes on
below what is known, and a run of looks discovers every play exactly if it is
`Complete`, which is to say that no look of it loses any, however short its
lists are.
-/

namespace Listening.History

open ComparablePlay (plays tracks)

/-! ## What a source returns -/

/-- **A look at a part of a list**, cut off at some place. -/
structure Glimpse where
  /-- How many plays have been listened to by then. -/
  heard : Nat
  /-- How many of them the source returns at most. -/
  count : Nat
  /-- The time of the look. -/
  now : Instant

/-- What the source returns: the top of the list of that time. -/
def Glimpse.fetched (size : Nat) (listened : List ComparablePlay) (glimpse : Glimpse) :
    List ComparablePlay :=
  (view size glimpse.heard listened).take glimpse.count

/-- What it returns, and when. -/
def Glimpse.row (size : Nat) (listened : List ComparablePlay) (glimpse : Glimpse) :
    List ComparablePlay × Instant :=
  (glimpse.fetched size listened, glimpse.now)

/-- **One look after another**, which shows a play that was listened to by the
time of the one before. (A play that was accepted by then was.) -/
structure Glimpse.Precedes (size : Nat) (listened : List ComparablePlay)
    (before glimpse : Glimpse) :
    Prop where
  /-- Time has gone on. -/
  later : before.heard ≤ glimpse.heard
  /-- It is a point of the sequence. -/
  past : glimpse.heard ≤ listened.length
  /-- The time has an offset. -/
  clock : glimpse.now.offset.isSome = true
  /-- One of the plays is not new. -/
  shared : ∃ track ∈ tracks (glimpse.fetched size listened),
    track ∈ (tracks listened).take before.heard

/-- **Whether a look loses plays**: there are some since the look before, and
the list goes on below what is known. -/
def Loses (size : Nat) (listened : List ComparablePlay) (h : History) (heard : Nat)
    (glimpse : Glimpse) : Prop :=
  heard < glimpse.heard
    ∧ (h.known.getD []).length + (glimpse.heard - heard) < (glimpse.fetched size listened).length

instance (size : Nat) (listened : List ComparablePlay) (h : History) (heard : Nat)
    (glimpse : Glimpse) : Decidable (h.Loses size listened heard glimpse) :=
  inferInstanceAs (Decidable (_ ∧ _))

/-- **Whether no look of a row loses plays.** -/
def Complete (size : Nat) (listened : List ComparablePlay) :
    History → Nat → List Glimpse → Prop
  | _, _, [] => True
  | h, heard, glimpse :: rest => ¬ h.Loses size listened heard glimpse
    ∧ Complete size listened
        (h.evaluate (plays (glimpse.fetched size listened)) glimpse.now).state glimpse.heard rest

instance Complete.decidable (size : Nat) (listened : List ComparablePlay) :
    ∀ (h : History) (heard : Nat) (glimpses : List Glimpse),
      Decidable (Complete size listened h heard glimpses)
  | _, _, [] => inferInstanceAs (Decidable True)
  | h, _, glimpse :: rest =>
    have := Complete.decidable size listened
      (h.evaluate (plays (glimpse.fetched size listened)) glimpse.now).state glimpse.heard rest
    inferInstanceAs (Decidable (_ ∧ _))

/-- **What a row of looks brings**: the plays since the look before, if that
look does not lose them. -/
def brought (size : Nat) (listened : List ComparablePlay) :
    History → Nat → List Glimpse → List ComparablePlay
  | _, _, [] => []
  | h, heard, glimpse :: rest =>
    (if h.Loses size listened heard glimpse then []
      else (listened.take glimpse.heard).drop heard)
    ++ brought size listened
        (h.evaluate (plays (glimpse.fetched size listened)) glimpse.now).state glimpse.heard rest

/-! ## Lists that go on below what is known -/

/-- **A list with another play at its end** is not plays on top of what is
known: below those there is nothing that is new. -/
theorem isPrepend_ne_true_of_oldest {known fetched : List Track} {oldest : Track}
    (holdest : fetched.getLast? = some oldest) (hnew : oldest ∉ known) :
    (Growth.ofKeys known fetched).isPrepend ≠ true := by
  intro hontop
  cases hgrowth : Growth.ofKeys known fetched with
  | prepend count =>
    obtain ⟨kept, hprepends⟩ := (Growth.ofKeys_eq_prepend_iff known fetched count).mp hgrowth
    obtain ⟨top, -, hsplit, -⟩ := hprepends.split
    have hkept : known.take kept ≠ [] := by
      refine List.ne_nil_of_length_pos ?_
      rw [List.length_take_of_le hprepends.kept_le]
      exact hprepends.kept_pos
    rw [hsplit, List.getLast?_append_of_ne_nil _ hkept] at holdest
    exact hnew (List.mem_of_mem_take (List.mem_of_getLast? holdest))
  | none => exact nomatch hgrowth ▸ hontop
  | insert => exact nomatch hgrowth ▸ hontop
  | append count => exact nomatch hgrowth ▸ hontop

/-- **A longer list with another play at its end brings nothing**, but is
accepted. -/
theorem changed_of_beyond {h : History} {known fetched : List ComparablePlay}
    (hlonger : known.length < fetched.length) {oldest : Track}
    (holdest : (tracks fetched).getLast? = some oldest) (hnew : oldest ∉ tracks known)
    (now : Instant) :
    ∃ finding : Finding, finding.plays = []
      ∧ h.changed (plays known) (plays fetched)
          (ListDiff.ofKeys (tracks known) (tracks fetched)) now
        = .ok finding
          { h with
            known := some (plays fetched)
            observedAt := some now
            seen := Window.lastOf h.capacity (h.seen ++ [identities fetched]) } := by
  have hshrunk : decide ((plays fetched).length < (plays known).length) = false := by
    rw [ComparablePlay.length_plays, ComparablePlay.length_plays]
    exact decide_eq_false (Nat.not_lt_of_lt hlonger)
  have hcond : ¬ (decide ((plays fetched).length < (plays known).length)
      && !(ListDiff.ofKeys (tracks known) (tracks fetched)).entries.any
        ListDiff.Entry.isAdded) = true := by
    rw [hshrunk, Bool.false_and]
    exact Bool.false_ne_true
  have hbump : Bump.ofPlays? (plays known) (plays fetched) = .ok .none := by
    refine if_pos (Or.inl ?_)
    rw [ComparablePlay.length_plays, ComparablePlay.length_plays]
    exact Nat.ne_of_lt hlonger
  have hontop := isPrepend_ne_true_of_oldest holdest hnew
  unfold changed
  rw [if_neg hcond, Growth.ofPlays?_plays, hbump]
  simp only [Step.of_ok, Step.andThen_ok]
  by_cases hclean : (Growth.ofKeys (tracks known) (tracks fetched)).isClean = true
  · rw [if_pos hclean]
    unfold grown
    rw [if_neg hontop, accept_plays, Step.andThen_ok]
    exact ⟨_, rfl, rfl⟩
  · rw [if_neg hclean, if_neg (not_not.mpr rfl)]
    unfold jumbled
    rw [hshrunk, if_neg Bool.false_ne_true, accept_plays, Step.andThen_ok]
    exact ⟨_, rfl, rfl⟩

/-- **A view that shows more than is known**, besides plays that are newer, ends
with a play that is not known. -/
theorem exists_oldest {α : Type} {listened : List α} {size size' heard heard' : Nat}
    (hnodup : listened.Nodup) (hlater : heard ≤ heard') (hpast : heard' ≤ listened.length)
    (hbeyond : (view size heard listened).length + (heard' - heard)
      < (view size' heard' listened).length) :
    ∃ oldest, (view size' heard' listened).getLast? = some oldest
      ∧ oldest ∉ view size heard listened := by
  have hroom : heard' - heard ≤ size' := by
    have hle : (view size' heard' listened).length ≤ size' := List.length_take_le _ _
    omega
  have hcount : ((listened.take heard').drop heard).reverse.length = heard' - heard := by
    rw [List.length_reverse, List.length_drop, List.length_take_of_le hpast]
  rw [view_eq_append hlater hpast hroom] at hbeyond ⊢
  generalize hdeeper : view (size' - (heard' - heard)) heard listened = deeper at hbeyond ⊢
  rw [List.length_append, hcount] at hbeyond
  have hlonger : (view size heard listened).length < deeper.length := by omega
  have hknown : view size heard listened = deeper.take (view size heard listened).length := by
    rw [← hdeeper] at hlonger ⊢
    exact view_eq_take (Nat.le_of_lt hlonger)
  have hrest : deeper.drop (view size heard listened).length ≠ [] := by
    refine List.ne_nil_of_length_pos ?_
    rw [List.length_drop]
    exact Nat.sub_pos_of_lt hlonger
  have hdistinct : deeper.Nodup := by
    rw [← hdeeper]
    exact (List.nodup_reverse.mpr (hnodup.sublist (List.take_sublist _ _))).sublist
      (List.take_sublist _ _)
  generalize (view size heard listened).length = shown at hknown hrest
  rw [hknown]
  refine ⟨(deeper.drop shown).getLast hrest, ?_, fun hmem =>
    List.disjoint_take_drop hdistinct (Nat.le_refl shown) hmem (List.getLast_mem hrest)⟩
  conv_lhs => rw [← List.take_append_drop shown deeper, ← List.append_assoc,
    List.getLast?_append_of_ne_nil _ hrest]
  exact List.getLast?_eq_some_getLast hrest

/-! ## A row of looks -/

section Settled

variable {size shown heard heard' : Nat} {listened : List ComparablePlay} {h : History}
  {now : Instant}

/-- **A list that goes on below what is known brings nothing**, whatever is on
top of it. -/
theorem Settled.evaluate_of_beyond (hs : Settled shown listened heard h)
    (hdistinct : (tracks listened).Nodup) (hclock : now.offset.isSome = true)
    (hlater : heard ≤ heard') (hpast : heard' ≤ listened.length)
    (hbeyond : (view shown heard listened).length + (heard' - heard)
      < (view size heard' listened).length) :
    ∃ finding h' shown', h.evaluate (plays (view size heard' listened)) now = .ok finding h'
      ∧ Settled shown' listened heard' h' ∧ finding.plays = [] := by
  have hlength : heard' ≤ (tracks listened).length := by
    rw [ComparablePlay.length_tracks]
    exact hpast
  have hroom : heard' - heard ≤ size := by
    have hle : (view size heard' listened).length ≤ size := List.length_take_le _ _
    omega
  have hlonger : (view shown heard listened).length < (view size heard' listened).length := by
    omega
  rw [← ComparablePlay.length_tracks, tracks_view, ← ComparablePlay.length_tracks, tracks_view]
    at hbeyond
  obtain ⟨oldest, holdest, hnew⟩ := exists_oldest hdistinct hlater hlength hbeyond
  rw [← tracks_view] at holdest hnew
  have hlook := evaluate_plays hs.newestFirst hs.known (view size heard' listened) now
  rw [if_neg (outcome_ne_equal (List.mem_of_getLast? holdest) hnew)] at hlook
  by_cases hearlier : h.isEarlier (identities (view size heard' listened)) = true
  · -- nothing remembered speaks of later plays
    have hsame : heard' = heard := by
      refine Nat.le_antisymm (Nat.le_of_not_lt fun hlt => ?_) hlater
      obtain ⟨track, hshown, hlate⟩ := exists_later_track hdistinct hlt hlength hroom
      exact hs.not_isEarlier hshown hlate hearlier
    rw [if_pos hearlier] at hlook
    exact ⟨_, h, shown, hlook, hsame ▸ hs, rfl⟩
  · rw [if_neg hearlier] at hlook
    obtain ⟨finding, hnothing, hchanged⟩ := changed_of_beyond hlonger holdest hnew now
    exact ⟨finding, _, size, hlook.trans hchanged,
      Settled.of_accepted hpast hs.newestFirst hclock (hs.past_of_le hlater), hnothing⟩

/-- **A look at a part of a list never fails**, and brings the plays since the
look before, unless it loses them. -/
theorem Settled.evaluate_of_glimpse {before glimpse : Glimpse}
    (hs : Settled shown listened before.heard h) (hdistinct : (tracks listened).Nodup)
    (hlengthless : ∀ p ∈ listened, p.1.duration = .absent)
    (hprecedes : before.Precedes size listened glimpse) :
    ∃ finding h' shown',
      h.evaluate (plays (glimpse.fetched size listened)) glimpse.now = .ok finding h'
      ∧ Settled shown' listened glimpse.heard h'
      ∧ finding.plays.reverse = (plays (if h.Loses size listened before.heard glimpse then []
          else (listened.take glimpse.heard).drop before.heard)).map (stamp glimpse.now) := by
  obtain ⟨heard', count, now⟩ := glimpse
  obtain ⟨hlater, hpast, hclock, shared, hnow, hbefore⟩ := hprecedes
  have hfetched : Glimpse.fetched size listened ⟨heard', count, now⟩
      = view (min count size) heard' listened := take_view ..
  have hloses : h.Loses size listened before.heard ⟨heard', count, now⟩
      ↔ before.heard < heard' ∧ (view shown before.heard listened).length
          + (heard' - before.heard) < (view (min count size) heard' listened).length := by
    rw [Loses, hs.known, Option.getD_some, ComparablePlay.length_plays, hfetched]
  rw [hfetched] at hnow ⊢
  by_cases hbeyond : (view shown before.heard listened).length + (heard' - before.heard)
      < (view (min count size) heard' listened).length
  · obtain ⟨finding, h', shown', hlook, hs', hnothing⟩ :=
      hs.evaluate_of_beyond hdistinct hclock hlater hpast hbeyond
    refine ⟨finding, h', shown', hlook, hs', ?_⟩
    rw [hnothing]
    split
    · rfl
    · rename_i hkept
      rw [hloses, not_and_or, or_iff_left (not_not.mpr hbeyond), Nat.not_lt] at hkept
      show _ = (plays ((listened.take heard').drop before.heard)).map (stamp now)
      rw [Nat.le_antisymm hkept hlater, plays_since_self]
      rfl
  · rw [if_neg (fun hlost => hbeyond (hloses.mp hlost).2)]
    rcases Nat.lt_or_eq_of_le hlater with hlater | hsame
    · obtain ⟨finding, h', hlook, hs', hplays⟩ := hs.evaluate_of_current hdistinct hlengthless
        hclock hlater hpast hbefore hnow (Nat.le_of_not_lt hbeyond)
      refine ⟨finding, h', _, hlook, hs', ?_⟩
      rw [hplays, ComparablePlay.plays_reverse, List.map_reverse, List.reverse_reverse]
    · -- without new plays the list is a part of what is known
      obtain rfl : heard' = before.heard := hsame.symm
      rw [Nat.sub_self, Nat.add_zero, Nat.not_lt] at hbeyond
      obtain ⟨finding, h', hlook, hs', hplays⟩ := hs.evaluate_of_outdated hclock
        (Or.inr (view_eq_take hbeyond ▸ List.take_sublist _ _))
      refine ⟨finding, h', _, hlook, hs', ?_⟩
      rw [hplays, plays_since_self]
      rfl

/-! ## A run of looks -/

variable {before : Glimpse} {glimpses : List Glimpse}

/-- The last look of a run is no earlier than the first. -/
theorem le_last (hchain : List.IsChain (Glimpse.Precedes size listened) (before :: glimpses)) :
    before.heard ≤ (glimpses.getLastD before).heard := by
  induction glimpses generalizing before with
  | nil => exact Nat.le_refl _
  | cons glimpse rest ih =>
    obtain ⟨hprecedes, hrest⟩ := List.isChain_cons_cons.mp hchain
    rw [List.getLastD_cons]
    exact Nat.le_trans hprecedes.later (ih hrest)

/-- What a run shows has been listened to by the time of its last look. -/
theorem fetched_subset
    (hchain : List.IsChain (Glimpse.Precedes size listened) (before :: glimpses)) :
    ∀ glimpse ∈ glimpses,
      glimpse.fetched size listened ⊆ listened.take (glimpses.getLastD before).heard := by
  induction glimpses generalizing before with
  | nil => exact fun _ hmem => absurd hmem List.not_mem_nil
  | cons glimpse rest ih =>
    obtain ⟨-, hrest⟩ := List.isChain_cons_cons.mp hchain
    rw [List.getLastD_cons]
    refine List.forall_mem_cons.mpr ⟨fun p hp => ?_, ih hrest⟩
    exact (List.take_sublist_take_left (le_last hrest)).subset
      (mem_of_mem_view (List.mem_of_mem_take hp))

/-- A run brings nothing but plays listened to between its first look and its
last, in that order. -/
theorem brought_sublist
    (hchain : List.IsChain (Glimpse.Precedes size listened) (before :: glimpses)) (h : History) :
    (brought size listened h before.heard glimpses).Sublist
      ((listened.take (glimpses.getLastD before).heard).drop before.heard) := by
  induction glimpses generalizing before h with
  | nil => exact List.nil_sublist _
  | cons glimpse rest ih =>
    obtain ⟨hprecedes, hrest⟩ := List.isChain_cons_cons.mp hchain
    rw [List.getLastD_cons,
      since_eq_append hprecedes.later hprecedes.past (le_last hrest), brought]
    refine List.Sublist.append ?_ (ih hrest _)
    split
    · exact List.nil_sublist _
    · exact List.Sublist.refl _

/-- **A run brings all of them exactly if no look loses any.** -/
theorem brought_eq_iff
    (hchain : List.IsChain (Glimpse.Precedes size listened) (before :: glimpses)) (h : History) :
    brought size listened h before.heard glimpses
        = (listened.take (glimpses.getLastD before).heard).drop before.heard
      ↔ h.Complete size listened before.heard glimpses := by
  induction glimpses generalizing before h with
  | nil =>
    refine iff_of_true ?_ trivial
    exact (List.drop_eq_nil_of_le (List.length_take_le _ _)).symm
  | cons glimpse rest ih =>
    obtain ⟨hprecedes, hrest⟩ := List.isChain_cons_cons.mp hchain
    have hpast := hprecedes.past
    rw [List.getLastD_cons, since_eq_append hprecedes.later hpast (le_last hrest),
      brought, Complete]
    by_cases hloses : h.Loses size listened before.heard glimpse
    · -- what later looks bring does not make up for it
      rw [if_pos hloses, List.nil_append]
      refine iff_of_false (fun hall => ?_) (fun hcomplete => hcomplete.1 hloses)
      have hle := (brought_sublist hrest
        (h.evaluate (plays (glimpse.fetched size listened)) glimpse.now).state).length_le
      rw [hall, List.length_append, List.length_drop, List.length_take_of_le hpast] at hle
      have hlater := hloses.1
      omega
    · rw [if_neg hloses, List.append_cancel_left_eq, ih hrest, and_iff_right hloses]

/-- **A run of looks never fails**, and what it brings is discovered. -/
theorem Settled.looks_of_glimpses (hs : Settled shown listened before.heard h)
    (hdistinct : (tracks listened).Nodup) (hlengthless : ∀ p ∈ listened, p.1.duration = .absent)
    (hchain : List.IsChain (Glimpse.Precedes size listened) (before :: glimpses)) :
    ∃ findings h', History.looks (glimpses.map (Glimpse.row size listened)) h = .ok findings h'
      ∧ List.Forall₂ Discovers (brought size listened h before.heard glimpses)
        (findings.flatMap fun finding => finding.plays.reverse) := by
  induction glimpses generalizing before h shown with
  | nil => exact ⟨[], h, rfl, List.Forall₂.nil⟩
  | cons glimpse rest ih =>
    obtain ⟨hprecedes, hrest⟩ := List.isChain_cons_cons.mp hchain
    obtain ⟨finding, h', shown', hlook, hs', hplays⟩ :=
      hs.evaluate_of_glimpse hdistinct hlengthless hprecedes
    obtain ⟨findings, h'', hlooks, hfound⟩ := ih hs' hrest
    refine ⟨finding :: findings, h'', looks_cons hlook hlooks, ?_⟩
    rw [List.flatMap_cons, brought, hlook, hplays]
    exact List.rel_append (discovers_stamped _ _) hfound

end Settled

/-- **Every play is discovered once, exactly if no look loses any.** A history
that is new to a source is asked with part of a list first, and then with parts
of later ones that are cut off anywhere. It never fails, and what its looks
bring, each read oldest first, is play by play what was listened to between the
first look and the last, unless a list with new plays goes on below what is
known; and no other play that was listened to after the first look is shown. -/
theorem looks_of_truncated {size : Nat} {listened : List ComparablePlay}
    (hdistinct : (tracks listened).Nodup) (hlengthless : ∀ p ∈ listened, p.1.duration = .absent)
    (memory : Int) (tolerance : Float) {first : Glimpse}
    (hclock : first.now.offset.isSome = true)
    (hfirst : first.heard ≤ listened.length) {glimpses : List Glimpse}
    (hchain : List.IsChain (Glimpse.Precedes size listened) (first :: glimpses)) :
    ∃ findings h', History.looks ((first :: glimpses).map (Glimpse.row size listened))
        { memory, tolerance } = .ok findings h'
      ∧ (List.Forall₂ Discovers
          ((listened.take (glimpses.getLastD first).heard).drop first.heard)
          (findings.flatMap fun finding => finding.plays.reverse)
        ↔ (({ memory, tolerance } : History).evaluate (plays (first.fetched size listened))
            first.now).state.Complete size listened first.heard glimpses)
      ∧ ∀ glimpse ∈ glimpses, ∀ p ∈ glimpse.fetched size listened, p ∈ listened.take first.heard
          ∨ p ∈ (listened.take (glimpses.getLastD first).heard).drop first.heard := by
  have hfetched :
      first.fetched size listened = view (min first.count size) first.heard listened :=
    take_view ..
  obtain ⟨finding, h', hlook, hs, hplays⟩ :=
    Settled.of_baseline memory tolerance hclock (min first.count size) hfirst
  rw [← hfetched] at hlook
  obtain ⟨findings, h'', hlooks, hfound⟩ :=
    hs.looks_of_glimpses hdistinct hlengthless hchain
  refine ⟨finding :: findings, h'', looks_cons hlook hlooks, ?_, fun glimpse hglimpse p hp => ?_⟩
  · rw [List.flatMap_cons, hplays, List.reverse_nil, List.nil_append, hlook, Step.state_ok,
      ← brought_eq_iff hchain]
    refine ⟨fun hall => ?_, fun hsame => hsame ▸ hfound⟩
    refine (brought_sublist hchain h').eq_of_length ?_
    rw [hfound.length_eq, hall.length_eq]
  · rw [← List.mem_append, ← take_eq_append listened (le_last hchain)]
    exact fetched_subset hchain glimpse hglimpse hp

/-- Six songs, in the order of listening. -/
def sixSongs : List ComparablePlay := ["a", "b", "c", "d", "e", "f"].map song

/-- Of songs only the title and the id are known. -/
theorem lengthless_sixSongs : ∀ p ∈ sixSongs, p.1.duration = .absent := by
  intro p hp
  obtain ⟨name, -, rfl⟩ := List.mem_map.mp hp
  rfl

/-- The fifth song comes with one below it. -/
theorem precedes_fifth : Glimpse.Precedes 4 sixSongs ⟨4, 4, ⟨0, some 0⟩⟩ ⟨5, 2, ⟨1, some 0⟩⟩ :=
  ⟨by decide, by decide, rfl, (song "d").track, by decide +kernel, by decide +kernel⟩

/-- The first four songs, the fifth with one below it, and in the end the sixth
with the two that are known by then. -/
theorem looks_of_truncated_songs :
    ∃ findings h', History.looks
        ([⟨4, 4, ⟨0, some 0⟩⟩, ⟨5, 2, ⟨1, some 0⟩⟩, ⟨6, 3, ⟨2, some 0⟩⟩].map
          (Glimpse.row 4 sixSongs)) { memory := 10, tolerance := 10 } = .ok findings h'
      ∧ List.Forall₂ Discovers ((sixSongs.take 6).drop 4)
        (findings.flatMap fun finding => finding.plays.reverse) := by
  have hsixth : Glimpse.Precedes 4 sixSongs ⟨5, 2, ⟨1, some 0⟩⟩ ⟨6, 3, ⟨2, some 0⟩⟩ :=
    ⟨by decide, by decide, rfl, (song "e").track, by decide +kernel, by decide +kernel⟩
  obtain ⟨findings, h', hlooks, hcomplete, -⟩ := looks_of_truncated (by decide +kernel)
    lengthless_sixSongs 10 10 rfl (by decide)
    (List.isChain_cons_cons.mpr
      ⟨precedes_fifth, List.isChain_cons_cons.mpr ⟨hsixth, .singleton _⟩⟩)
  exact ⟨findings, h', hlooks, hcomplete.mpr (by decide +kernel)⟩

/-- **A list that is cut short may cost a play**, even if every list shows a
play of the one before it: after the fifth song with one below it, the sixth
comes with three that were known once. -/
theorem not_forall_looks_of_truncated :
    ¬ ∀ (size : Nat) (listened : List ComparablePlay) (memory : Int) (tolerance : Float)
      (first : Glimpse) (glimpses : List Glimpse),
      (tracks listened).Nodup → (∀ p ∈ listened, p.1.duration = .absent) →
      first.now.offset.isSome = true → first.heard ≤ listened.length →
      first.fetched size listened ≠ [] →
      List.IsChain (fun before glimpse => before.Precedes size listened glimpse
        ∧ ∃ track ∈ tracks (before.fetched size listened),
          track ∈ tracks (glimpse.fetched size listened)) (first :: glimpses) →
      ∃ findings h', History.looks ((first :: glimpses).map (Glimpse.row size listened))
          { memory, tolerance } = .ok findings h'
        ∧ List.Forall₂ Discovers
          ((listened.take (glimpses.getLastD first).heard).drop first.heard)
          (findings.flatMap fun finding => finding.plays.reverse) := by
  intro hall
  have hsixth : Glimpse.Precedes 4 sixSongs ⟨5, 2, ⟨1, some 0⟩⟩ ⟨6, 4, ⟨2, some 0⟩⟩ :=
    ⟨by decide, by decide, rfl, (song "e").track, by decide +kernel, by decide +kernel⟩
  obtain ⟨findings, h', hlooks, hfound⟩ := hall 4 sixSongs 10 10 ⟨4, 4, ⟨0, some 0⟩⟩
    [⟨5, 2, ⟨1, some 0⟩⟩, ⟨6, 4, ⟨2, some 0⟩⟩] (by decide +kernel)
    lengthless_sixSongs rfl (by decide)
    (by decide +kernel) (List.isChain_cons_cons.mpr
      ⟨⟨precedes_fifth, (song "d").track, by decide +kernel, by decide +kernel⟩,
        List.isChain_cons_cons.mpr
          ⟨⟨hsixth, (song "e").track, by decide +kernel, by decide +kernel⟩, .singleton _⟩⟩)
  have hfew : (History.looks
        ([⟨4, 4, ⟨0, some 0⟩⟩, ⟨5, 2, ⟨1, some 0⟩⟩, ⟨6, 4, ⟨2, some 0⟩⟩].map
          (Glimpse.row 4 sixSongs)) { memory := 10, tolerance := 10 }).result.toOption.map
        (fun findings => (findings.flatMap fun finding => finding.plays.reverse).length)
      = some 1 := by decide +kernel
  rw [hlooks] at hfew
  exact absurd (hfound.length_eq.trans (Option.some.inj hfew)) (by decide +kernel)

end Listening.History
