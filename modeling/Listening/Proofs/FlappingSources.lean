import Listening.Proofs.IdentityMarks

/-!
# Flapping sources

A source lists the plays of a listener, newest first and only so many of
them. Some sources flap: asked again, they return a list of some time ago,
or a part of the current one. A `History` is meant to discover every play
once all the same. What it is asked with is a `Fetch`, a run of such fetches
is a `Flapping`, and over a whole run the plays discovered are those listened
to between the first fetch and the last one that was up to date, each once
and in the order of listening.

One invariant carries the run. `Settled` says that what is known is the list
at some point of the listening sequence, that it is the list remembered
last, and that nothing remembered speaks of a play after that point. A fetch
that is out of date is then equal to what is known, or remembered, or
shorter, and leaves everything as it is; one that is up to date cannot be
remembered, and shows as plays on top of what is known.
-/

namespace Listening.History

open ComparablePlay (plays tracks)

/-! ## What a flapping source returns -/

/-- **What a source shows** that lists `size` plays, once the first `heard`
plays of a listening sequence have been listened to. -/
def view {α : Type} (size heard : Nat) (listened : List α) : List α :=
  (listened.take heard).reverse.take size

/-- **What a flapping source may return** to a history at some point of a
listening sequence, and the point of the sequence it brings the history
to. -/
inductive Fetch (size : Nat) (listened : List ComparablePlay) (h : History) (heard : Nat) :
    List ComparablePlay → Nat → Prop where
  /-- The current list, with a play in common with the known one. -/
  | current (heard' : Nat) (later : heard ≤ heard') (past : heard' ≤ listened.length)
      (known : List ComparablePlay) (isKnown : h.known = some (plays known))
      (shared : ∃ track ∈ tracks known, track ∈ tracks (view size heard' listened)) :
      Fetch size listened h heard (view size heard' listened) heard'
  /-- A list that was accepted earlier and is remembered. -/
  | earlier (fetched : List ComparablePlay)
      (isSeen : ∃ signature ∈ h.seen, signature? (plays fetched) = .ok signature) :
      Fetch size listened h heard fetched heard
  /-- A part of the known list. -/
  | part (fetched known : List ComparablePlay) (isKnown : h.known = some (plays known))
      (isPart : fetched.Sublist known) (isShorter : fetched.length < known.length) :
      Fetch size listened h heard fetched heard

/-- **A run of fetches** from a flapping source, each with the time at which
the history looks at it. -/
inductive Flapping (size : Nat) (listened : List ComparablePlay) :
    History → Nat → List (List ComparablePlay × Instant) → Nat → Prop where
  /-- No more fetches. -/
  | done (h : History) (heard : Nat) : Flapping size listened h heard [] heard
  /-- A fetch, and more of them. -/
  | look {h : History} {heard heard' last : Nat} {fetched : List ComparablePlay} {now : Instant}
      {rest : List (List ComparablePlay × Instant)}
      (fetch : Fetch size listened h heard fetched heard') (clock : now.offset.isSome = true)
      (run : Flapping size listened (h.evaluate (plays fetched) now).state heard' rest last) :
      Flapping size listened h heard ((fetched, now) :: rest) last

/-! ## The invariant -/

/-- The identities of plays. -/
def identities (ps : List ComparablePlay) : Signature := (tracks ps).map Track.identity

/-- **What holds of a history at a point of a listening sequence.** -/
structure Settled (size : Nat) (listened : List ComparablePlay) (heard : Nat) (h : History) :
    Prop where
  /-- It is a point of the sequence. -/
  inside : heard ≤ listened.length
  /-- The source lists its newest play first. -/
  newestFirst : h.newestFirst = true
  /-- The known list is the one at this point. -/
  known : h.known = some (plays (view size heard listened))
  /-- The last look was at a time with an offset. -/
  observed : ∃ t, h.observedAt = some t ∧ t.offset.isSome = true
  /-- The list remembered last is the known one. -/
  seen : ∃ earlier, h.seen = earlier ++ [identities (view size heard listened)]
  /-- Nothing remembered speaks of later plays. -/
  past : ∀ signature ∈ h.seen, ∀ identity ∈ signature,
    identity ∈ identities (listened.take heard)

/-! ## Signatures -/

/-- Plays that are the same tracks have the same identities, and the other
way round. -/
theorem identities_inj {ps qs : List ComparablePlay} :
    identities ps = identities qs ↔ tracks ps = tracks qs :=
  (List.map_injective_iff.mpr (fun _ _ h => Track.ext h)).eq_iff

/-- An identity of a play is that of its track. -/
theorem mem_identities {ps : List ComparablePlay} {track : Track} :
    track.identity ∈ identities ps ↔ track ∈ tracks ps :=
  List.mem_map_of_injective (fun _ _ h => Track.ext h)

/-- The signature of comparable plays. -/
theorem signature?_plays (ps : List ComparablePlay) :
    signature? (plays ps) = .ok (identities ps) :=
  ComparablePlay.mapM_identity? ps

/-- Identities of comparable plays agree with themselves. -/
theorem isDefined_of_mem_identities {ps : List ComparablePlay} :
    ∀ i ∈ identities ps, i.isDefined = true := fun i hi => by
  obtain ⟨track, -, rfl⟩ := List.mem_map.mp hi
  exact track.isDefined

/-- Whether plays are among the ones of some signatures. -/
theorem contains_identities_iff {seen : List Signature} {ps : List ComparablePlay} :
    seen.contains (identities ps) = true ↔ identities ps ∈ seen :=
  contains_identities_of_isDefined isDefined_of_mem_identities

/-! ## A look that changes nothing -/

section Looks

variable {h : History} {known fetched : List ComparablePlay}

/-- **A look at comparable plays**, when others are known: a list like the
known one, a list remembered from before, and any other. -/
theorem evaluate_plays (hnewest : h.newestFirst = true) (hknown : h.known = some (plays known))
    (fetched : List ComparablePlay) (now : Instant) :
    h.evaluate (plays fetched) now
      = if (ListDiff.ofKeys (tracks known) (tracks fetched)).outcome = .equal then
          .ok ⟨[], true, false, .none, none, none,
              (ListDiff.ofKeys (tracks known) (tracks fetched)).entries⟩
            { h with observedAt := some now }
        else if h.isEarlier (identities fetched) then
          .ok ⟨[], false, false, .none, none,
              some "History is identical to an earlier snapshot, upstream returned stale data",
              (ListDiff.ofKeys (tracks known) (tracks fetched)).entries⟩ h
        else h.changed (plays known) (plays fetched)
          (ListDiff.ofKeys (tracks known) (tracks fetched)) now := by
  have hordered : h.ordered (plays fetched) = plays fetched := if_pos hnewest
  unfold evaluate
  simp only [hordered, hknown, ListDiff.ofPlays?_plays, signature?_plays, Step.andThen, Step.of]

/-- Whether an entry of a difference is new. -/
theorem any_isAdded_iff (d : ListDiff) :
    d.entries.any ListDiff.Entry.isAdded = true ↔ d.addedPlaces ≠ [] := by
  rw [ListDiff.addedPlaces_eq, Ne, List.filterMap_eq_nil_iff, List.any_eq_true, not_forall]
  refine exists_congr (fun e => ?_)
  rw [Classical.not_imp]
  refine and_congr_right (fun _ => ?_)
  cases e <;> simp [ListDiff.Entry.isAdded, ListDiff.Entry.addedPlace?]

/-- **A part of the known list** brings nothing: it is shorter, and nothing
in it is new. -/
theorem changed_of_part (hpart : fetched.Sublist known)
    (hshorter : fetched.length < known.length) (now : Instant) :
    ∃ finding : Finding, finding.plays = []
      ∧ h.changed (plays known) (plays fetched)
          (ListDiff.ofKeys (tracks known) (tracks fetched)) now = .ok finding h := by
  have hnone : (ListDiff.ofKeys (tracks known) (tracks fetched)).addedPlaces = [] :=
    (Growth.addedPlaces_eq_nil_iff _ _ false).mpr
      (fun track => (hpart.map ComparablePlay.track).count_le track)
  have hadded : (ListDiff.ofKeys (tracks known) (tracks fetched)).entries.any
      ListDiff.Entry.isAdded = false := by
    rw [← Bool.not_eq_true, any_isAdded_iff, not_not]
    exact hnone
  have hlength : (plays fetched).length < (plays known).length := by
    rw [ComparablePlay.length_plays, ComparablePlay.length_plays]
    exact hshorter
  have hcond : (decide ((plays fetched).length < (plays known).length)
      && !(ListDiff.ofKeys (tracks known) (tracks fetched)).entries.any
        ListDiff.Entry.isAdded) = true := by
    rw [hadded, decide_eq_true hlength]
    rfl
  exact ⟨_, rfl, if_pos hcond⟩

/-! ## A look that brings new plays -/

/-- A list that is accepted is known and remembered. -/
theorem accept_plays (h : History) (fetched : List ComparablePlay) (now : Instant) :
    h.accept (plays fetched) now = .ok ()
      { h with
        known := some (plays fetched)
        observedAt := some now
        seen := Window.lastOf h.capacity (h.seen ++ [identities fetched]) } := by
  unfold accept
  simp only [signature?_plays, Step.andThen, Step.of]
  rfl

/-- Plays without a length are none of them dropped. -/
theorem fit_of_free {α β : Type} [LE β] [DecidableLE β] [Sub β] (budget : β) (as : List α) :
    fit budget (as.map fun a => (a, (none : Option β))) = (as, []) := by
  induction as with
  | nil => rfl
  | cons a as ih => rw [List.map_cons, fit, ih]

/-- **The first list** is taken for the known one and brings nothing. -/
theorem evaluate_of_unknown (hnewest : h.newestFirst = true) (hunknown : h.known = none)
    (fetched : List ComparablePlay) (now : Instant) :
    h.evaluate (plays fetched) now
      = .ok ⟨[], true, true, .none, none,
          some "No previous history, using this list as the baseline", []⟩
        { h with
          known := some (plays fetched)
          observedAt := some now
          seen := Window.lastOf h.capacity (h.seen ++ [identities fetched]) } := by
  have hordered : h.ordered (plays fetched) = plays fetched := if_pos hnewest
  unfold evaluate
  simp only [hordered, hunknown, accept_plays, Step.andThen_ok]

/-- **Plays without a length are not taken for skipped.** -/
theorem unskipped?_of_lengthless {added : List Play}
    (hlengthless : ∀ p ∈ added, p.duration = .absent) {now : Instant}
    (hclock : ∀ t, h.observedAt = some t → Instant.comparable now t = true) :
    h.unskipped? added now = .ok added := by
  unfold unskipped?
  split
  · rename_i newest second older t hobserved
    have hcosts : (second :: older).reverse.mapM
          (fun p => p.duration.number?.map fun cost => (p, cost))
        = .ok ((second :: older).reverse.map fun p => (p, none)) := by
      refine mapM_eq_ok (fun p hp => ?_)
      rw [hlengthless p (List.mem_cons_of_mem newest (List.mem_reverse.mp hp))]
      rfl
    have hbudget : h.budget? t now
        = .ok (Instant.seconds (now.micros - t.micros) + h.tolerance) := by
      unfold budget?
      rw [Instant.minus?_of_comparable (hclock t hobserved)]
      rfl
    simp only [hbudget, hcosts, Bind.bind, Except.bind, fit_of_free, List.mapM_nil,
      List.reverse_reverse]
    rfl
  · rfl

/-- Where a list has grown, something in it is new. -/
theorem any_isAdded_of_growth (hgrown : Growth.ofKeys (tracks known) (tracks fetched) ≠ .none) :
    (ListDiff.ofKeys (tracks known) (tracks fetched)).entries.any
      ListDiff.Entry.isAdded = true := by
  rw [any_isAdded_iff, Ne, Growth.addedPlaces_eq_nil_iff]
  exact fun hnone => hgrown ((Growth.ofKeys_eq_none_iff _ _).mpr (Or.inr hnone))

/-- **A prepend brings what is on top**, even if the list has become
shorter. -/
theorem changed_of_prepends {count kept : Nat}
    (hprepends : Growth.Prepends (tracks known) (tracks fetched) count kept)
    (hlengthless : ∀ p ∈ fetched, p.1.duration = .absent) {t now : Instant}
    (hobserved : h.observedAt = some t) (hcomparable : Instant.comparable now t = true) :
    ∃ finding : Finding, finding.plays = (plays (fetched.take count)).map (stamp now)
      ∧ h.changed (plays known) (plays fetched)
          (ListDiff.ofKeys (tracks known) (tracks fetched)) now
        = .ok finding
          { h with
            known := some (plays fetched)
            observedAt := some now
            seen := Window.lastOf h.capacity (h.seen ++ [identities fetched]) } := by
  have hkeys := (Growth.ofKeys_eq_prepend_iff _ _ count).mpr ⟨kept, hprepends⟩
  have hgrowth : Growth.ofPlays? (plays known) (plays fetched) = .ok (.prepend count) := by
    rw [Growth.ofPlays?_plays, hkeys]
  have hcond : ¬ (decide ((plays fetched).length < (plays known).length)
      && !(ListDiff.ofKeys (tracks known) (tracks fetched)).entries.any
        ListDiff.Entry.isAdded) = true := by
    rw [any_isAdded_of_growth (hkeys.trans_ne fun e => nomatch e), Bool.not_true, Bool.and_false]
    exact Bool.false_ne_true
  have hontop : (Growth.prepend count).isPrepend = true := rfl
  have hadded : (Growth.prepend count).plays (plays fetched) = plays (fetched.take count) :=
    (List.map_take ..).symm
  have hkept : h.unskipped? (plays (fetched.take count)) now
      = .ok (plays (fetched.take count)) := by
    refine unskipped?_of_lengthless (fun p hp => ?_) (fun t' ht' => ?_)
    · obtain ⟨q, hq, rfl⟩ := List.mem_map.mp hp
      exact hlengthless q (List.mem_of_mem_take hq)
    · obtain rfl := Option.some.inj (hobserved.symm.trans ht')
      exact hcomparable
  refine ⟨⟨(plays (fetched.take count)).map (stamp now), true, true, .added, some .prepend, none,
    (ListDiff.ofKeys (tracks known) (tracks fetched)).entries⟩, rfl, ?_⟩
  unfold changed
  rw [if_neg hcond, hgrowth]
  show h.grown (.prepend count) _ (plays fetched) now = _
  unfold grown
  rw [if_pos hontop, hadded, hkept]
  show Step.andThen (h.accept (plays fetched) now) _ = _
  rw [accept_plays]
  rfl

end Looks

/-! ## Views -/

section Views

variable {size heard heard' : Nat} {listened : List ComparablePlay}

theorem length_view {α : Type} {listened : List α} (h : heard ≤ listened.length) :
    (view size heard listened).length = min size heard := by
  rw [view, List.length_take, List.length_reverse, List.length_take_of_le h]

theorem tracks_view (size heard : Nat) (listened : List ComparablePlay) :
    tracks (view size heard listened) = view size heard (tracks listened) := by
  simp only [view, tracks, List.map_take, List.map_reverse]

/-- What is shown has been listened to. -/
theorem mem_of_mem_view {α : Type} {a : α} {listened : List α}
    (h : a ∈ view size heard listened) : a ∈ listened.take heard :=
  List.mem_reverse.mp (List.mem_of_mem_take h)

/-- What has been listened to later is what was listened to before, and the
plays in between. -/
theorem take_eq_append {α : Type} (listened : List α) (hlater : heard ≤ heard') :
    listened.take heard' = listened.take heard ++ (listened.take heard').drop heard := by
  conv_lhs => rw [← List.take_append_drop heard (listened.take heard'), List.take_take,
    Nat.min_eq_left hlater]

/-- **The plays since some point** are those up to a later one, and then those
since that. -/
theorem since_eq_append {α : Type} {listened : List α} {last : Nat} (hlater : heard ≤ heard')
    (hpast : heard' ≤ listened.length) (hlast : heard' ≤ last) :
    (listened.take last).drop heard
      = (listened.take heard').drop heard ++ (listened.take last).drop heard' := by
  conv_lhs => rw [take_eq_append listened hlast]
  refine List.drop_append_of_le_length ?_
  rw [List.length_take_of_le hpast]
  exact hlater

/-- Nothing lies between a point of the sequence and itself. -/
theorem plays_since_self (now : Instant) :
    (plays ((listened.take heard).drop heard)).map (stamp now) = [] := by
  rw [List.drop_eq_nil_of_le (List.length_take_le _ _)]
  rfl

/-- A part of a view is a smaller view. -/
theorem take_view {α : Type} (count size heard : Nat) (listened : List α) :
    (view size heard listened).take count = view (min count size) heard listened :=
  List.take_take

/-- What a smaller view shows is on top of a larger one. -/
theorem view_eq_take {α : Type} {listened : List α} {size' : Nat}
    (hle : (view size' heard listened).length ≤ (view size heard listened).length) :
    view size' heard listened
      = (view size heard listened).take (view size' heard listened).length := by
  have hcount : (view size' heard listened).length ≤ size :=
    Nat.le_trans hle (List.length_take_le _ _)
  calc view size' heard listened
    _ = view (view size' heard listened).length heard listened := by
      rw [view, view, List.length_take, ← List.take_eq_take_min]
    _ = (view size heard listened).take (view size' heard listened).length := by
      rw [take_view, Nat.min_eq_left hcount]

/-- **A later view** is the plays in between, newest first, on top of an
earlier view, as long as they leave room. -/
theorem view_eq_append {α : Type} {listened : List α} (hlater : heard ≤ heard')
    (hpast : heard' ≤ listened.length) (hroom : heard' - heard ≤ size) :
    view size heard' listened = ((listened.take heard').drop heard).reverse
      ++ view (size - (heard' - heard)) heard listened := by
  have hlen : ((listened.take heard').drop heard).reverse.length = heard' - heard := by
    rw [List.length_reverse, List.length_drop, List.length_take_of_le hpast]
  conv_lhs =>
    rw [view, take_eq_append listened hlater, List.reverse_append, List.take_append, hlen,
    List.take_of_length_le (hlen.symm ▸ hroom)]
  rfl

/-- Tracks that are listened to later are not among the earlier ones. -/
theorem disjoint_of_nodup {α : Type} {listened : List α} (hnodup : listened.Nodup)
    (hlater : heard ≤ heard') :
    ((listened.take heard').drop heard).Disjoint (listened.take heard) := by
  intro a hlate hearly
  have hparts := hnodup.sublist (List.take_sublist heard' listened)
  rw [take_eq_append listened hlater] at hparts
  exact (List.nodup_append.mp hparts).2.2 a hearly a hlate rfl

/-- A later view that shows something from before leaves room for it: the
plays in between are fewer than a view shows. -/
theorem sub_lt_of_shared {α : Type} {listened : List α} (hnodup : listened.Nodup)
    (hlater : heard ≤ heard') (hpast : heard' ≤ listened.length) {shared : α}
    (hbefore : shared ∈ listened.take heard) (hnow : shared ∈ view size heard' listened) :
    heard' - heard < size := by
  refine Nat.lt_of_not_le (fun hle => ?_)
  have hrest : view size heard' listened
      = ((listened.take heard').drop heard).reverse.take size := by
    conv_lhs => rw [view, take_eq_append listened hlater, List.reverse_append]
    refine List.take_append_of_le_length ?_
    rw [List.length_reverse, List.length_drop, List.length_take_of_le hpast]
    exact hle
  rw [hrest] at hnow
  exact disjoint_of_nodup hnodup hlater (List.mem_reverse.mp (List.mem_of_mem_take hnow)) hbefore

/-- **A later view that shows something from before is a prepend**, of whatever
size it is, if it does not show more of it than the earlier one. -/
theorem prepends_view {α : Type} {listened : List α} {size' : Nat} (hnodup : listened.Nodup)
    (hlater : heard < heard') (hpast : heard' ≤ listened.length) {shared : α}
    (hbefore : shared ∈ listened.take heard) (hnow : shared ∈ view size' heard' listened)
    (hwithin : (view size' heard' listened).length
      ≤ (view size heard listened).length + (heard' - heard)) :
    ∃ kept, Growth.Prepends (view size heard listened) (view size' heard' listened)
      (heard' - heard) kept := by
  have hroom := sub_lt_of_shared hnodup (Nat.le_of_lt hlater) hpast hbefore hnow
  have hsplit := view_eq_append (Nat.le_of_lt hlater) hpast (Nat.le_of_lt hroom)
  have hdisjoint := disjoint_of_nodup hnodup (Nat.le_of_lt hlater)
  have hcount : ((listened.take heard').drop heard).reverse.length = heard' - heard := by
    rw [List.length_reverse, List.length_drop, List.length_take_of_le hpast]
  have hpos := List.length_pos_of_mem hbefore
  have hrest : 0 < (view (size' - (heard' - heard)) heard listened).length := by
    rw [view, List.length_take, List.length_reverse]
    exact Nat.lt_min.mpr ⟨Nat.sub_pos_of_lt hroom, hpos⟩
  rw [hsplit, List.length_append, hcount] at hwithin
  have hle : (view (size' - (heard' - heard)) heard listened).length
      ≤ (view size heard listened).length := by omega
  refine ⟨_, Nat.sub_pos_of_lt hlater, hrest, hle, ((listened.take heard').drop heard).reverse,
    hcount, ?_, Or.inl (fun a hlate hearly => ?_)⟩
  · rw [hsplit, ← view_eq_take hle]
  · exact hdisjoint (List.mem_reverse.mp hlate) (mem_of_mem_view hearly)

end Views

/-! ## One look -/

section Settled

variable {size heard heard' : Nat} {listened : List ComparablePlay} {h : History} {now : Instant}

/-- A later look at the known list settles nothing anew. -/
theorem Settled.observe (hs : Settled size listened heard h)
    (hclock : now.offset.isSome = true) :
    Settled size listened heard { h with observedAt := some now } where
  inside := hs.inside
  newestFirst := hs.newestFirst
  known := hs.known
  observed := ⟨now, rfl, hclock⟩
  seen := hs.seen
  past := hs.past

/-- The list added last is among the last ones. -/
theorem lastOf_append_singleton {α : Type} {count : Nat} (hcount : 0 < count) (as : List α)
    (a : α) : ∃ earlier, Window.lastOf count (as ++ [a]) = earlier ++ [a] := by
  refine ⟨as.drop (as.length + 1 - count), ?_⟩
  rw [Window.lastOf, List.length_append, List.length_singleton]
  exact List.drop_append_of_le_length (by omega)

/-- **An accepted list settles a history** at its point of the listening
sequence, if nothing remembered speaks of later plays. -/
theorem Settled.of_accepted (hinside : heard ≤ listened.length)
    (hnewest : h.newestFirst = true) (hclock : now.offset.isSome = true)
    (hpast : ∀ signature ∈ h.seen, ∀ identity ∈ signature,
      identity ∈ identities (listened.take heard)) :
    Settled size listened heard
      { h with
        known := some (plays (view size heard listened))
        observedAt := some now
        seen := Window.lastOf h.capacity (h.seen ++ [identities (view size heard listened)]) }
          where
  inside := hinside
  newestFirst := hnewest
  known := rfl
  observed := ⟨now, rfl, hclock⟩
  seen := lastOf_append_singleton (Nat.lt_of_lt_of_le (by decide) (Nat.le_max_left 2 _)) h.seen _
  past := by
    intro signature hsignature identity hidentity
    have hmem : signature ∈ h.seen ++ [identities (view size heard listened)] :=
      (List.drop_sublist _ _).subset hsignature
    rcases List.mem_append.mp hmem with hseen | hnew
    · exact hpast signature hseen identity hidentity
    · rw [List.mem_singleton.mp hnew] at hidentity
      obtain ⟨track, htrack, rfl⟩ := List.mem_map.mp hidentity
      refine mem_identities.mpr ?_
      rw [tracks_view] at htrack
      have := mem_of_mem_view htrack
      rwa [tracks, ← List.map_take] at this

/-- **The first list settles a new history.** -/
theorem Settled.of_baseline (memory : Int) (tolerance : Float)
    (hclock : now.offset.isSome = true)
    (size : Nat) (hinside : heard ≤ listened.length) :
    ∃ finding h',
    ({ memory, tolerance } : History).evaluate (plays (view size heard listened)) now
        = .ok finding h'
      ∧ Settled size listened heard h' ∧ finding.plays = [] :=
  ⟨_, _, evaluate_of_unknown rfl rfl _ now,
    Settled.of_accepted hinside rfl hclock (fun _ hmem => absurd hmem List.not_mem_nil), rfl⟩

/-- A new history is settled after its first look. -/
theorem Settled.state_of_baseline (memory : Int) (tolerance : Float)
    (now : Instant) (hclock : now.offset.isSome = true) (size : Nat)
    (hinside : heard ≤ listened.length) :
    Settled size listened heard (({ memory, tolerance } : History).evaluate
      (plays (view size heard listened)) now).state := by
  obtain ⟨finding, h', hlook, hs, -⟩ := Settled.of_baseline memory tolerance hclock size hinside
  rw [hlook]
  exact hs

/-- **A fetch that is out of date leaves everything as it is.** -/
theorem Settled.evaluate_of_outdated (hs : Settled size listened heard h)
    {fetched : List ComparablePlay} (hclock : now.offset.isSome = true)
    (hfetch : identities fetched ∈ h.seen ∨ fetched.Sublist (view size heard listened)) :
    ∃ finding h', h.evaluate (plays fetched) now = .ok finding h'
      ∧ Settled size listened heard h' ∧ finding.plays = [] := by
  have hlook := evaluate_plays hs.newestFirst hs.known fetched now
  have hequal := (ListDiff.isMatching_ofKeys (tracks (view size heard listened)) (tracks fetched)
    false).unchanged
  by_cases hsame : tracks (view size heard listened) = tracks fetched
  · rw [if_pos (hequal.mpr hsame)] at hlook
    exact ⟨_, _, hlook, hs.observe hclock, rfl⟩
  · rw [if_neg (fun e => hsame (hequal.mp e))] at hlook
    by_cases hearlier : h.isEarlier (identities fetched) = true
    · rw [if_pos hearlier] at hlook
      exact ⟨_, _, hlook, hs, rfl⟩
    · rw [if_neg hearlier] at hlook
      obtain ⟨earlier, hseen⟩ := hs.seen
      rw [isEarlier, contains_identities_iff, hseen, List.dropLast_concat] at hearlier
      rcases hfetch with hmem | hpart
      · -- what is remembered and not from before is the known list
        rw [hseen] at hmem
        rcases List.mem_append.mp hmem with hmem | hmem
        · exact absurd hmem hearlier
        · exact absurd (identities_inj.mp (List.mem_singleton.mp hmem)).symm hsame
      · have hshorter : fetched.length < (view size heard listened).length := by
          refine Nat.lt_of_le_of_ne hpart.length_le (fun e => hsame ?_)
          rw [hpart.eq_of_length e]
        obtain ⟨finding, hnothing, hchanged⟩ := changed_of_part hpart hshorter now
        exact ⟨finding, h, hlook.trans hchanged, hs, hnothing⟩

/-- **A list that is up to date shows a later track**: the first of those in
between. -/
theorem exists_later_track (hdistinct : (tracks listened).Nodup) (hlater : heard < heard')
    (hpast : heard' ≤ (tracks listened).length) (hroom : heard' - heard ≤ size) :
    ∃ track ∈ tracks (view size heard' listened), track ∉ (tracks listened).take heard := by
  have hinside : heard < (tracks listened).length := Nat.lt_of_lt_of_le hlater hpast
  have hfirst : (tracks listened)[heard] ∈ ((tracks listened).take heard').drop heard :=
    List.mem_iff_getElem.mpr ⟨0, by rw [List.length_drop, List.length_take]; omega, by simp⟩
  refine ⟨(tracks listened)[heard], ?_, fun hearly =>
    disjoint_of_nodup hdistinct (Nat.le_of_lt hlater) hfirst hearly⟩
  rw [tracks_view, view_eq_append (Nat.le_of_lt hlater) hpast hroom]
  exact List.mem_append_left _ (List.mem_reverse.mpr hfirst)

/-- A list that shows a later track is not the known one. -/
theorem outcome_ne_equal {known fetched : List ComparablePlay} {track : Track}
    (hshown : track ∈ tracks fetched) (hnew : track ∉ tracks known) :
    (ListDiff.ofKeys (tracks known) (tracks fetched)).outcome ≠ .equal := by
  intro e
  rw [← (ListDiff.isMatching_ofKeys (tracks known) (tracks fetched) false).unchanged.mp
    e] at hshown
  exact hnew hshown

/-- A list that shows a later track is none of those that are remembered. -/
theorem Settled.not_isEarlier (hs : Settled size listened heard h)
    {fetched : List ComparablePlay}
    {track : Track} (hshown : track ∈ tracks fetched)
    (hnew : track ∉ (tracks listened).take heard) :
    ¬ h.isEarlier (identities fetched) = true := by
  rw [isEarlier, contains_identities_iff]
  intro hmem
  have hpast := hs.past _ ((List.dropLast_sublist _).subset hmem) _ (mem_identities.mpr hshown)
  rw [mem_identities, tracks, List.map_take] at hpast
  exact hnew hpast

/-- **A list with a later track** is taken for a changed one. -/
theorem Settled.evaluate_eq_changed (hs : Settled size listened heard h)
    {fetched : List ComparablePlay} {track : Track} (hshown : track ∈ tracks fetched)
    (hnew : track ∉ (tracks listened).take heard) (now : Instant) :
    h.evaluate (plays fetched) now
      = h.changed (plays (view size heard listened)) (plays fetched)
        (ListDiff.ofKeys (tracks (view size heard listened)) (tracks fetched)) now := by
  have hdiffers : (ListDiff.ofKeys (tracks (view size heard listened))
      (tracks fetched)).outcome ≠ .equal := by
    refine outcome_ne_equal hshown fun hknown => hnew ?_
    rw [tracks_view] at hknown
    exact mem_of_mem_view hknown
  rw [evaluate_plays hs.newestFirst hs.known, if_neg hdiffers,
    if_neg (hs.not_isEarlier hshown hnew)]

/-- What is remembered does not speak of still later plays either. -/
theorem Settled.past_of_le (hs : Settled size listened heard h) (hlater : heard ≤ heard') :
    ∀ signature ∈ h.seen, ∀ identity ∈ signature,
      identity ∈ identities (listened.take heard') := by
  intro signature hsignature identity hidentity
  obtain ⟨track, htrack, rfl⟩ :=
    List.mem_map.mp (hs.past signature hsignature identity hidentity)
  refine mem_identities.mpr ?_
  rw [tracks, List.map_take] at htrack ⊢
  exact (List.take_sublist_take_left hlater).subset htrack

/-- **A fetch that is up to date brings the plays in between**, if it does not
show more of the ones before than are known. The newest of them is a track of
which nothing that is known or remembered speaks. -/
theorem Settled.evaluate_of_current {size' : Nat} (hs : Settled size listened heard h)
    (hdistinct : (tracks listened).Nodup) (hlengthless : ∀ p ∈ listened, p.1.duration = .absent)
    (hclock : now.offset.isSome = true) (hlater : heard < heard')
    (hpast : heard' ≤ listened.length) {shared : Track}
    (hbefore : shared ∈ (tracks listened).take heard)
    (hnow : shared ∈ tracks (view size' heard' listened))
    (hwithin : (view size' heard' listened).length
      ≤ (view size heard listened).length + (heard' - heard)) :
    ∃ finding h', h.evaluate (plays (view size' heard' listened)) now = .ok finding h'
      ∧ Settled size' listened heard' h'
      ∧ finding.plays
        = (plays ((listened.take heard').drop heard).reverse).map (stamp now) := by
  have hle := Nat.le_of_lt hlater
  have hlength : heard' ≤ (tracks listened).length := by
    rw [ComparablePlay.length_tracks]
    exact hpast
  rw [tracks_view] at hnow
  have hroom := sub_lt_of_shared hdistinct hle hlength hbefore hnow
  have hview := view_eq_append hle hpast (Nat.le_of_lt hroom)
  rw [← ComparablePlay.length_tracks, tracks_view, ← ComparablePlay.length_tracks, tracks_view]
    at hwithin
  obtain ⟨kept, hprepends⟩ := prepends_view hdistinct hlater hlength hbefore hnow hwithin
  rw [← tracks_view, ← tracks_view] at hprepends
  obtain ⟨track, hshown, hnew⟩ :=
    exists_later_track hdistinct hlater hlength (Nat.le_of_lt hroom)
  obtain ⟨t, hobserved, ht⟩ := hs.observed
  have hcomparable : Instant.comparable now t = true := by
    unfold Instant.comparable
    rw [hclock, ht]
    rfl
  obtain ⟨finding, hplays, hchanged⟩ := changed_of_prepends hprepends
    (fun p hp => hlengthless p (List.mem_of_mem_take (mem_of_mem_view hp))) hobserved hcomparable
  refine ⟨finding, _, (hs.evaluate_eq_changed hshown hnew now).trans hchanged,
    Settled.of_accepted hpast hs.newestFirst hclock (hs.past_of_le hle), ?_⟩
  have hcount : ((listened.take heard').drop heard).reverse.length = heard' - heard := by
    rw [List.length_reverse, List.length_drop, List.length_take_of_le hpast]
  rw [hplays, hview, List.take_append_of_le_length (Nat.le_of_eq hcount.symm),
    ← hcount, List.take_length]

/-- **Every fetch is looked at without a fault**, and brings the plays in
between if there are any. -/
theorem Settled.evaluate (hs : Settled size listened heard h)
    (hdistinct : (tracks listened).Nodup) (hlengthless : ∀ p ∈ listened, p.1.duration = .absent)
    {fetched : List ComparablePlay} (hfetch : Fetch size listened h heard fetched heard')
    (hclock : now.offset.isSome = true) :
    ∃ finding h', h.evaluate (plays fetched) now = .ok finding h'
      ∧ Settled size listened heard' h' ∧ heard ≤ heard'
      ∧ finding.plays.reverse
        = (plays ((listened.take heard').drop heard)).map (stamp now) := by
  have hview : ∀ known, h.known = some (plays known) → known = view size heard listened := by
    intro known hknown
    have he := Option.some.inj (hknown.symm.trans hs.known)
    exact List.map_injective_iff.mpr Subtype.val_injective he
  cases hfetch with
  | current heard' hlater hpast known hknown hshared =>
    obtain ⟨track, hbefore, hnow⟩ := hshared
    rw [hview known hknown, tracks_view] at hbefore
    have hwithin : (view size heard' listened).length
        ≤ (view size heard listened).length + (heard' - heard) := by
      rw [length_view (Nat.le_trans hlater hpast), length_view hpast]
      omega
    rcases Nat.lt_or_eq_of_le hlater with hlater | rfl
    · obtain ⟨finding, h', hlook, hs', hplays⟩ := hs.evaluate_of_current hdistinct hlengthless
        hclock hlater hpast (mem_of_mem_view hbefore) hnow hwithin
      refine ⟨finding, h', hlook, hs', Nat.le_of_lt hlater, ?_⟩
      rw [hplays, ComparablePlay.plays_reverse, List.map_reverse, List.reverse_reverse]
    · obtain ⟨finding, h', hlook, hs', hplays⟩ :=
        hs.evaluate_of_outdated hclock (Or.inr (List.Sublist.refl _))
      exact ⟨finding, h', hlook, hs', Nat.le_refl _, by rw [hplays, plays_since_self]; rfl⟩
  | earlier fetched hseen =>
    obtain ⟨signature, hsignature, he⟩ := hseen
    rw [signature?_plays] at he
    obtain rfl := Except.ok.inj he
    obtain ⟨finding, h', hlook, hs', hplays⟩ :=
      hs.evaluate_of_outdated hclock (Or.inl hsignature)
    exact ⟨finding, h', hlook, hs', Nat.le_refl _, by rw [hplays, plays_since_self]; rfl⟩
  | part fetched known hknown hpart hshorter =>
    rw [hview known hknown] at hpart
    obtain ⟨finding, h', hlook, hs', hplays⟩ := hs.evaluate_of_outdated hclock (Or.inr hpart)
    exact ⟨finding, h', hlook, hs', Nat.le_refl _, by rw [hplays, plays_since_self]; rfl⟩

/-- A history that is settled is settled after every fetch. -/
theorem Settled.state_of_fetch (hs : Settled size listened heard h)
    (hdistinct : (tracks listened).Nodup) (hlengthless : ∀ p ∈ listened, p.1.duration = .absent)
    {fetched : List ComparablePlay} (hfetch : Fetch size listened h heard fetched heard')
    (now : Instant) (hclock : now.offset.isSome = true) :
    Settled size listened heard' (h.evaluate (plays fetched) now).state := by
  obtain ⟨finding, h', hlook, hs', -, -⟩ := hs.evaluate hdistinct hlengthless hfetch hclock
  rw [hlook]
  exact hs'

/-! ## A run of looks -/

/-- A row of looks at a source. -/
def looks (rows : List (List ComparablePlay × Instant)) (h : History) :
    Step History (List Finding) :=
  Step.forEach (fun row h => h.evaluate (plays row.1) row.2) rows h

/-- Whether a play is the one listened to, with the time of the look for its
own if it has none. -/
def Discovers (listened : ComparablePlay) (found : Play) : Prop :=
  ∃ now, found = stamp now listened.1

/-- A look, and the looks after it. -/
theorem looks_cons {fetched : List ComparablePlay} {rest : List (List ComparablePlay × Instant)}
    {finding : Finding} {findings : List Finding} {h' h'' : History}
    (hlook : h.evaluate (plays fetched) now = .ok finding h')
    (hlooks : History.looks rest h' = .ok findings h'') :
    History.looks ((fetched, now) :: rest) h = .ok (finding :: findings) h'' := by
  unfold History.looks Step.forEach
  rw [hlook]
  show Step.andThen (History.looks rest h') _ = _
  rw [hlooks]
  rfl

/-- Plays with the time of a look are discovered by it. -/
theorem discovers_stamped (now : Instant) (ps : List ComparablePlay) :
    List.Forall₂ Discovers ps ((plays ps).map (stamp now)) := by
  rw [plays, List.map_map, List.forall₂_map_right_iff, List.forall₂_same]
  exact fun p _ => ⟨now, rfl⟩

/-- **A run from a settled history** brings the plays from its point of the
listening sequence on. -/
theorem Settled.looks (hs : Settled size listened heard h) (hdistinct : (tracks listened).Nodup)
    (hlengthless : ∀ p ∈ listened, p.1.duration = .absent)
    {rows : List (List ComparablePlay × Instant)} {last : Nat}
    (run : Flapping size listened h heard rows last) :
    ∃ findings h', History.looks rows h = .ok findings h' ∧ heard ≤ last
      ∧ List.Forall₂ Discovers ((listened.take last).drop heard)
        (findings.flatMap fun finding => finding.plays.reverse) := by
  induction run with
  | done h heard =>
    refine ⟨[], h, rfl, Nat.le_refl heard, ?_⟩
    rw [List.drop_eq_nil_of_le (List.length_take_le _ _)]
    exact List.Forall₂.nil
  | @look h heard heard' last fetched now rest hfetch hclock run ih =>
    obtain ⟨finding, h', hlook, hs', hlater, hplays⟩ :=
      hs.evaluate hdistinct hlengthless hfetch hclock
    rw [hlook, Step.state_ok] at ih
    obtain ⟨findings, h'', hlooks, hlast, hfound⟩ := ih hs'
    refine ⟨finding :: findings, h'', looks_cons hlook hlooks, Nat.le_trans hlater hlast, ?_⟩
    rw [List.flatMap_cons, hplays, since_eq_append hlater hs'.inside hlast]
    exact List.rel_append (discovers_stamped _ _) hfound

/-- **Every play is discovered once.** A history that is new to a source, and
is asked with a baseline first and then with whatever a flapping source may
return, never fails, and what its looks bring, each read oldest first, is
row by row what was listened to between the baseline and the last fetch that
was up to date. -/
theorem looks_of_flapping {size first last : Nat} {listened : List ComparablePlay}
    (hdistinct : (tracks listened).Nodup) (hlengthless : ∀ p ∈ listened, p.1.duration = .absent)
    (memory : Int) (tolerance : Float) {now : Instant} (hclock : now.offset.isSome = true)
    (hfirst : first ≤ listened.length) {rows : List (List ComparablePlay × Instant)}
    (run : Flapping size listened
      (({ memory, tolerance } : History).evaluate (plays (view size first listened)) now).state
      first rows last) :
    ∃ findings h', History.looks ((view size first listened, now) :: rows) { memory, tolerance }
        = .ok findings h'
      ∧ List.Forall₂ Discovers ((listened.take last).drop first)
        (findings.flatMap fun finding => finding.plays.reverse) := by
  obtain ⟨finding, h', hlook, hs, hplays⟩ :=
    Settled.of_baseline memory tolerance hclock size hfirst
  rw [hlook, Step.state_ok] at run
  obtain ⟨findings, h'', hlooks, -, hfound⟩ := hs.looks hdistinct hlengthless run
  refine ⟨finding :: findings, h'', ?_, ?_⟩
  · unfold History.looks Step.forEach
    rw [hlook]
    show Step.andThen (History.looks rows h') _ = _
    rw [hlooks]
    rfl
  · rw [List.flatMap_cons, hplays]
    exact hfound

end Settled

/-- A play of which only the title and the id of the track are known. -/
def song (name : String) : ComparablePlay :=
  ⟨{ title := .text name, trackId := .text name },
    ⟨⟨rfl, fun _ h => absurd h List.not_mem_nil, rfl, rfl, rfl, rfl⟩, fun e => nomatch e⟩⟩

/-- Four songs, in the order of listening. -/
def songs : List ComparablePlay := ["a", "b", "c", "d"].map song

/-- At a source that lists two of four songs, the first list comes back
after the third song, then half of the current one, and in the end the list
with the fourth. -/
theorem looks_of_flapping_songs :
    ∃ findings h', History.looks
        [(view 2 2 songs, ⟨0, some 0⟩), (view 2 3 songs, ⟨1, some 0⟩),
          (view 2 2 songs, ⟨2, some 0⟩), ([song "c"], ⟨3, some 0⟩),
          (view 2 4 songs, ⟨4, some 0⟩)] { memory := 10, tolerance := 10 } = .ok findings h'
      ∧ List.Forall₂ Discovers ((songs.take 4).drop 2)
        (findings.flatMap fun finding => finding.plays.reverse) := by
  have hdistinct : (tracks songs).Nodup := by decide +kernel
  have hlengthless : ∀ p ∈ songs, p.1.duration = .absent := by
    intro p hp
    obtain ⟨name, -, rfl⟩ := List.mem_map.mp hp
    rfl
  have hs₀ := Settled.state_of_baseline 10 10 ⟨0, some 0⟩ rfl 2 (show 2 ≤ songs.length by decide)
  have fetch₁ : Fetch 2 songs _ 2 (view 2 3 songs) 3 :=
    .current 3 (by decide) (by decide) _ hs₀.known
      ⟨(song "b").track, by decide +kernel, by decide +kernel⟩
  have hs₁ := hs₀.state_of_fetch hdistinct hlengthless fetch₁ ⟨1, some 0⟩ rfl
  have hseen : identities (view 2 2 songs)
      ∈ ((({ memory := 10, tolerance := 10 } : History).evaluate
          (plays (view 2 2 songs)) ⟨0, some 0⟩).state.evaluate
        (plays (view 2 3 songs)) ⟨1, some 0⟩).state.seen :=
    contains_identities_iff.mp (by decide +kernel)
  have fetch₂ : Fetch 2 songs _ 3 (view 2 2 songs) 3 := .earlier _ ⟨_, hseen, signature?_plays _⟩
  have hs₂ := hs₁.state_of_fetch hdistinct hlengthless fetch₂ ⟨2, some 0⟩ rfl
  have fetch₃ : Fetch 2 songs _ 3 [song "c"] 3 :=
    .part _ _ hs₂.known (List.sublist_append_left [song "c"] [song "b"]) (by decide)
  have hs₃ := hs₂.state_of_fetch hdistinct hlengthless fetch₃ ⟨3, some 0⟩ rfl
  have fetch₄ : Fetch 2 songs _ 3 (view 2 4 songs) 4 :=
    .current 4 (by decide) (by decide) _ hs₃.known
      ⟨(song "c").track, by decide +kernel, by decide +kernel⟩
  exact looks_of_flapping hdistinct hlengthless 10 10 rfl (by decide)
    (.look fetch₁ rfl (.look fetch₂ rfl (.look fetch₃ rfl (.look fetch₄ rfl (.done _ _)))))

end Listening.History
