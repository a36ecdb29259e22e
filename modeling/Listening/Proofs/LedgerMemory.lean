import Listening.Proofs.PlayerLooks

/-!
# What a ledger lets through

A ledger is asked about one play of each platform at a look. It lets a play
through exactly if none of the plays known of the platform is one listen with
it, and from then on it is the one known last (`Ledger.Verdict`). For a
ledger that is `Sound` – it holds entries, in windows with room for at least
one – nothing of this fails (`Ledger.Sound.discover`).
-/

namespace Listening

/-! ## Windows -/

namespace Window

variable {α : Type} {w : Window α}

/-- What was added is the newest in a window that has room for it. -/
theorem getLast?_push (hsize : 1 ≤ w.size) (a : α) : (w.push a).items.getLast? = some a :=
  (getLast?_lastOf hsize).trans List.getLast?_concat

/-- Nothing but what was added is new in a window. -/
theorem mem_of_mem_push {a b : α} (h : b ∈ (w.push a).items) : b ∈ w.items ∨ b = a := by
  rcases List.mem_append.mp (List.mem_of_mem_drop h) with hb | hb
  · exact Or.inl hb
  · exact Or.inr (List.mem_singleton.mp hb)

end Window

/-! ## Order -/

/-- A play that can be compared has a place in time with an offset. -/
theorem Play.Offered.isSome_placedAt {p : Play} (h : p.Offered) :
    p.placedAt.offset.isSome = true := by
  unfold Play.placedAt
  cases ht : p.playedAt with
  | none => rfl
  | some t => exact h.clocked t ht

/-- **Plays that can be compared can be put in order.** -/
theorem Play.exists_sort?_of_offered {plays : List Play} (h : ∀ p ∈ plays, p.Offered) :
    ∃ sorted, Play.sort? plays = .ok sorted ∧ sorted.Perm plays := by
  cases plays with
  | nil => exact ⟨[], rfl, List.Perm.nil⟩
  | cons first rest =>
    have hcomparable : (rest.all fun p => Instant.comparable first.placedAt p.placedAt) = true :=
      List.all_eq_true.mpr fun p hp =>
        Instant.comparable_of_isSome (h first List.mem_cons_self).isSome_placedAt
          (h p (List.mem_cons_of_mem first hp)).isSome_placedAt
    exact ⟨_, if_pos hcomparable, List.mergeSort_perm _ _⟩

/-- **Entries can be put in order.** -/
theorem Play.exists_sort? {plays : List Play} (h : ∀ p ∈ plays, p.Entry) :
    ∃ sorted, Play.sort? plays = .ok sorted ∧ sorted.Perm plays :=
  Play.exists_sort?_of_offered (fun p hp => (h p hp).offered)

namespace Ledger

variable {l l' : Ledger}

/-! ## Sound ledgers -/

/-- **A ledger that can be relied on**: its windows have room, and hold
entries of their platforms. -/
structure Sound (l : Ledger) : Prop where
  /-- New windows have room for a play. -/
  size : 1 ≤ l.size
  /-- So has every window there is. -/
  room : ∀ name w, l.windows.lookup name = some w → 1 ≤ w.size
  /-- What is known is an entry of the platform it is known of. -/
  entry : ∀ name, ∀ x ∈ l.known name, x.Entry ∧ x.platform.name = name

/-- A ledger without windows can be relied on if new ones have room. -/
theorem sound_of_windows_eq_nil (hsize : 1 ≤ l.size) (h : l.windows = []) : l.Sound := by
  refine ⟨hsize, fun name w hw => ?_, fun name x hx => ?_⟩
  · rw [h] at hw
    exact nomatch hw
  · unfold known at hx
    rw [h] at hx
    exact absurd hx List.not_mem_nil

/-- **What a ledger does with a play**: it knows one that is one listen with
it, or lets it through and remembers it. -/
inductive Verdict (x : Play) (before after : List Play) (answer : Option Play) : Prop where
  /-- It is known. -/
  | knew (known : Play) (isKnown : known ∈ before)
      (same : Match.sameListen? known x = .ok true) (unchanged : after = before)
      (kept : answer = none)
  /-- It is new. -/
  | isNew (unknown : ∀ known ∈ before, Match.sameListen? known x = .ok false)
      (newest : after.getLast? = some x) (others : ∀ y ∈ after, y ∈ before ∨ y = x)
      (through : answer = some x)

/-- The window in which a play of a platform is recorded. -/
theorem Sound.exists_window (hs : l.Sound) (name : String) :
    ∃ w : Window Play, 1 ≤ w.size ∧ w.items = l.known name
      ∧ ∀ x : Play, x.platform.name = name →
        l.record x = .ok () { l with windows := Entries.put name (w.push x) l.windows } := by
  cases hw : l.windows.lookup name with
  | some w =>
    refine ⟨w, hs.room name w hw, ?_, fun x hx => ?_⟩
    · unfold known
      rw [hw]
    · subst hx
      unfold record
      simp only [hw]
  | none =>
    have hsize : Window.ofSize? l.size = .ok (⟨l.size.toNat, []⟩ : Window Play) :=
      if_neg (Int.not_lt.mpr (Int.le_trans (by decide) hs.size))
    have hroom : 1 ≤ l.size.toNat := by
      have := hs.size
      omega
    refine ⟨⟨l.size.toNat, []⟩, hroom, ?_, fun x hx => ?_⟩
    · unfold known
      rw [hw]
    · subst hx
      unfold record
      simp only [hw, hsize]

/-- What is known of other platforms does not change as a window is put. -/
theorem known_put (name n : String) (w : Window Play) (l : Ledger) :
    known { l with windows := Entries.put name w l.windows } n
      = if n = name then w.items else l.known n := by
  unfold known
  by_cases hn : n = name
  · subst hn
    rw [Entries.lookup_put_self, if_pos rfl]
  · rw [Entries.lookup_put_of_ne hn, if_neg hn]

/-- **Recording an entry** never fails. -/
theorem Sound.record (hs : l.Sound) {x : Play} (hx : x.Entry) :
    ∃ l', l.record x = .ok () l' ∧ l'.Sound
      ∧ (∀ n, n ≠ x.platform.name → l'.known n = l.known n)
      ∧ (l'.known x.platform.name).getLast? = some x
      ∧ ∀ y ∈ l'.known x.platform.name, y ∈ l.known x.platform.name ∨ y = x := by
  obtain ⟨w, hroom, hitems, hrecord⟩ := hs.exists_window x.platform.name
  have hothers : ∀ y ∈ (w.push x).items, y ∈ l.known x.platform.name ∨ y = x :=
    fun y hy => hitems ▸ Window.mem_of_mem_push hy
  refine ⟨_, hrecord x rfl, ⟨hs.size, fun name w' hw' => ?_, fun name y hy => ?_⟩,
    fun n hn => ?_, ?_, ?_⟩
  · by_cases hname : name = x.platform.name
    · subst hname
      rw [Entries.lookup_put_self] at hw'
      obtain rfl := Option.some.inj hw'
      exact hroom
    · rw [Entries.lookup_put_of_ne hname] at hw'
      exact hs.room name w' hw'
  · rw [known_put] at hy
    split at hy
    · rename_i hname
      subst hname
      rcases hothers y hy with hold | rfl
      · exact hs.entry _ y hold
      · exact ⟨hx, rfl⟩
    · exact hs.entry name y hy
  · rw [known_put, if_neg hn]
  · rw [known_put, if_pos rfl]
    exact Window.getLast?_push hroom x
  · rw [known_put, if_pos rfl]
    exact hothers

/-- **Discovering one entry** never fails, and is about its platform only. -/
theorem Sound.discoverOne (hs : l.Sound) {x : Play} (hx : x.Entry) :
    ∃ answer l', l.discoverOne x = .ok answer l' ∧ l'.Sound
      ∧ (∀ n, n ≠ x.platform.name → l'.known n = l.known n)
      ∧ Verdict x (l.known x.platform.name) (l'.known x.platform.name) answer := by
  obtain ⟨line, hline⟩ := hx.exists_describe?
  have hwindow : ∀ known ∈ l.known x.platform.name, known.Entry :=
    fun known hknown => (hs.entry _ known hknown).1
  unfold Ledger.discoverOne existing?
  rcases Match.lastSame?_of_entries hx hwindow with ⟨hnone, hall⟩ | ⟨known, hmem, hfound, hsame⟩
  · obtain ⟨l', hl', hs', hothers, hnewest, hmem⟩ := hs.record hx
    rw [hnone]
    refine ⟨some x, l', ?_, hs', hothers, .isNew hall hnewest hmem rfl⟩
    show Step.andThen (Ledger.record x l) _ = _
    rw [hl']
    rfl
  · rw [hfound]
    refine ⟨none, l, ?_, hs, fun _ _ => rfl, .knew known hmem hsame rfl rfl⟩
    show Step.andThen (Step.of x.describeDated? l) _ = _
    unfold Play.describeDated?
    rw [hline]
    rfl

/-- A play let through is the one the ledger was asked about. -/
theorem Verdict.eq_of_through {x y : Play} {before after : List Play} {answer : Option Play}
    (h : Verdict x before after answer) (hy : answer = some y) : y = x := by
  cases h with
  | knew known isKnown same unchanged kept => exact nomatch kept.symm.trans hy
  | isNew unknown newest others through => exact Option.some.inj (hy.symm.trans through)

/-- **Discovering entries of different platforms** never fails. For each of
them there is a verdict, nothing else is let through, and what is known of
other platforms does not change. -/
theorem Sound.discover (hs : l.Sound) {plays : List Play} (hplays : ∀ x ∈ plays, x.Entry)
    (hnames : (plays.map fun x => x.platform.name).Nodup) :
    ∃ (answer : String → Option Play) (found : List Play) (l' : Ledger),
      l.discover plays = .ok found l' ∧ l'.Sound
      ∧ (∀ x ∈ plays, Verdict x (l.known x.platform.name) (l'.known x.platform.name)
        (answer x.platform.name))
      ∧ (∀ n, n ∉ plays.map (fun x => x.platform.name) →
        l'.known n = l.known n ∧ answer n = none)
      ∧ (∀ x, x ∈ found ↔ answer x.platform.name = some x)
      ∧ (found.map fun x => x.platform.name).Nodup := by
  obtain ⟨sorted, hsorted, hperm⟩ := Play.exists_sort? hplays
  have hnames' : (sorted.map fun x => x.platform.name).Nodup :=
    (hperm.map _).nodup_iff.mpr hnames
  obtain ⟨answer, l', hfound, hs', hothers, hverdict⟩ :=
    Step.forEach_of_names known Sound Verdict
      (fun x hx s hs => hs.discoverOne (hplays x (hperm.mem_iff.mp hx))) hnames' hs
  have hplatform : ∀ n x, answer n = some x → x.platform.name = n := by
    intro n x hx
    by_cases hn : n ∈ sorted.map fun x => x.platform.name
    · obtain ⟨y, hy, rfl⟩ := List.mem_map.mp hn
      rw [(hverdict y hy).eq_of_through hx]
    · exact nomatch (hothers n hn).2.symm.trans hx
  have hmap : (sorted.map fun x => answer x.platform.name)
      = (sorted.map fun x => x.platform.name).map answer := by
    rw [List.map_map]
    rfl
  refine ⟨answer, _, l', ?_, hs', fun x hx => hverdict x (hperm.mem_iff.mpr hx),
    fun n hn => hothers n fun h => hn ((hperm.map _).mem_iff.mp h),
    Players.mem_filterMap_of_names hplatform (fun n hn => (hothers n hn).2),
    List.Sublist.nodup (Players.sublist_of_names hplatform _) hnames'⟩
  unfold Ledger.discover
  rw [hsorted]
  show Step.andThen (Step.forEach Ledger.discoverOne sorted l) _ = _
  rw [hfound, ← hmap]
  rfl

end Ledger

end Listening
