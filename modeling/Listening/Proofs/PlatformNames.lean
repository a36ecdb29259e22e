import Listening.Proofs.LedgerSifting

/-!
# Platforms that share a name

Players and windows are kept under a name, which is the device and the user of
a platform with a dash in between. A dash may also stand in a device or in a
user, so that two platforms can have one name: `Platform.name_eq_iff` says which,
those where one device goes on, after a dash, with how the other user begins
(`Platform.Overlaps`).

Two platforms share what is kept if and only if they overlap
(`Platform.share_nothing_iff`). If they do, the reports of one are handed to the player
of the other (`Players.HandsApart`), whose plays then depend on them
(`Players.SeesApart`), and plays of both come to lie in one window
(`Ledger.FilesApart`). If they do not, none of this happens: a report is handed
to a player that no report of the other platform is handed to, and a window
holds plays of one name only (`Ledger.IsFiled`), whatever a ledger is offered.
-/

namespace Listening

/-! ## Names -/

namespace Platform

variable {P Q : Platform}

/-- Whether the device of a platform goes on, after a dash, with how the user of
another one begins. -/
def GoesOn (P Q : Platform) : Prop :=
  ∃ middle, P.device = Q.device ++ "-" ++ middle ∧ Q.user = middle ++ "-" ++ P.user

/-- **Whether two platforms overlap**: the device of one goes on into the user of
the other. -/
def Overlaps (P Q : Platform) : Prop := P.GoesOn Q ∨ Q.GoesOn P

/-- The characters of two texts with a dash in between. -/
theorem toList_dash (before after : String) :
    (before ++ "-" ++ after).toList = before.toList ++ '-' :: after.toList := by
  rw [String.toList_append, String.toList_append, List.append_assoc]
  rfl

theorem goesOn_iff : P.GoesOn Q ↔ ∃ mid, P.device.toList = Q.device.toList ++ '-' :: mid
    ∧ Q.user.toList = mid ++ '-' :: P.user.toList := by
  constructor
  · rintro ⟨middle, hdevice, huser⟩
    exact ⟨middle.toList, hdevice ▸ toList_dash _ _, huser ▸ toList_dash _ _⟩
  · rintro ⟨mid, hdevice, huser⟩
    refine ⟨String.ofList mid, String.toList_inj.mp ?_, String.toList_inj.mp ?_⟩
    · rw [toList_dash, String.toList_ofList, hdevice]
    · rw [toList_dash, String.toList_ofList, huser]

/-- **Two platforms have one name** if they are the same or overlap, and in no
other case. -/
theorem name_eq_iff : P.name = Q.name ↔ P = Q ∨ P.Overlaps Q := by
  have hsame : P = Q ↔ Q.device.toList = P.device.toList ∧ '-' = '-'
      ∧ Q.user.toList = P.user.toList := by
    rw [String.toList_inj, String.toList_inj, and_iff_right rfl, eq_comm, Platform.mk.injEq]
  unfold name Overlaps
  rw [eq_comm, ← String.toList_inj, toList_dash, toList_dash, append_cons_eq_append_cons_iff,
    hsame, goesOn_iff, goesOn_iff]

/-- **Without a dash in a device, platforms do not overlap.** -/
theorem not_overlaps_of_notMem (hP : '-' ∉ P.device.toList) (hQ : '-' ∉ Q.device.toList) :
    ¬ P.Overlaps Q := by
  unfold Overlaps
  rw [goesOn_iff, goesOn_iff]
  rintro (⟨mid, hdevice, -⟩ | ⟨mid, hdevice, -⟩)
  · exact hP (hdevice ▸ List.mem_append_right _ List.mem_cons_self)
  · exact hQ (hdevice ▸ List.mem_append_right _ List.mem_cons_self)

end Platform

/-! ## Players -/

namespace Players

variable {P Q : Platform}

/-- **Whether the reports of one platform are handed to another player than
those of another platform**: taking one in leaves alone the player that the
next report of the other one goes to, at any time and whatever players there
are. -/
def HandsApart (P Q : Platform) : Prop :=
  ∀ (ps : Players) (now later : Instant) (r : Report), r.platform = P →
    (ps.take now r).state.playerFor Q later = ps.playerFor Q later

/-- A look without the reports of one platform. -/
def without (Q : Platform) (look : List Report × Instant) : List Report × Instant :=
  (look.1.filter fun r => r.platform ≠ Q, look.2)

/-- **Whether the player of one platform is the same without the reports of
another one**: in every run of looks at typed plays, from the first on, it
makes the same candidates, look by look, and is left in the same state. -/
def SeesApart (P Q : Platform) : Prop :=
  ∀ (listened : Threshold.Listened) (limits : Player.Limits)
    (looks : List (List Report × Instant)),
    (∀ look ∈ looks, IsTyped look) →
    ∃ views ps ps', Step.forEach (view P.name) looks ⟨listened, limits, []⟩ = .ok views ps
      ∧ Step.forEach (view P.name) (looks.map (without Q)) ⟨listened, limits, []⟩ = .ok views ps'

/-- A report is handed to the player under the name of its platform, and to no
other one. -/
theorem playerFor_take_of_ne {r : Report} (h : r.platform.name ≠ Q.name) (ps : Players)
    (now later : Instant) : (ps.take now r).state.playerFor Q later = ps.playerFor Q later := by
  have honly := only_take_of_ne h now ps
  have hlimits : (ps.take now r).state.limits = ps.limits := by
    show ((ps.take now r).state.only Q.name).limits = (ps.only Q.name).limits
    rw [honly]
  have hplayer : (ps.take now r).state.player? Q.name = ps.player? Q.name := by
    rw [← player?_only, honly, player?_only]
  unfold playerFor
  rw [hlimits, hplayer]

/-- A report that says nothing makes the player of its platform, if there is
none. -/
theorem take_first (P : Platform) (now : Instant) :
    take now { platform := P } ⟨{}, {}, []⟩
      = .ok none ⟨{}, {}, [(P.name, .fresh P {} now)]⟩ := rfl

/-- A look with a report that says nothing shows the player of its platform, and
no candidate. -/
theorem view_first (P : Platform) (now : Instant) :
    view P.name ([{ platform := P }], now) ⟨{}, {}, []⟩
      = .ok ([], some (.fresh P {} now)) ⟨{}, {}, [(P.name, .fresh P {} now)]⟩ := by
  have hsilent : silent ⟨{}, {}, [(P.name, .fresh P {} now)]⟩ [P.name] = [] := by
    simp [silent]
  have hplayer : player? ⟨{}, {}, [(P.name, .fresh P {} now)]⟩ P.name = some (.fresh P {} now) :=
    player?_put_self P.name ⟨{}, {}, []⟩ _
  unfold view trace
  simp only [Step.forEach, take_first, named, Step.andThen_ok, Option.map_none, List.map_cons,
    List.map_nil, hsilent, hplayer]
  rfl

/-- Looks at typed plays show what becomes of a platform. -/
theorem exists_views (name : String) {looks : List (List Report × Instant)}
    (htyped : ∀ look ∈ looks, IsTyped look) {ps : Players} (hs : ps.AllSound) :
    ∃ views ps', Step.forEach (view name) looks ps = .ok views ps' := by
  have hview : ∀ look ∈ looks, ∀ s : Players, s.AllSound →
      ∃ v s', s.view name look = .ok v s' ∧ s'.AllSound := by
    intro look hlook s hs
    obtain ⟨cs, s', hcs, hs'⟩ := hs.trace (htyped look hlook)
    unfold view
    rw [hcs, Step.andThen_ok]
    exact ⟨_, s', rfl, hs'⟩
  obtain ⟨views, ps', h, -⟩ := Step.exists_forEach AllSound hview hs
  exact ⟨views, ps', h⟩

/-- Looks are at typed plays also where reports are left out. -/
theorem isTyped_without {looks : List (List Report × Instant)}
    (htyped : ∀ look ∈ looks, IsTyped look) (Q : Platform) :
    ∀ look ∈ looks.map (without Q), IsTyped look := by
  refine List.forall_mem_map.mpr fun look hlook => ⟨(htyped look hlook).clocked, fun r hr => ?_⟩
  exact (htyped look hlook).shown r (List.mem_of_mem_filter hr)

/-- The reports under one name are there without those of a platform of another
name. -/
theorem onlyOf_without {name : String} (h : Q.name ≠ name) (look : List Report × Instant) :
    onlyOf name (without Q look) = onlyOf name look := by
  unfold onlyOf without
  rw [List.filter_filter]
  refine Prod.ext_iff.mpr ⟨List.filter_congr fun r _ => ?_, rfl⟩
  by_cases hr : r.platform.name = name
  · have hne : r.platform ≠ Q := fun e => h (e ▸ hr)
    simp [hne]
  · simp [hr]

/-- **Platforms of two names are handed apart.** -/
theorem handsApart_of_name_ne (h : P.name ≠ Q.name) : HandsApart P Q := by
  rintro ps now later r rfl
  exact playerFor_take_of_ne h ps now later

/-- **Platforms of two names are seen apart as well**: what is under one name is
decided by the reports under that name. -/
theorem seesApart_of_name_ne (h : P.name ≠ Q.name) : SeesApart P Q := by
  intro listened limits looks htyped
  have hstart : AllSound ⟨listened, limits, []⟩ := fun _ _ h => nomatch h
  obtain ⟨views, ps, hviews⟩ := exists_views P.name htyped hstart
  obtain ⟨views', ps', hviews'⟩ := exists_views P.name (isTyped_without htyped Q) hstart
  have hsame : (looks.map (without Q)).map (onlyOf P.name) = looks.map (onlyOf P.name) := by
    rw [List.map_map]
    exact List.map_congr_left fun look _ => onlyOf_without (Ne.symm h) look
  have honly := views_only hviews'
  rw [hsame] at honly
  obtain ⟨rfl, -⟩ := Step.ok_inj ((views_only hviews).symm.trans honly)
  exact ⟨views, ps, ps', hviews, hviews'⟩

/-- **Different platforms of one name are not handed apart**: the player that is
made for one gets the reports of the other. -/
theorem not_handsApart (hne : P ≠ Q) (hname : P.name = Q.name) : ¬ HandsApart P Q := by
  intro h
  have hsame := h ⟨{}, {}, []⟩ Instant.epoch Instant.epoch { platform := P } rfl
  rw [take_first] at hsame
  unfold playerFor at hsame
  rw [← hname] at hsame
  unfold player? at hsame
  rw [Step.state_ok, List.lookup_cons_self] at hsame
  exact hne (congrArg Player.platform hsame)

/-- **Different platforms of one name are not seen apart**: a report of one
makes a player for the other. -/
theorem not_seesApart (hname : P.name = Q.name) : ¬ SeesApart P Q := by
  intro h
  obtain ⟨views, ps, ps', hviews, hviews'⟩ := h {} {} [([{ platform := Q }], Instant.epoch)]
    (List.forall_mem_singleton.mpr ⟨rfl, List.forall_mem_singleton.mpr fun _ h =>
      absurd h.symm (Option.some_ne_none _)⟩)
  have hnone : [([{ platform := Q }], Instant.epoch)].map (without Q)
      = [(([] : List Report), Instant.epoch)] := by
    simp [without]
  rw [hnone] at hviews'
  rw [hname, Step.forEach, view_first] at hviews
  obtain ⟨rfl, -⟩ := Step.ok_inj hviews
  obtain ⟨hviews', -⟩ := Step.ok_inj hviews'
  cases hviews'

end Players

/-! ## Windows -/

/-- What is there after an entry was set was there before, or is the entry. -/
theorem Entries.mem_of_mem_put {α : Type} {name : String} {value : α} {e : String × α}
    {entries : List (String × α)} (h : e ∈ put name value entries) :
    e = (name, value) ∨ e ∈ entries := by
  induction entries with
  | nil => exact Or.inl (List.mem_singleton.mp h)
  | cons first rest ih =>
    obtain ⟨k, v⟩ := first
    by_cases hk : (k == name) = true
    · obtain rfl := eq_of_beq hk
      rw [put, if_pos hk] at h
      exact (List.mem_cons.mp h).imp_right (List.mem_cons_of_mem _)
    · rw [put, if_neg hk] at h
      rcases List.mem_cons.mp h with rfl | h
      · exact Or.inr List.mem_cons_self
      · exact (ih h).imp_right (List.mem_cons_of_mem _)

namespace Ledger

variable {l : Ledger} {size : Int} {P Q : Platform}

/-- **The ledgers that there can be**: those that calls lead to from an empty
one, whether the calls fail or not. -/
inductive Reached (size : Int) : Ledger → Prop where
  /-- The empty one. -/
  | start : Reached size { size := size }
  /-- One that was offered some plays. -/
  | discover {l : Ledger} (before : Reached size l) (plays : List Play) :
    Reached size (l.discover plays).state

/-- **Whether every window holds plays of its own name only.** -/
def IsFiled (l : Ledger) : Prop := ∀ e ∈ l.windows, ∀ p ∈ e.2.items, p.platform.name = e.1

/-- A play is recorded in the window of its name. -/
theorem IsFiled.record (hl : l.IsFiled) (x : Play) : (l.record x).state.IsFiled := by
  have hput : ∀ w : Window Play, (∀ p ∈ w.items, p.platform.name = x.platform.name) →
      IsFiled { l with windows := Entries.put x.platform.name (w.push x) l.windows } := by
    intro w hw e he p hp
    rcases Entries.mem_of_mem_put he with rfl | he
    · rcases Window.mem_of_mem_push hp with hp | rfl
      · exact hw p hp
      · rfl
    · exact hl e he p hp
  unfold Ledger.record
  cases hlookup : l.windows.lookup x.platform.name with
  | some w =>
    obtain ⟨before, after, hwindows, -⟩ := List.lookup_eq_some_iff.mp hlookup
    have hmem : (x.platform.name, w) ∈ l.windows :=
      hwindows ▸ List.mem_append_right _ List.mem_cons_self
    simp only [hlookup]
    exact hput w (hl _ hmem)
  | none =>
    simp only [hlookup, Window.ofSize?]
    by_cases hsize : l.size < 0
    · rw [if_pos hsize]
      exact hl
    · rw [if_neg hsize]
      exact hput _ fun _ h => absurd h List.not_mem_nil

/-- No turn of a play moves another one. -/
theorem IsFiled.discoverOne (hl : l.IsFiled) (x : Play) : (l.discoverOne x).state.IsFiled := by
  unfold Ledger.discoverOne
  refine Step.state_andThen (P := IsFiled) hl fun existing l hl => ?_
  cases existing with
  | some known => exact Step.state_andThen (P := IsFiled) hl fun _ _ h => h
  | none => exact Step.state_andThen (P := IsFiled) (hl.record x) fun _ _ h => h

/-- **Every ledger is filed by name.** -/
theorem Reached.isFiled (h : Reached size l) : l.IsFiled := by
  induction h with
  | start => exact fun _ he => absurd he List.not_mem_nil
  | discover before plays ih =>
    unfold Ledger.discover
    refine Step.state_andThen (P := IsFiled) ih fun sorted l hl => ?_
    exact Step.state_andThen (P := IsFiled)
      (Step.state_forEach (P := IsFiled) (fun x _ l hl => hl.discoverOne x) hl) fun _ _ h => h

/-- **Whether plays of two platforms are held in different windows**, in every
ledger. -/
def FilesApart (P Q : Platform) : Prop :=
  ∀ (size : Int) (l : Ledger), Reached size l →
    ∀ e ∈ l.windows, ∀ p ∈ e.2.items, ∀ q ∈ e.2.items,
    p.platform = P → q.platform ≠ Q

/-- **Platforms of two names are filed apart.** -/
theorem filesApart_of_name_ne (h : P.name ≠ Q.name) : FilesApart P Q := by
  rintro size l hl e he p hp q hq rfl rfl
  exact h ((hl.isFiled e he p hp).trans (hl.isFiled e he q hq).symm)

/-- A play of which only the title is known, and that it was seen where another
one was. -/
def seenWith (p : Play) (title : String) : Play where
  title := .text title
  device := p.device
  user := p.user

theorem offered_seenWith (p : Play) (title : String) : (seenWith p title).Offered where
  title := rfl
  artists _ h := absurd h List.not_mem_nil
  album := rfl
  duration := rfl
  source := rfl
  trackId := rfl
  clocked _ h := nomatch h
  ranges _ h := absurd h List.not_mem_nil

/-- A call with one play is one turn. -/
theorem state_discover_singleton (l : Ledger) (x : Play) :
    (l.discover [x]).state = (l.discoverOne x).state := by
  have hsort : Play.sort? [x] = .ok [x] := by
    simp [Play.sort?]
  unfold discover
  rw [hsort, Step.of_ok, Step.andThen_ok, Step.forEach]
  cases l.discoverOne x with
  | mk result l' => cases result <;> rfl

/-- **Different platforms of one name are not filed apart**, if there are plays
of both: another title is another track, and both plays go into the window of
that name. -/
theorem not_filesApart {p q : Play} (hname : p.platform.name = q.platform.name) :
    ¬ FilesApart p.platform q.platform := by
  intro h
  have hother : Match.sameListen? (seenWith p "Tune") (seenWith q "Jingle") = .ok false := by
    have htitles : (Label.plain (.text "Tune") == Label.plain (.text "Jingle")) = false := by
      decide +kernel
    have hcontent : Match.content? (seenWith p "Tune") (seenWith q "Jingle") = .ok false := by
      rw [Match.content?_of_typed (offered_seenWith p _).toTyped (offered_seenWith q _).toTyped]
      simp [seenWith, htitles]
    unfold Match.sameListen?
    rw [hcontent]
    rfl
  have hfirst : (discoverOne (seenWith p "Tune") { size := (2 : Int) }).state
      = ⟨2, [(p.platform.name, ⟨2, [seenWith p "Tune"]⟩)]⟩ := rfl
  have hsecond : (discoverOne (seenWith q "Jingle")
        ⟨2, [(p.platform.name, ⟨2, [seenWith p "Tune"]⟩)]⟩).state
      = ⟨2, [(p.platform.name, ⟨2, [seenWith p "Tune", seenWith q "Jingle"]⟩)]⟩ := by
    have hplatform : (seenWith q "Jingle").platform.name = p.platform.name := hname.symm
    have hlookup : [(p.platform.name, (⟨2, [seenWith p "Tune"]⟩ : Window Play))].lookup
        p.platform.name = some ⟨2, [seenWith p "Tune"]⟩ := List.lookup_cons_self
    have hexisting : existing? ⟨2, [(p.platform.name, ⟨2, [seenWith p "Tune"]⟩)]⟩
        (seenWith q "Jingle") = .ok none := by
      unfold existing? known
      rw [hplatform, hlookup]
      show Match.lastSame?.go _ [seenWith p "Tune"] = _
      rw [Match.lastSame?.go, hother]
      rfl
    unfold discoverOne record
    rw [hexisting, Step.of_ok, Step.andThen_ok]
    simp only [hplatform, hlookup, Entries.put, beq_self_eq_true, if_true]
    rfl
  have hreached : Reached 2
      ⟨2, [(p.platform.name, ⟨2, [seenWith p "Tune", seenWith q "Jingle"]⟩)]⟩ := by
    have hcalls := (Reached.start : Reached 2 _).discover [seenWith p "Tune"]
      |>.discover [seenWith q "Jingle"]
    rwa [state_discover_singleton, state_discover_singleton, hfirst, hsecond] at hcalls
  exact h 2 _ hreached _ List.mem_cons_self _ List.mem_cons_self _
    (List.mem_cons_of_mem _ List.mem_cons_self) rfl rfl

end Ledger

/-! ## What platforms share -/

namespace Platform

/-- **Two platforms share a player and a window if and only if they overlap.**
Otherwise the reports of both are handed to different players, the player of one
is the same without the reports of the other, and no window holds plays of both;
and if they overlap, none of this is so. A window is only shared by platforms of
which there are plays. -/
theorem share_nothing_iff {P Q : Platform} (hne : P ≠ Q) :
    (Players.HandsApart P Q ↔ ¬ P.Overlaps Q)
      ∧ (Players.SeesApart P Q ↔ ¬ P.Overlaps Q)
      ∧ (Ledger.FilesApart P Q
        ↔ ¬ (P.Overlaps Q ∧ (∃ p : Play, p.platform = P) ∧ ∃ q : Play, q.platform = Q)) := by
  have hname : P.name = Q.name ↔ P.Overlaps Q := name_eq_iff.trans (or_iff_right hne)
  rw [← hname]
  refine ⟨⟨fun h hname => Players.not_handsApart hne hname h, Players.handsApart_of_name_ne⟩,
    ⟨fun h hname => Players.not_seesApart hname h, Players.seesApart_of_name_ne⟩, ?_, ?_⟩
  · rintro h ⟨hname, ⟨p, rfl⟩, ⟨q, rfl⟩⟩
    exact Ledger.not_filesApart hname h
  · intro h
    by_cases hname : P.name = Q.name
    · rintro size l hl e he p hp q hq rfl rfl
      exact h ⟨hname, ⟨p, rfl⟩, ⟨q, rfl⟩⟩
    · exact Ledger.filesApart_of_name_ne hname

/-- The living room, where Ann is listening. -/
def livingRoom : Platform := ⟨"living-room", "ann"⟩

/-- Someone whose name goes on where that of a device ends. -/
def roomAnn : Platform := ⟨"living", "room-ann"⟩

/-- A tune that was played somewhere. -/
def tuneAt (P : Platform) : Play where
  title := .text "Tune"
  device := .text P.device
  user := .text P.user

theorem overlaps_livingRoom : livingRoom.Overlaps roomAnn :=
  Or.inl ⟨"room", by decide, by decide⟩

/-- Two listeners in one room share nothing; two devices of which one goes on
into the listener of the other share everything. -/
theorem share_nothing_livingRoom :
    (Players.HandsApart livingRoom ⟨"living-room", "ben"⟩
        ∧ Players.SeesApart livingRoom ⟨"living-room", "ben"⟩
        ∧ Ledger.FilesApart livingRoom ⟨"living-room", "ben"⟩)
      ∧ ¬ Players.HandsApart livingRoom roomAnn ∧ ¬ Players.SeesApart livingRoom roomAnn
      ∧ ¬ Ledger.FilesApart livingRoom roomAnn := by
  have hne : livingRoom ≠ ⟨"living-room", "ben"⟩ := by decide
  have hapart : ¬ livingRoom.Overlaps ⟨"living-room", "ben"⟩ := fun h =>
    absurd (name_eq_iff.mpr (Or.inr h)) (by decide)
  obtain ⟨hhands, hsees, hfiles⟩ := share_nothing_iff hne
  obtain ⟨hhands', hsees', hfiles'⟩ :=
    share_nothing_iff (P := livingRoom) (Q := roomAnn) (by decide)
  exact ⟨⟨hhands.mpr hapart, hsees.mpr hapart, hfiles.mpr fun h => hapart h.1⟩,
    fun h => hhands'.mp h overlaps_livingRoom, fun h => hsees'.mp h overlaps_livingRoom,
    fun h => hfiles'.mp h ⟨overlaps_livingRoom, ⟨tuneAt livingRoom, rfl⟩, ⟨tuneAt roomAnn, rfl⟩⟩⟩

/-- **There are different platforms that share a player, and different ones that
share a window.** -/
theorem not_forall_share_nothing :
    ¬ (∀ P Q : Platform, P ≠ Q → Players.HandsApart P Q)
      ∧ ¬ ∀ P Q : Platform, P ≠ Q → Ledger.FilesApart P Q := by
  have hne : livingRoom ≠ roomAnn := by decide
  have hname : livingRoom.name = roomAnn.name := name_eq_iff.mpr (Or.inr overlaps_livingRoom)
  exact ⟨fun h => Players.not_handsApart hne hname (h _ _ hne),
    fun h => Ledger.not_filesApart (p := tuneAt livingRoom) (q := tuneAt roomAnn) hname
      (h _ _ hne)⟩

end Platform

end Listening
