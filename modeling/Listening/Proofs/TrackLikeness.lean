import Listening.Proofs.IdentityMarks
import Listening.Proofs.MatchSymmetry
import Listening.Proofs.PlayerOperations

/-!
# Two notions of one track

Whether two plays are plays of one track is asked twice, and answered by two
rules. A list is compared with an earlier one by what its plays are: an
`Identity`, in which artists are a sorted row and an album that is missing has
the empty name. A ledger asks `Match.content?`, for which artists are a set
without empty names, an album that is missing agrees with any, and so does an id.

The first rule is the stricter one: plays whose identities agree are of one track
by the second rule as well (`Match.content?_of_identity`), whatever is missing in
them or has an empty normal form. So the ledger does not part what the difference
between two lists has paired, from whichever end (`Match.content?_agrees`).
-/

namespace Listening

/-! ## Faults of one kind -/

/-- Only what should be a text and is none has no normal form. -/
theorem Label.normal?_ne_error (l : Label) {e : Fault} (he : e ≠ .notText) :
    l.normal? ≠ .error e := by
  cases l with
  | absent => exact fun h => nomatch h
  | text s => exact fun h => nomatch h
  | other v =>
    show (if v.truthy then Except.error Fault.notText else .ok "") ≠ _
    split
    · exact fun h => he (Except.error.inj h).symm
    · exact fun h => nomatch h

/-- **Two readings that fail in one way only can be made in either order.** -/
theorem bind_comm_of_notText {α β γ : Type} {x : Except Fault α} {y : Except Fault β}
    (hx : ∀ e, e ≠ .notText → x ≠ .error e) (hy : ∀ e, e ≠ .notText → y ≠ .error e)
    (f : α → β → Except Fault γ) :
    (x.bind fun a => y.bind fun b => f a b) = y.bind fun b => x.bind fun a => f a b := by
  cases x with
  | ok a => rfl
  | error e =>
    cases y with
    | ok b => rfl
    | error e' =>
      obtain rfl : e = .notText := not_not.mp fun he => hx e he rfl
      obtain rfl : e' = .notText := not_not.mp fun he => hy e' he rfl
      rfl

/-- What the identity of a play is made of. -/
theorem Play.of_identity?_eq_ok {p : Play} {i : Identity} (h : p.identity? = .ok i) :
    i.trackId = p.trackId.key ∧ p.title.normal? = .ok i.title
      ∧ (∃ names, p.artists.mapM Label.normal? = .ok names
        ∧ i.artists = names.mergeSort fun a b => decide (a ≤ b))
      ∧ p.album.normal? = .ok i.album := by
  unfold identity? at h
  obtain ⟨title, htitle, h⟩ := exists_of_bind_eq_ok h
  obtain ⟨names, hnames, h⟩ := exists_of_bind_eq_ok h
  obtain ⟨album, halbum, h⟩ := exists_of_bind_eq_ok h
  obtain rfl := Except.ok.inj h
  exact ⟨rfl, htitle, ⟨names, hnames, rfl⟩, halbum⟩

/-- A play that can label an entry of an index has that identity. -/
theorem Play.identity?_of_label? {p : Play} {i : Identity} (h : p.label? = .ok i) :
    p.identity? = .ok i := by
  unfold label? at h
  obtain ⟨j, hj, h⟩ := exists_of_bind_eq_ok h
  split at h
  · rwa [← Except.ok.inj h]
  · exact nomatch h

namespace Match

/-! ## The same track, asked either way -/

/-- Nothing but a name that is no text keeps the artists from being read. -/
theorem artistNames?_ne_error (p : Play) {e : Fault} (he : e ≠ .notText) :
    artistNames? p ≠ .error e :=
  map_ne_error (mapM_ne_error (fun a => a.normal?_ne_error he) p.artists)

/-- Whether two albums agree is the same from either side. -/
theorem sameAlbum?_comm (a b : Play) : sameAlbum? a b = sameAlbum? b a := by
  have hread := bind_comm_of_notText (fun _ he => a.album.normal?_ne_error he)
    (fun _ he => b.album.normal?_ne_error he) fun x y => .ok (x == y)
  unfold sameAlbum?
  rw [Bool.and_comm b.album.isGiven]
  split
  · refine hread.trans (congrArg _ (funext fun y => congrArg _ (funext fun x => ?_)))
    rw [BEq.comm]
  · rfl

/-- **Whether two plays are of one track is the same from either side**, also if
it cannot be told. -/
theorem content?_swap (a b : Play) : content? a b = content? b a := by
  have htitles (f : String → String → Except Fault Bool) :=
    bind_comm_of_notText (fun _ he => a.title.normal?_ne_error he)
      (fun _ he => b.title.normal?_ne_error he) f
  have hartists := bind_comm_of_notText (fun _ he => artistNames?_ne_error a he)
    (fun _ he => artistNames?_ne_error b he) fun xs ys => .ok (sameMembers xs ys)
  unfold content?
  rw [idsDiffer_comm a b, sameAlbum?_comm a b]
  split
  · rfl
  · refine (htitles _).trans (congrArg _ (funext fun y => congrArg _ (funext fun x => ?_)))
    have hne : (x != y) = (y != x) := congrArg not BEq.comm
    rw [hne]
    split
    · rfl
    · refine congrArg _ (funext fun same => ?_)
      split
      · rfl
      · refine hartists.trans (congrArg _ (funext fun ys => congrArg _ (funext fun xs => ?_)))
        rw [sameMembers_comm]

/-! ## From the identity to the track -/

/-- Lists that differ in their order have the same members. -/
theorem sameMembers_of_perm {xs ys : List String} (h : xs.Perm ys) :
    sameMembers xs ys = true := by
  unfold sameMembers
  simp only [Bool.and_eq_true, List.all_eq_true, List.contains_iff_mem]
  exact ⟨fun _ hx => h.mem_iff.mp hx, fun _ hy => h.mem_iff.mpr hy⟩

/-- Plays that the source calls by one name are not told apart by their ids. -/
theorem idsDiffer_of_key_eq {a b : Play} (h : a.trackId.key = b.trackId.key)
    (hdefined : a.trackId.key ≠ .undefined) : idsDiffer a b = false := by
  have halike : a.trackId.alike b.trackId = true := decide_eq_true ⟨h, hdefined⟩
  unfold idsDiffer
  rw [halike, Bool.not_true, Bool.and_false]

/-- **Plays whose identities agree are of one track.** -/
theorem content?_of_identity {a b : Play} {i j : Identity} (ha : a.identity? = .ok i)
    (hb : b.identity? = .ok j) (h : (i == j) = true) : content? a b = .ok true := by
  obtain ⟨rfl, hdefined⟩ := (Identity.beq_iff i j).mp h
  obtain ⟨hid, htitle, ⟨names, hnames, hsorted⟩, halbum⟩ := Play.of_identity?_eq_ok ha
  obtain ⟨hid', htitle', ⟨names', hnames', hsorted'⟩, halbum'⟩ := Play.of_identity?_eq_ok hb
  have hids : idsDiffer a b = false := by
    refine idsDiffer_of_key_eq (hid.symm.trans hid') ?_
    rw [← hid]
    exact (of_decide_eq_true hdefined).1
  have hsame : sameAlbum? a b = .ok true := by
    unfold sameAlbum?
    rw [halbum, halbum']
    split
    · exact congrArg Except.ok (beq_self_eq_true i.album)
    · rfl
  -- both rows of artists are sorted into the same one
  have hperm : names.Perm names' :=
    (List.mergeSort_perm names _).symm.trans
      (hsorted.symm.trans hsorted' ▸ List.mergeSort_perm names' _)
  have hartists : artistNames? a = .ok (names.filter (!·.isEmpty)) := by
    unfold artistNames?
    rw [hnames]
    rfl
  have hartists' : artistNames? b = .ok (names'.filter (!·.isEmpty)) := by
    unfold artistNames?
    rw [hnames']
    rfl
  unfold content?
  rw [hids, htitle, htitle', hsame, hartists, hartists']
  simp only [Bind.bind, Except.bind, bne_self_eq_false, Bool.false_eq_true, if_false,
    Bool.not_true]
  rw [sameMembers_of_perm (hperm.filter _)]

/-- A play as a source promises it is of one track with itself. -/
theorem content?_self {p : Play} (h : p.Typed) : content? p p = .ok true :=
  content?_of_sameTrack h h ⟨rfl, rfl, rfl, rfl, rfl⟩

end Match

/-! ## From the difference to the identity -/

/-- What stands at a place of a row is read off what stood there. -/
theorem getElem?_of_mapM_eq_ok {α β : Type} {f : α → Except Fault β} {as : List α} {bs : List β}
    (h : as.mapM f = .ok bs) {n : Nat} {b : β} (hb : bs[n]? = some b) :
    ∃ a, as[n]? = some a ∧ f a = .ok b := by
  have hmap := congrArg (·[n]?) (map_eq_of_mapM_eq_ok h)
  simp only [List.getElem?_map, hb, Option.map_some] at hmap
  exact Option.map_eq_some_iff.mp hmap

/-- The mark at a place is that of the identity there. -/
theorem exists_of_getElem?_marks {isNew : Bool} {identities : List Identity} {n : Nat} {m : Mark}
    (h : (marks isNew 0 identities)[n]? = some m) :
    ∃ i, identities[n]? = some i ∧ (⟨i, isNew, n⟩ : Sighting).mark = m := by
  unfold marks sightings at h
  rw [List.getElem?_map, List.getElem?_map, List.getElem?_zipIdx] at h
  cases hi : identities[n]? with
  | none =>
    rw [hi] at h
    exact nomatch h
  | some i =>
    rw [hi, Nat.zero_add] at h
    exact ⟨i, rfl, Option.some.inj h⟩

namespace ListDiff

/-- **An entry with two places pairs identities that agree.** -/
theorem agree_of_mem_ofKeys {prev new : List Identity} {fromEnd : Bool} {e : Entry}
    (h : e ∈ (ofKeys prev new fromEnd).entries) {i j : Nat} (hi : e.prev? = some i)
    (hj : e.new? = some j) :
    ∃ x y, prev[i]? = some x ∧ new[j]? = some y ∧ (x == y) = true := by
  rw [ofKeys_identities] at h
  obtain ⟨m, hp, hn⟩ := sameKey_of_mem_entriesOfKeys h hi hj
  obtain ⟨x, hx, hxm⟩ := exists_of_getElem?_marks hp
  obtain ⟨y, hy, hym⟩ := exists_of_getElem?_marks hn
  exact ⟨x, y, hx, hy, (Sighting.mark_eq_mark_iff rfl rfl).mp (hxm.trans hym.symm)⟩

/-- **The two plays of an entry with two places have identities that agree.** -/
theorem agree_of_mem_ofPlays? {prev new : List Play} {fromEnd : Bool} {d : ListDiff}
    (hd : ofPlays? prev new fromEnd = .ok d) {e : Entry} (he : e ∈ d.entries) {i j : Nat}
    (hi : e.prev? = some i) (hj : e.new? = some j) :
    ∃ a b x y, prev[i]? = some a ∧ new[j]? = some b ∧ a.identity? = .ok x ∧ b.identity? = .ok y
      ∧ (x == y) = true := by
  unfold ofPlays? at hd
  by_cases hempty : (prev.isEmpty || new.isEmpty) = true
  · -- an empty list has no place that an entry could have
    rw [if_pos hempty] at hd
    obtain rfl := Except.ok.inj hd
    obtain ⟨_, hp, hn⟩ := sameKey_of_mem_entriesOfKeys he hi hj
    rw [List.getElem?_map] at hp hn
    rcases Bool.or_eq_true_iff.mp hempty with hnone | hnone
    · rw [List.isEmpty_iff.mp hnone] at hp
      exact nomatch hp
    · rw [List.isEmpty_iff.mp hnone] at hn
      exact nomatch hn
  · rw [if_neg hempty] at hd
    obtain ⟨as, has, hd⟩ := exists_of_bind_eq_ok hd
    obtain ⟨bs, hbs, hd⟩ := exists_of_bind_eq_ok hd
    obtain rfl := Except.ok.inj hd
    obtain ⟨x, y, hx, hy, hagree⟩ := agree_of_mem_ofKeys he hi hj
    obtain ⟨a, ha, hlabel⟩ := getElem?_of_mapM_eq_ok has hx
    obtain ⟨b, hb, hlabel'⟩ := getElem?_of_mapM_eq_ok hbs hy
    exact ⟨a, b, x, y, ha, hb, Play.identity?_of_label? hlabel, Play.identity?_of_label? hlabel',
      hagree⟩

/-- An entry that is equal or moved has two places. -/
theorem Entry.exists_places {e : Entry} (h : e.word = "equal" ∨ e.word = "moved") :
    ∃ i j, e.prev? = some i ∧ e.new? = some j := by
  cases e with
  | kept i j => exact ⟨i, j, rfl, rfl⟩
  | added j => exact absurd h (by simp [Entry.word])
  | deleted i => exact absurd h (by simp [Entry.word])

end ListDiff

namespace Match

/-- **The two notions of one track agree.** A play as a source promises it is of
one track with itself, and whether two plays are is the same from either side.
Plays whose identities agree are of one track. So the difference between two lists
– there is one for plays as a source promises them – pairs plays of one track
only, whether or not they have moved. -/
theorem content?_agrees :
    (∀ p : Play, p.Typed → content? p p = .ok true)
      ∧ (∀ a b : Play, content? a b = content? b a
        ∧ (a.Typed → b.Typed → ∃ same, content? a b = .ok same))
      ∧ (∀ (a b : Play) (i j : Identity), a.identity? = .ok i → b.identity? = .ok j →
        (i == j) = true → content? a b = .ok true)
      ∧ ∀ (prev new : List Play) (fromEnd : Bool),
        ((∀ p ∈ prev, p.Typed) → (∀ p ∈ new, p.Typed) →
          ∃ d, ListDiff.ofPlays? prev new fromEnd = .ok d)
        ∧ ∀ d, ListDiff.ofPlays? prev new fromEnd = .ok d →
          ∀ e ∈ d.entries, e.word = "equal" ∨ e.word = "moved" →
            ∃ i j a b, e.prev? = some i ∧ e.new? = some j ∧ prev[i]? = some a ∧ new[j]? = some b
              ∧ content? a b = .ok true := by
  refine ⟨fun p hp => content?_self hp, fun a b => ⟨content?_swap a b, fun ha hb => ?_⟩,
    fun a b i j ha hb h => content?_of_identity ha hb h, fun prev new fromEnd =>
    ⟨fun hprev hnew => ?_, fun d hd e he hword => ?_⟩⟩
  · exact ⟨_, content?_of_typed ha hb⟩
  · exact ⟨_, ListDiff.ofPlays?_of_typed hprev hnew fromEnd⟩
  · obtain ⟨i, j, hi, hj⟩ := ListDiff.Entry.exists_places hword
    obtain ⟨a, b, x, y, ha, hb, hx, hy, hagree⟩ := ListDiff.agree_of_mem_ofPlays? hd he hi hj
    exact ⟨i, j, a, b, hi, hj, ha, hb, content?_of_identity hx hy hagree⟩

/-! ## A tune and its spellings -/

/-- A tune by two artists. -/
def tuneOnce : Play where
  title := .text "Tune"
  artists := [.text "Ann", .text "Bob"]
  source := .text "sonos"

/-- A tune spelled otherwise, with an album of which nothing is left. -/
def tuneAgain : Play where
  title := .text " TUNE!"
  artists := [.text "bob", .text "ANN"]
  album := .text "?"

/-- A jingle that is listed between the two. -/
def jingleBetween : Play where
  title := .text "Jingle"

/-- What the first two are. -/
def tuneIdentity : Identity := ⟨.absent, "tune", ["ann", "bob"], "", .absent⟩

theorem identity_tuneOnce : tuneOnce.identity = tuneIdentity := by
  have hnames : tuneOnce.artists.map Label.plain = ["ann", "bob"] := by decide +kernel
  unfold Play.identity
  rw [hnames]
  refine Identity.mk.injEq .. ▸ ⟨rfl, by decide +kernel, ?_, rfl, rfl⟩
  simp [List.mergeSort]

theorem identity_tuneAgain : tuneAgain.identity = tuneIdentity := by
  have hnames : tuneAgain.artists.map Label.plain = ["bob", "ann"] := by decide +kernel
  unfold Play.identity
  rw [hnames]
  refine Identity.mk.injEq .. ▸ ⟨rfl, by decide +kernel, ?_, by decide +kernel, rfl⟩
  simp [List.mergeSort]

/-- **A tune that another one has pushed down**, and that is spelled otherwise now,
is paired with itself, and of one track with itself. -/
theorem content?_agrees_tuneAgain :
    (tuneOnce.Typed ∧ tuneAgain.Typed ∧ jingleBetween.Typed)
      ∧ content? tuneOnce tuneOnce = .ok true
      ∧ (tuneOnce.identity? = .ok tuneIdentity ∧ tuneAgain.identity? = .ok tuneIdentity
        ∧ (tuneIdentity == tuneIdentity) = true ∧ content? tuneOnce tuneAgain = .ok true)
      ∧ ∃ d, ListDiff.ofPlays? [tuneOnce] [jingleBetween, tuneAgain] = .ok d
        ∧ .kept 0 1 ∈ d.entries ∧ content? tuneAgain tuneOnce = .ok true := by
  obtain ⟨hself, hswap, hidentity, hdiff⟩ := content?_agrees
  have htyped : tuneOnce.Typed ∧ tuneAgain.Typed ∧ jingleBetween.Typed := by decide
  obtain ⟨honce, hagain, hjingle⟩ := htyped
  have hprev : ∀ p ∈ [tuneOnce], p.Typed := List.forall_mem_singleton.mpr honce
  have hnew : ∀ p ∈ [jingleBetween, tuneAgain], p.Typed :=
    List.forall_mem_cons.mpr ⟨hjingle, List.forall_mem_singleton.mpr hagain⟩
  have htune : tuneOnce.identity? = .ok tuneIdentity := identity_tuneOnce ▸ honce.identity?_eq
  have htune' : tuneAgain.identity? = .ok tuneIdentity :=
    identity_tuneAgain ▸ hagain.identity?_eq
  have hmatch := hidentity _ _ _ _ htune htune' (by decide +kernel)
  obtain ⟨d, hd⟩ := (hdiff [tuneOnce] [jingleBetween, tuneAgain] false).1 hprev hnew
  have hkept : .kept 0 1 ∈ d.entries := by
    rw [ListDiff.ofPlays?_of_typed hprev hnew] at hd
    obtain rfl := Except.ok.inj hd
    unfold Play.identities
    rw [List.map_cons, List.map_cons, List.map_cons, identity_tuneOnce, identity_tuneAgain]
    decide +kernel
  obtain ⟨i, j, a, b, hi, hj, ha, hb, hmoved⟩ :=
    (hdiff [tuneOnce] [jingleBetween, tuneAgain] false).2 d hd _ hkept (Or.inr rfl)
  obtain rfl := Option.some.inj hi
  obtain rfl := Option.some.inj hj
  obtain rfl := Option.some.inj ha
  obtain rfl := Option.some.inj hb
  exact ⟨⟨honce, hagain, hjingle⟩, hself _ honce,
    ⟨htune, htune', by decide +kernel, hmatch⟩, d, hd,
    hkept, (hswap _ _).1 ▸ hmoved⟩

end Match

end Listening
