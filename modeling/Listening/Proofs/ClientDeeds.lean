import Listening.Dispatcher
import Listening.Proofs.LedgerMemory

/-!
# What is done for one client

What happens to the window of one client is a row of deeds: a play that the
client had before is recalled, a play is claimed, and what was claimed is
taken by the client or refused. Recalling and claiming add an entry,
refusing releases one. They come in turns: everything recalled at a time, or
a round in which first all plays are claimed and then each of them is taken
or refused.

An entry leaves a window only if as many others were added as the window
holds, or if it is released (`holds_or_releases`). Released is what is taken
for a claim that was refused: the claim itself, or an entry that is alike.
The second needs a window that was too small for a round: the refused claim
had been dropped from it before the entry that is alike was added.
-/

namespace Listening

/-! ## Equal plays -/

/-- Texts that are equal are the same, and so are missing ones. -/
theorem Label.eq_of_alike {a b : Label} (ha : a.isTextual = true) (hb : b.isTextual = true)
    (h : a.alike b = true) : a = b := by
  have hkey : a.key = b.key := (of_decide_eq_true h).1
  cases a with
  | other v => exact absurd ha Bool.false_ne_true
  | absent =>
    cases b with
    | absent => rfl
    | text s => exact nomatch hkey
    | other v => exact absurd hb Bool.false_ne_true
  | text s =>
    cases b with
    | absent => exact nomatch hkey
    | text s' => rw [Json.Key.text.inj hkey]
    | other v => exact absurd hb Bool.false_ne_true

namespace Play

/-- Rows of texts that are equal are the same. -/
theorem eq_of_alikeLabels {as bs : List Label} (ha : ∀ a ∈ as, a.isText = true)
    (hb : ∀ b ∈ bs, b.isText = true) (h : alikeLabels as bs = true) : as = bs := by
  induction as generalizing bs with
  | nil =>
    cases bs with
    | nil => rfl
    | cons b bs => exact nomatch h
  | cons a as ih =>
    cases bs with
    | nil => exact nomatch h
    | cons b bs =>
      obtain ⟨hhead, hrest⟩ := Bool.and_eq_true_iff.mp h
      rw [Label.eq_of_alike (Label.isTextual_of_isText (ha a List.mem_cons_self))
          (Label.isTextual_of_isText (hb b List.mem_cons_self)) hhead,
        ih (fun x hx => ha x (List.mem_cons_of_mem a hx))
          (fun x hx => hb x (List.mem_cons_of_mem b hx)) hrest]

/-- Equal plays are of one track by all that is compared. -/
theorem sameTrack_of_alike {a b : Play} (ha : a.Typed) (hb : b.Typed) (h : a.alike b = true) :
    a.SameTrack b := by
  simp only [alike, Bool.and_eq_true] at h
  obtain ⟨⟨⟨⟨⟨⟨⟨⟨⟨⟨⟨⟨⟨⟨title, artists⟩, album⟩, -⟩, -⟩, -⟩, -⟩, source⟩, trackId⟩, -⟩, -⟩, -⟩,
    -⟩, -⟩, -⟩ := h
  exact ⟨Label.eq_of_alike (Label.isTextual_of_isText ha.title)
      (Label.isTextual_of_isText hb.title) title,
    eq_of_alikeLabels ha.artists hb.artists artists, Label.eq_of_alike ha.album hb.album album,
    Label.eq_of_alike ha.source hb.source source,
    Label.eq_of_alike ha.trackId hb.trackId trackId⟩

/-- Equal plays with a time have the same time. -/
theorem micros_eq_of_alike {a b : Play} (h : a.alike b = true) {t u : Instant}
    (ht : a.playedAt = some t) (hu : b.playedAt = some u) : t.micros = u.micros := by
  simp only [alike, Bool.and_eq_true] at h
  obtain ⟨⟨⟨⟨⟨⟨⟨⟨⟨⟨⟨-, times⟩, -⟩, -⟩, -⟩, -⟩, -⟩, -⟩, -⟩, -⟩, -⟩, -⟩ := h
  rw [ht, hu] at times
  exact eq_of_beq (Bool.and_eq_true_iff.mp times).2

/-- The sides of being of one track can be swapped. -/
theorem SameTrack.symm {a b : Play} (h : a.SameTrack b) : b.SameTrack a :=
  ⟨h.title.symm, h.artists.symm, h.album.symm, h.source.symm, h.trackId.symm⟩

end Play

/-- Entries of one track with one time are one listen. -/
theorem Match.sameListen?_of_micros_eq {known other : Play} (hknown : known.Entry)
    (hother : other.Entry) (htrack : known.SameTrack other) {t u : Instant}
    (ht : known.playedAt = some t) (hu : other.playedAt = some u) (h : t.micros = u.micros) :
    Match.sameListen? known other = .ok true := by
  obtain ⟨t', ht', htoffset⟩ := hknown.dated
  obtain ⟨u', hu', huoffset⟩ := hother.dated
  obtain rfl := Option.some.inj (ht'.symm.trans ht)
  obtain rfl := Option.some.inj (hu'.symm.trans hu)
  refine sameListen?_of_near hknown.toTyped
    (content?_of_sameTrack hknown.toTyped hother.toTyped htrack) ht hu
    (Instant.comparable_of_isSome htoffset huoffset) ?_
  rw [h, Int.sub_self]
  decide

/-- **Equal entries are one listen**, whichever of them is known. -/
theorem Match.sameListen?_of_alike {a b : Play} (ha : a.Entry) (hb : b.Entry)
    (h : a.alike b = true) :
    Match.sameListen? a b = .ok true ∧ Match.sameListen? b a = .ok true := by
  obtain ⟨t, ht, -⟩ := ha.dated
  obtain ⟨u, hu, -⟩ := hb.dated
  have htrack := Play.sameTrack_of_alike ha.toTyped hb.toTyped h
  have hmicros := Play.micros_eq_of_alike h ht hu
  exact ⟨sameListen?_of_micros_eq ha hb htrack ht hu hmicros,
    sameListen?_of_micros_eq hb ha htrack.symm hu ht hmicros.symm⟩

namespace Dispatcher

/-! ## Deeds -/

/-- **Something that is done for a client.** -/
inductive Deed where
  /-- A play that it had before is put into its window. -/
  | recalled (play : Play)
  /-- A play is claimed for it. -/
  | claimed (claim : Claim)
  /-- It takes what was claimed. -/
  | taken (claim : Claim)
  /-- It refuses what was claimed. -/
  | refused (claim : Claim)

namespace Deed

/-- The entry that is added. -/
def added? : Deed → Option Claim
  | .recalled play => some ⟨play, none⟩
  | .claimed claim => some claim
  | _ => none

/-- Whether an entry is added. -/
def isAdding (d : Deed) : Bool := d.added?.isSome

/-- Whether a play is claimed. -/
def isClaim : Deed → Bool
  | .claimed _ => true
  | _ => false

/-- What is known afterwards of a claim: whether it was taken. -/
def ofOutcome (outcome : Claim × Bool) : Deed :=
  if outcome.2 then .taken outcome.1 else .refused outcome.1

/-- **What a deed does to the window.** -/
def apply (w : Window Claim) (d : Deed) : Window Claim :=
  match d with
  | .refused claim => forget claim w
  | d => match d.added? with
    | some claim => w.push claim
    | none => w

/-- What is added is pushed. -/
theorem apply_of_added {d : Deed} {c : Claim} (h : d.added? = some c) (w : Window Claim) :
    d.apply w = w.push c := by
  cases d with
  | recalled play => rw [← Option.some.inj h]; rfl
  | claimed claim => rw [← Option.some.inj h]; rfl
  | taken claim => exact nomatch h
  | refused claim => exact nomatch h

/-- A claim adds what is claimed. -/
theorem eq_claimed {d : Deed} {c : Claim} (h : d.isClaim = true) (hadded : d.added? = some c) :
    d = .claimed c := by
  cases d with
  | claimed c' => rw [Option.some.inj hadded]
  | recalled p => exact nomatch h
  | taken c' => exact nomatch h
  | refused c' => exact nomatch h

/-- What a row of deeds does to the window. -/
def applyAll (w : Window Claim) (ds : List Deed) : Window Claim := ds.foldl apply w

@[simp] theorem applyAll_cons (w : Window Claim) (d : Deed) (ds : List Deed) :
    applyAll w (d :: ds) = applyAll (d.apply w) ds := rfl

@[simp] theorem applyAll_append (w : Window Claim) (ds ds' : List Deed) :
    applyAll w (ds ++ ds') = applyAll (applyAll w ds) ds' := List.foldl_append ..

/-- No deed changes how much a window holds. -/
@[simp] theorem size_apply (w : Window Claim) (d : Deed) : (d.apply w).size = w.size := by
  cases d <;> rfl

@[simp] theorem size_applyAll (w : Window Claim) (ds : List Deed) :
    (applyAll w ds).size = w.size := by
  induction ds generalizing w with
  | nil => rfl
  | cons d ds ih => rw [applyAll_cons, ih, size_apply]

/-- How many entries a row of deeds adds. -/
def additions (ds : List Deed) : Nat := ds.countP isAdding

/-- Whatever is in a window was in it or was added. -/
theorem mem_of_mem_applyAll {w : Window Claim} {ds : List Deed} {c : Claim}
    (h : c ∈ (applyAll w ds).items) : c ∈ w.items ∨ ∃ d ∈ ds, d.added? = some c := by
  induction ds generalizing w with
  | nil => exact Or.inl h
  | cons d ds ih =>
    rcases ih h with hw | ⟨d', hd', hadded⟩
    · have hcases : c ∈ w.items ∨ d.added? = some c := by
        cases d with
        | recalled play =>
          exact (Window.mem_of_mem_push hw).imp_right fun h => congrArg some h.symm
        | claimed claim =>
          exact (Window.mem_of_mem_push hw).imp_right fun h => congrArg some h.symm
        | taken claim => exact Or.inl hw
        | refused claim => exact Or.inl (List.mem_of_mem_eraseP hw)
      exact hcases.imp_right fun h => ⟨d, List.mem_cons_self, h⟩
    · exact Or.inr ⟨d', List.mem_cons_of_mem d hd', hadded⟩

/-! ## How an entry leaves a window -/

/-- Whether an entry is in a window, with at most so many after it. -/
def Holds (c : Claim) (count : Nat) (w : Window Claim) : Prop :=
  ∃ older newer, w.items = older ++ c :: newer ∧ newer.length ≤ count

theorem Holds.mem {c : Claim} {count : Nat} {w : Window Claim} (h : Holds c count w) :
    c ∈ w.items := by
  obtain ⟨older, newer, hitems, -⟩ := h
  rw [hitems]
  exact List.mem_append_right older List.mem_cons_self

/-- An entry that was added is the last one. -/
theorem holds_push {w : Window Claim} (hsize : 1 ≤ w.size) (c : Claim) :
    Holds c 0 (w.push c) := by
  refine ⟨w.items.drop (w.items.length + 1 - w.size), [], ?_, Nat.le_refl 0⟩
  show Window.lastOf w.size (w.items ++ [c]) = _
  unfold Window.lastOf
  rw [List.length_append, List.length_singleton, List.drop_append_of_le_length (by omega)]

/-- An entry stays while fewer others are added than the window holds. -/
theorem Holds.push {c : Claim} {count : Nat} {w : Window Claim} (h : Holds c count w)
    (hroom : count + 1 < w.size) (c' : Claim) : Holds c (count + 1) (w.push c') := by
  obtain ⟨older, newer, hitems, hlength⟩ := h
  refine ⟨older.drop ((older ++ c :: newer ++ [c']).length - w.size), newer ++ [c'], ?_, ?_⟩
  · show Window.lastOf w.size (w.items ++ [c']) = _
    unfold Window.lastOf
    rw [hitems, List.append_assoc, List.cons_append, List.drop_append_of_le_length]
    simp only [List.length_append, List.length_cons, List.length_nil]
    omega
  · rw [List.length_append, List.length_singleton]
    omega

/-- An entry stays as long as nothing is released that it is taken for. -/
theorem Holds.forget {c : Claim} {count : Nat} {w : Window Claim} (h : Holds c count w)
    {f : Claim} (hother : isTakenFor f c = false) :
    Holds c count (Dispatcher.forget f w) := by
  obtain ⟨older, newer, hitems, hlength⟩ := h
  by_cases hany : ∃ e ∈ older, isTakenFor f e = true
  · obtain ⟨e, he, htaken⟩ := hany
    refine ⟨older.eraseP (isTakenFor f), newer, ?_, hlength⟩
    show w.items.eraseP (isTakenFor f) = _
    rw [hitems, List.eraseP_append_left htaken _ he]
  · refine ⟨older, newer.eraseP (isTakenFor f), ?_,
      Nat.le_trans List.length_eraseP_le hlength⟩
    show w.items.eraseP (isTakenFor f) = _
    rw [hitems, List.eraseP_append_right _ fun e he htaken => hany ⟨e, he, htaken⟩,
      List.eraseP_cons_of_neg (by rw [hother]; exact Bool.false_ne_true)]

/-- **What a deed does to an entry**: it stays, it has to make room, or a
claim is refused that it is taken for. -/
theorem Holds.apply {c : Claim} {count : Nat} {w : Window Claim} (h : Holds c count w)
    (d : Deed) :
    Holds c (count + additions [d]) (d.apply w) ∨ w.size ≤ count + additions [d]
      ∨ ∃ f, d = refused f ∧ isTakenFor f c = true := by
  have hpush : ∀ c', Holds c (count + 1) (w.push c') ∨ w.size ≤ count + 1 := by
    intro c'
    by_cases hroom : count + 1 < w.size
    · exact Or.inl (h.push hroom c')
    · exact Or.inr (Nat.le_of_not_lt hroom)
  cases d with
  | recalled play => exact (hpush ⟨play, none⟩).imp_right Or.inl
  | claimed claim => exact (hpush claim).imp_right Or.inl
  | taken claim => exact Or.inl h
  | refused f =>
    cases htaken : isTakenFor f c with
    | false => exact Or.inl (h.forget htaken)
    | true => exact Or.inr (Or.inr ⟨f, rfl, htaken⟩)

/-- Whether, among some deeds, a claim is refused that an entry is taken for,
and the entry is in the window until then. -/
def Releases (c : Claim) (w : Window Claim) (ds : List Deed) : Prop :=
  ∃ before f after, ds = before ++ refused f :: after ∧ isTakenFor f c = true
    ∧ ∀ early late, before = early ++ late → c ∈ (applyAll w early).items

/-- What is released later was there before. -/
theorem Releases.cons {c : Claim} {w : Window Claim} {d : Deed} {ds : List Deed}
    (h : Releases c (d.apply w) ds) (hmem : c ∈ w.items) : Releases c w (d :: ds) := by
  obtain ⟨before, f, after, rfl, htaken, hkept⟩ := h
  refine ⟨d :: before, f, after, rfl, htaken, fun early late he => ?_⟩
  cases early with
  | nil => exact hmem
  | cons d' early =>
    obtain ⟨rfl, hrest⟩ : d = d' ∧ before = early ++ late := List.cons.inj he
    exact hkept early late hrest

/-- **How an entry leaves a window**: as many others are added as the window
holds, or a claim is refused that it is taken for. -/
theorem holds_or_releases {c : Claim} {count : Nat} {w : Window Claim} (h : Holds c count w)
    (ds : List Deed) :
    Holds c (count + additions ds) (applyAll w ds) ∨ w.size ≤ count + additions ds
      ∨ Releases c w ds := by
  induction ds generalizing w count with
  | nil => exact Or.inl h
  | cons d ds ih =>
    have hcount : count + additions (d :: ds) = count + additions [d] + additions ds := by
      unfold additions
      rw [← List.singleton_append, List.countP_append, Nat.add_assoc]
    rw [hcount, applyAll_cons]
    rcases h.apply d with hstays | hfull | ⟨f, rfl, htaken⟩
    · rcases ih hstays with hlater | hfull | hreleased
      · exact Or.inl hlater
      · exact Or.inr (Or.inl (size_apply w d ▸ hfull))
      · exact Or.inr (Or.inr (hreleased.cons h.mem))
    · exact Or.inr (Or.inl (Nat.le_trans hfull (Nat.le_add_right ..)))
    · refine Or.inr (Or.inr ⟨[], f, ds, rfl, htaken, fun early late he => ?_⟩)
      obtain ⟨rfl, -⟩ := List.append_eq_nil_iff.mp he.symm
      exact h.mem

end Deed

end Dispatcher

end Listening
