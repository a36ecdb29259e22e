import Listening.History.Description
import Listening.Proofs.IdentityMarks
import Listening.Proofs.TimestampRoundTrip

/-!
# What a difference says in words

A difference between two lists of plays is told line by line: first a line for each
play of the new list, with a mark that says what became of it, and then a line for
each play that is gone from a place past the new list.

So what is gone is reported in one of two ways. If its place is past the new list, it
has a line of its own. Otherwise another play is at its place now, and if that one is
new, its line says what it replaces. But the other play may only have been moved
there. Then its line says where it was before, and the play that is gone is not
reported at all. `ListDiff.describe?_accounts` says that everything else is, and once.

A line is told from others by its number and from the next one by the break between
them, so plays whose descriptions have no line break are told apart.
-/

namespace Listening

/-! ## The lines of a text -/

/-- **Whether a text is one line at most.** -/
def Text.IsLine (s : String) : Prop := '\n' ∉ s.toList

instance (s : String) : Decidable (Text.IsLine s) :=
  inferInstanceAs (Decidable ('\n' ∉ s.toList))

/-- **The lines of a text.** The empty text has none. -/
def Text.linesOf (text : String) : List String :=
  if text.isEmpty then [] else (text.toList.splitOn '\n').map String.ofList

/-- **Lines that were put together are the lines of the text**, unless one of them
is empty, or is more than a line. -/
theorem Text.linesOf_intercalate {lines : List String} (hbreaks : ∀ l ∈ lines, IsLine l)
    (hgiven : ∀ l ∈ lines, l ≠ "") : linesOf (String.intercalate "\n" lines) = lines := by
  cases lines with
  | nil => rfl
  | cons first rest =>
    have hsplit : ((String.intercalate "\n" (first :: rest)).toList.splitOn '\n')
        = (first :: rest).map String.toList := by
      rw [String.toList_intercalate]
      refine List.splitOn_intercalate '\n' (fun l hl => ?_) (List.cons_ne_nil _ _)
      obtain ⟨s, hs, rfl⟩ := List.mem_map.mp hl
      exact hbreaks s hs
    have hfull : (String.intercalate "\n" (first :: rest)).isEmpty = false := by
      rw [Bool.eq_false_iff, Ne, String.isEmpty_iff]
      intro hempty
      rw [hempty] at hsplit
      obtain ⟨hfirst, -⟩ := List.cons.inj hsplit
      exact hgiven first List.mem_cons_self (String.ext hfirst.symm)
    unfold linesOf
    rw [hfull, if_neg Bool.false_ne_true, hsplit, List.map_map]
    exact (List.map_congr_left fun s _ => String.ofList_toList).trans (List.map_id _)

/-- The number of a line is told from what follows. -/
theorem eq_of_numbered {m n : Nat} {s t : String}
    (h : toString m ++ (". " ++ s) = toString n ++ (". " ++ t)) : m = n := by
  have hdigits : ∀ (k : Nat) (u : String),
      (toString k ++ (". " ++ u)).toList.takeWhile Char.isDigit = Nat.toDigits 10 k := by
    intro k u
    rw [String.toList_append, String.toList_append]
    show ((Nat.repr k).toList ++ ('.' :: ' ' :: u.toList)).takeWhile Char.isDigit = _
    rw [Nat.toList_repr, List.takeWhile_append_of_pos fun c => Number.isDigit_of_mem_toDigits]
    exact List.append_nil _
  have hsame : Nat.toDigits 10 m = Nat.toDigits 10 n := by rw [← hdigits m s, h, hdigits]
  rw [← Number.digitsValue_toDigits m, hsame, Number.digitsValue_toDigits]

/-! ## Marks -/

/-- What a reading of a text delivers, if it does. -/
def delivered (reading : Except Fault String) : String := reading.toOption.getD ""

theorem eq_ok_delivered {reading : Except Fault String} (h : ∃ s, reading = .ok s) :
    reading = .ok (delivered reading) := by
  obtain ⟨s, rfl⟩ := h
  rfl

/-- **What a play is described as.** -/
def Play.described (p : Play) : String := delivered p.describe?

theorem Play.Typed.describe?_eq {p : Play} (h : p.Typed) : p.describe? = .ok p.described :=
  eq_ok_delivered h.exists_describe?

namespace ListDiff

/-- The mark of a play that was at another place. -/
def movedFrom (i : Nat) : String := " => Moved - Originally at " ++ toString (i + 1)

/-- The mark of a play that is at the place of one that is gone. -/
def replacing (original : String) : String := " => Replaced - Original => " ++ original

/-- The mark of a play that is new otherwise. -/
def isNew : String := " => Added"

/-- The mark of a play that is gone. -/
def isGone : String := " => Removed"

/-- The line of a play, but for its mark. -/
def numbered (place : Nat) (p : Play) : String := toString (place + 1) ++ ". " ++ p.described

/-- The letter with which the word of a mark begins. -/
def initial (mark : String) : Option Char := mark.toList[4]?

@[simp] theorem initial_empty : initial "" = none := rfl

@[simp] theorem initial_movedFrom (i : Nat) : initial (movedFrom i) = some 'M' := by
  unfold initial movedFrom
  rw [String.toList_append, List.getElem?_append_left (by decide)]
  rfl

@[simp] theorem initial_replacing (original : String) :
    initial (replacing original) = some 'R' := by
  unfold initial replacing
  rw [String.toList_append, List.getElem?_append_left (by decide)]
  rfl

@[simp] theorem initial_isNew : initial isNew = some 'A' := rfl

/-- A mark that tells a new play is told from any other. -/
theorem initial_of_added {mark : String}
    (h : mark = isNew ∨ ∃ original, mark = replacing original) :
    initial mark = some 'A' ∨ initial mark = some 'R' := by
  rcases h with rfl | ⟨original, rfl⟩
  · exact Or.inl initial_isNew
  · exact Or.inr (initial_replacing original)

/-- A mark tells the place that a play was moved from. -/
theorem movedFrom_inj {i j : Nat} (h : movedFrom i = movedFrom j) : i = j := by
  have hplace := congrArg Number.digitsValue
    (congrArg String.toList ((String.append_right_inj _).mp h))
  rw [show toString (i + 1) = Nat.repr (i + 1) from rfl,
    show toString (j + 1) = Nat.repr (j + 1) from rfl, Nat.toList_repr, Nat.toList_repr,
    Number.digitsValue_toDigits, Number.digitsValue_toDigits] at hplace
  exact Nat.succ.inj hplace

/-! ## The entry of a place -/

/-- An item is told by what it is read as, if nothing is read twice. -/
theorem eq_of_nodup_filterMap {α β : Type} {f : α → Option β} {as : List α}
    (h : (as.filterMap f).Nodup) {a b : α} {c : β} (ha : a ∈ as) (hb : b ∈ as)
    (hfa : f a = some c) (hfb : f b = some c) : a = b := by
  induction as with
  | nil => exact absurd ha List.not_mem_nil
  | cons first rest ih =>
    have hmem : ∀ x ∈ rest, f x = some c → c ∈ rest.filterMap f := fun x hx hfx =>
      List.mem_filterMap.mpr ⟨x, hx, hfx⟩
    rcases List.mem_cons.mp ha with rfl | ha'
    · rw [List.filterMap_cons_some hfa, List.nodup_cons] at h
      rcases List.mem_cons.mp hb with rfl | hb'
      · rfl
      · exact absurd (hmem b hb' hfb) h.1
    · rcases List.mem_cons.mp hb with rfl | hb'
      · rw [List.filterMap_cons_some hfb, List.nodup_cons] at h
        exact absurd (hmem a ha' hfa) h.1
      · refine ih (h.sublist ?_) ha' hb'
        exact (List.sublist_cons_self first rest).filterMap f

/-- **Whether the entries of a difference name every place of both lists**, and none
twice. -/
structure Covers (prevLength newLength : Nat) (d : ListDiff) : Prop where
  newPlaces : d.entries.filterMap Entry.new? = List.range newLength
  prevPlaces : (d.entries.filterMap Entry.prev?).Perm (List.range prevLength)
  /-- The places of deleted entries are in order. -/
  deletedPlaces : d.deletedPlaces.Pairwise (· < ·)

theorem covers_ofKeys {κ : Type} [BEq κ] [LawfulBEq κ] (prev new : List κ) (fromEnd : Bool) :
    Covers prev.length new.length (ofKeys prev new fromEnd) :=
  have h := isMatching_ofKeys prev new fromEnd
  ⟨h.newPlaces, h.prevPlaces, pairwise_deletedPlaces prev new fromEnd⟩

theorem mem_deletedPlaces {d : ListDiff} {i : Nat} :
    i ∈ d.deletedPlaces ↔ .deleted i ∈ d.entries := by
  rw [deletedPlaces_eq, List.mem_filterMap]
  constructor
  · rintro ⟨e, he, hplace⟩
    cases e with
    | kept => exact nomatch hplace
    | added => exact nomatch hplace
    | deleted k =>
      obtain rfl := Option.some.inj hplace
      exact he
  · exact fun h => ⟨_, h, rfl⟩

namespace Covers

variable {n m : Nat} {d : ListDiff} (h : Covers n m d)
include h

/-- A place of the new list has one entry. -/
theorem eq_of_new? {e e' : Entry} {j : Nat} (he : e ∈ d.entries) (he' : e' ∈ d.entries)
    (hj : e.new? = some j) (hj' : e'.new? = some j) : e = e' :=
  eq_of_nodup_filterMap (h.newPlaces ▸ List.nodup_range) he he' hj hj'

theorem new?_lt {e : Entry} {j : Nat} (he : e ∈ d.entries) (hj : e.new? = some j) : j < m :=
  List.mem_range.mp (h.newPlaces ▸ List.mem_filterMap.mpr ⟨e, he, hj⟩)

theorem prev?_lt {e : Entry} {i : Nat} (he : e ∈ d.entries) (hi : e.prev? = some i) : i < n :=
  List.mem_range.mp (h.prevPlaces.subset (List.mem_filterMap.mpr ⟨e, he, hi⟩))

/-- What is at a place of the new list was kept or added. -/
theorem kept_or_added {j : Nat} (hj : j < m) :
    (∃ i, .kept i j ∈ d.entries) ∨ .added j ∈ d.entries := by
  have hmem : j ∈ d.entries.filterMap Entry.new? := h.newPlaces ▸ List.mem_range.mpr hj
  obtain ⟨e, he, hplace⟩ := List.mem_filterMap.mp hmem
  cases e with
  | kept i k =>
    obtain rfl := Option.some.inj hplace
    exact Or.inl ⟨i, he⟩
  | added k =>
    obtain rfl := Option.some.inj hplace
    exact Or.inr he
  | deleted i => exact nomatch hplace

/-- The entry of a place is found there. -/
theorem atNew?_eq {e : Entry} {j : Nat} (he : e ∈ d.entries) (hj : e.new? = some j) :
    d.atNew? j = some e := by
  unfold atNew?
  cases hfind : d.entries.find? fun e => e.new? == some j with
  | none => exact absurd (beq_iff_eq.mpr hj) (List.find?_eq_none.mp hfind e he)
  | some e' =>
    have hj' := List.find?_some hfind
    rw [h.eq_of_new? he (List.mem_of_find?_eq_some hfind) hj (eq_of_beq hj')]

/-! ## What is said of a place -/

/-- **What is said of a place of the new list**: nothing, or from where its play was
moved; what was there before, if that is gone and the play is new; or only that it is
new. -/
theorem remark?_cases {prev : List Play} (hprev : ∀ p ∈ prev, p.Typed)
    (hlength : prev.length = n) {j : Nat} (hj : j < m) :
    (∃ i, .kept i j ∈ d.entries
        ∧ remark? prev d j = .ok (if i = j then "" else movedFrom i))
      ∨ .added j ∈ d.entries
        ∧ ((∃ old, prev[j]? = some old ∧ .deleted j ∈ d.entries
            ∧ remark? prev d j = .ok (replacing old.described))
          ∨ .deleted j ∉ d.entries ∧ remark? prev d j = .ok isNew) := by
  unfold remark?
  rcases h.kept_or_added hj with ⟨i, he⟩ | he
  · rw [h.atNew?_eq he rfl]
    exact Or.inl ⟨i, he, rfl⟩
  · rw [h.atNew?_eq he rfl]
    refine Or.inr ⟨he, ?_⟩
    by_cases hgone : .deleted j ∈ d.entries
    · have hplace : j < prev.length := hlength ▸ h.prev?_lt hgone rfl
      have hold : prev[j]? = some prev[j] := List.getElem?_eq_getElem hplace
      have hcontains : d.deletedPlaces.contains j = true :=
        List.contains_iff_mem.mpr (mem_deletedPlaces.mpr hgone)
      refine Or.inl ⟨_, hold, hgone, ?_⟩
      simp only [hcontains, if_true, hold, (hprev _ (List.getElem_mem hplace)).describe?_eq]
      rfl
    · have hcontains : d.deletedPlaces.contains j = false := Bool.eq_false_iff.mpr fun hmem =>
        hgone (mem_deletedPlaces.mp (List.contains_iff_mem.mp hmem))
      refine Or.inr ⟨hgone, ?_⟩
      rw [hcontains]
      rfl

end Covers

/-- **What the mark of a place says.** -/
structure Marks (d : ListDiff) (j : Nat) (mark : String) : Prop where
  /-- There is none exactly if the play is where it was. -/
  unmarked : mark = "" ↔ .kept j j ∈ d.entries
  /-- It names another place exactly if the play was there. -/
  moved : ∀ i, mark = movedFrom i ↔ i ≠ j ∧ .kept i j ∈ d.entries
  /-- It tells a new play exactly if the play is new. -/
  added : (mark = isNew ∨ ∃ original, mark = replacing original) ↔ .added j ∈ d.entries

section Marks

variable {n m : Nat} {d : ListDiff} {i j : Nat} (h : Covers n m d)
include h

theorem Covers.marks_of_equal (he : .kept j j ∈ d.entries) : Marks d j "" where
  unmarked := iff_of_true rfl he
  moved i := by
    refine iff_of_false (fun hmark => ?_) fun ⟨hne, hi⟩ => ?_
    · simpa using congrArg initial hmark
    · exact hne (Entry.kept.inj (h.eq_of_new? hi he rfl rfl)).1
  added := by
    refine iff_of_false (fun hmark => ?_) fun hadded => nomatch h.eq_of_new? he hadded rfl rfl
    simpa using initial_of_added hmark

theorem Covers.marks_of_moved (hne : i ≠ j) (he : .kept i j ∈ d.entries) :
    Marks d j (movedFrom i) where
  unmarked := by
    refine iff_of_false (fun hmark => ?_) fun hj => ?_
    · simpa using congrArg initial hmark
    · exact hne (Entry.kept.inj (h.eq_of_new? he hj rfl rfl)).1
  moved k := by
    refine ⟨fun hmark => movedFrom_inj hmark ▸ ⟨hne, he⟩, fun ⟨_, hk⟩ => ?_⟩
    rw [(Entry.kept.inj (h.eq_of_new? he hk rfl rfl)).1]
  added := by
    refine iff_of_false (fun hmark => ?_) fun hadded => nomatch h.eq_of_new? he hadded rfl rfl
    simpa using initial_of_added hmark

theorem Covers.marks_of_added {mark : String} (he : .added j ∈ d.entries)
    (hmark : mark = isNew ∨ ∃ original, mark = replacing original) : Marks d j mark where
  unmarked := by
    refine iff_of_false ?_ fun hj => nomatch h.eq_of_new? he hj rfl rfl
    rintro rfl
    simpa using initial_of_added hmark
  moved i := by
    refine iff_of_false ?_ fun ⟨_, hi⟩ => nomatch h.eq_of_new? he hi rfl rfl
    rintro rfl
    simpa using initial_of_added hmark
  added := iff_of_true hmark he

/-- **The mark of a place says what its entry is**, and it names a play that is gone
from there if no other one was moved there. -/
theorem Covers.exists_remark? {prev : List Play} (hprev : ∀ p ∈ prev, p.Typed)
    (hlength : prev.length = n) (hj : j < m) :
    ∃ mark, remark? prev d j = .ok mark ∧ Marks d j mark
      ∧ ∀ old, prev[j]? = some old → (mark = replacing old.described
        ↔ .added j ∈ d.entries ∧ .deleted j ∈ d.entries) := by
  rcases h.remark?_cases hprev hlength hj with
    ⟨i, he, hmark⟩ | ⟨he, ⟨old, hold, hgone, hmark⟩ | ⟨hleft, hmark⟩⟩
  · refine ⟨_, hmark, ?_, fun old _ => iff_of_false (fun hname => ?_) fun hboth => ?_⟩
    · by_cases hij : i = j
      · subst hij
        rw [if_pos rfl]
        exact h.marks_of_equal he
      · rw [if_neg hij]
        exact h.marks_of_moved hij he
    · split at hname <;> simpa using congrArg initial hname
    · exact nomatch h.eq_of_new? he hboth.1 rfl rfl
  · refine ⟨_, hmark, h.marks_of_added he (Or.inr ⟨_, rfl⟩), fun old' hold' => ?_⟩
    rw [Option.some.inj (hold.symm.trans hold')]
    exact iff_of_true rfl ⟨he, hgone⟩
  · refine ⟨_, hmark, h.marks_of_added he (Or.inl rfl), fun old _ => ?_⟩
    refine iff_of_false (fun hname => ?_) fun hboth => hleft hboth.2
    simpa using congrArg initial hname

end Marks

/-! ## The lines of both lists -/

/-- The places of the previous list that are past the new one, and gone. -/
def pastPlaces (new : List Play) (d : ListDiff) : List Nat :=
  d.deletedPlaces.filter (new.length ≤ ·)

/-- The lines of the new list. -/
def presentLines (prev new : List Play) (d : ListDiff) : List String :=
  new.zipIdx.map fun p => numbered p.2 p.1 ++ delivered (remark? prev d p.2)

/-- The line of a play that is gone. -/
def goneLine (prev : List Play) (i : Nat) : String :=
  match prev[i]? with
  | some old => numbered i old ++ isGone
  | none => ""

theorem getElem?_presentLines (prev new : List Play) (d : ListDiff) (j : Nat) :
    (presentLines prev new d)[j]?
      = new[j]?.map fun play => numbered j play ++ delivered (remark? prev d j) := by
  rw [presentLines, List.getElem?_map, List.getElem?_zipIdx, Option.map_map, Nat.zero_add]
  rfl

theorem numbered?_eq {place : Nat} {p : Play} (h : p.Typed) :
    numbered? place p = .ok (numbered place p) := by
  unfold numbered?
  rw [h.describe?_eq]
  rfl

section Lines

variable {prev new : List Play} {d : ListDiff} (h : Covers prev.length new.length d)
  (hprev : ∀ p ∈ prev, p.Typed) (hnew : ∀ p ∈ new, p.Typed)

include h hprev hnew in
theorem newLines?_eq : newLines? prev new d = .ok (presentLines prev new d) := by
  unfold newLines? presentLines
  refine mapM_eq_ok ?_
  rintro ⟨play, place⟩ hmem
  obtain ⟨mark, hmark, -⟩ := h.exists_remark? hprev rfl (List.mem_zipIdx' hmem).1
  show (numbered? place play).bind _ = _
  rw [numbered?_eq (hnew play (List.fst_mem_of_mem_zipIdx hmem)), hmark]
  rfl

include hprev in
theorem goneLines?_eq :
    goneLines? prev new d = .ok ((pastPlaces new d).map (goneLine prev)) := by
  refine mapM_eq_ok fun i _ => ?_
  unfold goneLine
  cases hold : prev[i]? with
  | none => rfl
  | some old =>
    show (numbered? i old).bind _ = _
    rw [numbered?_eq (hprev old (List.mem_of_getElem? hold))]
    rfl

end Lines

/-! ## Accounting for every entry -/

/-- **Whether a line reports that an entry of the previous list is gone**: it is the
line of the play at the same place and names that entry, or a line after those of the
new list. -/
def Reports (prev new : List Play) (lines : List String) (i j : Nat) : Prop :=
  ∃ old, prev[i]? = some old
    ∧ ((j = i ∧ ∃ play, new[j]? = some play
          ∧ lines[j]? = some (numbered j play ++ replacing old.described))
      ∨ new.length ≤ j ∧ lines[j]? = some (numbered i old ++ isGone))

/-- **What the lines of a difference account for.** -/
structure Accounts (prev new : List Play) (d : ListDiff) (lines : List String) : Prop where
  /-- There is a line for each play of the new list, in order, with a mark that says
  what became of it. -/
  present : ∀ j play, new[j]? = some play →
    ∃ mark, lines[j]? = some (numbered j play ++ mark) ∧ Marks d j mark
  /-- After them come lines of plays that are gone, and no others. -/
  gone : ∀ line ∈ lines.drop new.length, ∃ i old, prev[i]? = some old
    ∧ .deleted i ∈ d.entries ∧ line = numbered i old ++ isGone
  /-- Only deleted entries are reported. -/
  only : ∀ i j, Reports prev new lines i j → .deleted i ∈ d.entries
  /-- A deleted entry is reported once, unless a play was moved to its place. -/
  reported : ∀ i, .deleted i ∈ d.entries →
    ((∃! j, Reports prev new lines i j) ↔ ∀ k, .kept k i ∉ d.entries)
  /-- A deleted entry to whose place a play was moved is not reported at all. -/
  unreported : ∀ i k, .deleted i ∈ d.entries → .kept k i ∈ d.entries →
    ∀ j, ¬ Reports prev new lines i j

/-- The lines of a difference. -/
def linesOf (prev new : List Play) (d : ListDiff) : List String :=
  presentLines prev new d ++ (pastPlaces new d).map (goneLine prev)

theorem length_presentLines (prev new : List Play) (d : ListDiff) :
    (presentLines prev new d).length = new.length := by
  rw [presentLines, List.length_map, List.length_zipIdx]

theorem mem_pastPlaces {new : List Play} {d : ListDiff} {i : Nat} :
    i ∈ pastPlaces new d ↔ .deleted i ∈ d.entries ∧ new.length ≤ i := by
  rw [pastPlaces, List.mem_filter, mem_deletedPlaces, decide_eq_true_iff]

/-- The lines of the new list come first. -/
theorem getElem?_linesOf_of_lt {prev new : List Play} {d : ListDiff} {j : Nat} {play : Play}
    (hplay : new[j]? = some play) : (linesOf prev new d)[j]?
      = some (numbered j play ++ delivered (remark? prev d j)) := by
  have hj : j < (presentLines prev new d).length :=
    length_presentLines prev new d ▸ (List.getElem?_eq_some_iff.mp hplay).1
  rw [linesOf, List.getElem?_append_left hj, getElem?_presentLines, hplay]
  rfl

/-- After the lines of the new list come those of the places past it. -/
theorem getElem?_linesOf_add (prev new : List Play) (d : ListDiff) (k : Nat) :
    (linesOf prev new d)[new.length + k]? = (pastPlaces new d)[k]?.map (goneLine prev) := by
  rw [linesOf,
    List.getElem?_append_right (length_presentLines prev new d ▸ Nat.le_add_right _ k),
    length_presentLines, Nat.add_sub_cancel_left, List.getElem?_map]

section Accounts

variable {prev new : List Play} {d : ListDiff} (h : Covers prev.length new.length d)
include h

theorem Covers.exists_goneLine {i : Nat} (hi : .deleted i ∈ d.entries) :
    ∃ old, prev[i]? = some old ∧ goneLine prev i = numbered i old ++ isGone := by
  have hplace : i < prev.length := h.prev?_lt hi rfl
  have hold : prev[i]? = some prev[i] := List.getElem?_eq_getElem hplace
  refine ⟨_, hold, ?_⟩
  unfold goneLine
  rw [hold]

/-- **Which line reports which entry.** -/
theorem Covers.reports_iff (hprev : ∀ p ∈ prev, p.Typed) {i j : Nat} :
    Reports prev new (linesOf prev new d) i j ↔ .deleted i ∈ d.entries
      ∧ ((j = i ∧ .added i ∈ d.entries)
        ∨ ∃ k, (pastPlaces new d)[k]? = some i ∧ j = new.length + k) := by
  constructor
  · rintro ⟨old, hold, ⟨rfl, play, hplay, hline⟩ | ⟨hj, hline⟩⟩
    · have hj : j < new.length := (List.getElem?_eq_some_iff.mp hplay).1
      obtain ⟨mark, hmark, hmarks, hreplaced⟩ := h.exists_remark? hprev rfl hj
      rw [getElem?_linesOf_of_lt hplay, hmark] at hline
      have hname : mark = replacing old.described :=
        (String.append_right_inj _).mp (Option.some.inj hline)
      exact ⟨((hreplaced old hold).mp hname).2,
        Or.inl ⟨rfl, hmarks.added.mp (Or.inr ⟨_, hname⟩)⟩⟩
    · obtain ⟨k, rfl⟩ := Nat.exists_eq_add_of_le hj
      rw [getElem?_linesOf_add] at hline
      obtain ⟨i', hi', hline⟩ := Option.map_eq_some_iff.mp hline
      have hgone := (mem_pastPlaces.mp (List.mem_of_getElem? hi')).1
      obtain ⟨old', -, hline'⟩ := h.exists_goneLine hgone
      rw [hline'] at hline
      simp only [numbered, String.append_assoc] at hline
      obtain rfl := Nat.succ.inj (eq_of_numbered hline)
      exact ⟨hgone, Or.inr ⟨k, hi', rfl⟩⟩
  · rintro ⟨hgone, ⟨rfl, hadded⟩ | ⟨k, hk, rfl⟩⟩
    · obtain ⟨old, hold, -⟩ := h.exists_goneLine hgone
      have hj : j < new.length := h.new?_lt hadded rfl
      have hplay : new[j]? = some new[j] := List.getElem?_eq_getElem hj
      obtain ⟨mark, hmark, -, hreplaced⟩ := h.exists_remark? hprev rfl hj
      refine ⟨old, hold, Or.inl ⟨rfl, _, hplay, ?_⟩⟩
      rw [getElem?_linesOf_of_lt hplay, hmark, (hreplaced old hold).mpr ⟨hadded, hgone⟩]
      rfl
    · obtain ⟨old, hold, hline⟩ := h.exists_goneLine hgone
      refine ⟨old, hold, Or.inr ⟨Nat.le_add_right _ k, ?_⟩⟩
      rw [getElem?_linesOf_add, hk, Option.map_some, hline]

/-- An entry to whose place a play was moved is not reported. -/
theorem Covers.not_reports_of_moved (hprev : ∀ p ∈ prev, p.Typed) {i k : Nat}
    (hk : .kept k i ∈ d.entries) (j : Nat) : ¬ Reports prev new (linesOf prev new d) i j := by
  rw [h.reports_iff hprev]
  rintro ⟨-, ⟨-, hadded⟩ | ⟨k', hk', -⟩⟩
  · exact nomatch h.eq_of_new? hk hadded rfl rfl
  · have hpast := (mem_pastPlaces.mp (List.mem_of_getElem? hk')).2
    exact absurd (h.new?_lt hk rfl) (Nat.not_lt.mpr hpast)

/-- An entry that is gone, and to whose place no play was moved, is reported
once. -/
theorem Covers.existsUnique_reports (hprev : ∀ p ∈ prev, p.Typed) {i : Nat}
    (hgone : .deleted i ∈ d.entries) (hmoved : ∀ k, .kept k i ∉ d.entries) :
    ∃! j, Reports prev new (linesOf prev new d) i j := by
  simp only [h.reports_iff hprev, hgone, true_and]
  by_cases hi : i < new.length
  · have hadded := (h.kept_or_added hi).resolve_left fun ⟨k, hk⟩ => hmoved k hk
    refine ⟨i, Or.inl ⟨rfl, hadded⟩, ?_⟩
    rintro j (⟨rfl, -⟩ | ⟨k, hk, -⟩)
    · rfl
    · exact absurd hi (Nat.not_lt.mpr (mem_pastPlaces.mp (List.mem_of_getElem? hk)).2)
  · have hpast : i ∈ pastPlaces new d := mem_pastPlaces.mpr ⟨hgone, Nat.not_lt.mp hi⟩
    obtain ⟨k, hk⟩ := List.getElem?_of_mem hpast
    refine ⟨new.length + k, Or.inr ⟨k, hk, rfl⟩, ?_⟩
    rintro j (⟨rfl, hadded⟩ | ⟨k', hk', rfl⟩)
    · exact absurd (h.new?_lt hadded rfl) hi
    · have honce : (pastPlaces new d).Nodup :=
        (h.deletedPlaces.imp fun hlt => Nat.ne_of_lt hlt).filter _
      have hlt := (List.getElem?_eq_some_iff.mp hk').1
      rw [(List.getElem?_inj hlt honce).mp (hk'.trans hk.symm)]

/-- **The lines of a difference account for its entries.** -/
theorem Covers.accounts (hprev : ∀ p ∈ prev, p.Typed) :
    Accounts prev new d (linesOf prev new d) where
  present j play hplay := by
    have hj : j < new.length := (List.getElem?_eq_some_iff.mp hplay).1
    obtain ⟨mark, hmark, hmarks, -⟩ := h.exists_remark? hprev rfl hj
    refine ⟨mark, ?_, hmarks⟩
    rw [getElem?_linesOf_of_lt hplay, hmark]
    rfl
  gone line hline := by
    rw [linesOf, List.drop_left' (length_presentLines prev new d)] at hline
    obtain ⟨i, hi, rfl⟩ := List.mem_map.mp hline
    have hgone := (mem_pastPlaces.mp hi).1
    obtain ⟨old, hold, hline⟩ := h.exists_goneLine hgone
    exact ⟨i, old, hold, hgone, hline⟩
  only i j hreports := ((h.reports_iff hprev).mp hreports).1
  reported i hgone := by
    refine ⟨fun ⟨j, hj, _⟩ k hk => ?_, h.existsUnique_reports hprev hgone⟩
    exact h.not_reports_of_moved hprev hk j hj
  unreported i k _ hk := h.not_reports_of_moved hprev hk

end Accounts

/-! ## From the text to its lines -/

/-- A line and more is a line if both parts are. -/
theorem isLine_append {s t : String} : Text.IsLine (s ++ t) ↔ Text.IsLine s ∧ Text.IsLine t := by
  unfold Text.IsLine
  rw [String.toList_append, List.mem_append, not_or]

theorem isLine_toString (n : Nat) : Text.IsLine (toString n) := by
  intro hbreak
  change '\n' ∈ (Nat.repr n).toList at hbreak
  rw [Nat.toList_repr] at hbreak
  exact absurd (Number.isDigit_of_mem_toDigits hbreak) (by decide)

theorem isLine_numbered {place : Nat} {p : Play} (h : Text.IsLine p.described) :
    Text.IsLine (numbered place p) :=
  isLine_append.mpr ⟨isLine_append.mpr ⟨isLine_toString _, by decide⟩, h⟩

theorem numbered_append_ne_empty (place : Nat) (p : Play) (mark : String) :
    numbered place p ++ mark ≠ "" := by
  intro hempty
  have hdot : '.' ∈ (numbered place p ++ mark).toList := by simp [numbered]
  rw [hempty] at hdot
  exact absurd hdot (by decide)

theorem Covers.isLine_of_mem {prev new : List Play} {d : ListDiff}
    (h : Covers prev.length new.length d) (hprev : ∀ p ∈ prev, p.Typed)
    (hbreaks : ∀ p ∈ prev ++ new, Text.IsLine p.described) :
    ∀ l ∈ linesOf prev new d, Text.IsLine l ∧ l ≠ "" := by
  have hold : ∀ {i : Nat} {old : Play}, prev[i]? = some old →
      Text.IsLine old.described := fun hi =>
    hbreaks _ (List.mem_append_left new (List.mem_of_getElem? hi))
  intro l hl
  rcases List.mem_append.mp hl with hl | hl
  · obtain ⟨⟨play, place⟩, hmem, rfl⟩ := List.mem_map.mp hl
    have hplay := hbreaks play (List.mem_append_right prev (List.fst_mem_of_mem_zipIdx hmem))
    refine ⟨isLine_append.mpr ⟨isLine_numbered hplay, ?_⟩, numbered_append_ne_empty _ _ _⟩
    rcases h.remark?_cases hprev rfl (List.mem_zipIdx' hmem).1 with
      ⟨i, -, hmark⟩ | ⟨-, ⟨old, hi, -, hmark⟩ | ⟨-, hmark⟩⟩
    · rw [hmark]
      show Text.IsLine (if i = place then "" else movedFrom i)
      split
      · decide
      · exact isLine_append.mpr ⟨by decide, isLine_toString _⟩
    · rw [hmark]
      exact isLine_append.mpr ⟨by decide, hold hi⟩
    · rw [hmark]
      decide
  · obtain ⟨i, hi, rfl⟩ := List.mem_map.mp hl
    obtain ⟨old, hi, hline⟩ := h.exists_goneLine (mem_pastPlaces.mp hi).1
    rw [hline]
    exact ⟨isLine_append.mpr ⟨isLine_numbered (hold hi), by decide⟩,
      numbered_append_ne_empty _ _ _⟩

/-- **The lines of the text are the lines of the difference.** -/
theorem exists_linesOf {prev new : List Play} (hprev : ∀ p ∈ prev, p.Typed)
    (hnew : ∀ p ∈ new, p.Typed) (hbreaks : ∀ p ∈ prev ++ new, Text.IsLine p.described)
    (fromEnd : Bool) : ∃ d text, ofPlays? prev new fromEnd = .ok d
      ∧ describe? prev new d = .ok text ∧ Covers prev.length new.length d
      ∧ Text.linesOf text = linesOf prev new d := by
  obtain ⟨d, hd, hcovers⟩ : ∃ d, ofPlays? prev new fromEnd = .ok d
      ∧ Covers prev.length new.length d := by
    refine ⟨_, ofPlays?_of_typed hprev hnew fromEnd, ?_⟩
    rw [ofKeys_identities]
    have h := covers_ofKeys (marks false 0 (Play.identities prev))
      (marks true 0 (Play.identities new)) fromEnd
    rwa [length_marks, length_marks, Play.identities, Play.identities, List.length_map,
      List.length_map] at h
  have htext : describe? prev new d = .ok (String.intercalate "\n" (linesOf prev new d)) := by
    unfold describe?
    rw [newLines?_eq hcovers hprev hnew, goneLines?_eq hprev]
    rfl
  have hlines := hcovers.isLine_of_mem hprev hbreaks
  refine ⟨d, _, hd, htext, hcovers, ?_⟩
  exact Text.linesOf_intercalate (fun l hl => (hlines l hl).1) fun l hl => (hlines l hl).2

/-- **The difference between two lists of plays in words accounts for every entry**,
but for those that are gone and to whose place another play was moved. -/
theorem describe?_accounts {prev new : List Play} (hprev : ∀ p ∈ prev, p.Typed)
    (hnew : ∀ p ∈ new, p.Typed) (hbreaks : ∀ p ∈ prev ++ new, Text.IsLine p.described)
    (fromEnd : Bool) : ∃ d text, ofPlays? prev new fromEnd = .ok d
      ∧ describe? prev new d = .ok text ∧ Accounts prev new d (Text.linesOf text) := by
  obtain ⟨d, text, hd, htext, hcovers, hlines⟩ := exists_linesOf hprev hnew hbreaks fromEnd
  exact ⟨d, text, hd, htext, hlines ▸ hcovers.accounts hprev⟩

/-- A play of which only the title is known. -/
def titled (name : String) : Play := { title := .text name }

/-- Three plays. -/
def before : List Play := [titled "A", titled "B", titled "C"]

/-- The same plays with the second one replaced and the third one removed. -/
def after : List Play := [titled "A", titled "D"]

/-- A play that is replaced and one that is removed are reported once. -/
theorem describe?_accounts_after :
    (∀ p ∈ before, p.Typed) ∧ (∀ p ∈ after, p.Typed)
      ∧ (∀ p ∈ before ++ after, Text.IsLine p.described)
      ∧ ∃ d text, ofPlays? before after = .ok d ∧ describe? before after d = .ok text
        ∧ .deleted 1 ∈ d.entries ∧ (∃! j, Reports before after (Text.linesOf text) 1 j)
        ∧ .deleted 2 ∈ d.entries ∧ (∃! j, Reports before after (Text.linesOf text) 2 j) := by
  have hbefore : ∀ p ∈ before, p.Typed := by decide
  have hafter : ∀ p ∈ after, p.Typed := by decide
  have hbreaks : ∀ p ∈ before ++ after, Text.IsLine p.described := by decide +kernel
  refine ⟨hbefore, hafter, hbreaks, ?_⟩
  obtain ⟨d, text, hd, htext, haccounts⟩ := describe?_accounts hbefore hafter hbreaks false
  have hentries : d.entries = [.kept 0 0, .added 1, .deleted 1, .deleted 2] := by
    rw [ofPlays?_of_typed hbefore hafter] at hd
    obtain rfl := Except.ok.inj hd
    decide +kernel
  have hone : .deleted 1 ∈ d.entries := by rw [hentries]; decide
  have htwo : .deleted 2 ∈ d.entries := by rw [hentries]; decide
  refine ⟨d, text, hd, htext, hone, (haccounts.reported 1 hone).mpr fun k => ?_, htwo,
    (haccounts.reported 2 htwo).mpr fun k => ?_⟩
  all_goals
    rw [hentries]
    simp

/-- **A play that is gone is not reported if another one was moved to its place**:
of two plays the first one is gone, and all that is said is where the second one was. -/
theorem not_forall_reported :
    ¬ (∀ (prev new : List Play), (∀ p ∈ prev, p.Typed) → (∀ p ∈ new, p.Typed) →
        (∀ p ∈ prev ++ new, Text.IsLine p.described) →
        ∀ d text, ofPlays? prev new = .ok d → describe? prev new d = .ok text →
          ∀ i, .deleted i ∈ d.entries → ∃! j, Reports prev new (Text.linesOf text) i j)
      ∧ ∃ d, ofPlays? [titled "A", titled "B"] [titled "B"] = .ok d
        ∧ d.entries = [.kept 1 0, .deleted 0]
        ∧ describe? [titled "A", titled "B"] [titled "B"] d
          = .ok "1. (no artists) - B => Moved - Originally at 2" := by
  have hprev : ∀ p ∈ [titled "A", titled "B"], p.Typed := by decide
  have hnew : ∀ p ∈ [titled "B"], p.Typed := by decide
  have hbreaks : ∀ p ∈ [titled "A", titled "B"] ++ [titled "B"], Text.IsLine p.described := by
    decide +kernel
  obtain ⟨d, text, hd, htext, hcovers, hlines⟩ := exists_linesOf hprev hnew hbreaks false
  have hentries : d.entries = [.kept 1 0, .deleted 0] := by
    rw [ofPlays?_of_typed hprev hnew] at hd
    obtain rfl := Except.ok.inj hd
    decide +kernel
  have hgone : .deleted 0 ∈ d.entries := by rw [hentries]; decide
  have hmoved : .kept 1 0 ∈ d.entries := by rw [hentries]; decide
  refine ⟨fun h => ?_, d, hd, hentries, ?_⟩
  · obtain ⟨j, hj, -⟩ := h _ _ hprev hnew hbreaks d text hd htext 0 hgone
    exact hcovers.not_reports_of_moved hprev hmoved j (hlines ▸ hj)
  · unfold describe? newLines? goneLines? remark? atNew? deletedPlaces
    rw [hentries]
    rfl

end ListDiff

end Listening