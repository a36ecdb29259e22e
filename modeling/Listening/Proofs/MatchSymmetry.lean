import Listening.Proofs.EntryMatching
import Listening.Proofs.FloatValues
import Mathlib.Tactic.NormNum.Ineq

/-!
# Which of two plays came first

`Match.sameListen?` asks a play that is known already about one that is
considered. The answer should not depend on which of the two is which, and
mostly does not: what two plays are plays of is the same either way
(`Match.content?_comm`), and so is how far they are apart. But the threshold is
that of the play known already. A time told to the minute reaches a minute
far (`Play.Reaches`), and the other play need not reach back.

`Match.sameListen?_swap_iff` says when the two answers are the same: of plays of
one track, neither may reach where the other does not. That is so unless one of
the two sources tells the minute only, the other one does not, and the times lie
between the two thresholds (`Match.Between`). Only where neither reaches are the
stretches of the play known already looked into, and these may fail to answer.
-/

namespace Listening

/-- Whether the source of a play reports times to the minute only. -/
def Play.isCoarse (p : Play) : Bool :=
  match p.source.lower? with
  | .ok source => Match.coarseSources.contains source
  | .error _ => false

/-- The threshold for a play, in seconds. -/
def Play.reach (p : Play) : Float :=
  if p.isCoarse then Match.coarseThreshold else Match.threshold

/-- **Whether a play reaches another one** so many microseconds away: they are
at most a second apart, or by no more than the threshold for the play. -/
def Play.Reaches (p : Play) (gap : Nat) : Prop :=
  (gap : Int) ≤ Instant.second ∨ Instant.seconds gap ≤ p.reach

instance (p : Play) (gap : Nat) : Decidable (p.Reaches gap) :=
  inferInstanceAs (Decidable (_ ∨ _))

/-- Whether the stretches of a play can be asked about a time. -/
def Play.Answers (p : Play) (t : Instant) : Prop :=
  ∃ found, Match.inRanges? t (p.ranges.getD []) = .ok found

/-- The microseconds between two times, whichever is later. -/
def Instant.gap (s t : Instant) : Nat := (s.micros - t.micros).natAbs

theorem Instant.gap_comm (s t : Instant) : s.gap t = t.gap s := by
  unfold Instant.gap
  omega

namespace Number

open Float.Model Float.Model.UnpackedFloat

/-- **An infinity compares alike with all that is finite.** -/
theorem compare_infinity_eq {x y : UnpackedFloat} {p q : ℚ} (hx : unpackedValue? x = some p)
    (hy : unpackedValue? y = some q) (sign : Sign) :
    (UnpackedFloat.infinity sign).compare x = (UnpackedFloat.infinity sign).compare y := by
  cases x with
  | notANumber => exact nomatch hx
  | infinity t => exact nomatch hx
  | zero | finite =>
    cases y with
    | notANumber => exact nomatch hy
    | infinity t => exact nomatch hy
    | zero | finite => cases sign <;> rfl

/-- What is at most a number is at most a greater one, also if it is none
itself. -/
theorem Stands.le_of_le {x y z : Float} {p q : ℚ} (hy : Stands y p) (hz : Stands z q)
    (hpq : p ≤ q) (h : x ≤ y) : x ≤ z := by
  cases hx : (read x).value? with
  | some r => exact (Stands.le_iff hx hz).mpr (((Stands.le_iff hx hy).mp h).trans hpq)
  | none =>
    unfold Stands at hy hz
    rw [value?_read] at hx hy hz
    have hle (w : Float) : x ≤ w
        ↔ (x.toModel.unpack.compare w.toModel.unpack).any (·.isLE) = true := by
      show decide (x.toModel ≤ w.toModel) = true ↔ _
      rw [decide_eq_true_iff]
      rfl
    rw [hle] at h ⊢
    cases hunpack : x.toModel.unpack with
    | finite => exact nomatch hunpack ▸ hx
    | zero => exact nomatch hunpack ▸ hx
    | notANumber =>
      rw [hunpack] at h
      exact nomatch h
    | infinity sign =>
      rw [hunpack] at h
      rwa [compare_infinity_eq hz hy]

end Number

namespace Match

/-! ## The same track -/

/-- Two sources and two ids differ either way. -/
theorem idsDiffer_comm (a b : Play) : idsDiffer a b = idsDiffer b a := by
  have halike (x y : Label) : x.alike y = y.alike x := by
    unfold Label.alike Json.alike
    by_cases h : x.toJson.key = y.toJson.key
    · rw [h]
    · rw [decide_eq_false fun hc => h hc.1, decide_eq_false fun hc => h hc.1.symm]
  unfold idsDiffer
  rw [halike a.source, halike a.trackId, Bool.and_right_comm (b.source.alike a.source)]

/-- **Typed plays are of one track either way.** -/
theorem content?_comm {a b : Play} (ha : a.Typed) (hb : b.Typed) :
    content? a b = content? b a := by
  rw [content?_of_typed ha hb, content?_of_typed hb ha, idsDiffer_comm a b,
    BEq.comm (a := a.title.plain), BEq.comm (a := a.album.plain), Bool.and_comm a.album.isGiven,
    sameMembers_comm a.artistNames]

/-! ## The same time -/

/-- The threshold for a typed play. -/
theorem thresholdOf?_of_typed {p : Play} (h : p.Typed) : thresholdOf? {} p = .ok p.reach := by
  obtain ⟨source, hsource⟩ := Label.lower?_of_isTextual h.source
  unfold thresholdOf? Play.reach Play.isCoarse
  rw [hsource]
  rfl

/-- Whether times so many microseconds apart lie **between the two
thresholds**: too far apart for most sources, and close enough for one that
tells the minute only. -/
def Between (gap : Nat) : Prop :=
  ¬ (gap : Int) ≤ Instant.second ∧ ¬ Instant.seconds gap ≤ threshold
    ∧ Instant.seconds gap ≤ coarseThreshold

theorem stands_threshold : Number.Stands threshold 10 := by
  unfold Number.Stands
  decide +kernel

theorem stands_coarseThreshold : Number.Stands coarseThreshold 60 := by
  unfold Number.Stands
  decide +kernel

/-- What is within the threshold for most sources is within the wider one. -/
theorem le_coarseThreshold {x : Float} (h : x ≤ threshold) : x ≤ coarseThreshold :=
  stands_threshold.le_of_le stands_coarseThreshold (by norm_num) h

/-- **A source that tells the minute only reaches further**, by what lies
between the two thresholds. -/
theorem reaches_iff {p : Play} {gap : Nat} :
    p.Reaches gap ↔ (gap : Int) ≤ Instant.second ∨ Instant.seconds gap ≤ threshold
      ∨ p.isCoarse = true ∧ Between gap := by
  unfold Play.Reaches Play.reach
  cases p.isCoarse with
  | false => exact or_congr_right ⟨Or.inl, fun h => h.resolve_right fun hc => nomatch hc.1⟩
  | true =>
    rw [if_pos rfl]
    constructor
    · intro h
      by_cases hsecond : (gap : Int) ≤ Instant.second
      · exact Or.inl hsecond
      · by_cases hnarrow : Instant.seconds gap ≤ threshold
        · exact Or.inr (Or.inl hnarrow)
        · exact Or.inr (Or.inr ⟨rfl, hsecond, hnarrow, h.resolve_left hsecond⟩)
    · rintro (hsecond | hnarrow | ⟨-, hbetween⟩)
      · exact Or.inl hsecond
      · exact Or.inr (le_coarseThreshold hnarrow)
      · exact Or.inr hbetween.2.2

/-- **Two plays reach one another or neither does**, unless they are between
the thresholds and the source of exactly one tells the minute only. -/
theorem reaches_iff_reaches {a b : Play} {gap : Nat} :
    (a.Reaches gap ↔ b.Reaches gap) ↔ (Between gap → a.isCoarse = b.isCoarse) := by
  have hbetween (p : Play) (h : Between gap) : p.Reaches gap ↔ p.isCoarse = true := by
    rw [reaches_iff]
    exact ⟨fun hreach => ((hreach.resolve_left h.1).resolve_left h.2.1).1,
      fun hcoarse => Or.inr (Or.inr ⟨hcoarse, h⟩)⟩
  have houtside (p : Play) (h : ¬ Between gap) :
      p.Reaches gap ↔ (gap : Int) ≤ Instant.second ∨ Instant.seconds gap ≤ threshold := by
    rw [reaches_iff]
    exact or_congr_right ⟨fun hreach => hreach.resolve_right fun hc => h hc.2, Or.inl⟩
  by_cases h : Between gap
  · rw [hbetween a h, hbetween b h, ← Bool.eq_iff_iff]
    exact ⟨fun heq _ => heq, fun heq => heq h⟩
  · rw [houtside a h, houtside b h]
    exact iff_of_true Iff.rfl fun hc => absurd hc h

/-- Of the windows, only the stretches are looked into. -/
theorem inAnyWindow?_eq_inRanges? (p : Play) (start t : Instant) :
    inAnyWindow? {} p start t = inRanges? t (p.ranges.getD []) := by
  have hrange : (({} : Timing).windows.contains "range") = true := by decide
  have hlistened : (({} : Timing).windows.contains "listenedFor") = false := by decide
  have hduration : (({} : Timing).windows.contains "duration") = false := by decide
  unfold inAnyWindow?
  simp only [hrange, hlistened, hduration, if_true, Bind.bind, Except.bind]
  cases inRanges? t (p.ranges.getD []) with
  | error e => rfl
  | ok window => cases window <;> rfl

/-- The order of two instants is not told only if they cannot be compared. -/
theorem before?_eq_error {s t : Instant} {e : Fault} (h : s.before? t = .error e) :
    e = .mixedTimes := by
  unfold Instant.before? at h
  split at h
  · exact nomatch h
  · exact (Except.error.inj h).symm

theorem between?_eq_error {t start stop : Instant} {e : Fault}
    (h : between? t start stop = .error e) : e = .mixedTimes := by
  unfold between? at h
  cases hstart : start.before? t with
  | error e' =>
    rw [hstart] at h
    obtain rfl := Except.error.inj h
    exact before?_eq_error hstart
  | ok begun =>
    rw [hstart] at h
    cases begun with
    | true => exact before?_eq_error h
    | false => exact nomatch h

/-- Stretches that do not answer hold a time that cannot be compared. -/
theorem inRanges?_eq_error {t : Instant} {ranges : List Range} {e : Fault}
    (h : inRanges? t ranges = .error e) : e = .mixedTimes := by
  induction ranges with
  | nil => exact nomatch h
  | cons r rest ih =>
    rw [inRanges?] at h
    cases hinside : between? t r.start.time r.stop.time with
    | error e' =>
      rw [hinside] at h
      obtain rfl := Except.error.inj h
      exact between?_eq_error hinside
    | ok inside =>
      rw [hinside] at h
      cases inside with
      | true => exact nomatch h
      | false => exact ih h

/-! ## The same listen -/

section Dated

variable {a b : Play} {s t : Instant}

/-- **How a play compares with another one with a time**: somehow, if it
reaches it or its stretches can be asked about it, and otherwise not. -/
theorem compare?_cases (ha : a.Typed) (hb : b.Typed) (hs : a.playedAt = some s)
    (ht : b.playedAt = some t) (hcomparable : Instant.comparable s t = true) :
    ((∃ found, compare? a b = .ok found) ∧ (a.Reaches (s.gap t) ∨ a.Answers t))
      ∨ (compare? a b = .error .mixedTimes ∧ ¬ a.Reaches (s.gap t) ∧ ¬ a.Answers t) := by
  have hgap : s.minus? t = .ok (s.micros - t.micros) := Instant.minus?_of_comparable hcomparable
  unfold compare? Play.Reaches Instant.gap
  simp only [hs, ht, thresholdOf?_of_typed ha, hgap, inAnyWindow?_eq_inRanges?, Bind.bind,
    Except.bind, Bool.not_false, if_true]
  generalize (s.micros - t.micros).natAbs = gap
  by_cases hsecond : (gap : Int) ≤ Instant.second
  · rw [if_pos hsecond]
    exact Or.inl ⟨⟨_, rfl⟩, Or.inl (Or.inl hsecond)⟩
  · rw [if_neg hsecond]
    by_cases hclose : Instant.seconds gap ≤ a.reach
    · rw [if_pos hclose]
      exact Or.inl ⟨⟨_, rfl⟩, Or.inl (Or.inr hclose)⟩
    · rw [if_neg hclose]
      -- neither at once nor within the threshold: the stretches decide
      cases hwindow : inRanges? t (a.ranges.getD []) with
      | error e =>
        obtain rfl := inRanges?_eq_error hwindow
        refine Or.inr ⟨rfl, fun hreach => hreach.elim hsecond hclose, fun ⟨found, hfound⟩ => ?_⟩
        exact nomatch hwindow.symm.trans hfound
      | ok window =>
        refine Or.inl ⟨?_, Or.inr ⟨window, hwindow⟩⟩
        obtain ⟨length, hlength⟩ := Amount.number?_of_isNumeric
          (Amount.isNumeric_orElse hb.duration ha.duration)
        cases window with
        | some window => exact ⟨_, rfl⟩
        | none =>
          simp only [hlength]
          cases length with
          | some length => exact exists_ite_eq_ok _ _ _
          | none => exact exists_ite_eq_ok _ _ _

/-- **What a play makes of another one of the same track** with a time: the same
listen if it reaches it, and otherwise another one, if its stretches can be
asked about it. -/
theorem sameListen?_cases (ha : a.Typed) (hb : b.Typed) (hs : a.playedAt = some s)
    (ht : b.playedAt = some t) (hcomparable : Instant.comparable s t = true)
    (hcontent : content? a b = .ok true) :
    (a.Reaches (s.gap t) ∧ sameListen? a b = .ok true)
      ∨ (¬ a.Reaches (s.gap t) ∧ a.Answers t ∧ sameListen? a b = .ok false)
      ∨ (¬ a.Reaches (s.gap t) ∧ ¬ a.Answers t ∧ sameListen? a b = .error .mixedTimes) := by
  have hsame : sameListen? a b
      = (compare? a b).map fun found => isAcceptable found.accuracy := by
    unfold sameListen?
    rw [hcontent]
    cases compare? a b <;> rfl
  obtain ⟨⟨found, hfound⟩, hanswers⟩ | ⟨herror, hreach, hanswers⟩ :=
    compare?_cases ha hb hs ht hcomparable
  · have hanswer : sameListen? a b = .ok (decide (a.Reaches (s.gap t))) := by
      rw [hsame, hfound]
      exact congrArg Except.ok (isAcceptable_of_compare? hs ht (thresholdOf?_of_typed ha)
        (Instant.minus?_of_comparable hcomparable) hfound)
    by_cases hreach : a.Reaches (s.gap t)
    · rw [decide_eq_true hreach] at hanswer
      exact Or.inl ⟨hreach, hanswer⟩
    · rw [decide_eq_false hreach] at hanswer
      exact Or.inr (Or.inl ⟨hreach, hanswers.resolve_left hreach, hanswer⟩)
  · rw [hsame, herror]
    exact Or.inr (Or.inr ⟨hreach, hanswers, rfl⟩)

/-- **Which play came first matters** for plays of one track where one reaches
the other and is not reached by it, and where neither reaches and the stretches
of just one can be asked about the other. Nowhere else does it: the answer to
whether two plays with an offset are one listen is then the same either way. -/
theorem sameListen?_swap_iff (ha : a.Typed) (hb : b.Typed) (hs : a.playedAt = some s)
    (hs' : s.offset.isSome = true) (ht : b.playedAt = some t) (ht' : t.offset.isSome = true) :
    sameListen? a b = sameListen? b a ↔ (content? a b = .ok true →
      (Between (s.gap t) → a.isCoarse = b.isCoarse)
        ∧ (¬ a.Reaches (s.gap t) → ¬ b.Reaches (s.gap t) → (a.Answers t ↔ b.Answers s))) := by
  have hcomm := content?_comm ha hb
  rw [← reaches_iff_reaches]
  cases hcontent : content? a b with
  | error e =>
    rw [content?_of_typed ha hb] at hcontent
    exact nomatch hcontent
  | ok same =>
    cases same with
    | false =>
      refine iff_of_true ?_ fun h => nomatch h
      unfold sameListen?
      rw [← hcomm, hcontent]
      rfl
    | true =>
      have hforth :=
        sameListen?_cases ha hb hs ht (Instant.comparable_of_isSome hs' ht') hcontent
      have hback := sameListen?_cases hb ha ht hs (Instant.comparable_of_isSome ht' hs')
        (hcomm ▸ hcontent)
      rw [t.gap_comm s] at hback
      rcases hforth with ⟨ha₁, h₁⟩ | ⟨ha₁, ha₂, h₁⟩ | ⟨ha₁, ha₂, h₁⟩ <;>
        rcases hback with ⟨hb₁, h₂⟩ | ⟨hb₁, hb₂, h₂⟩ | ⟨hb₁, hb₂, h₂⟩ <;>
        simp [*]

end Dated

/-- A tune that a source reports to have begun some seconds after midnight. -/
def tuneFrom (source : String) (seconds : Int) : Play where
  title := .text "Tune"
  playedAt := some ⟨seconds * Instant.second, some 0⟩
  source := .text source

theorem typed_tuneFrom (source : String) (seconds : Int) : (tuneFrom source seconds).Typed where
  title := rfl
  artists := fun _ h => absurd h List.not_mem_nil
  album := rfl
  duration := rfl
  source := rfl
  trackId := rfl

/-- **Half a minute apart**, two sources that tell the minute only agree about a
tune; one that does and one that does not disagree. -/
theorem sameListen?_swap_iff_tuneFrom :
    sameListen? (tuneFrom "ytmusic" 0) (tuneFrom "subsonic" 30)
        = sameListen? (tuneFrom "subsonic" 30) (tuneFrom "ytmusic" 0)
      ∧ sameListen? (tuneFrom "ytmusic" 0) (tuneFrom "lastfm" 30)
        ≠ sameListen? (tuneFrom "lastfm" 30) (tuneFrom "ytmusic" 0) := by
  refine ⟨?_, fun h => ?_⟩
  · refine (sameListen?_swap_iff (typed_tuneFrom _ _) (typed_tuneFrom _ _) rfl rfl rfl rfl).mpr
      fun _ => ⟨fun _ => by decide, fun _ _ => ?_⟩
    exact iff_of_true ⟨none, rfl⟩ ⟨none, rfl⟩
  · obtain ⟨hcoarse, -⟩ := (sameListen?_swap_iff (typed_tuneFrom _ _) (typed_tuneFrom _ _)
      rfl rfl rfl rfl).mp h (content?_of_typed (typed_tuneFrom _ _) (typed_tuneFrom _ _))
    revert hcoarse
    unfold Between
    decide +kernel

/-- **Whether two dated plays are one listen depends on which one came first.** -/
theorem not_forall_sameListen?_swap :
    ¬ ∀ a b : Play, a.Typed → b.Typed →
        (∃ s, a.playedAt = some s ∧ s.offset.isSome = true) →
        (∃ t, b.playedAt = some t ∧ t.offset.isSome = true) →
        sameListen? a b = sameListen? b a := by
  intro hall
  have hsame := congrArg Except.toOption (hall (tuneFrom "ytmusic" 0) (tuneFrom "lastfm" 30)
    (typed_tuneFrom _ _) (typed_tuneFrom _ _) ⟨_, rfl, rfl⟩ ⟨_, rfl, rfl⟩)
  revert hsame
  decide +kernel

end Match

end Listening
