import Listening.Proofs.MatchSymmetry
import Listening.Proofs.WholeNumberSigns

/-!
# Ranges that end before they start

A range is built forward: its last observation is not before its first. Of what
changes a range afterwards, `setStop?` asks for that, and so a last observation
that is too early is refused, and the range stays as it was. `setStart` does not
ask. It takes any first observation, and one that is after the last turns the
range around: it covers a negative time.

So a range stays forward through a row of calls exactly as long as every new start
comes in time (`isForward_iff_startsInTime`). Nothing else spoils it – no clock
that goes back, no observation of which the time is missing, and no position.
-/

namespace Listening

/-- **Whether one time is not after another**, with which it can be compared. -/
structure Instant.NotAfter (a b : Instant) : Prop where
  /-- Both have an offset, or none. -/
  comparable : comparable a b = true
  /-- The first is the earlier one, or they are the same. -/
  le : a.micros ≤ b.micros

namespace Instant

/-- Whether two instants can be compared does not depend on their order. -/
theorem comparable_comm (a b : Instant) : comparable a b = comparable b a :=
  Bool.beq_comm

/-- What is not after another time is what the other one is not before. -/
theorem before?_eq_ok_false_iff {a b : Instant} : b.before? a = .ok false ↔ a.NotAfter b := by
  unfold before?
  rw [comparable_comm b a]
  constructor
  · intro h
    split at h
    · next hcomparable =>
      exact ⟨hcomparable, Int.not_lt.mp (of_decide_eq_false (Except.ok.inj h))⟩
    · exact nomatch h
  · rintro ⟨hcomparable, hle⟩
    rw [if_pos hcomparable, decide_eq_false (Int.not_lt.mpr hle)]

/-- No time is after itself. -/
theorem NotAfter.rfl {a : Instant} : a.NotAfter a := ⟨beq_self_eq_true _, Int.le_refl _⟩

instance (a b : Instant) : Decidable (a.NotAfter b) :=
  decidable_of_iff (comparable a b = true ∧ a.micros ≤ b.micros)
    ⟨fun h => ⟨h.1, h.2⟩, fun h => ⟨h.comparable, h.le⟩⟩

end Instant

namespace Range

/-- **Whether a range does not end before it starts.** -/
def IsForward (r : Range) : Prop := r.start.time.NotAfter r.stop.time

instance (r : Range) : Decidable r.IsForward :=
  inferInstanceAs (Decidable (r.start.time.NotAfter r.stop.time))

/-- **What a range is built of**: one observation, or two. -/
inductive Built : Range → Prop where
  /-- It is opened with its first observation. -/
  | opened (o : Observation) (drift : Float) (origin : Option Origin) :
      Built (.opened o drift origin)
  /-- It lies between two. -/
  | between {start stop : Observation} {drift : Float} {r : Range}
      (h : between? start stop drift = .ok r) : Built r

/-- **A range is built forward.** -/
theorem Built.isForward {r : Range} (h : r.Built) : r.IsForward := by
  cases h with
  | opened o drift origin => exact .rfl
  | between h =>
    obtain ⟨early, hearly, h⟩ := exists_of_bind_eq_ok h
    cases early with
    | true => exact nomatch h
    | false =>
      obtain rfl := Except.ok.inj h
      exact Instant.before?_eq_ok_false_iff.mp hearly

/-! ## What a range covers -/

/-- A range is forward if its ends can be compared, and it does not cover less than
no time. -/
theorem isForward_iff_wallclock? {r : Range} :
    r.IsForward ↔ ∃ span, r.wallclock? = .ok span ∧ 0 ≤ span := by
  unfold wallclock? Instant.minus? Instant.minus
  rw [Instant.comparable_comm]
  constructor
  · rintro ⟨hcomparable, hle⟩
    exact ⟨_, if_pos hcomparable, Int.sub_nonneg.mpr hle⟩
  · rintro ⟨span, hspan, hnonneg⟩
    split at hspan
    · next hcomparable =>
      obtain rfl := Except.ok.inj hspan
      exact ⟨hcomparable, Int.sub_nonneg.mp hnonneg⟩
    · exact nomatch hspan

/-! ## One call -/

/-- A last observation is accepted if it is not before the first. -/
theorem setStop?_of_notAfter {r : Range} {o : Observation} (h : r.start.time.NotAfter o.time) :
    r.setStop? o = .ok { r with stop := o } := by
  unfold setStop?
  rw [Instant.before?_eq_ok_false_iff.mpr h]
  rfl

/-- A last observation is refused if it is too early, or of another kind. -/
theorem setStop?_of_not_notAfter {r : Range} {o : Observation}
    (h : ¬ r.start.time.NotAfter o.time) :
    (o.time.before? r.start.time = .ok true ∧ r.setStop? o = .error .endsBeforeStart)
      ∨ o.time.before? r.start.time = .error .mixedTimes
      ∧ r.setStop? o = .error .mixedTimes := by
  unfold setStop?
  cases hbefore : o.time.before? r.start.time with
  | ok early =>
    cases early with
    | true => exact Or.inl ⟨rfl, rfl⟩
    | false => exact absurd (Instant.before?_eq_ok_false_iff.mp hbefore) h
  | error e =>
    obtain rfl := Match.before?_eq_error hbefore
    exact Or.inr ⟨rfl, rfl⟩

/-- A last observation that is accepted is the last one now. -/
theorem perform_setStop_of_ok {r r' : Range} {now : Instant} {told : Told}
    (h : r.setStop? (told.observed now) = .ok r') :
    r.perform now (.setStop told) = .ok () r' := by
  simp only [perform, h]

/-- A last observation that is refused is forgotten. -/
theorem perform_setStop_of_error {r : Range} {now : Instant} {told : Told} {f : Fault}
    (h : r.setStop? (told.observed now) = .error f) :
    r.perform now (.setStop told) = .fail f r := by
  simp only [perform, h]

/-- **Whether a call comes in time**: a first observation is not after the last one.
This is not asked of other calls. -/
def Call.InTime (now : Instant) (r : Range) : Call → Prop
  | .setStart told => (told.observed now).time.NotAfter r.stop.time
  | .setStop _ => True
  | .finalize _ => True

/-- **A call leaves a forward range forward exactly if it comes in time.** -/
theorem isForward_perform_iff {r : Range} (h : r.IsForward) (now : Instant) (call : Call) :
    (r.perform now call).state.IsForward ↔ call.InTime now r := by
  cases call with
  | setStart told => exact Iff.rfl
  | setStop told =>
    refine iff_of_true ?_ trivial
    by_cases htime : r.start.time.NotAfter (told.observed now).time
    · rw [perform_setStop_of_ok (setStop?_of_notAfter htime)]
      exact htime
    · rcases setStop?_of_not_notAfter htime with ⟨-, hrefused⟩ | ⟨-, hrefused⟩
      all_goals
        rw [perform_setStop_of_error hrefused]
        exact h
  | finalize position =>
    refine iff_of_true ?_ trivial
    cases position <;> exact h

/-- **A call that fails leaves the range as it was.** It has set a last observation
that is before the first one, or cannot be compared with it. -/
theorem perform_eq_error {r : Range} {now : Instant} {call : Call} {f : Fault}
    (h : (r.perform now call).result = .error f) :
    (r.perform now call).state = r ∧ ∃ told, call = .setStop told
      ∧ (((told.observed now).time.before? r.start.time = .ok true ∧ f = .endsBeforeStart)
        ∨ (told.observed now).time.before? r.start.time = .error .mixedTimes
          ∧ f = .mixedTimes) := by
  cases call with
  | setStart told => exact nomatch h
  | setStop told =>
    by_cases htime : r.start.time.NotAfter (told.observed now).time
    · rw [perform_setStop_of_ok (setStop?_of_notAfter htime)] at h
      exact nomatch h
    · rcases setStop?_of_not_notAfter htime with ⟨hbefore, hrefused⟩ | ⟨hbefore, hrefused⟩
      all_goals
        rw [perform_setStop_of_error hrefused] at h ⊢
        obtain rfl := Except.error.inj h
      · exact ⟨rfl, told, rfl, Or.inl ⟨hbefore, rfl⟩⟩
      · exact ⟨rfl, told, rfl, Or.inr ⟨hbefore, rfl⟩⟩
  | finalize position => exact nomatch h

/-! ## Rows of calls -/

/-- **The range after a row of calls**, each at its time. A call that fails does
not keep the next one from being made. -/
def performAll (r : Range) (calls : List (Instant × Call)) : Range :=
  calls.foldl (fun r c => (r.perform c.1 c.2).state) r

/-- **Whether every start is set in time**, as a row of calls goes on. -/
def StartsInTime (r : Range) : List (Instant × Call) → Prop
  | [] => True
  | (now, call) :: rest => call.InTime now r ∧ StartsInTime (r.perform now call).state rest

/-- What is true all along a row of calls is true before it, and all along the rest. -/
theorem forall_prefix_cons {P : Range → Prop} {r : Range} {c : Instant × Call}
    {rest : List (Instant × Call)} :
    (∀ done, done <+: c :: rest → P (r.performAll done))
      ↔ P r ∧ ∀ done, done <+: rest → P ((r.perform c.1 c.2).state.performAll done) := by
  constructor
  · intro h
    refine ⟨h [] List.nil_prefix, fun done hdone => h (c :: done) ?_⟩
    exact List.cons_prefix_cons.mpr ⟨rfl, hdone⟩
  · rintro ⟨hfirst, hrest⟩ done hdone
    rcases List.prefix_cons_iff.mp hdone with rfl | ⟨done', rfl, hdone'⟩
    · exact hfirst
    · exact hrest done' hdone'

/-- **A forward range stays forward as long as every start is set in time.** -/
theorem isForward_iff_startsInTime {r : Range} (h : r.IsForward)
    (calls : List (Instant × Call)) :
    (∀ done, done <+: calls → (r.performAll done).IsForward) ↔ r.StartsInTime calls := by
  induction calls generalizing r with
  | nil =>
    refine iff_of_true (fun done hdone => ?_) trivial
    obtain rfl := List.prefix_nil.mp hdone
    exact h
  | cons c rest ih =>
    have hstep := isForward_perform_iff h c.1 c.2
    rw [forall_prefix_cons]
    constructor
    · rintro ⟨-, hrest⟩
      have hforward := hrest [] List.nil_prefix
      exact ⟨hstep.mp hforward, (ih hforward).mp hrest⟩
    · rintro ⟨hintime, hrest⟩
      exact ⟨h, (ih (hstep.mpr hintime)).mpr hrest⟩

/-- **Which calls keep the end of a range behind its start**, and its length from
being negative: exactly those that set every start in time. A call that fails
changes nothing, of any range. -/
theorem endsLast_iff {r : Range} (h : r.Built) (calls : List (Instant × Call)) :
    ((∀ done, done <+: calls → (r.performAll done).IsForward
        ∧ ∃ span, (r.performAll done).wallclock? = .ok span ∧ ¬ Instant.seconds span < 0)
      ↔ r.StartsInTime calls)
    ∧ ∀ (s : Range) now call f, (s.perform now call).result = .error f →
      (s.perform now call).state = s ∧ ∃ told, call = .setStop told
        ∧ (((told.observed now).time.before? s.start.time = .ok true ∧ f = .endsBeforeStart)
          ∨ (told.observed now).time.before? s.start.time = .error .mixedTimes
            ∧ f = .mixedTimes) := by
  refine ⟨?_, fun s now call f => perform_eq_error⟩
  rw [← isForward_iff_startsInTime h.isForward]
  refine forall_congr' fun done => imp_congr_right fun _ =>
    and_iff_left_of_imp fun hforward => ?_
  obtain ⟨span, hspan, hnonneg⟩ := isForward_iff_wallclock?.mp hforward
  exact ⟨span, hspan, Number.not_seconds_lt_zero hnonneg⟩

/-- What is seen of a track so many seconds after noon, if it began at noon. -/
def seenAfter (seconds : Int) : Observation where
  time := ⟨1714564800 * Instant.second + seconds * Instant.second, some 0⟩

/-- Ten seconds from noon on. -/
def tenSeconds : Range := { start := seenAfter 0, stop := seenAfter 10 }

theorem built_tenSeconds : tenSeconds.Built := by
  have h : between? (seenAfter 0) (seenAfter 10) defaultDrift = .ok tenSeconds := rfl
  exact .between h

/-- **Calls that set every start in time**, though the clock goes back: an end
before noon is refused; a start without a time is set five seconds after noon; an
end without a time is refused four seconds after noon; a position settles the rest. -/
def timelyCalls : List (Instant × Call) :=
  [((seenAfter 12).time, .setStop (.whole (seenAfter (-60)))),
    ((seenAfter 5).time, .setStart (.parts none (some 5) none)),
    ((seenAfter 4).time, .setStop (.parts none (some 9) none)),
    ((seenAfter 4).time, .finalize (some 10))]

/-- The range stays forward, and a refused end leaves it alone. -/
theorem endsLast_tenSeconds :
    tenSeconds.Built
      ∧ (∀ done, done <+: timelyCalls → (tenSeconds.performAll done).IsForward
        ∧ ∃ span, (tenSeconds.performAll done).wallclock? = .ok span
        ∧ ¬ Instant.seconds span < 0)
      ∧ (tenSeconds.perform (seenAfter 12).time (.setStop (.whole (seenAfter (-60))))).result
        = .error .endsBeforeStart
      ∧ (tenSeconds.perform (seenAfter 12).time (.setStop (.whole (seenAfter (-60))))).state
        = tenSeconds := by
  obtain ⟨hforward, hfailed⟩ := endsLast_iff built_tenSeconds timelyCalls
  refine ⟨built_tenSeconds, hforward.mpr ⟨trivial, ?_, trivial, trivial, trivial⟩, rfl, ?_⟩
  · show Instant.NotAfter _ _
    decide +kernel
  · exact (hfailed tenSeconds _ (.setStop (.whole (seenAfter (-60)))) .endsBeforeStart rfl).1

/-- A start is set twenty seconds after noon. -/
def lateCall : Instant × Call := ((seenAfter 20).time, .setStart (.whole (seenAfter 20)))

/-- **A start that is set too late is accepted**, and the range ends before it
starts: it covers ten seconds less than none. -/
theorem not_forall_isForward :
    ¬ (∀ (r : Range) (calls : List (Instant × Call)), r.Built →
        ∀ done, done <+: calls → (r.performAll done).IsForward)
      ∧ (tenSeconds.perform lateCall.1 lateCall.2).result = .ok ()
      ∧ ¬ (tenSeconds.performAll [lateCall]).IsForward
      ∧ (tenSeconds.performAll [lateCall]).wallclock? = .ok (-10 * Instant.second)
      ∧ Instant.seconds (-10 * Instant.second) < 0 := by
  have hlate : ¬ (tenSeconds.performAll [lateCall]).IsForward := by decide +kernel
  refine ⟨fun h => hlate (h tenSeconds _ built_tenSeconds _ List.prefix_rfl), rfl,
    hlate, rfl, ?_⟩
  decide +kernel

end Range

end Listening
