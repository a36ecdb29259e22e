import Listening.Proofs.FlappingSources
import Listening.Proofs.ListEvaluation

/-!
# Lists that are remembered

A history remembers the lists it has accepted last, by what was played. Where
no length is what is no number, a list that is returned once more is found
among them, and brings nothing.

Nowhere is it checked that no list is remembered twice, and nowhere that the
list known is the one remembered last: both come from the order in which a
look asks its questions. `Look` is the inversion of one look – the list is
like the known one, or refused at whatever time, or accepted, or the look
fails over its time – and a list that may be accepted is none of those
remembered. `Remembers` is what this keeps: the lists remembered are the last
ones of all those accepted, each once. That is said of a whole run, together
with the lists accepted in it, by `Accepted`.
-/

namespace Listening

namespace History

variable {h : History} {known candidate fetched : List Play} {now : Instant}

/-! ## Identities that can be found again -/

/-- Identities of comparable plays agree with themselves. -/
theorem isDefined_of_comparable (hcomparable : ∀ p ∈ candidate, p.Comparable) :
    ∀ i ∈ Play.identities candidate, i.isDefined = true := fun i hi => by
  obtain ⟨p, hp, rfl⟩ := List.mem_map.mp hi
  exact (hcomparable p hp).isDefined

/-- A list is an earlier one exactly if it is remembered, but not as the last
one. -/
theorem isEarlier_identities_iff (hcomparable : ∀ p ∈ candidate, p.Comparable) :
    h.isEarlier (Play.identities candidate) = true
      ↔ Play.identities candidate ∈ h.seen.dropLast :=
  contains_identities_of_isDefined (isDefined_of_comparable hcomparable)

/-! ## What a look comes to -/

/-- **What a look at a list comes to.** -/
inductive Look (h : History) (candidate : List Play) (now : Instant)
    (look : Instant → Step History Finding) : Prop where
  /-- The list is like the known one, and only the time is noted down. -/
  | same (finding : Finding) (noted : look now = .ok finding { h with observedAt := some now })
      (nothing : finding.plays = []) (kept : finding.accepted = false)
      (isSeen : Play.identities candidate ∈ h.seen)
  /-- It is refused, as it would be at any other time. -/
  | refused (finding : Finding) (always : ∀ t, look t = .ok finding h)
      (nothing : finding.plays = []) (kept : finding.accepted = false)
  /-- It is accepted, and was not remembered. -/
  | accepted (taken : ∃ finding, look now = .ok finding (h.afterAccepting candidate now)
      ∧ finding.accepted = true) (isNew : Play.identities candidate ∉ h.seen)
  /-- The look fails, as it is made at a time that cannot be compared with that
  of the last one. -/
  | failed (e : Fault) (fails : look now = .fail e h)
      (clock : ∃ t, h.observedAt = some t ∧ Instant.comparable now t = false)
      (isNew : Play.identities candidate ∉ h.seen)

section Looks

variable (hcandidate : ∀ p ∈ candidate, p.Typed) (hnew : Play.identities candidate ∉ h.seen)
include hcandidate hnew

/-- **A clean addition** is accepted, unless the time since the last look
cannot be told. -/
theorem look_grown (growth : Growth) (entries : List ListDiff.Entry) (now : Instant) :
    Look h candidate now (fun t => h.grown growth entries candidate t) := by
  by_cases hontop : growth.isPrepend = true
  · cases hplays : h.unskipped? (growth.plays candidate) now with
    | ok plays =>
      refine .accepted ?_ hnew
      unfold grown
      rw [if_pos hontop, hplays, Step.of_ok, Step.andThen_ok, accept_of_typed h hcandidate now]
      exact ⟨_, rfl, rfl⟩
    | error e =>
      refine .failed e ?_ ?_ hnew
      · unfold grown
        rw [if_pos hontop, hplays]
        rfl
      · by_contra hclock
        obtain ⟨plays, hplays', -⟩ := exists_unskipped? (typed_plays_growth hcandidate growth)
          (fun t ht => (Bool.not_eq_false _).mp fun he => hclock ⟨t, ht, he⟩)
        exact nomatch hplays.symm.trans hplays'
  · refine .accepted ?_ hnew
    unfold grown
    rw [if_neg hontop, accept_of_typed h hcandidate now]
    exact ⟨_, rfl, rfl⟩

/-- **A single move** is accepted. -/
theorem look_bumped (bump : Bump) (entries : List ListDiff.Entry) (now : Instant) :
    Look h candidate now (fun t => h.bumped bump entries candidate t) := by
  refine .accepted ?_ hnew
  unfold bumped
  rw [accept_of_typed h hcandidate now, Step.andThen_ok]
  split <;> exact ⟨_, rfl, rfl⟩

/-- **A list that is out of order** is accepted, unless plays are missing. -/
theorem look_jumbled (d : ListDiff) (shrunk : Bool) (now : Instant) :
    Look h candidate now (fun t => h.jumbled d shrunk candidate t) := by
  cases shrunk with
  | true => exact .refused _ (fun _ => rfl) rfl rfl
  | false =>
    refine .accepted ?_ hnew
    unfold jumbled
    rw [if_neg Bool.false_ne_true, accept_of_typed h hcandidate now]
    exact ⟨_, rfl, rfl⟩

/-- **A list that differs from the known one and is not remembered.** -/
theorem look_changed (hold : ∀ p ∈ known, p.Typed) (d : ListDiff) (now : Instant) :
    Look h candidate now (fun t => h.changed known candidate d t) := by
  unfold changed
  dsimp only
  split
  · exact .refused _ (fun _ => rfl) rfl rfl
  · rw [Growth.ofPlays?_of_typed hold hcandidate, Bump.ofPlays?_of_typed hold hcandidate]
    simp only [Step.of_ok, Step.andThen_ok]
    split
    · exact look_grown hcandidate hnew _ _ now
    · split
      · exact look_bumped hcandidate hnew _ _ now
      · exact look_jumbled hcandidate hnew _ _ now

end Looks

/-! ## What is remembered -/

/-- **What a history remembers** that has accepted some lists. -/
structure Remembers (memory : Int) (h : History) (lists : List (List Play)) : Prop where
  /-- It remembers as many lists as it was told to. -/
  memory : h.memory = memory
  /-- It knows the last one. -/
  known : h.known = lists.getLast?
  /-- It remembers the last ones. -/
  seen : h.seen = Window.lastOf h.capacity (lists.map Play.identities)
  /-- It remembers each of them once. -/
  distinct : h.seen.Nodup
  /-- Their plays can be compared. -/
  comparable : ∀ list ∈ lists, ∀ p ∈ list, p.Comparable

theorem capacity_pos (h : History) : 0 < h.capacity :=
  Nat.lt_of_lt_of_le (by decide) (Nat.le_max_left 2 _)

section Remembers

variable {memory : Int} {lists : List (List Play)}

/-- What is known was accepted. -/
theorem Remembers.comparable_known (r : Remembers memory h lists)
    (hknown : h.known = some known) :
    ∀ p ∈ known, p.Comparable :=
  r.comparable known (List.mem_of_getLast? (r.known.symm.trans hknown))

/-- What is known is what is remembered last. -/
theorem Remembers.getLast?_seen (r : Remembers memory h lists) (hknown : h.known = some known) :
    h.seen.getLast? = some (Play.identities known) := by
  rw [r.seen, Window.getLast?_lastOf h.capacity_pos, List.getLast?_map, ← r.known, hknown]
  rfl

/-- **A list that is neither the known one nor an earlier one** is not
remembered at all, as the one remembered last is the known one. -/
theorem Remembers.notMem_seen (r : Remembers memory h lists) (hknown : h.known = some known)
    (hcandidate : ∀ p ∈ candidate, p.Comparable)
    (hother : (Play.identities known == Play.identities candidate) = false)
    (hunseen : h.isEarlier (Play.identities candidate) = false) :
    Play.identities candidate ∉ h.seen := by
  intro hmem
  rw [← List.dropLast_append_getLast? _ (r.getLast?_seen hknown)] at hmem
  rcases List.mem_append.mp hmem with hearlier | hlast
  · rw [(isEarlier_identities_iff hcandidate).mpr hearlier] at hunseen
    exact nomatch hunseen
  · have halike := (beq_identities_of_isDefined (isDefined_of_comparable
      (r.comparable_known hknown))).mpr (List.mem_singleton.mp hlast).symm
    exact nomatch hother.symm.trans halike

/-- Nothing is remembered exactly as long as nothing is known. -/
theorem Remembers.seen_eq_nil_iff (r : Remembers memory h lists) :
    h.seen = [] ↔ h.known = none := by
  rw [r.seen, Window.lastOf_eq_nil_iff h.capacity_pos, List.map_eq_nil_iff, r.known,
    List.getLast?_eq_none_iff]

/-- A list accepted not too long ago is remembered. -/
theorem Remembers.mem_seen (r : Remembers memory h lists) {before after : List (List Play)}
    {list : List Play} (hlists : lists = before ++ list :: after)
    (hafter : after.length < h.capacity) : Play.identities list ∈ h.seen := by
  have hidentities : lists.map Play.identities
      = before.map Play.identities ++ Play.identities list :: after.map Play.identities := by
    rw [hlists, List.map_append, List.map_cons]
  rw [r.seen]
  exact Window.mem_lastOf hidentities (by rwa [List.length_map])

/-- **A list that is accepted is remembered**, and is the one known. -/
theorem Remembers.afterAccepting (r : Remembers memory h lists)
    (hcandidate : ∀ p ∈ candidate, p.Comparable) (hnew : Play.identities candidate ∉ h.seen)
    (now : Instant) :
    Remembers memory (h.afterAccepting candidate now) (lists ++ [candidate]) where
  memory := r.memory
  known := List.getLast?_concat.symm
  seen := by
    show Window.lastOf h.capacity (h.seen ++ [_]) = Window.lastOf h.capacity _
    rw [r.seen, Window.lastOf_lastOf_append, List.map_append]
    rfl
  distinct := by
    have hall : (h.seen ++ [Play.identities candidate]).Nodup :=
      List.nodup_append.mpr ⟨r.distinct, List.nodup_singleton _, fun a ha b hb => by
        rw [List.mem_singleton.mp hb]
        exact fun he => hnew (he ▸ ha)⟩
    exact hall.sublist (List.drop_sublist _ _)
  comparable := fun list hlist => by
    rcases List.mem_append.mp hlist with hlist | hlist
    · exact r.comparable list hlist
    · obtain rfl := List.mem_singleton.mp hlist
      exact hcandidate

/-- A history that has just forgotten what it knew remembers nothing. -/
theorem Remembers.blank (r : Remembers memory h lists) :
    Remembers memory { h with known := none, seen := [] } [] where
  memory := r.memory
  known := rfl
  seen := List.drop_nil.symm
  distinct := List.nodup_nil
  comparable := fun _ hlist => absurd hlist List.not_mem_nil

/-- **Every look** at a list of comparable plays is one of these four. -/
theorem Remembers.look (r : Remembers memory h lists) (hfetched : ∀ p ∈ fetched, p.Comparable)
    (now : Instant) : Look h (h.ordered fetched) now (h.evaluate fetched) := by
  have htyped : ∀ p ∈ fetched, p.Typed := fun p hp => (hfetched p hp).toTyped
  have hcandidate : ∀ p ∈ h.ordered fetched, p.Comparable :=
    fun p hp => hfetched p (mem_ordered.mp hp)
  have hcandidate' : ∀ p ∈ h.ordered fetched, p.Typed := fun p hp => (hcandidate p hp).toTyped
  cases hknown : h.known with
  | none =>
    refine .accepted ?_ ?_
    · unfold evaluate
      simp only [hknown, accept_of_typed h hcandidate' now, Step.andThen_ok]
      exact ⟨_, rfl, rfl⟩
    · rw [r.seen_eq_nil_iff.mpr hknown]
      exact List.not_mem_nil
  | some known =>
    have hold : ∀ p ∈ known, p.Typed := fun p hp => (r.comparable_known hknown p hp).toTyped
    cases halike : Play.identities known == Play.identities (h.ordered fetched) with
    | true =>
      obtain ⟨finding, hnothing, hkept, hlook⟩ := evaluate_of_alike hknown hold htyped halike now
      have hseen : Play.identities (h.ordered fetched) ∈ h.seen := by
        rw [← (beq_identities_iff.mp halike).1]
        exact List.mem_of_getLast? (r.getLast?_seen hknown)
      exact .same finding hlook hnothing hkept hseen
    | false =>
      have hlook := fun t => evaluate_of_other hknown hold htyped halike t
      cases hearlier : h.isEarlier (Play.identities (h.ordered fetched)) with
      | true =>
        exact .refused _ (fun t => (hlook t).trans (if_pos hearlier)) rfl rfl
      | false =>
        have hnew := r.notMem_seen hknown hcandidate halike hearlier
        have heq : h.evaluate fetched = fun t => h.changed known (h.ordered fetched)
            (ListDiff.ofKeys (Play.identities known) (Play.identities (h.ordered fetched))) t :=
          funext fun t => evaluate_of_changed hknown hold htyped halike hearlier t
        rw [heq]
        exact look_changed hcandidate' hnew hold _ now

/-- **No look fails** at a time that can be compared with that of the last
one. -/
theorem Remembers.exists_evaluate (r : Remembers memory h lists)
    (hfetched : ∀ p ∈ fetched, p.Comparable)
    (hclock : ∀ t, h.observedAt = some t → Instant.comparable now t = true) :
    ∃ finding h', h.evaluate fetched now = .ok finding h' := by
  cases r.look hfetched now with
  | same finding noted nothing kept isSeen => exact ⟨finding, _, noted⟩
  | refused finding always nothing kept => exact ⟨finding, _, always now⟩
  | accepted taken isNew =>
    obtain ⟨finding, hlook, -⟩ := taken
    exact ⟨finding, _, hlook⟩
  | failed e fails clock isNew =>
    obtain ⟨t, ht, hincomparable⟩ := clock
    exact nomatch hincomparable.symm.trans (hclock t ht)

/-! ## Lists that come back -/

/-- **A look that brings nothing**: it does not fail, nothing is new, and what
is known stays. -/
def BringsNothing (h : History) (fetched : List Play) (now : Instant) : Prop :=
  ∃ finding h', h.evaluate fetched now = .ok finding h' ∧ finding.plays = [] ∧ h'.known = h.known

/-- **A list that is remembered brings nothing**, in whatever place it is
remembered. -/
theorem Remembers.bringsNothing (r : Remembers memory h lists)
    (hfetched : ∀ p ∈ fetched, p.Comparable)
    (hseen : Play.identities (h.ordered fetched) ∈ h.seen) (now : Instant) :
    h.BringsNothing fetched now := by
  cases r.look hfetched now with
  | same finding noted nothing kept isSeen => exact ⟨finding, _, noted, nothing, rfl⟩
  | refused finding always nothing kept => exact ⟨finding, h, always now, nothing, rfl⟩
  | accepted taken isNew => exact absurd hseen isNew
  | failed e fails clock isNew => exact absurd hseen isNew

/-- **The list that a look accepts**, if it accepts it. -/
def acceptedBy? (h : History) (fetched : List Play) (now : Instant) : Option (List Play) :=
  match (h.evaluate fetched now).result with
  | .ok finding => if finding.accepted then some (h.ordered fetched) else none
  | .error _ => none

theorem acceptedBy?_eq {finding : Finding} {h' : History}
    (hlook : h.evaluate fetched now = .ok finding h') :
    h.acceptedBy? fetched now = if finding.accepted then some (h.ordered fetched) else none := by
  unfold acceptedBy?
  rw [hlook, Step.result_ok]

/-- **A look keeps** what holds of the lists accepted so far. -/
theorem Remembers.looked (r : Remembers memory h lists) (hfetched : ∀ p ∈ fetched, p.Comparable)
    (now : Instant) : Remembers memory (h.evaluate fetched now).state
      (lists ++ (h.acceptedBy? fetched now).toList) := by
  cases r.look hfetched now with
  | same finding noted nothing kept isSeen =>
    rw [acceptedBy?_eq noted, kept, noted]
    rw [if_neg Bool.false_ne_true, Option.toList_none, List.append_nil]
    exact ⟨r.memory, r.known, r.seen, r.distinct, r.comparable⟩
  | refused finding always nothing kept =>
    rw [acceptedBy?_eq (always now), kept, always now]
    rw [if_neg Bool.false_ne_true, Option.toList_none, List.append_nil]
    exact r
  | accepted taken isNew =>
    obtain ⟨finding, hlook, haccepted⟩ := taken
    rw [acceptedBy?_eq hlook, haccepted, hlook]
    rw [if_pos rfl, Option.toList_some]
    exact r.afterAccepting (fun p hp => hfetched p (mem_ordered.mp hp)) isNew now
  | failed e fails clock isNew =>
    have hnone : h.acceptedBy? fetched now = none := by
      unfold acceptedBy?
      rw [fails]
      rfl
    rw [hnone, fails, Option.toList_none, List.append_nil]
    exact r

/-- **A list brings nothing right after it was looked at**, whatever has come
of it. -/
theorem Remembers.bringsNothing_again (r : Remembers memory h lists)
    (hfetched : ∀ p ∈ fetched, p.Comparable) {finding : Finding} {h' : History}
    (hlook : h.evaluate fetched now = .ok finding h') (later : Instant) :
    h'.BringsNothing fetched later := by
  have hkeeps := r.looked hfetched now
  rw [hlook, Step.state_ok] at hkeeps
  cases r.look hfetched now with
  | same finding' noted nothing kept isSeen =>
    obtain rfl : h' = { h with observedAt := some now } :=
      congrArg Step.state (hlook.symm.trans noted)
    exact hkeeps.bringsNothing hfetched isSeen later
  | refused finding' always nothing kept =>
    obtain rfl : h' = h := congrArg Step.state (hlook.symm.trans (always now))
    exact ⟨finding', h', always later, nothing, rfl⟩
  | accepted taken isNew =>
    obtain ⟨finding', hlook', -⟩ := taken
    obtain rfl : h' = h.afterAccepting (h.ordered fetched) now :=
      congrArg Step.state (hlook.symm.trans hlook')
    have hnewest : h.seen ++ [Play.identities (h.ordered fetched)]
        = h.seen ++ Play.identities (h.ordered fetched) :: [] := rfl
    exact hkeeps.bringsNothing hfetched (Window.mem_lastOf hnewest h.capacity_pos) later
  | failed e fails clock isNew => exact absurd (fails.symm.trans hlook) Step.fail_ne_ok

end Remembers

/-! ## Whole runs -/

/-- **A history, and the lists it has accepted** since it was taken up new or
begun anew, the last one last. Any lists of comparable plays may have been
looked at, at any times. -/
inductive Accepted (memory : Int) : History → List (List Play) → Prop where
  /-- One that knows nothing yet. -/
  | fresh (newestFirst : Bool) (tolerance : Float) :
      Accepted memory { newestFirst, memory, tolerance } []
  /-- One that has looked at a list. -/
  | looked {h : History} {lists : List (List Play)} (run : Accepted memory h lists)
      {fetched : List Play} (comparable : ∀ p ∈ fetched, p.Comparable) (now : Instant) :
      Accepted memory (h.evaluate fetched now).state
        (lists ++ (h.acceptedBy? fetched now).toList)
  /-- One that was begun anew with a list. -/
  | restored {h : History} {lists : List (List Play)} (run : Accepted memory h lists)
      {plays : List Play} (comparable : ∀ p ∈ plays, p.Comparable) (observedAt : Instant) :
      Accepted memory (h.restore plays observedAt).state [h.ordered plays]

section Runs

variable {memory : Int} {lists : List (List Play)}

/-- **Whatever was looked at**, the lists accepted last are remembered. -/
theorem Accepted.remembers (run : Accepted memory h lists) : Remembers memory h lists := by
  induction run with
  | fresh newestFirst tolerance =>
    exact ⟨rfl, rfl, List.drop_nil.symm, List.nodup_nil,
      fun _ hlist => absurd hlist List.not_mem_nil⟩
  | looked run comparable now ih => exact ih.looked comparable now
  | @restored h lists run plays comparable observedAt ih =>
    have hplays : ∀ p ∈ h.ordered plays, p.Comparable :=
      fun p hp => comparable p (mem_ordered.mp hp)
    unfold restore
    rw [accept_of_typed _ (fun p hp => (hplays p hp).toTyped), Step.state_ok]
    exact ih.blank.afterAccepting hplays List.not_mem_nil observedAt

/-- **A list that is remembered never discovers anything again.** Of whatever
was looked at, at whatever times: the lists remembered are all different and
no more than there is room for, there are none exactly if no list is known,
and the last one is the known one. So a list that was accepted, and after which
fewer lists were accepted than there is room for, brings nothing when it is
returned once more; nor does any list that is looked at twice in a row. A look
at a time that can be compared with that of the last one never fails. -/
theorem Accepted.remembered_bringsNothing (run : Accepted memory h lists) :
    h.seen.Nodup ∧ h.seen.length ≤ max 2 memory.toNat ∧ (h.seen = [] ↔ h.known = none)
    ∧ (∀ known, h.known = some known →
        ∃ signature, signature? known = .ok signature ∧ h.seen.getLast? = some signature)
    ∧ (∀ before list after, lists = before ++ list :: after →
        after.length < max 2 memory.toNat →
        ∀ fetched, (∀ p ∈ fetched, p.Comparable) →
          signature? (h.ordered fetched) = signature? list →
          ∀ now, h.BringsNothing fetched now)
    ∧ (∀ fetched, (∀ p ∈ fetched, p.Comparable) →
        ∀ now finding h', h.evaluate fetched now = .ok finding h' →
          ∀ later, h'.BringsNothing fetched later)
    ∧ (∀ fetched, (∀ p ∈ fetched, p.Comparable) →
        ∀ now, (∀ t, h.observedAt = some t → Instant.comparable now t = true) →
          ∃ finding h', h.evaluate fetched now = .ok finding h') := by
  have r := run.remembers
  have hcapacity : h.capacity = max 2 memory.toNat := by rw [capacity, r.memory]
  have hsignature : ∀ {plays : List Play}, (∀ p ∈ plays, p.Comparable) →
      signature? plays = .ok (Play.identities plays) :=
    fun hplays => signature?_of_typed fun p hp => (hplays p hp).toTyped
  refine ⟨r.distinct, ?_, r.seen_eq_nil_iff, fun known hknown => ?_,
    fun before list after hlists hafter fetched hfetched hsame now => ?_,
    fun fetched hfetched now finding h' hlook later =>
      r.bringsNothing_again hfetched hlook later,
    fun fetched hfetched now hclock => r.exists_evaluate hfetched hclock⟩
  · rw [← hcapacity, r.seen]
    exact Window.length_lastOf_le _ _
  · exact ⟨_, hsignature (r.comparable_known hknown), r.getLast?_seen hknown⟩
  · have hlist : list ∈ lists := hlists ▸ List.mem_append_right _ List.mem_cons_self
    have hsame' : Play.identities (h.ordered fetched) = Play.identities list := by
      rw [hsignature (r.comparable list hlist),
        hsignature fun p hp => hfetched p (mem_ordered.mp hp)] at hsame
      exact Except.ok.inj hsame
    refine r.bringsNothing hfetched ?_ now
    rw [hsame']
    exact r.mem_seen hlists (hcapacity ▸ hafter)

end Runs

/-! ## Two songs -/

open ComparablePlay (plays)

/-- A history with room for two lists that was begun anew with one song. -/
def begunWithOne : History :=
  (({ memory := 0 } : History).restore (plays [song "a"]) ⟨5, some 0⟩).state

/-- A history that knows one song, once there is another one on top, at an
earlier time. -/
def onTopOfOne : History :=
  (begunWithOne.evaluate (plays [song "b", song "a"]) ⟨3, some 0⟩).state

/-- The list with only the first song comes back. -/
theorem remembered_bringsNothing_onTopOfOne :
    Accepted 0 onTopOfOne [plays [song "a"], plays [song "b", song "a"]]
    ∧ onTopOfOne.BringsNothing (plays [song "a"]) ⟨4, some 0⟩ := by
  have comparable : ∀ ps : List ComparablePlay, ∀ p ∈ plays ps, p.Comparable := fun ps p hp => by
    obtain ⟨q, -, rfl⟩ := List.mem_map.mp hp
    exact q.2
  have run₀ : Accepted 0 { memory := 0 } [] := .fresh true 10
  have run₁ : Accepted 0 begunWithOne [plays [song "a"]] :=
    run₀.restored (comparable [song "a"]) ⟨5, some 0⟩
  have hlook : begunWithOne.acceptedBy? (plays [song "b", song "a"]) ⟨3, some 0⟩
      = some (plays [song "b", song "a"]) := by
    have haccepted : ((begunWithOne.evaluate (plays [song "b", song "a"])
        ⟨3, some 0⟩).result.toOption.map Finding.accepted) = some true := by decide +kernel
    unfold acceptedBy?
    cases hresult : (begunWithOne.evaluate (plays [song "b", song "a"]) ⟨3, some 0⟩).result with
    | error e =>
      rw [hresult] at haccepted
      exact nomatch haccepted
    | ok finding =>
      rw [hresult] at haccepted
      exact if_pos (Option.some.inj haccepted)
  have run₂ : Accepted 0 onTopOfOne [plays [song "a"], plays [song "b", song "a"]] := by
    have run := run₁.looked (comparable [song "b", song "a"]) ⟨3, some 0⟩
    rw [hlook] at run
    exact run
  have hordered : onTopOfOne.ordered (plays [song "a"]) = plays [song "a"] :=
    if_pos (by decide +kernel)
  obtain ⟨-, -, -, -, hagain, -⟩ := run₂.remembered_bringsNothing
  exact ⟨run₂, hagain [] (plays [song "a"]) [plays [song "b", song "a"]] rfl (by decide)
    (plays [song "a"]) (comparable [song "a"]) (by rw [hordered]) ⟨4, some 0⟩⟩

end History

end Listening
