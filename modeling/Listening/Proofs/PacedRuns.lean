import Listening.Poller
import Listening.Recording

/-!
# Runs, poll by poll

A run polls until the sign to stop, or until the source could not be read too
often in a row. This module says which polls a run makes and what it does
between them, for every way in which polls can go well, fail to read their
source or meet a bad value (`Poller.run_account`).

What counts is how many reads have failed since the last poll that went well:
`Poller.failuresInARow` is that number, read off all results so far. A poll
that met a bad value has no part in it. The wait before the next poll goes by
this number, and so does the end of the run: a source is given up with the
first poll after which it exceeds the retries. Giving up is also the only thing
a run tells to whoever runs the program.

A run has other ends, though. A wait that is longer than any clock can show is
refused, and a factor that grows out of all bounds is a fault. What the run
says of itself may be refused by the console, too. Then the run fails, and
nobody is told (`Poller.Ends`).
-/

namespace Listening

/-! ## Pauses -/

namespace Pace

/-- Whether the wait after so many failures has grown out of all bounds. -/
def Outgrows (pace : Pace) (failures : Nat) : Prop :=
  (pace.factor.pow (Number.ofInt failures)).isInf = true ∧ pace.factor.isFinite = true

/-- There is no wait that has grown out of all bounds. -/
theorem backoff?_of_outgrows {pace : Pace} {failures : Nat} (h : pace.Outgrows failures) :
    pace.backoff? failures = .error .tooLarge := by
  unfold backoff?
  exact if_pos (by rw [h.1, h.2]; rfl)

/-- A wait within bounds is the interval times a power of the factor. -/
theorem backoff?_of_not_outgrows {pace : Pace} {failures : Nat} (h : ¬ pace.Outgrows failures) :
    pace.backoff? failures = .ok (pace.interval * pace.factor.pow (Number.ofInt failures)) := by
  unfold backoff?
  exact if_neg fun hboth => h ((Bool.and_eq_true ..).mp hboth)

end Pace

namespace Poller

/-! ## Failures in a row -/

/-- Whether a poll could not read its source. -/
def couldNotRead {α : Type} : Except Fault α → Bool
  | .ok _ => false
  | .error e => Pace.isReadFailure e

/-- **How many reads have failed since the last poll that went well**, or since
the start. -/
def failuresInARow {α : Type} (results : List (Except Fault α)) : Nat :=
  (results.reverse.takeWhile fun r => !r.isOk).countP couldNotRead

/-- After a poll that went well there are no failures in a row. -/
theorem failuresInARow_ok {α : Type} (results : List (Except Fault α)) (a : α) :
    failuresInARow (results ++ [.ok a]) = 0 := by
  unfold failuresInARow
  rw [List.reverse_append]
  rfl

/-- After a poll that did not go well there is one more failure in a row, if
reading failed. -/
theorem failuresInARow_error {α : Type} (results : List (Except Fault α)) (e : Fault) :
    failuresInARow (results ++ [.error e])
      = failuresInARow results + if Pace.isReadFailure e then 1 else 0 := by
  unfold failuresInARow
  rw [List.reverse_append]
  exact List.countP_cons ..

section Account

variable {σ ω : Type} [Host ω] (p : Poller σ ω)

/-- What the failures in a row have come to after polls in these states. -/
def failuresAfter (polls : List (State σ ω)) : Nat :=
  failuresInARow (polls.map fun s => (p.poll s).result)

section Counting

variable {p} {s : State σ ω} (polls : List (State σ ω))

/-- What one more poll brings is the last of the results. -/
theorem failuresAfter_append : p.failuresAfter (polls ++ [s])
    = failuresInARow (polls.map (fun s => (p.poll s).result) ++ [(p.poll s).result]) :=
  congrArg failuresInARow (List.map_append ..)

/-- A poll that went well clears the count. -/
theorem failuresAfter_ok {plays : List Play} (h : (p.poll s).result = .ok plays) :
    p.failuresAfter (polls ++ [s]) = 0 := by
  rw [failuresAfter_append, h, failuresInARow_ok]

/-- A read that failed counts. -/
theorem failuresAfter_read {e : Fault} (h : (p.poll s).result = .error e)
    (hread : Pace.isReadFailure e = true) :
    p.failuresAfter (polls ++ [s]) = p.failuresAfter polls + 1 := by
  rw [failuresAfter_append, h, failuresInARow_error, if_pos hread]
  rfl

/-- A fault that is no failed read leaves the count as it was. -/
theorem failuresAfter_unread {e : Fault} (h : (p.poll s).result = .error e)
    (hunread : Pace.isReadFailure e = false) :
    p.failuresAfter (polls ++ [s]) = p.failuresAfter polls := by
  rw [failuresAfter_append, h, failuresInARow_error, hunread]
  rfl

end Counting

/-! ## What is done after a poll -/

/-- **The pause after a poll** in a state, which has brought the failures in a
row to this number: how long it is to be, and the state in which it begins. -/
inductive Pause (failures : Nat) (s : State σ ω) : Float → State σ ω → Prop where
  /-- After a poll that went well, what is to be done then is done, once. -/
  | cleared (plays : List Play) (s' : State σ ω) (well : (p.poll s).result = .ok plays)
      (concluded : p.conclude (p.poll s).state = .ok () s') : Pause failures s p.pace.interval s'
  /-- After a read that failed, the pause has grown with each failure. -/
  | failed (e : Fault) (failed : (p.poll s).result = .error e)
    (read : Pace.isReadFailure e = true)
      (bounded : ¬ p.pace.Outgrows failures) :
      Pause failures s (p.pace.interval * p.pace.factor.pow (Number.ofInt failures))
        (p.poll s).state
  /-- After a bad value, the pause is the usual one. -/
  | skipped (e : Fault) (failed : (p.poll s).result = .error e)
      (unread : Pace.isReadFailure e = false) (value : e.nature.isValue = true) :
      Pause failures s p.pace.interval (p.poll s).state

/-- **A lap of a run**: a poll in one state, after those in other states, and
the pause after it. -/
structure Lap (polls : List (State σ ω)) (s next : State σ ω) : Prop where
  /-- There is no sign to stop. -/
  working : Host.isStopping s.host = false
  /-- The poll does not bring the failures in a row above the retries. -/
  allowed : (p.failuresAfter (polls ++ [s]) : Int) ≤ p.pace.retries
  /-- The pause comes to its end. -/
  waited : ∃ pause s' w, p.Pause (p.failuresAfter (polls ++ [s])) s pause s'
    ∧ Host.wait pause s'.host = .ok () w ∧ next = s'.on w

/-- **The laps of a run** from a state on: the states in which it has polled,
and the one in which it is. -/
inductive Laps (start : State σ ω) : List (State σ ω) → State σ ω → Prop where
  /-- There are none yet. -/
  | start : Laps start [] start
  /-- There is one more. -/
  | more (polls : List (State σ ω)) (s next : State σ ω) (laps : Laps start polls s)
      (lap : p.Lap polls s next) : Laps start (polls ++ [s]) next

/-- **How a run ends** that has polled in some states and is in another one, if
it may poll so many times. -/
inductive Ends (fuel : Nat) (polls : List (State σ ω)) (s : State σ ω) :
    Step (State σ ω) Ending → Prop where
  /-- It has polled as often as it may. -/
  | unfinished (used : polls.length = fuel) : Ends fuel polls s (.ok .unfinished s)
  /-- It sees the sign to stop. -/
  | stopped (left : polls.length < fuel) (stopping : Host.isStopping s.host = true) :
      Ends fuel polls s (.ok .stopped s)
  /-- It gives up, after the first poll that brings the failures in a row above
  the retries. -/
  | gaveUp (e : Fault) (w : ω) (left : polls.length < fuel)
      (working : Host.isStopping s.host = false)
      (failed : (p.poll s).result = .error e) (read : Pace.isReadFailure e = true)
      (exceeded : p.pace.retries < p.failuresAfter (polls ++ [s]))
      (told : p.giveUp (p.failuresAfter (polls ++ [s])) e (p.poll s).state.host = .ok () w) :
      Ends fuel polls s (.ok .gaveUp ((p.poll s).state.on w))
  /-- It would give up then, but cannot print that it does. -/
  | unprinted (e refusal : Fault) (w : ω) (left : polls.length < fuel)
      (working : Host.isStopping s.host = false)
      (failed : (p.poll s).result = .error e) (read : Pace.isReadFailure e = true)
      (exceeded : p.pace.retries < p.failuresAfter (polls ++ [s]))
      (refused : p.giveUp (p.failuresAfter (polls ++ [s])) e (p.poll s).state.host
        = .fail refusal w) :
      Ends fuel polls s (.fail refusal ((p.poll s).state.on w))
  /-- A poll fails by a fault that is neither a failed read nor a bad value. -/
  | broken (e : Fault) (left : polls.length < fuel) (working : Host.isStopping s.host = false)
      (failed : (p.poll s).result = .error e) (unread : Pace.isReadFailure e = false)
      (other : e.nature.isValue = false) : Ends fuel polls s (.fail e (p.poll s).state)
  /-- What is to be done after a poll that went well fails. -/
  | unconcluded (e : Fault) (plays : List Play) (s' : State σ ω) (left : polls.length < fuel)
      (working : Host.isStopping s.host = false) (well : (p.poll s).result = .ok plays)
      (failed : p.conclude (p.poll s).state = .fail e s') : Ends fuel polls s (.fail e s')
  /-- The pause has grown out of all bounds. -/
  | outgrown (e : Fault) (left : polls.length < fuel) (working : Host.isStopping s.host = false)
      (allowed : (p.failuresAfter (polls ++ [s]) : Int) ≤ p.pace.retries)
      (failed : (p.poll s).result = .error e) (read : Pace.isReadFailure e = true)
      (outgrown : p.pace.Outgrows (p.failuresAfter (polls ++ [s]))) :
      Ends fuel polls s (.fail .tooLarge (p.poll s).state)
  /-- The pause cannot be waited for. -/
  | refused (e : Fault) (pause : Float) (s' : State σ ω) (w : ω) (left : polls.length < fuel)
      (working : Host.isStopping s.host = false)
      (allowed : (p.failuresAfter (polls ++ [s]) : Int) ≤ p.pace.retries)
      (due : p.Pause (p.failuresAfter (polls ++ [s])) s pause s')
      (failed : Host.wait pause s'.host = .fail e w) : Ends fuel polls s (.fail e (s'.on w))

/-! ## One poll of a run -/

variable {p} {fuel failures : Nat} {s : State σ ω}

/-- A run without a sign to stop goes by how its poll is judged. -/
theorem loop_of_working (working : Host.isStopping s.host = false) :
    p.loop (fuel + 1) failures s
      = match p.pace.judge failures (p.poll s).result with
        | .cleared =>
          (p.conclude (p.poll s).state).andThen fun _ s =>
            ((Host.wait p.pace.interval s.host).within s.on).andThen fun _ s => p.loop fuel 0 s
        | .failed failures =>
          (Step.of (p.pace.backoff? failures) (p.poll s).state).andThen fun pause s =>
            ((Host.wait pause s.host).within s.on).andThen fun _ s => p.loop fuel failures s
        | .skipped =>
          ((Host.wait p.pace.interval (p.poll s).state.host).within (p.poll s).state.on).andThen
            fun _ s => p.loop fuel failures s
        | .exhausted failures reason =>
          ((p.giveUp failures reason (p.poll s).state.host).within (p.poll s).state.on).andThen
            fun _ s => .ok .gaveUp s
        | .broken reason => .fail reason (p.poll s).state := by
  rw [loop]
  exact if_neg (Bool.eq_false_iff.mp working)

/-- A poll that went well is cleared. -/
theorem judge_ok (pace : Pace) (plays : List Play) :
    pace.judge failures (.ok plays) = .cleared := rfl

/-- A fault that is no failed read is skipped if it is a bad value. -/
theorem judge_unread (pace : Pace) {e : Fault} (h : Pace.isReadFailure e = false) :
    pace.judge failures (.error e : Except Fault (List Play))
      = if e.nature.isValue then .skipped else .broken e := by
  unfold Pace.judge
  exact if_neg (Bool.eq_false_iff.mp h)

/-! ## The account of a run -/

/-- **What there is to say of a run** that may poll so many times: the laps it
has gone through, and how it has ended after them. -/
def Accounted (p : Poller σ ω) (fuel : Nat) (start : State σ ω)
    (outcome : Step (State σ ω) Ending) : Prop :=
  ∃ polls last, p.Laps start polls last ∧ p.Ends fuel polls last outcome

section Polls

variable {start : State σ ω} {polls : List (State σ ω)} {left : Nat}

/-- A pause that is due is waited for: it is refused and ends the run, or the run
goes on. -/
theorem accounted_of_pause {s' : State σ ω} {pause : Float} (hleft : polls.length < fuel)
    (laps : p.Laps start polls s) (working : Host.isStopping s.host = false)
    (allowed : (p.failuresAfter (polls ++ [s]) : Int) ≤ p.pace.retries)
    (due : p.Pause (p.failuresAfter (polls ++ [s])) s pause s')
    {go : State σ ω → Step (State σ ω) Ending}
    (hgo : ∀ next, p.Laps start (polls ++ [s]) next → p.Accounted fuel start (go next)) :
    p.Accounted fuel start
      (((Host.wait pause s'.host).within s'.on).andThen fun _ s => go s) := by
  cases hwait : Host.wait pause s'.host with
  | mk result w =>
    cases result with
    | ok _ =>
      have lap : p.Lap polls s (s'.on w) :=
        ⟨working, allowed, pause, s', w, due, hwait, rfl⟩
      exact hgo (s'.on w) (.more polls s _ laps lap)
    | error e => exact ⟨polls, s, laps, .refused e pause s' w hleft working allowed due hwait⟩

variable (hleft : polls.length < fuel) (laps : p.Laps start polls s)
  (working : Host.isStopping s.host = false)
  (hgo : (p.failuresAfter (polls ++ [s]) : Int) ≤ p.pace.retries → ∀ next,
    p.Laps start (polls ++ [s]) next →
    p.Accounted fuel start (p.loop left (p.failuresAfter (polls ++ [s])) next))

include hleft laps working hgo

/-- A poll that went well is accounted for. -/
theorem accounted_of_ok (hretries : 0 ≤ p.pace.retries) {plays : List Play}
    (hresult : (p.poll s).result = .ok plays) :
    p.Accounted fuel start (p.loop (left + 1) (p.failuresAfter polls) s) := by
  rw [loop_of_working working, hresult, judge_ok]
  cases hconclude : p.conclude (p.poll s).state with
  | mk result s' =>
    cases result with
    | ok _ =>
      have hcount := failuresAfter_ok polls hresult
      have allowed : (p.failuresAfter (polls ++ [s]) : Int) ≤ p.pace.retries := by rwa [hcount]
      have hnext := hgo allowed
      rw [hcount] at hnext
      exact accounted_of_pause hleft laps working allowed (.cleared plays s' hresult hconclude)
        hnext
    | error e =>
      exact ⟨polls, s, laps, .unconcluded e plays s' hleft working hresult hconclude⟩

/-- A read that failed is accounted for. -/
theorem accounted_of_read {e : Fault} (hresult : (p.poll s).result = .error e)
    (hread : Pace.isReadFailure e = true) :
    p.Accounted fuel start (p.loop (left + 1) (p.failuresAfter polls) s) := by
  rw [loop_of_working working, hresult, Pace.judge_readFailure _ _ hread,
    ← failuresAfter_read polls hresult hread]
  by_cases hexceeded : p.pace.retries < p.failuresAfter (polls ++ [s])
  · rw [if_pos hexceeded]
    dsimp only
    cases htold : p.giveUp (p.failuresAfter (polls ++ [s])) e (p.poll s).state.host with
    | mk result w =>
      cases result with
      | ok _ => exact ⟨polls, s, laps, .gaveUp e w hleft working hresult hread hexceeded htold⟩
      | error refusal =>
        exact ⟨polls, s, laps,
          .unprinted e refusal w hleft working hresult hread hexceeded htold⟩
  · rw [if_neg hexceeded]
    have allowed := Int.not_lt.mp hexceeded
    dsimp only
    by_cases houtgrown : p.pace.Outgrows (p.failuresAfter (polls ++ [s]))
    · rw [Pace.backoff?_of_outgrows houtgrown]
      exact ⟨polls, s, laps, .outgrown e hleft working allowed hresult hread houtgrown⟩
    · rw [Pace.backoff?_of_not_outgrows houtgrown]
      exact accounted_of_pause hleft laps working allowed (.failed e hresult hread houtgrown)
        (hgo allowed)

/-- A fault that is no failed read is accounted for. -/
theorem accounted_of_unread (hallowed : (p.failuresAfter polls : Int) ≤ p.pace.retries)
    {e : Fault} (hresult : (p.poll s).result = .error e)
    (hunread : Pace.isReadFailure e = false) :
    p.Accounted fuel start (p.loop (left + 1) (p.failuresAfter polls) s) := by
  have hcount := failuresAfter_unread polls hresult hunread
  rw [loop_of_working working, hresult, judge_unread _ hunread, ← hcount]
  rw [← hcount] at hallowed
  by_cases hvalue : e.nature.isValue = true
  · rw [if_pos hvalue]
    exact accounted_of_pause hleft laps working hallowed (.skipped e hresult hunread hvalue)
      (hgo hallowed)
  · rw [if_neg hvalue]
    exact ⟨polls, s, laps,
      .broken e hleft working hresult hunread (Bool.eq_false_iff.mpr hvalue)⟩

end Polls

/-- **A run that is under way** goes on by laps until it ends. -/
theorem loop_accounted (hretries : 0 ≤ p.pace.retries) {start : State σ ω} (left : Nat)
    {polls : List (State σ ω)} (laps : p.Laps start polls s)
    (hallowed : (p.failuresAfter polls : Int) ≤ p.pace.retries) :
    p.Accounted (polls.length + left) start (p.loop left (p.failuresAfter polls) s) := by
  induction left generalizing polls s with
  | zero => exact ⟨polls, s, laps, .unfinished rfl⟩
  | succ left ih =>
    have hleft : polls.length < polls.length + (left + 1) :=
      Nat.lt_add_of_pos_right left.succ_pos
    by_cases hstop : Host.isStopping s.host = true
    · rw [loop_of_isStopping p left _ hstop]
      exact ⟨polls, s, laps, .stopped hleft hstop⟩
    · have working := Bool.eq_false_iff.mpr hstop
      have hgo : (p.failuresAfter (polls ++ [s]) : Int) ≤ p.pace.retries → ∀ next,
          p.Laps start (polls ++ [s]) next → p.Accounted (polls.length + (left + 1)) start
            (p.loop left (p.failuresAfter (polls ++ [s])) next) := by
        intro allowed next hrounds
        have hrest := ih hrounds allowed
        rwa [List.length_append, List.length_singleton, Nat.add_assoc, Nat.add_comm 1] at hrest
      cases hresult : (p.poll s).result with
      | ok plays => exact accounted_of_ok hleft laps working hgo hretries hresult
      | error e =>
        by_cases hread : Pace.isReadFailure e = true
        · exact accounted_of_read hleft laps working hgo hresult hread
        · exact accounted_of_unread hleft laps working hgo hallowed hresult
            (Bool.eq_false_iff.mpr hread)

/-! ## Whom a run tells -/

/-- **A record of the notices on a host** to which nothing but a notice adds. -/
structure Records (p : Poller σ ω) (sent : ω → List Notice) : Prop where
  /-- A notice is added. -/
  notify : ∀ n w, sent (Host.notify n w) = sent w ++ [n]
  /-- A line on the console adds nothing. -/
  say : ∀ line w, sent (Host.say line w).state = sent w
  /-- A poll adds nothing. -/
  poll : ∀ s, sent (p.poll s).state.host = sent s.host
  /-- What is done after a poll adds nothing. -/
  conclude : ∀ s, sent (p.conclude s).state.host = sent s.host
  /-- A wait adds nothing. -/
  wait : ∀ pause w, sent (Host.wait pause w).state = sent w

variable {sent : ω → List Notice}

/-- No notice is sent before a pause. -/
theorem Records.pause (h : p.Records sent) {s' : State σ ω} {pause : Float}
    (due : p.Pause failures s pause s') : sent s'.host = sent s.host := by
  cases due with
  | cleared plays _ _ concluded =>
    have hconclude := h.conclude (p.poll s).state
    rw [concluded] at hconclude
    exact hconclude.trans (h.poll s)
  | failed => exact h.poll s
  | skipped => exact h.poll s

/-- No notice is sent in a lap. -/
theorem Records.laps (h : p.Records sent) {start : State σ ω} {polls : List (State σ ω)}
    (laps : p.Laps start polls s) : sent s.host = sent start.host := by
  induction laps with
  | start => rfl
  | more polls s next _ lap ih =>
    obtain ⟨pause, s', w, due, hwait, rfl⟩ := lap.waited
    have hw := h.wait pause s'.host
    rw [hwait] at hw
    exact (hw.trans (h.pause due)).trans ih

/-- Giving up is a line, and then a notice of an error. -/
theorem exists_giveUp (p : Poller σ ω) (failures : Nat) (reason : Fault) (w : ω) :
    ∃ (line : Console.Line) (n : Notice), n.level = "ERROR" ∧ p.giveUp failures reason w
      = (Host.say line w).andThen fun _ w => .ok () (Host.notify n w) := ⟨_, _, rfl, rfl⟩

/-- Giving up sends a notice once it is printed. -/
theorem Records.giveUp (h : p.Records sent) {reason : Fault} {w w' : ω}
    (told : p.giveUp failures reason w = .ok () w') :
    ∃ n : Notice, n.level = "ERROR" ∧ sent w' = sent w ++ [n] := by
  obtain ⟨line, n, hlevel, hgiveUp⟩ := exists_giveUp p failures reason w
  rw [hgiveUp] at told
  obtain ⟨_, w₁, hsaid, hnotified⟩ := Step.exists_of_andThen_eq_ok told
  obtain ⟨-, rfl⟩ := Step.ok_inj hnotified
  have hw₁ := h.say line w
  rw [hsaid] at hw₁
  exact ⟨n, hlevel, (h.notify n w₁).trans (congrArg (· ++ [n]) hw₁)⟩

/-- Giving up sends no notice where it is not printed. -/
theorem Records.giveUp_refused (h : p.Records sent) {reason refusal : Fault} {w w' : ω}
    (refused : p.giveUp failures reason w = .fail refusal w') : sent w' = sent w := by
  obtain ⟨line, n, -, hgiveUp⟩ := exists_giveUp p failures reason w
  have hw₁ := h.say line w
  rw [hgiveUp] at refused
  cases hsaid : Host.say line w with
  | mk result w₁ =>
    rw [hsaid] at refused hw₁
    cases result with
    | ok _ => exact absurd refused.symm Step.fail_ne_ok
    | error e => exact (congrArg sent (congrArg Step.state refused)).symm.trans hw₁

/-- **Giving up sends a notice, and nothing else that ends a run does.** -/
theorem Records.ends (h : p.Records sent) {polls : List (State σ ω)}
    {outcome : Step (State σ ω) Ending} (ends : p.Ends fuel polls s outcome) :
    (outcome.result = .ok .gaveUp →
      ∃ n : Notice, n.level = "ERROR" ∧ sent outcome.state.host = sent s.host ++ [n])
    ∧ (outcome.result ≠ .ok .gaveUp → sent outcome.state.host = sent s.host) := by
  cases ends with
  | unfinished => exact ⟨fun e => (nomatch e), fun _ => rfl⟩
  | stopped => exact ⟨fun e => (nomatch e), fun _ => rfl⟩
  | gaveUp e w _ _ _ _ _ told =>
    refine ⟨fun _ => ?_, fun hne => absurd rfl hne⟩
    obtain ⟨n, hlevel, hn⟩ := h.giveUp told
    exact ⟨n, hlevel, hn.trans (congrArg (· ++ [n]) (h.poll s))⟩
  | unprinted e refusal w _ _ _ _ _ refused =>
    exact ⟨fun e => (nomatch e), fun _ => (h.giveUp_refused refused).trans (h.poll s)⟩
  | broken => exact ⟨fun e => (nomatch e), fun _ => h.poll s⟩
  | unconcluded e plays s' _ _ _ failed =>
    have hconclude := h.conclude (p.poll s).state
    rw [failed] at hconclude
    exact ⟨fun e => (nomatch e), fun _ => hconclude.trans (h.poll s)⟩
  | outgrown => exact ⟨fun e => (nomatch e), fun _ => h.poll s⟩
  | refused e pause s' w _ _ _ due failed =>
    have hw := h.wait pause s'.host
    rw [failed] at hw
    exact ⟨fun e => (nomatch e), fun _ => hw.trans (h.pause due)⟩

/-! ## Runs as a whole -/

/-- **Where a run meets with no fault** but failed reads and bad values. -/
structure Untroubled (p : Poller σ ω) : Prop where
  /-- A poll fails in no other way. -/
  poll : ∀ s e, (p.poll s).result = .error e →
    Pace.isReadFailure e = true ∨ e.nature.isValue = true
  /-- What is done after one does not fail. -/
  conclude : ∀ s, ∃ s', p.conclude s = .ok () s'
  /-- No pause grows out of all bounds before the source is given up. -/
  bounded : ∀ failures : Nat, (failures : Int) ≤ p.pace.retries → ¬ p.pace.Outgrows failures
  /-- Every pause can be waited for. -/
  wait : ∀ pause (w : ω), ∃ w', Host.wait pause w = .ok () w'
  /-- It can be printed that the run begins. -/
  introduce : ∀ w, ∃ w', p.introduce w = .ok () w'
  /-- It can be printed that the source is given up. -/
  giveUp : ∀ failures reason w, ∃ w', p.giveUp failures reason w = .ok () w'

/-- A run that meets with no such fault does not fail. -/
theorem Untroubled.ends (h : p.Untroubled) {polls : List (State σ ω)}
    {outcome : Step (State σ ω) Ending} (ends : p.Ends fuel polls s outcome) :
    ∃ ending, outcome.result = .ok ending := by
  cases ends with
  | unfinished => exact ⟨_, rfl⟩
  | stopped => exact ⟨_, rfl⟩
  | gaveUp => exact ⟨_, rfl⟩
  | unprinted e refusal w _ _ _ _ _ refused =>
    obtain ⟨w', hok⟩ := h.giveUp (p.failuresAfter (polls ++ [s])) e (p.poll s).state.host
    exact absurd (refused.symm.trans hok) Step.fail_ne_ok
  | broken e _ _ failed unread other =>
    rcases h.poll s e failed with hread | hvalue
    · exact nomatch hread.symm.trans unread
    · exact nomatch hvalue.symm.trans other
  | unconcluded e plays s' _ _ _ failed =>
    obtain ⟨s'', hok⟩ := h.conclude (p.poll s).state
    exact absurd (failed.symm.trans hok) Step.fail_ne_ok
  | outgrown e _ _ allowed _ _ outgrown => exact absurd outgrown (h.bounded _ allowed)
  | refused e pause s' w _ _ _ _ failed =>
    obtain ⟨w', hok⟩ := h.wait pause s'.host
    exact absurd (failed.symm.trans hok) Step.fail_ne_ok

/-- A run that cannot print that it begins fails. -/
theorem run_of_refused {e : Fault} {w : ω} (refused : p.introduce s.host = .fail e w) :
    p.run fuel s = .fail e (s.on w) := by
  unfold Poller.run
  rw [refused]
  rfl

/-- A run whose beginning was printed goes through the loop. -/
theorem run_of_introduced {w : ω} (introduced : p.introduce s.host = .ok () w) :
    p.run fuel s = p.loop fuel 0 (s.on w) := by
  unfold Poller.run
  rw [introduced]
  rfl

/-- **The account of a run.** Once it is printed that it begins, it goes on by
laps until it ends. If it gives up it sends a single notice, of an error,
otherwise none. And where it meets with no other fault than failed reads and
bad values, it does not fail. -/
theorem run_account (p : Poller σ ω) (hretries : 0 ≤ p.pace.retries) (fuel : Nat)
    (s : State σ ω) :
    (∀ w, p.introduce s.host = .ok () w → p.Accounted fuel (s.on w) (p.run fuel s))
    ∧ (∀ e w, p.introduce s.host = .fail e w → p.run fuel s = .fail e (s.on w))
    ∧ (∀ sent : ω → List Notice, p.Records sent →
      ((p.run fuel s).result = .ok .gaveUp → ∃ n : Notice, n.level = "ERROR"
          ∧ sent (p.run fuel s).state.host = sent s.host ++ [n])
      ∧ ((p.run fuel s).result ≠ .ok .gaveUp →
          sent (p.run fuel s).state.host = sent s.host))
    ∧ (p.Untroubled → ∃ ending, (p.run fuel s).result = .ok ending) := by
  have haccount : ∀ w, p.introduce s.host = .ok () w →
      p.Accounted fuel (s.on w) (p.run fuel s) := by
    intro w introduced
    have hstart : p.Laps (s.on w) [] (s.on w) := .start
    have hrun := loop_accounted hretries fuel hstart hretries
    rw [run_of_introduced introduced]
    rwa [List.length_nil, Nat.zero_add] at hrun
  refine ⟨haccount, fun e w => run_of_refused, fun sent h => ?_, fun h => ?_⟩
  · have hsaid : sent (p.introduce s.host).state = sent s.host := h.say _ s.host
    cases hintroduced : p.introduce s.host with
    | mk result w =>
    rw [hintroduced] at hsaid
    cases result with
    | error e =>
      rw [run_of_refused hintroduced]
      exact ⟨fun he => (nomatch he), fun _ => hsaid⟩
    | ok _ =>
      obtain ⟨polls, last, laps, ends⟩ := haccount w hintroduced
      have hlast : sent last.host = sent s.host := (h.laps laps).trans hsaid
      rw [← hlast]
      exact h.ends ends
  · obtain ⟨w, introduced⟩ := h.introduce s.host
    obtain ⟨polls, last, -, ends⟩ := haccount w introduced
    exact h.ends ends

end Account

/-! ## A value that is bad, and a read that fails -/

/-- A poller that meets a bad value at first and then cannot read its source. -/
def unlucky (interval : Float) : Poller Nat Outside where
  name := "radio"
  fetch n w := match n with
    | 0 => .fail .noDate (1, w)
    | n + 1 => .fail Recording.gone (n + 2, w)
  deliver _ w := .ok () w
  pace := { interval := interval, retries := 0 }

/-- A state in which nothing was polled yet. -/
def beginning : State Nat Outside where
  source := 0
  host := { clock := .epoch }

/-- A wait sends no notice. -/
theorem notices_wait (pause : Float) (w : Outside) :
    (Host.wait pause w).state.notices = w.notices := by
  have hclock : ∀ w : Outside, (w.moveClock pause).state.notices = w.notices := by
    intro w
    unfold Outside.moveClock
    split
    · rfl
    · split <;> rfl
  exact @Step.state_andThen Outside Unit Unit (fun v => v.notices = w.notices) _ _ (hclock _)
    fun _ _ h => h

/-- The notices of the unlucky poller are those that are sent. -/
theorem records_unlucky (interval : Float) : (unlucky interval).Records Outside.notices where
  notify _ _ := rfl
  say _ _ := rfl
  poll s := by
    obtain ⟨n, reconciler, ledger, w⟩ := s
    cases n <;> rfl
  conclude _ := rfl
  wait := notices_wait

/-- **The unlucky poller is given up** at the second poll, and told of once. -/
theorem run_account_unlucky :
    (∃ w, (unlucky 10).introduce beginning.host = .ok () w
        ∧ (unlucky 10).Accounted 5 (beginning.on w) ((unlucky 10).run 5 beginning))
      ∧ ∃ n : Notice, n.level = "ERROR"
        ∧ ((unlucky 10).run 5 beginning).state.host.notices = [n] := by
  obtain ⟨account, -, notices, -⟩ := run_account (unlucky 10) (by decide) 5 beginning
  obtain ⟨result, hresult⟩ : ∃ result, result = ((unlucky 10).run 5 beginning).result := ⟨_, rfl⟩
  have hended : result.toOption = some .gaveUp := hresult ▸ (by decide +kernel)
  have hgaveUp : ((unlucky 10).run 5 beginning).result = .ok .gaveUp := by
    rw [← hresult]
    cases result with
    | ok ending => exact congrArg Except.ok (Option.some.inj hended)
    | error e => exact nomatch hended
  exact ⟨⟨_, rfl, account _ rfl⟩, (notices Outside.notices (records_unlucky 10)).1 hgaveUp⟩

/-- **A wait that no clock can show** ends a run before its time. -/
theorem not_forall_run_ends :
    ¬ ∀ (p : Poller Nat Outside) (fuel : Nat) (s : State Nat Outside), 0 ≤ p.pace.retries →
        p.afterPoll = none →
        (∀ s e, (p.poll s).result = .error e →
          Pace.isReadFailure e = true ∨ e.nature.isValue = true) →
        ∃ ending, (p.run fuel s).result = .ok ending := by
  intro hall
  have hfaults : ∀ s e, ((unlucky 1e300).poll s).result = .error e →
      Pace.isReadFailure e = true ∨ e.nature.isValue = true := by
    rintro ⟨n, reconciler, ledger, w⟩ e he
    cases n with
    | zero =>
      obtain rfl := Except.error.inj he
      exact Or.inr rfl
    | succ n =>
      obtain rfl := Except.error.inj he
      exact Or.inl rfl
  obtain ⟨ending, hending⟩ := hall (unlucky 1e300) 1 beginning (by decide) rfl hfaults
  have hfailed : ((unlucky 1e300).run 1 beginning).result.isOk = false := by decide +kernel
  rw [hending] at hfailed
  exact nomatch hfailed

end Poller

end Listening
