import Listening.Match

/-!
# Windows

A `Window` holds the items added last, and at most so many of them: adding
one more drops the oldest. Recent plays are kept in windows, in which a play
that is one listen with a new one is looked for from the newest on.
-/

namespace Listening

/-- **The items added last**, oldest first. -/
structure Window (α : Type) where
  /-- How many are kept. -/
  size : Nat
  /-- What is kept. -/
  items : List α := []

namespace Window

variable {α : Type}

/-- An empty window. None holds fewer than no items. -/
def ofSize? (size : Int) : Except Fault (Window α) :=
  if size < 0 then .error .negativeWindow else .ok { size := size.toNat }

/-- The last `count` items of a list. -/
def lastOf (count : Nat) (xs : List α) : List α := xs.drop (xs.length - count)

/-- **Adds an item.** -/
def push (a : α) (w : Window α) : Window α := { w with items := lastOf w.size (w.items ++ [a]) }

/-- Adds items, one after the other. -/
def pushAll (as : List α) (w : Window α) : Window α := as.foldl (fun w a => w.push a) w

/-! ## Small facts -/

section LastOf

variable {count : Nat} {as : List α}

theorem length_lastOf_le (count : Nat) (as : List α) : (lastOf count as).length ≤ count := by
  unfold lastOf
  rw [List.length_drop]
  omega

theorem lastOf_eq_nil_iff (hcount : 0 < count) : lastOf count as = [] ↔ as = [] := by
  unfold lastOf
  rw [List.drop_eq_nil_iff, ← List.length_eq_zero_iff]
  omega

theorem getLast?_lastOf (hcount : 0 < count) : (lastOf count as).getLast? = as.getLast? := by
  unfold lastOf
  rw [List.getLast?_drop]
  split
  · have hnil : as = [] := List.eq_nil_of_length_eq_zero (by omega)
    rw [hnil]
    rfl
  · rfl

/-- What was dropped before would be dropped now. -/
theorem lastOf_lastOf_append (count : Nat) (as : List α) (a : α) :
    lastOf count (lastOf count as ++ [a]) = lastOf count (as ++ [a]) := by
  have hdropped : lastOf count as ++ [a] = (as ++ [a]).drop (as.length - count) :=
    (List.drop_append_of_le_length (Nat.sub_le _ _)).symm
  rw [hdropped]
  unfold lastOf
  rw [List.drop_drop, List.length_drop, List.length_append, List.length_singleton]
  congr 1
  omega

/-- An item is still there until as many as are kept have been added
after it. -/
theorem mem_lastOf {a : α} {before after : List α} (has : as = before ++ a :: after)
    (hafter : after.length < count) : a ∈ lastOf count as := by
  subst has
  unfold lastOf
  rw [List.drop_append_of_le_length (by rw [List.length_append, List.length_cons]; omega)]
  exact List.mem_append_right _ List.mem_cons_self

end LastOf

/-- A window never holds more than its size. -/
theorem length_push_le (a : α) (w : Window α) : (w.push a).items.length ≤ w.size :=
  length_lastOf_le _ _

end Window

/-- When a play is placed in time: one without a time comes first. -/
def Play.placedAt (p : Play) : Instant := p.playedAt.getD Instant.epoch

/-- **Plays in the order in which they were played**; of two played at one
time, the one that came first stays first. Times with an offset and times
without have no order. -/
def Play.sort? (plays : List Play) : Except Fault (List Play) :=
  match plays with
  | first :: rest =>
    if rest.all fun p => Instant.comparable first.placedAt p.placedAt then
      .ok (plays.mergeSort fun a b => decide (a.placedAt.micros ≤ b.placedAt.micros))
    else .error .mixedTimes
  | [] => .ok []

end Listening
