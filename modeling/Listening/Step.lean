import Listening.Fault

/-!
# Steps

A player, a ledger, a history each take steps: an operation delivers a value
or fails, and leaves a state in either case – an operation that fails half
way leaves what it had done by then. `Step` is that pair, and `Step.andThen`
goes on with the next operation unless there is a fault.
-/

namespace Listening

/-- **The outcome of an operation on a state**, and the state it leaves. -/
structure Step (σ α : Type) where
  /-- What it delivers, or why it fails. -/
  result : Except Fault α
  /-- The state afterwards. -/
  state : σ

namespace Step

variable {σ τ α β γ : Type}

/-- An operation that delivers a value. -/
def ok (a : α) (s : σ) : Step σ α := ⟨.ok a, s⟩

/-- An operation that fails. -/
def fail (f : Fault) (s : σ) : Step σ α := ⟨.error f, s⟩

/-- A value that may be missing, without a change of state. -/
def of (r : Except Fault α) (s : σ) : Step σ α := ⟨r, s⟩

/-- **One operation after another.** A fault ends the row. -/
def andThen (x : Step σ α) (f : α → σ → Step σ β) : Step σ β :=
  match x.result with
  | .ok a => f a x.state
  | .error e => ⟨.error e, x.state⟩

/-- The same outcome with a state built from the one left. -/
def within (x : Step σ α) (f : σ → τ) : Step τ α := ⟨x.result, f x.state⟩

/-- A value is handed to the next operation. -/
@[simp] theorem andThen_ok (a : α) (s : σ) (f : α → σ → Step σ β) :
    (ok a s).andThen f = f a s := rfl

/-- A fault ends the row. -/
@[simp] theorem andThen_fail (e : Fault) (s : σ) (f : α → σ → Step σ β) :
    (fail e s : Step σ α).andThen f = fail e s := rfl

/-- Of three operations in a row, it makes no difference which two are read as
one. -/
theorem andThen_assoc (x : Step σ α) (f : α → σ → Step σ β) (g : β → σ → Step σ γ) :
    (x.andThen f).andThen g = x.andThen fun a s => (f a s).andThen g := by
  obtain ⟨result, s⟩ := x
  cases result with
  | ok a => rfl
  | error e => rfl

/-- A value that is not missing is delivered. -/
theorem of_ok (a : α) (s : σ) : of (.ok a) s = ok a s := rfl

/-- What `ok` delivers. -/
@[simp] theorem result_ok (a : α) (s : σ) : (ok a s).result = .ok a := rfl

/-- The state `ok` leaves. -/
@[simp] theorem state_ok (a : α) (s : σ) : (ok a s).state = s := rfl

/-- What the first operation and then the second leave true is true after
both. -/
theorem state_andThen {P : σ → Prop} {x : Step σ α} {f : α → σ → Step σ β} (hx : P x.state)
    (hf : ∀ a s, P s → P (f a s).state) : P (x.andThen f).state := by
  obtain ⟨result, s⟩ := x
  cases result with
  | ok a => exact hf a s hx
  | error e => exact hx

/-- If one operation after another succeeds, both do. -/
theorem exists_of_andThen_eq_ok {x : Step σ α} {f : α → σ → Step σ β} {b : β} {s' : σ}
    (h : x.andThen f = .ok b s') : ∃ a s, x = .ok a s ∧ f a s = .ok b s' := by
  obtain ⟨result, s⟩ := x
  cases result with
  | ok a => exact ⟨a, s, rfl, h⟩
  | error e => exact nomatch congrArg Step.result h

/-- Values delivered are the same, and so are the states left, where the
outcomes are. -/
theorem ok_inj {a b : α} {s t : σ} (h : Step.ok a s = Step.ok b t) : a = b ∧ s = t :=
  ⟨Except.ok.inj (congrArg Step.result h), congrArg Step.state h⟩

/-- What fails does not deliver. -/
theorem fail_ne_ok {e : Fault} {s t : σ} {a : α} : (Step.fail e s : Step σ α) ≠ .ok a t :=
  fun h => nomatch congrArg Step.result h

/-- A value that is delivered was there, and the state is as it was. -/
theorem of_eq_ok {r : Except Fault α} {s s' : σ} {a : α} (h : of r s = .ok a s') :
    r = .ok a ∧ s' = s :=
  ⟨congrArg Step.result h, (congrArg Step.state h).symm⟩

end Step

/-- Every item of a list through an operation, one after the other. -/
def Step.forEach {σ α β : Type} (f : α → σ → Step σ β) : List α → σ → Step σ (List β)
  | [], s => .ok [] s
  | a :: rest, s =>
    (f a s).andThen fun b s => (forEach f rest s).andThen fun bs s => .ok (b :: bs) s

namespace Step

/-! ## Rows of steps -/

variable {σ α β : Type}

/-- If a row of steps succeeds, its first step does, and so does the rest. -/
theorem exists_of_forEach_cons_eq_ok {f : α → σ → Step σ β} {a : α} {as : List α} {bs : List β}
    {s s' : σ} (h : forEach f (a :: as) s = .ok bs s') :
    ∃ b s₁ bs', f a s = .ok b s₁ ∧ forEach f as s₁ = .ok bs' s' ∧ bs = b :: bs' := by
  rw [forEach] at h
  obtain ⟨b, s₁, hb, hrest⟩ := exists_of_andThen_eq_ok h
  obtain ⟨bs', s₂, hbs', hlast⟩ := exists_of_andThen_eq_ok hrest
  obtain ⟨rfl, rfl⟩ := ok_inj hlast
  exact ⟨b, s₁, bs', hb, hbs', rfl⟩

/-- A row of steps fails as one of them does. -/
theorem exists_of_forEach_eq_fail {f : α → σ → Step σ β} {as : List α} {e : Fault} {s s' : σ}
    (h : forEach f as s = .fail e s') : ∃ a ∈ as, ∃ s₁, f a s₁ = .fail e s' := by
  induction as generalizing s with
  | nil => exact nomatch congrArg Step.result h
  | cons a rest ih =>
    rw [forEach] at h
    cases ha : f a s with
    | mk result s₁ =>
    rw [ha] at h
    cases result with
    | error e' =>
      obtain rfl : e' = e := Except.error.inj (congrArg Step.result h)
      obtain rfl : s₁ = s' := congrArg Step.state h
      exact ⟨a, List.mem_cons_self, s, ha⟩
    | ok b =>
      cases hrest : forEach f rest s₁ with
      | mk result s₂ =>
      rw [show (⟨.ok b, s₁⟩ : Step σ β) = .ok b s₁ from rfl, andThen_ok, hrest] at h
      cases result with
      | ok bs => exact nomatch congrArg Step.result h
      | error e' =>
        obtain rfl : e' = e := Except.error.inj (congrArg Step.result h)
        obtain rfl : s₂ = s' := congrArg Step.state h
        obtain ⟨c, hc, s₃, hfailed⟩ := ih hrest
        exact ⟨c, List.mem_cons_of_mem a hc, s₃, hfailed⟩

/-- What every step of a row leaves true is true after the row. -/
theorem state_forEach {P : σ → Prop} {f : α → σ → Step σ β} {as : List α}
    (hf : ∀ a ∈ as, ∀ s, P s → P (f a s).state) {s : σ} (hs : P s) :
    P (forEach f as s).state := by
  induction as generalizing s with
  | nil => exact hs
  | cons a rest ih =>
    refine state_andThen (hf a List.mem_cons_self s hs) fun _ s hs =>
      state_andThen (ih (fun b hb => hf b (List.mem_cons_of_mem a hb)) hs) fun _ _ h => h

/-- If no step of a row fails on a state that is good, the row does not. -/
theorem exists_forEach {f : α → σ → Step σ β} (good : σ → Prop) {as : List α}
    (hstep : ∀ a ∈ as, ∀ s, good s → ∃ b s', f a s = .ok b s' ∧ good s') {s : σ} (hs : good s) :
    ∃ bs s', forEach f as s = .ok bs s' ∧ good s' := by
  induction as generalizing s with
  | nil => exact ⟨[], s, rfl, hs⟩
  | cons a rest ih =>
    obtain ⟨b, s₁, hb, hs₁⟩ := hstep a List.mem_cons_self s hs
    obtain ⟨bs, s', hbs, hs'⟩ := ih (fun c hc => hstep c (List.mem_cons_of_mem a hc)) hs₁
    refine ⟨b :: bs, s', ?_, hs'⟩
    rw [forEach, hb, andThen_ok, hbs, andThen_ok]

end Step

end Listening
