/-!
# Rows of entries

A row of entries holds values under keys, in an order of their own: the
fields of an object, the players of a source, the files of a directory. A new
entry goes to the end, and one that is set again keeps its place.
-/

namespace Listening.Entries

variable {κ α : Type} [BEq κ] [LawfulBEq κ]

/-- A row of entries with one set: in its place if it is there, else at the
end. -/
def put (key : κ) (value : α) : List (κ × α) → List (κ × α)
  | [] => [(key, value)]
  | (k, v) :: rest => if k == key then (k, value) :: rest else (k, v) :: put key value rest

/-- A row of entries with several set, one after the other. -/
def putAll (changes entries : List (κ × α)) : List (κ × α) :=
  changes.foldl (fun entries (key, value) => put key value entries) entries

/-- An entry that was set is found. -/
theorem lookup_put_self (key : κ) (value : α) (entries : List (κ × α)) :
    (put key value entries).lookup key = some value := by
  induction entries with
  | nil => simp [put]
  | cons p rest ih =>
    obtain ⟨k, v⟩ := p
    unfold put
    split
    · next h => simp [eq_of_beq h]
    · next h =>
      simp only [List.lookup_cons]
      rw [show (key == k) = false by simpa using fun e => h (by simp [e])]
      exact ih

/-- Setting one entry leaves every other as it was. -/
theorem lookup_put_of_ne {key other : κ} (h : other ≠ key) (value : α)
    (entries : List (κ × α)) : (put key value entries).lookup other = entries.lookup other := by
  have apart : (other == key) = false := by simpa using h
  induction entries with
  | nil => simp [put, List.lookup_cons, apart]
  | cons p rest ih =>
    obtain ⟨k, v⟩ := p
    unfold put
    split
    · next hk => simp [List.lookup_cons, eq_of_beq hk, apart]
    · simp only [List.lookup_cons]
      split
      · rfl
      · exact ih

/-- Setting an entry that is there keeps the order of the keys. -/
theorem keys_put_of_mem {key : κ} {entries : List (κ × α)} (h : key ∈ entries.map (·.1))
    (value : α) : (put key value entries).map (·.1) = entries.map (·.1) := by
  induction entries with
  | nil => simp at h
  | cons p rest ih =>
    obtain ⟨k, v⟩ := p
    unfold put
    split
    · rfl
    · next hk =>
      have : key ∈ rest.map (·.1) := by
        rcases List.mem_cons.1 h with e | m
        · exact absurd (beq_iff_eq.2 e.symm) hk
        · exact m
      simp [ih this]

/-- A new entry goes to the end. -/
theorem put_of_notMem {key : κ} {entries : List (κ × α)} (h : key ∉ entries.map (·.1))
    (value : α) : put key value entries = entries ++ [(key, value)] := by
  induction entries with
  | nil => rfl
  | cons p rest ih =>
    obtain ⟨k, v⟩ := p
    have hk : ¬ (k == key) = true := fun e => h (by simp [eq_of_beq e])
    unfold put
    rw [if_neg hk, ih fun m => h (by simpa using .inr (by simpa using m))]
    rfl

end Listening.Entries
