/-!
Tables: lists of keys and values. `get?` finds the first value of a key, `insert` replaces a value
where it stands or adds it at the end, so a key keeps the place of its first insertion.
-/

namespace ToolPlugins

/-- A list of keys with their values, in order of insertion. -/
abbrev Table (κ α : Type) := List (κ × α)

namespace Table

variable {κ α : Type} [DecidableEq κ]

def get? (t : Table κ α) (key : κ) : Option α :=
  match t with
  | [] => none
  | (k, v) :: rest => if k = key then some v else get? rest key

/-- The table with `value` under `key`, in the place the key already has or at the end. -/
def insert (t : Table κ α) (key : κ) (value : α) : Table κ α :=
  match t with
  | [] => [(key, value)]
  | (k, v) :: rest => if k = key then (key, value) :: rest else (k, v) :: insert rest key value

/-- The table without `key`. -/
def erase (t : Table κ α) (key : κ) : Table κ α :=
  t.filter fun entry => !decide (entry.1 = key)

/-- The keys, in order. -/
def keys (t : Table κ α) : List κ := t.map (·.1)

/-- The values, in order. -/
def values (t : Table κ α) : List α := t.map (·.2)

@[simp] theorem get?_nil (key : κ) : get? ([] : Table κ α) key = none := rfl

theorem get?_insert_self (t : Table κ α) (key : κ) (value : α) :
    (t.insert key value).get? key = some value := by
  induction t with
  | nil => simp [insert, get?]
  | cons e rest ih =>
    obtain ⟨k, v⟩ := e
    by_cases h : k = key <;> simp [insert, get?, h, ih]

theorem get?_insert_ne (t : Table κ α) {key other : κ} (value : α) (h : other ≠ key) :
    (t.insert key value).get? other = t.get? other := by
  induction t with
  | nil => simp [insert, get?, h.symm]
  | cons e rest ih =>
    obtain ⟨k, v⟩ := e
    by_cases hk : k = key
    · subst hk
      simp [insert, get?, h.symm]
    · simp [insert, get?, hk, ih]

theorem get?_insert (t : Table κ α) (key other : κ) (value : α) :
    (t.insert key value).get? other = if other = key then some value else t.get? other := by
  by_cases h : other = key
  · subst h
    simp [get?_insert_self]
  · simp [get?_insert_ne t value h, h]

theorem get?_erase (t : Table κ α) (key other : κ) :
    (t.erase key).get? other = if other = key then none else t.get? other := by
  induction t with
  | nil => simp [erase]
  | cons e rest ih =>
    obtain ⟨k, v⟩ := e
    by_cases hk : k = key
    · subst hk
      by_cases ho : other = k
      · simpa [erase, ho] using ih
      · simpa [erase, get?, ho, Ne.symm ho] using ih
    · by_cases ho : k = other
      · subst ho
        simp [erase, get?, hk]
      · simpa [erase, get?, hk, ho] using ih

end Table

end ToolPlugins
