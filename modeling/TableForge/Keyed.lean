namespace TableForge.Keyed

variable {κ α : Type} [DecidableEq κ]

-- Gives a value to a key. A value that the key had is replaced, and a new key comes last.
def put (key : κ) (value : α) : List (κ × α) → List (κ × α)
  | [] => [(key, value)]
  | (k, v) :: rest => if key = k then (key, value) :: rest else (k, v) :: put key value rest

theorem lookup_put [BEq κ] [LawfulBEq κ] (key other : κ) (value : α) (entries : List (κ × α)) :
    (put key value entries).lookup other =
      if other = key then some value else entries.lookup other := by
  induction entries with
  | nil => grind [put]
  | cons e rest ih =>
    obtain ⟨k, v⟩ := e
    grind [put]

theorem put_put (key : κ) (value value' : α) (entries : List (κ × α)) :
    put key value' (put key value entries) = put key value' entries := by
  induction entries with
  | nil => simp [put]
  | cons e rest ih =>
    obtain ⟨k, v⟩ := e
    by_cases h : key = k
    · simp [put, h]
    · simp [put, h, ih]

def erase (key : κ) (entries : List (κ × α)) : List (κ × α) :=
  entries.filter (·.1 ≠ key)

theorem lookup_erase [BEq κ] [LawfulBEq κ] (key other : κ) (entries : List (κ × α)) :
    (erase key entries).lookup other = if other = key then none else entries.lookup other := by
  induction entries with
  | nil => simp [erase]
  | cons e rest ih =>
    obtain ⟨k, v⟩ := e
    grind [erase]

theorem erase_put [BEq κ] [LawfulBEq κ] {key : κ} {entries : List (κ × α)}
    (h : entries.lookup key = none) (value : α) : erase key (put key value entries) = entries := by
  induction entries with
  | nil => simp [put, erase]
  | cons e rest ih =>
    obtain ⟨k, v⟩ := e
    by_cases hk : key = k
    · simp [hk] at h
    · have hne : (key == k) = false := beq_false_of_ne hk
      have hrest := ih (by simpa [List.lookup_cons, hne] using h)
      rw [erase] at hrest
      rw [put, if_neg hk, erase, List.filter_cons_of_pos (by simpa using Ne.symm hk), hrest]

end TableForge.Keyed
