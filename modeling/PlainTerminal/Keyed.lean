/-!
# Lists ordered by name

A finite map from names to values, kept as a list of pairs in increasing order of the names, each
name once. Directories, uploads and sessions are such maps: looking through one from front to back
shows its entries in the order of their names, and equal maps are equal lists.
-/

namespace PlainTerminal

/-- Values by name. -/
abbrev Keyed (α : Type) := List (String × α)

namespace Keyed

variable {α : Type}

/-- The value stored under a name. -/
def find? (m : Keyed α) (name : String) : Option α :=
  match m with
  | [] => none
  | (k, v) :: rest => if k = name then some v else find? rest name

/-- Stores a value under a name, in place of any value that is there. -/
def insert (m : Keyed α) (name : String) (value : α) : Keyed α :=
  match m with
  | [] => [(name, value)]
  | (k, v) :: rest =>
    if k = name then (name, value) :: rest
    else if k < name then (k, v) :: insert rest name value
    else (name, value) :: (k, v) :: rest

/-- Removes a name. -/
def erase (m : Keyed α) (name : String) : Keyed α := m.filter fun e => e.1 ≠ name

/-- A map with the given entries; of two entries with one name the later one counts. -/
def ofList (entries : List (String × α)) : Keyed α :=
  entries.foldl (fun m e => m.insert e.1 e.2) []

/-- The names, in order. -/
def names (m : Keyed α) : List String := m.map Prod.fst

/-- The order that every operation keeps. -/
def Ordered (m : Keyed α) : Prop := m.Pairwise fun a b => a.1 < b.1

/-- After an insertion the name has the new value and every other name its old one. -/
theorem find?_insert (m : Keyed α) (name other : String) (value : α) :
    (m.insert name value).find? other = if name = other then some value else m.find? other := by
  induction m with
  | nil => simp [insert, find?]
  | cons e rest ih =>
    obtain ⟨k, v⟩ := e
    by_cases hk : k = name
    · subst hk
      by_cases ho : k = other <;> simp [insert, find?, ho]
    · by_cases hlt : k < name
      · by_cases hko : k = other
        · subst hko
          have hno : ¬ name = k := fun h => hk h.symm
          simp [insert, find?, hk, hlt, hno]
        · simp [insert, find?, hk, hlt, hko, ih]
      · simp [insert, find?, hk, hlt]

/-- What is found is an entry. -/
theorem mem_of_find? {m : Keyed α} {name : String} {value : α} (h : m.find? name = some value) :
    (name, value) ∈ m := by
  induction m with
  | nil => cases h
  | cons e rest ih =>
    obtain ⟨k, v⟩ := e
    by_cases hk : k = name
    · subst hk
      rw [find?, if_pos rfl] at h
      cases h
      exact List.mem_cons_self
    · rw [find?, if_neg hk] at h
      exact List.mem_cons_of_mem _ (ih h)

/-- An insertion adds one entry at most. -/
theorem mem_insert {m : Keyed α} {name : String} {value : α} {e : String × α}
    (h : e ∈ m.insert name value) : e = (name, value) ∨ e ∈ m := by
  induction m with
  | nil => exact Or.inl (List.mem_singleton.mp h)
  | cons e' rest ih =>
    obtain ⟨k, v⟩ := e'
    unfold insert at h
    split at h
    · rcases List.mem_cons.mp h with rfl | h
      · exact Or.inl rfl
      · exact Or.inr (List.mem_cons_of_mem _ h)
    · split at h
      · rcases List.mem_cons.mp h with rfl | h
        · exact Or.inr List.mem_cons_self
        · exact (ih h).imp_right (List.mem_cons_of_mem _)
      · exact List.mem_cons.mp h

end Keyed

end PlainTerminal
