import PatchSurvey.Text.Basic

/-! # Dictionaries

A dictionary lists keys with their values in the order in which the keys were
first put. Putting a known key replaces its value in place. -/

namespace PatchSurvey

/-- Keys with their values in order. -/
abbrev Dictionary (α : Type) := List (Text × α)

namespace Dictionary

variable {α : Type}

/-- The value of a key. -/
def get? (key : Text) : Dictionary α → Option α
  | [] => none
  | (k, value) :: rest => if k = key then some value else get? key rest

/-- Give a key a value. -/
def put (key : Text) (value : α) : Dictionary α → Dictionary α
  | [] => [(key, value)]
  | (k, old) :: rest =>
      if k = key then (key, value) :: rest else (k, old) :: put key value rest

/-- Put the pairs one after the other. -/
def putAll (table : Dictionary α) (pairs : List (Text × α)) : Dictionary α :=
  pairs.foldl (fun table pair => put pair.1 pair.2 table) table

/-- The dictionary of some pairs; of a repeated key the last value counts. -/
def ofPairs (pairs : List (Text × α)) : Dictionary α :=
  putAll [] pairs

@[simp] theorem get?_put (table : Dictionary α) (key other : Text) (value : α) :
    get? other (put key value table) = if key = other then some value else get? other table := by
  induction table with
  | nil => simp [put, get?]
  | cons pair rest ih =>
      obtain ⟨k, old⟩ := pair
      by_cases known : k = key
      · subst known
        by_cases same : k = other <;> simp [put, get?, same]
      · by_cases same : k = other
        · subst same; simp [put, get?, known, Ne.symm known]
        · simp [put, get?, known, same, ih]

/-- After putting pairs, the last pair of a key counts, and the table where there is none. -/
theorem get?_putAll (table : Dictionary α) (pairs : List (Text × α)) (key : Text) :
    get? key (putAll table pairs) =
      ((pairs.reverse.find? (·.1 = key)).map (·.2)).or (get? key table) := by
  induction pairs generalizing table with
  | nil => simp [putAll]
  | cons pair rest ih =>
      rw [putAll, List.foldl_cons]
      change get? key (putAll (put pair.1 pair.2 table) rest) = _
      rw [ih, get?_put, List.reverse_cons, List.find?_append]
      cases found : rest.reverse.find? (·.1 = key) with
      | some entry => simp
      | none =>
          by_cases same : pair.1 = key <;> simp [same]

theorem get?_eq_none {table : Dictionary α} {key : Text} (absent : ∀ pair ∈ table, pair.1 ≠ key) :
    get? key table = none := by
  induction table with
  | nil => rfl
  | cons pair rest ih =>
      obtain ⟨other, absent⟩ := List.forall_mem_cons.1 absent
      rw [get?, if_neg other, ih absent]

/-- A new key is put last. -/
theorem put_of_notMem {table : Dictionary α} {key : Text} (value : α)
    (new : key ∉ table.map (·.1)) : put key value table = table ++ [(key, value)] := by
  induction table with
  | nil => rfl
  | cons pair rest ih =>
      obtain ⟨first, others⟩ := not_or.1 (mt List.mem_cons.2 new)
      rw [put, if_neg (Ne.symm first), ih others, List.cons_append]

/-- Pairs with new keys are put in their order. -/
theorem putAll_of_nodup {table : Dictionary α} {pairs : List (Text × α)}
    (distinct : ((table ++ pairs).map (·.1)).Nodup) : putAll table pairs = table ++ pairs := by
  induction pairs generalizing table with
  | nil => exact (List.append_nil table).symm
  | cons pair rest ih =>
      have new : pair.1 ∉ table.map (·.1) := by
        rw [List.map_append, List.map_cons, List.nodup_append] at distinct
        exact fun known => distinct.2.2 pair.1 known pair.1 List.mem_cons_self rfl
      have whole : table ++ pair :: rest = table ++ [pair] ++ rest := by simp
      rw [whole] at distinct ⊢
      rw [← ih distinct, putAll, List.foldl_cons, put_of_notMem pair.2 new, putAll]

/-- Pairs with distinct keys are a dictionary as they stand. -/
theorem ofPairs_eq_self {pairs : List (Text × α)} (distinct : (pairs.map (·.1)).Nodup) :
    ofPairs pairs = pairs :=
  putAll_of_nodup distinct

end Dictionary

end PatchSurvey
