import Mathlib.Data.List.Nodup

/-!
# Lists of pairs

The counters of labels, the registrations of hashes and the times of stopwatches are kept in lists
of pairs, in which a value is looked up by its key. Where no key occurs twice the list is a finite
map, and what is found under a key after a change depends on what was found before it.
-/

namespace Inclusion

variable {Key Value : Type} [DecidableEq Key] {pairs : List (Key × Value)} {key : Key}
  {value : Value}

theorem lookup_cons_eq_ite (first : Key × Value) (rest : List (Key × Value)) (key : Key) :
    (first :: rest).lookup key = if key = first.1 then some first.2 else rest.lookup key := by
  rw [List.lookup_cons]
  by_cases same : key = first.1
  · simp [same]
  · rw [beq_false_of_ne same, if_neg same]

/-- When every value is changed under its key, the changed one is found. -/
theorem lookup_map_values {Other : Type} (pairs : List (Key × Value)) (key : Key)
    (change : Key → Value → Other) :
    (pairs.map fun pair => (pair.1, change pair.1 pair.2)).lookup key =
      (pairs.lookup key).map (change key) := by
  induction pairs with
  | nil => rfl
  | cons first rest inductionHypothesis =>
    rw [List.map_cons, lookup_cons_eq_ite, lookup_cons_eq_ite, inductionHypothesis]
    split
    · next same => rw [same]; rfl
    · rfl

/-- In a list where no key occurs twice a value is found under its key. -/
theorem lookup_eq_some_iff_mem (distinct : (pairs.map Prod.fst).Nodup) :
    pairs.lookup key = some value ↔ (key, value) ∈ pairs := by
  induction pairs with
  | nil => simp
  | cons first rest inductionHypothesis =>
    obtain ⟨absent, distinct⟩ := List.nodup_cons.mp (List.map_cons ▸ distinct)
    rw [lookup_cons_eq_ite, List.mem_cons]
    by_cases same : key = first.1
    · have elsewhere : (key, value) ∉ rest := by
        intro member
        exact absent (List.mem_map.mpr ⟨(key, value), member, same⟩)
      rw [if_pos same, or_iff_left elsewhere, Option.some.injEq, Prod.ext_iff]
      exact ⟨fun found => ⟨same, found.symm⟩, fun found => found.2.symm⟩
    · rw [if_neg same, inductionHypothesis distinct]
      exact (or_iff_right fun first_one => same (congrArg Prod.fst first_one)).symm

/-- Pairs under other keys are found when those under one key are taken out. -/
theorem lookup_filter_ne (pairs : List (Key × Value)) (key other : Key) :
    (pairs.filter fun pair => pair.1 ≠ key).lookup other =
      if other = key then none else pairs.lookup other := by
  induction pairs with
  | nil => simp
  | cons first rest inductionHypothesis =>
    by_cases own : first.1 = key
    · rw [List.filter_cons_of_neg (by simpa using own), inductionHypothesis, lookup_cons_eq_ite,
        own]
      split <;> rfl
    · rw [List.filter_cons_of_pos (by simpa using own), lookup_cons_eq_ite, inductionHypothesis,
        lookup_cons_eq_ite]
      by_cases same : other = first.1
      · rw [if_pos same, if_pos same, if_neg (same ▸ own)]
      · rw [if_neg same, if_neg same]

/-- When the values of a key are changed the changed one is found. -/
theorem lookup_map_change (pairs : List (Key × Value)) (key other : Key)
    (change : Value → Value) :
    (pairs.map fun pair => if pair.1 = key then (key, change pair.2) else pair).lookup other =
      if other = key then (pairs.lookup key).map change else pairs.lookup other := by
  have values : (fun pair : Key × Value => if pair.1 = key then (key, change pair.2) else pair) =
      fun pair => (pair.1, if pair.1 = key then change pair.2 else pair.2) := by
    funext pair
    split
    · next same => rw [same]
    · rfl
  rw [values, lookup_map_values pairs other fun own value =>
    if own = key then change value else value]
  by_cases same : other = key <;> simp [same]

/-- When the value of a key is replaced it is found instead of the old one. -/
theorem lookup_map_ite (pairs : List (Key × Value)) (key other : Key) (value : Value) :
    (pairs.map fun pair => if pair.1 = key then (key, value) else pair).lookup other =
      if other = key then (pairs.lookup key).map fun _ => value else pairs.lookup other :=
  lookup_map_change pairs key other fun _ => value

/-- Other pairs are not replaced with it. -/
theorem filter_map_ite (pairs : List (Key × Value)) (key : Key) (value : Value) :
    (pairs.map fun pair => if pair.1 = key then (key, value) else pair).filter
        (fun pair => pair.1 ≠ key) =
      pairs.filter fun pair => pair.1 ≠ key := by
  induction pairs with
  | nil => rfl
  | cons first rest inductionHypothesis =>
    by_cases own : first.1 = key <;> simpa [own] using inductionHypothesis

/-- The pair of a key and those of all other keys are all pairs. -/
theorem perm_filter_ne (distinct : (pairs.map Prod.fst).Nodup)
    (found : pairs.lookup key = some value) :
    pairs.Perm ((key, value) :: pairs.filter fun pair => pair.1 ≠ key) := by
  induction pairs with
  | nil => cases found
  | cons first rest inductionHypothesis =>
    obtain ⟨absent, distinct⟩ := List.nodup_cons.mp (List.map_cons ▸ distinct)
    rw [lookup_cons_eq_ite] at found
    by_cases own : key = first.1
    · rw [if_pos own] at found
      obtain rfl : first = (key, value) := Prod.ext own.symm (Option.some.inj found)
      have others : rest.filter (fun pair => pair.1 ≠ key) = rest := by
        refine List.filter_eq_self.mpr fun pair member => ?_
        have different : pair.1 ≠ key := fun same => absent (List.mem_map.mpr ⟨pair, member, same⟩)
        simpa using different
      rw [List.filter_cons_of_neg (by simp), others]
    · rw [if_neg own] at found
      rw [List.filter_cons_of_pos (by simpa using Ne.symm own)]
      exact ((inductionHypothesis distinct found).cons first).trans (.swap ..)

end Inclusion
