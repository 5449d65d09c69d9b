/-
This file proves what a table holds after entries have been put into it: the value of
a key is the one that was put in last, no key counts twice, and the keys stand in the
order in which they were put in first.
-/

import Mathlib.Data.Finset.Card
import Mathlib.Data.List.Induction
import Almanac.Table

namespace Almanac

/-! ### Entries with distinct keys -/

theorem lookup_insertEntry_of_ne {Content : Type} {key name : String} (different : key ≠ name)
    (value : Content) (entries : List (String × Content)) :
    (insertEntry key value entries).lookup name = entries.lookup name := by
  have apart : (name == key) = false := beq_false_of_ne (Ne.symm different)
  induction entries with
  | nil => rw [insertEntry, List.lookup_cons, apart]
  | cons entry rest inductionHypothesis =>
    obtain ⟨known, old⟩ := entry
    unfold insertEntry
    split
    · next same =>
      rw [List.lookup_cons, List.lookup_cons, same, apart]
    · rw [List.lookup_cons, List.lookup_cons, inductionHypothesis]

theorem insertEntry_of_fresh {Content : Type} {key : String} {entries : List (String × Content)}
    (fresh : key ∉ entries.map Prod.fst) (value : Content) :
    insertEntry key value entries = entries ++ [(key, value)] := by
  induction entries with
  | nil => rfl
  | cons entry rest inductionHypothesis =>
    obtain ⟨known, old⟩ := entry
    rw [List.map_cons, List.mem_cons, not_or] at fresh
    rw [insertEntry, if_neg (Ne.symm fresh.1), inductionHypothesis fresh.2, List.cons_append]

/-- A key that is known stays where it is, and a new one is put at the end. -/
theorem map_fst_insertEntry {Content : Type} (key : String) (value : Content)
    (entries : List (String × Content)) : (insertEntry key value entries).map Prod.fst =
      if key ∈ entries.map Prod.fst then entries.map Prod.fst
      else entries.map Prod.fst ++ [key] := by
  split
  · next member =>
    induction entries with
    | nil => cases member
    | cons entry rest inductionHypothesis =>
      obtain ⟨known, old⟩ := entry
      unfold insertEntry
      split
      · next same =>
        rw [← same]
        rfl
      · next different =>
        have behind := (List.mem_cons.1 member).resolve_left (Ne.symm different)
        rw [List.map_cons, List.map_cons, inductionHypothesis behind]
  · next fresh => rw [insertEntry_of_fresh fresh, List.map_append, List.map_singleton]

theorem exists_lookup_iff {Content : Type} (entries : List (String × Content)) (name : String) :
    (∃ value, entries.lookup name = some value) ↔ name ∈ entries.map Prod.fst := by
  rw [← Option.isSome_iff_exists, ← Option.ne_none_iff_isSome, Ne, List.lookup_eq_none_iff]
  simp

/-- Where every key stands once, its value is found from either end. -/
theorem lookup_reverse {Content : Type} {entries : List (String × Content)}
    (distinct : (entries.map Prod.fst).Nodup) (name : String) :
    entries.reverse.lookup name = entries.lookup name := by
  induction entries with
  | nil => rfl
  | cons entry rest inductionHypothesis =>
    obtain ⟨key, value⟩ := entry
    obtain ⟨fresh, distinctRest⟩ := List.nodup_cons.1 distinct
    rw [List.reverse_cons, List.lookup_append, inductionHypothesis distinctRest]
    by_cases same : name = key
    · subst same
      have absent : rest.lookup name = none := by
        cases found : rest.lookup name with
        | none => rfl
        | some old => exact absurd ((exists_lookup_iff rest name).1 ⟨old, found⟩) fresh
      rw [absent, List.lookup_cons_self, List.lookup_cons_self]
      rfl
    · rw [List.lookup_cons, List.lookup_cons, beq_false_of_ne same]
      exact Option.or_none

namespace Table

variable {Content : Type}

/-! ### Values -/

theorem mem_entries_of_get? {table : Table Content} {key : String} {value : Content}
    (found : table.get? key = some value) : (key, value) ∈ table.entries := by
  obtain ⟨before, after, split, -⟩ := List.lookup_eq_some_iff.1 found
  rw [split]
  exact List.mem_append_right _ List.mem_cons_self

/-- A key that is put in has its new value, and every other key the one it had. -/
theorem get?_insert (table : Table Content) (key name : String) (value : Content) :
    (table.insert key value).get? name = if key = name then some value else table.get? name := by
  split
  · next same =>
    rw [← same]
    exact table.get?_insert_self key value
  · next different => exact lookup_insertEntry_of_ne different value table.entries

/-- The value of a key is that of its last entry, or the one it had before. -/
theorem get?_insertAll (table : Table Content) (entries : List (String × Content))
    (name : String) :
    (table.insertAll entries).get? name = (entries.reverse.lookup name).or (table.get? name) := by
  induction entries generalizing table with
  | nil => rfl
  | cons entry rest inductionHypothesis =>
    obtain ⟨key, value⟩ := entry
    have step : table.insertAll ((key, value) :: rest) = (table.insert key value).insertAll rest :=
      rfl
    rw [step, inductionHypothesis, get?_insert, List.reverse_cons, List.lookup_append,
      Option.or_assoc, List.lookup_cons, List.lookup_nil]
    by_cases same : key = name
    · rw [if_pos same, same, beq_self_eq_true]
      rfl
    · rw [if_neg same, beq_false_of_ne (Ne.symm same)]
      rfl

theorem get?_ofList (entries : List (String × Content)) (name : String) :
    (ofList entries).get? name = entries.reverse.lookup name := by
  rw [ofList, get?_insertAll]
  exact Option.or_none

theorem lookup_reverse_entries (table : Table Content) (name : String) :
    table.entries.reverse.lookup name = table.get? name :=
  lookup_reverse table.distinct name

/-! ### Entries -/

/-- Entries with new and distinct keys are put behind those of the table. -/
theorem entries_insertAll {table : Table Content} {entries : List (String × Content)}
    (distinct : ((table.entries ++ entries).map Prod.fst).Nodup) :
    (table.insertAll entries).entries = table.entries ++ entries := by
  induction entries generalizing table with
  | nil => exact (List.append_nil table.entries).symm
  | cons entry rest inductionHypothesis =>
    obtain ⟨key, value⟩ := entry
    have step : table.insertAll ((key, value) :: rest) = (table.insert key value).insertAll rest :=
      rfl
    have regroup : table.entries ++ (key, value) :: rest =
        (table.entries ++ [(key, value)]) ++ rest := by simp
    rw [regroup] at distinct ⊢
    have fresh : key ∉ table.entries.map Prod.fst := by
      have front := List.Nodup.of_append_left (List.map_append ▸ distinct)
      rw [List.map_append] at front
      exact fun member => List.disjoint_of_nodup_append front member (List.mem_singleton_self key)
    have inserted : (table.insert key value).entries = table.entries ++ [(key, value)] :=
      insertEntry_of_fresh fresh value
    rw [step, inductionHypothesis (by rwa [inserted]), inserted]

theorem eq_of_entries {table other : Table Content} (same : table.entries = other.entries) :
    table = other := by
  cases table
  cases other
  cases same
  rfl

/-- A table is that of its entries. -/
theorem ofList_entries (table : Table Content) : ofList table.entries = table :=
  eq_of_entries (entries_insertAll table.distinct)

/-! ### Keys -/

theorem mem_keys_iff (table : Table Content) (name : String) :
    name ∈ table.keys ↔ ∃ value, table.get? name = some value :=
  (exists_lookup_iff table.entries name).symm

theorem keys_insert (table : Table Content) (key : String) (value : Content) :
    (table.insert key value).keys =
      if key ∈ table.keys then table.keys else table.keys ++ [key] :=
  map_fst_insertEntry key value table.entries

/-- The keys of a list stand in its table once each, in the order in which they come up first. -/
theorem keys_ofList (entries : List (String × Content)) :
    (ofList entries).keys = (entries.map Prod.fst).eraseDups := by
  induction entries using List.reverseRecOn with
  | nil => rfl
  | append_singleton front last inductionHypothesis =>
    have step : ofList (front ++ [last]) = (ofList front).insert last.1 last.2 := by
      rw [ofList, insertAll, List.foldl_append]
      rfl
    rw [step, keys_insert, inductionHypothesis, List.map_append, List.map_singleton,
      List.eraseDups_append]
    split
    · next known =>
      have nothingNew := List.mem_eraseDups.1 known
      simp [List.removeAll, nothingNew]
    · next fresh =>
      have isNew := mt List.mem_eraseDups.2 fresh
      simp [List.removeAll, isNew, List.eraseDups_cons]

/-- A table has as many entries as it has different keys. -/
theorem size_eq_card (table : Table Content) : table.size = table.keys.toFinset.card := by
  have distinct : table.keys.Nodup := table.distinct
  rw [List.toFinset_card_of_nodup distinct, keys, List.length_map, size]

end Table

end Almanac
