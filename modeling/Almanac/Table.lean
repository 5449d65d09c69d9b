/-
This file defines tables that keep the order of their keys. A key stands where
it was first entered, and its value is the one entered last.
-/

namespace Almanac

/-! ### Entries -/

/-- Entries with the value of one key replaced where it stands, or put at the end. -/
def insertEntry {Content : Type} (key : String) (value : Content) :
    List (String × Content) → List (String × Content)
  | [] => [(key, value)]
  | (known, old) :: rest =>
    if known = key then (key, value) :: rest else (known, old) :: insertEntry key value rest

theorem mem_keys_insertEntry {Content : Type} {key name : String} {value : Content}
    {entries : List (String × Content)}
    (member : name ∈ (insertEntry key value entries).map Prod.fst) :
    name = key ∨ name ∈ entries.map Prod.fst := by
  induction entries with
  | nil => exact Or.inl (List.mem_singleton.1 member)
  | cons entry rest inductionHypothesis =>
    obtain ⟨known, old⟩ := entry
    unfold insertEntry at member
    split at member
    · next same =>
      subst same
      exact Or.inr member
    · rcases List.mem_cons.1 member with head | tail
      · exact Or.inr (head ▸ List.mem_cons_self)
      · exact (inductionHypothesis tail).imp_right (List.mem_cons_of_mem _)

theorem nodup_keys_insertEntry {Content : Type} (key : String) (value : Content)
    {entries : List (String × Content)} (distinct : (entries.map Prod.fst).Nodup) :
    ((insertEntry key value entries).map Prod.fst).Nodup := by
  induction entries with
  | nil => exact List.nodup_cons.2 ⟨List.not_mem_nil, List.nodup_nil⟩
  | cons entry rest inductionHypothesis =>
    obtain ⟨known, old⟩ := entry
    obtain ⟨fresh, restDistinct⟩ := List.nodup_cons.1 distinct
    unfold insertEntry
    split
    · next same =>
      subst same
      exact distinct
    · next different =>
      refine List.nodup_cons.2 ⟨fun member => ?_, inductionHypothesis restDistinct⟩
      rcases mem_keys_insertEntry member with same | known'
      · exact different same
      · exact fresh known'

theorem lookup_insertEntry {Content : Type} (key : String) (value : Content)
    (entries : List (String × Content)) :
    (insertEntry key value entries).lookup key = some value := by
  induction entries with
  | nil => simp [insertEntry]
  | cons entry rest inductionHypothesis =>
    obtain ⟨known, old⟩ := entry
    unfold insertEntry
    split
    · exact List.lookup_cons_self
    · next different =>
      rw [List.lookup_cons, beq_false_of_ne (Ne.symm different), inductionHypothesis]

/-! ### Tables -/

/-- A table from texts to values that keeps the order of its keys. -/
structure Table (Content : Type) where
  entries : List (String × Content)
  distinct : (entries.map Prod.fst).Nodup

namespace Table

variable {Content : Type}

/-- The table without entries. -/
def empty : Table Content := ⟨[], List.nodup_nil⟩

/-- The table with a value for one key, all others as before. -/
def insert (table : Table Content) (key : String) (value : Content) : Table Content :=
  ⟨insertEntry key value table.entries, nodup_keys_insertEntry key value table.distinct⟩

/-- The table with every entry of a list put into it, in the order of the list. -/
def insertAll (table : Table Content) (entries : List (String × Content)) : Table Content :=
  entries.foldl (fun table entry => table.insert entry.1 entry.2) table

/-- The table of a list of entries. -/
def ofList (entries : List (String × Content)) : Table Content := empty.insertAll entries

/-- The value of a key. -/
def get? (table : Table Content) (key : String) : Option Content := table.entries.lookup key

theorem get?_insert_self (table : Table Content) (key : String) (value : Content) :
    (table.insert key value).get? key = some value :=
  lookup_insertEntry key value table.entries

/-- The keys in their order. -/
def keys (table : Table Content) : List String := table.entries.map Prod.fst

/-- The number of keys. -/
def size (table : Table Content) : Nat := table.entries.length

end Table

end Almanac
