/-
This file proves what becomes of computations that can fail, when they are carried out
one after the other, when their causes are wrapped, and when they are carried out for
all items of a list.
-/

import Mathlib.Data.List.Forall2

namespace Almanac

/-! ### Steps that may fail -/

theorem bind_eq_ok_iff {Cause First Second : Type} (first : Except Cause First)
    (next : First → Except Cause Second) (result : Second) :
    (first >>= next) = .ok result ↔ ∃ between, first = .ok between ∧ next between = .ok result := by
  cases first with
  | ok between =>
    change next between = _ ↔ _
    simp only [Except.ok.injEq, exists_eq_left']
  | error cause =>
    change Except.error cause = _ ↔ _
    simp only [reduceCtorEq, false_and, exists_false]

theorem bind_eq_error_iff {Cause First Second : Type} (first : Except Cause First)
    (next : First → Except Cause Second) (cause : Cause) :
    (first >>= next) = .error cause ↔
      first = .error cause ∨ ∃ between, first = .ok between ∧ next between = .error cause := by
  cases first with
  | ok between =>
    change next between = _ ↔ _
    simp only [reduceCtorEq, Except.ok.injEq, exists_eq_left', false_or]
  | error other =>
    change Except.error other = _ ↔ _
    simp only [Except.error.injEq, reduceCtorEq, false_and, exists_false, or_false]

theorem bind_map_eq {Cause First Second Third : Type} (first : Except Cause First)
    (image : First → Second) (next : Second → Except Cause Third) :
    (first.map image >>= next) = first >>= fun result => next (image result) := by
  cases first <;> rfl

theorem map_bind_eq {Cause First Second Third : Type} (first : Except Cause First)
    (next : First → Except Cause Second) (image : Second → Third) :
    (first >>= next).map image = first >>= fun result => (next result).map image := by
  cases first <;> rfl

theorem map_eq_ok_iff {Cause First Second : Type} (first : Except Cause First)
    (image : First → Second) (result : Second) :
    first.map image = .ok result ↔ ∃ between, first = .ok between ∧ image between = result := by
  cases first <;> simp [Except.map]

theorem map_eq_error_iff {Cause First Second : Type} (first : Except Cause First)
    (image : First → Second) (cause : Cause) :
    first.map image = .error cause ↔ first = .error cause := by
  cases first <;> simp [Except.map]

/-! ### Causes that are wrapped -/

theorem mapError_eq_ok_iff {Cause Other Result : Type} (given : Except Cause Result)
    (image : Cause → Other) (result : Result) :
    given.mapError image = .ok result ↔ given = .ok result := by
  cases given <;> simp [Except.mapError]

theorem mapError_eq_error_iff {Cause Other Result : Type} (given : Except Cause Result)
    (image : Cause → Other) (other : Other) :
    given.mapError image = .error other ↔ ∃ cause, given = .error cause ∧ other = image cause := by
  cases given <;> simp [Except.mapError, eq_comm]

/-! ### Checks with one cause -/

/-- A check that fails for one cause, and only where a condition does not hold, passes where it
holds. -/
theorem exists_ok_iff {Cause Result : Type} {outcome : Except Cause Result} {condition : Prop}
    {cause : Cause} (failed : ∀ other, outcome = .error other ↔ ¬condition ∧ other = cause) :
    (∃ result, outcome = .ok result) ↔ condition := by
  constructor
  · rintro ⟨result, rfl⟩
    refine of_not_not fun broken => ?_
    cases (failed cause).2 ⟨broken, rfl⟩
  · intro holds
    cases outcome with
    | ok result => exact ⟨result, rfl⟩
    | error other => exact absurd holds ((failed other).1 rfl).1

/-! ### Reading item by item -/

/-- A list is read exactly if each of its items is. -/
theorem mapM_eq_ok_iff {Cause Item Result : Type} (read : Item → Except Cause Result)
    (items : List Item) (results : List Result) :
    items.mapM read = .ok results ↔
      List.Forall₂ (fun item result => read item = .ok result) items results := by
  induction items generalizing results with
  | nil => cases results <;> simp [pure, Except.pure]
  | cons item rest inductionHypothesis =>
    rw [List.mapM_cons]
    cases first : read item with
    | error cause => cases results <;> simp [bind, Except.bind, first]
    | ok result =>
      cases others : rest.mapM read with
      | error cause =>
        cases results <;> simp [bind, Except.bind, first, ← inductionHypothesis, others]
      | ok found =>
        cases results <;>
          simp [bind, Except.bind, pure, Except.pure, first, ← inductionHypothesis, others]

theorem exists_mapM_iff {Cause Item Result : Type} (read : Item → Except Cause Result)
    (items : List Item) : (∃ results, items.mapM read = .ok results) ↔
      ∀ item ∈ items, ∃ result, read item = .ok result := by
  induction items with
  | nil => simp [pure, Except.pure]
  | cons item rest inductionHypothesis =>
    rw [List.mapM_cons, List.forall_mem_cons, ← inductionHypothesis]
    cases read item <;> cases rest.mapM read <;> simp [bind, Except.bind, pure, Except.pure]

/-- If a list is not read, the first item that is not is the cause. -/
theorem mapM_eq_error_iff {Cause Item Result : Type} (read : Item → Except Cause Result)
    (items : List Item) (cause : Cause) :
    items.mapM read = .error cause ↔ ∃ item,
      items.find? (fun item => !(read item).isOk) = some item ∧ read item = .error cause := by
  induction items with
  | nil => simp [pure, Except.pure]
  | cons first rest inductionHypothesis =>
    rw [List.mapM_cons]
    cases firstRead : read first with
    | error firstCause =>
      have isFound : (first :: rest).find? (fun item => !(read item).isOk) = some first :=
        List.find?_cons_of_pos (by rw [firstRead]; rfl)
      simp [isFound, firstRead, bind, Except.bind]
    | ok result =>
      have isBehind : (first :: rest).find? (fun item => !(read item).isOk) =
          rest.find? fun item => !(read item).isOk :=
        List.find?_cons_of_neg (by rw [firstRead]; exact Bool.false_ne_true)
      rw [isBehind, ← inductionHypothesis]
      cases rest.mapM read <;> simp [bind, Except.bind, pure, Except.pure]

end Almanac
