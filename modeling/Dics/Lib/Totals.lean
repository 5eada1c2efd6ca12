/-
Totals of a ledger that changes one entry at a time.

The entries of a ledger are a total function.  A total is taken over every key
of a finite type, or over a list of distinct keys.
-/

import Mathlib.Algebra.BigOperators.Group.Finset.Piecewise
import Mathlib.Algebra.BigOperators.Group.List.Basic
import Mathlib.Algebra.GroupWithZero.Nat
import Mathlib.Data.Fintype.Defs

namespace Totals

variable {Key Entry : Type} [DecidableEq Key]

/-! ### Over every key -/

def tally [Fintype Key] (weight : Entry → Nat) (entries : Key → Entry) : Nat :=
  ∑ key, weight (entries key)

/-- Replacing one entry trades its old weight for the new one.  Stated as a sum
so that no subtraction is needed. -/
theorem tally_update [Fintype Key] (weight : Entry → Nat) (entries : Key → Entry) (key : Key)
    (entry : Entry) :
    tally weight (Function.update entries key entry) + weight (entries key) =
      tally weight entries + weight entry := by
  have present : key ∈ (Finset.univ : Finset Key) := Finset.mem_univ key
  have untouched : ∑ other ∈ Finset.univ.erase key,
        weight (Function.update entries key entry other) =
      ∑ other ∈ Finset.univ.erase key, weight (entries other) := by
    apply Finset.sum_congr rfl
    intro other member
    rw [Function.update_of_ne (Finset.ne_of_mem_erase member)]
  unfold tally
  rw [← Finset.add_sum_erase _ _ present,
    ← Finset.add_sum_erase _ (fun other => weight (entries other)) present, untouched,
    Function.update_self]
  omega

theorem le_tally [Fintype Key] (weight : Entry → Nat) (entries : Key → Entry) (key : Key) :
    weight (entries key) ≤ tally weight entries := by
  unfold tally
  rw [← Finset.add_sum_erase _ (fun other => weight (entries other)) (Finset.mem_univ key)]
  exact Nat.le_add_right _ _

/-! ### Over a list of keys -/

def total (weight : Entry → Nat) (entries : Key → Entry) (keys : List Key) : Nat :=
  (keys.map (fun key => weight (entries key))).sum

omit [DecidableEq Key] in
theorem total_snoc (weight : Entry → Nat) (entries : Key → Entry) (keys : List Key) (key : Key) :
    total weight entries (keys ++ [key]) = total weight entries keys + weight (entries key) := by
  simp only [total, List.map_append, List.sum_append, List.map_cons, List.map_nil,
    List.sum_singleton]

theorem total_update_of_notMem (weight : Entry → Nat) (entries : Key → Entry) {keys : List Key}
    {key : Key} (absent : key ∉ keys) (entry : Entry) :
    total weight (Function.update entries key entry) keys = total weight entries keys := by
  unfold total
  congr 1
  apply List.map_congr_left
  intro other member
  have distinct : other ≠ key := fun same => absent (same ▸ member)
  rw [Function.update_of_ne distinct]

theorem total_update_of_mem (weight : Entry → Nat) (entries : Key → Entry) {keys : List Key}
    (distinct : keys.Nodup) {key : Key} (present : key ∈ keys) (entry : Entry) :
    total weight (Function.update entries key entry) keys + weight (entries key) =
      total weight entries keys + weight entry := by
  have absent : key ∉ keys.erase key := distinct.not_mem_erase
  have rest := total_update_of_notMem weight entries absent entry
  have before := List.sum_map_erase (fun other => weight (entries other)) present
  have after := List.sum_map_erase
    (fun other => weight (Function.update entries key entry other)) present
  unfold total at rest ⊢
  rw [Function.update_self] at after
  omega

omit [DecidableEq Key] in
theorem total_le_total {Other : Type} {weight : Entry → Nat} {bound : Other → Nat}
    {entries : Key → Entry} {bounds : Key → Other} {keys : List Key}
    (entrywise : ∀ key ∈ keys, weight (entries key) ≤ bound (bounds key)) :
    total weight entries keys ≤ total bound bounds keys := by
  unfold total
  induction keys with
  | nil => exact Nat.le_refl _
  | cons head rest ih =>
      have first := entrywise head List.mem_cons_self
      have others := ih (fun key member => entrywise key (List.mem_cons_of_mem _ member))
      simp only [List.map_cons, List.sum_cons]
      omega

end Totals
