/-
Ranges laid end to end.

A range has a first and a last place, both inside it.  Ranges tile a stretch when
each one starts on the place after the one before it.
-/

import Mathlib.Algebra.GroupWithZero.Nat

namespace Tilings

abbrev Range := Nat × Nat

/-- The ranges run from `start` up to the place before `stop`. -/
inductive Tiles : Nat → Nat → List Range → Prop where
  | nil (start : Nat) : Tiles start start []
  | cons {first last stop : Nat} {rest : List Range} (filled : first ≤ last)
      (tail : Tiles (last + 1) stop rest) : Tiles first stop ((first, last) :: rest)

theorem Tiles.le {start stop : Nat} {ranges : List Range} (tiles : Tiles start stop ranges) :
    start ≤ stop := by
  induction tiles with
  | nil start => exact Nat.le_refl start
  | cons filled tail ih => omega

theorem Tiles.append {start middle stop : Nat} {first second : List Range}
    (head : Tiles start middle first) (tail : Tiles middle stop second) :
    Tiles start stop (first ++ second) := by
  induction head with
  | nil start => exact tail
  | cons filled _ ih => exact .cons filled (ih tail)

theorem Tiles.bounds {start stop : Nat} {ranges : List Range} (tiles : Tiles start stop ranges) :
    ∀ range ∈ ranges, start ≤ range.1 ∧ range.1 ≤ range.2 ∧ range.2 < stop := by
  induction tiles with
  | nil start => exact List.forall_mem_nil _
  | @cons first last stop rest filled tail ih =>
      have behind := tail.le
      intro range member
      rcases List.mem_cons.mp member with here | later
      · rw [here]
        exact ⟨Nat.le_refl _, filled, behind⟩
      · obtain ⟨after, inside, before⟩ := ih range later
        exact ⟨by omega, inside, before⟩

/-- The ranges come in order, and no two of them share a place. -/
theorem Tiles.ordered {start stop : Nat} {ranges : List Range} (tiles : Tiles start stop ranges) :
    ranges.Pairwise fun earlier later => earlier.2 < later.1 := by
  induction tiles with
  | nil start => exact List.Pairwise.nil
  | @cons first last stop rest filled tail ih =>
      refine List.pairwise_cons.mpr ⟨?_, ih⟩
      intro range member
      obtain ⟨after, _, _⟩ := tail.bounds range member
      exact after

/-- Together they are the whole stretch. -/
theorem Tiles.covers {start stop : Nat} {ranges : List Range} (tiles : Tiles start stop ranges)
    (place : Nat) :
    (∃ range ∈ ranges, range.1 ≤ place ∧ place ≤ range.2) ↔ start ≤ place ∧ place < stop := by
  induction tiles with
  | nil start =>
      constructor
      · rintro ⟨range, impossible, _⟩
        cases impossible
      · intro inside
        omega
  | @cons first last stop rest filled tail ih =>
      have behind := tail.le
      have split : (∃ range ∈ (first, last) :: rest, range.1 ≤ place ∧ place ≤ range.2) ↔
          (first ≤ place ∧ place ≤ last) ∨
            ∃ range ∈ rest, range.1 ≤ place ∧ place ≤ range.2 := by
        simp only [List.mem_cons, or_and_right, exists_or, exists_eq_left]
      rw [split, ih]
      omega

end Tilings
