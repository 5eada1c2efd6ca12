/-
Gathering a quorum.

Signers are asked one after another, and asking one twice adds nothing.  As
many have signed as were asked only when they were all different.
-/

import Mathlib.Data.List.Induction
import Mathlib.Data.List.Nodup

namespace Quorums

variable {Signer : Type} [DecidableEq Signer]

/-- One more signer, unless already there. -/
def add (signers : List Signer) (signer : Signer) : List Signer :=
  if signer ∈ signers then signers else signers ++ [signer]

def gather (signers asked : List Signer) : List Signer :=
  asked.foldl add signers

theorem gather_cons (signers : List Signer) (signer : Signer) (asked : List Signer) :
    gather signers (signer :: asked) = gather (add signers signer) asked := rfl

theorem gather_append_single (signers asked : List Signer) (signer : Signer) :
    gather signers (asked ++ [signer]) = add (gather signers asked) signer := by
  rw [gather, List.foldl_append]
  rfl

theorem mem_add {signers : List Signer} {signer other : Signer} :
    other ∈ add signers signer ↔ other ∈ signers ∨ other = signer := by
  unfold add
  split
  · rename_i known
    constructor
    · exact Or.inl
    · rintro (member | rfl)
      · exact member
      · exact known
  · rw [List.mem_append, List.mem_singleton]

theorem mem_gather {signers asked : List Signer} {other : Signer} :
    other ∈ gather signers asked ↔ other ∈ signers ∨ other ∈ asked := by
  induction asked generalizing signers with
  | nil => simp [gather]
  | cons signer asked ih => rw [gather_cons, ih, mem_add, List.mem_cons, or_assoc]

/-- Asking different people who have not signed adds each of them. -/
theorem gather_of_distinct {signers asked : List Signer} (distinct : (signers ++ asked).Nodup) :
    gather signers asked = signers ++ asked := by
  induction asked generalizing signers with
  | nil => exact (List.append_nil signers).symm
  | cons signer asked ih =>
      have fresh : signer ∉ signers := by
        intro known
        rw [List.nodup_append] at distinct
        exact distinct.2.2 signer known signer List.mem_cons_self rfl
      rw [List.append_cons] at distinct
      rw [gather_cons, add, if_neg fresh, ih distinct, ← List.append_cons]

theorem length_add_le (signers : List Signer) (signer : Signer) :
    (add signers signer).length ≤ signers.length + 1 := by
  unfold add
  split
  · omega
  · rw [List.length_append]
    exact Nat.le_refl _

theorem length_gather_le (signers asked : List Signer) :
    (gather signers asked).length ≤ signers.length + asked.length := by
  induction asked generalizing signers with
  | nil => exact Nat.le_refl _
  | cons signer asked ih =>
      have rest := ih (add signers signer)
      have one := length_add_le signers signer
      rw [gather_cons, List.length_cons]
      omega

/-- A full count leaves no room for anyone asked twice. -/
theorem nodup_of_length_gather {asked : List Signer}
    (full : (gather [] asked).length = asked.length) : asked.Nodup := by
  induction asked using List.reverseRecOn with
  | nil => exact List.nodup_nil
  | append_singleton asked signer ih =>
      have bound := length_gather_le [] asked
      have one := length_add_le (gather [] asked) signer
      rw [gather_append_single, List.length_append, List.length_singleton] at full
      rw [List.length_nil, Nat.zero_add] at bound
      have distinct := ih (by omega)
      have fresh : signer ∉ asked := by
        intro known
        have again : signer ∈ gather [] asked := mem_gather.mpr (Or.inr known)
        rw [add, if_pos again] at full
        omega
      rw [← List.concat_eq_append]
      exact distinct.concat fresh

/-- The suitable signers behind a list of keys, each of them once. -/
def suitable {Key : Type} (signerOf : Key → Option Signer) (suits : Signer → Bool)
    (keys : List Key) : List Signer :=
  gather [] ((keys.filterMap signerOf).filter suits)

end Quorums
