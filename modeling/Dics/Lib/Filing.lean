/-
Numbered items filed under keys.

Numbers are handed out in order and each is appended to the list of one key.
Every number handed out then stands in exactly one list, and every list is
increasing.
-/

import Mathlib.Data.List.Nodup
import Mathlib.Logic.Function.Basic

namespace Filing

variable {Key : Type} [DecidableEq Key]

structure Filed (lists : Key → List Nat) (first next : Nat) : Prop where
  ordered : ∀ key, (lists key).Pairwise (· < ·)
  filed : ∀ number, first ≤ number ∧ number < next ↔ ∃ key, number ∈ lists key
  once : ∀ number key other, number ∈ lists key → number ∈ lists other → key = other

omit [DecidableEq Key] in
theorem filed_empty (first : Nat) : Filed (fun _ : Key => []) first first := by
  refine ⟨fun _ => List.Pairwise.nil, ?_, ?_⟩
  · intro number
    constructor
    · intro between
      omega
    · rintro ⟨key, member⟩
      cases member
  · intro number key other member
    cases member

def file (lists : Key → List Nat) (key : Key) (number : Nat) : Key → List Nat :=
  Function.update lists key (lists key ++ [number])

theorem mem_file {lists : Key → List Nat} {key other : Key} {number filed : Nat} :
    filed ∈ file lists key number other ↔
      filed ∈ lists other ∨ other = key ∧ filed = number := by
  unfold file
  by_cases same : other = key
  · subst same
    rw [Function.update_self, List.mem_append, List.mem_singleton]
    simp only [true_and]
  · rw [Function.update_of_ne same]
    simp only [same, false_and, or_false]

/-- Filing the next number keeps everything as it was and adds that number to
one list. -/
theorem Filed.file {lists : Key → List Nat} {first next : Nat} (before : Filed lists first next)
    (started : first ≤ next) (key : Key) : Filed (file lists key next) first (next + 1) := by
  have below : ∀ number other, number ∈ lists other → number < next := by
    intro number other member
    exact ((before.filed number).mpr ⟨other, member⟩).2
  constructor
  case ordered =>
    intro other
    unfold Filing.file
    by_cases same : other = key
    · subst same
      rw [Function.update_self, List.pairwise_append]
      refine ⟨before.ordered other, List.pairwise_singleton _ _, ?_⟩
      intro number member last isLast
      rw [List.mem_singleton.mp isLast]
      exact below number other member
    · rw [Function.update_of_ne same]
      exact before.ordered other
  case filed =>
    intro number
    constructor
    · intro between
      by_cases new : number = next
      · exact ⟨key, mem_file.mpr (Or.inr ⟨rfl, new⟩)⟩
      · obtain ⟨other, member⟩ := (before.filed number).mp (by omega)
        exact ⟨other, mem_file.mpr (Or.inl member)⟩
    · rintro ⟨other, member⟩
      rcases mem_file.mp member with old | ⟨_, new⟩
      · have between := (before.filed number).mpr ⟨other, old⟩
        omega
      · omega
  case once =>
    intro number one other inOne inOther
    rcases mem_file.mp inOne with old | ⟨here, new⟩
    · rcases mem_file.mp inOther with older | ⟨_, new⟩
      · exact before.once number one other old older
      · have fresh := below number one old
        omega
    · rcases mem_file.mp inOther with old | ⟨there, _⟩
      · have fresh := below number other old
        omega
      · exact here.trans there.symm

omit [DecidableEq Key] in
theorem Filed.existsUnique {lists : Key → List Nat} {first next : Nat}
    (filed : Filed lists first next) {number : Nat} (started : first ≤ number)
    (handedOut : number < next) : ∃! key, number ∈ lists key := by
  obtain ⟨key, member⟩ := (filed.filed number).mp ⟨started, handedOut⟩
  refine ⟨key, member, ?_⟩
  intro other also
  exact filed.once number other key also member

omit [DecidableEq Key] in
theorem Filed.count_eq_one {lists : Key → List Nat} {first next : Nat}
    (filed : Filed lists first next) {key : Key} {number : Nat} (member : number ∈ lists key) :
    (lists key).count number = 1 := by
  have distinct : (lists key).Nodup := (filed.ordered key).imp Nat.ne_of_lt
  exact List.count_eq_one_of_mem distinct member

end Filing
