/-
The Merkle root of a claim's documents.

`MerkleTreeService` sorts inside each pair before hashing, but pairs by
position, and hashes an odd node with itself.  A root therefore depends on the
order of the leaves, and forgets how often the last document was uploaded.
-/

import Dics.Lib.Pairings
import Dics.Lib.TypedData
import Mathlib.Data.List.Permutation

open Pairings TypedData

namespace Dics.MerkleTreeService

variable (keccak : Bytes → Digest)

def computeLeafHash (documentContent : Bytes) : Bytes :=
  encodeWord (keccak documentContent)

/-- The first byte that differs decides, then the length. -/
def compareBytes : Bytes → Bytes → Ordering
  | [], [] => .eq
  | [], _ :: _ => .lt
  | _ :: _, [] => .gt
  | first :: firsts, second :: seconds =>
      if first < second then .lt
      else if second < first then .gt
      else compareBytes firsts seconds

/-- The smaller byte string first. -/
def combined (first second : Bytes) : Bytes :=
  if compareBytes first second ≠ .gt then first ++ second else second ++ first

def hashPair (first second : Bytes) : Bytes :=
  encodeWord (keccak (combined first second))

inductive Error where
  | argumentException (message paramName : String)
  | argumentOutOfRange
  deriving DecidableEq

/-- The loop over the levels is `climb`; `level[0]` is all that is left. -/
def computeRoot (leafHashes : List Bytes) : Except Error Bytes :=
  if leafHashes.length = 0 then
    .error (.argumentException "Cannot compute a Merkle root over zero documents." "leafHashes")
  else
    match climb (hashPair keccak) leafHashes with
    | root :: _ => .ok root
    | [] => .error .argumentOutOfRange

/-! ### Sorted pairs -/

theorem compareBytes_swap (first second : Bytes) :
    compareBytes second first = (compareBytes first second).swap := by
  induction first generalizing second with
  | nil =>
      cases second with
      | nil => rfl
      | cons _ _ => rfl
  | cons byte rest ih =>
      cases second with
      | nil => rfl
      | cons other others =>
          simp only [compareBytes]
          by_cases less : byte < other
          · have notMore : ¬other < byte := UInt8.lt_asymm less
            rw [if_pos less, if_neg notMore, if_pos less]
            rfl
          · by_cases more : other < byte
            · rw [if_pos more, if_neg less, if_pos more]
              rfl
            · rw [if_neg more, if_neg less, if_neg less, if_neg more]
              exact ih others

theorem eq_of_compareBytes_eq {first second : Bytes} (same : compareBytes first second = .eq) :
    first = second := by
  induction first generalizing second with
  | nil =>
      cases second with
      | nil => rfl
      | cons _ _ => cases same
  | cons byte rest ih =>
      cases second with
      | nil => cases same
      | cons other others =>
          simp only [compareBytes] at same
          by_cases less : byte < other
          · rw [if_pos less] at same
            cases same
          · rw [if_neg less] at same
            by_cases more : other < byte
            · rw [if_pos more] at same
              cases same
            · rw [if_neg more] at same
              rw [ih same, UInt8.le_antisymm (UInt8.not_lt.mp more) (UInt8.not_lt.mp less)]

theorem combined_comm (first second : Bytes) : combined first second = combined second first := by
  unfold combined
  rw [compareBytes_swap first second]
  cases order : compareBytes first second with
  | lt => rfl
  | gt => rfl
  | eq =>
      rw [eq_of_compareBytes_eq order]
      rfl

theorem hashPair_comm (first second : Bytes) :
    hashPair keccak first second = hashPair keccak second first := by
  rw [hashPair, combined_comm]
  rfl

/-- Two strings of a digest's length can be read back from their sorted
concatenation, up to their order. -/
theorem combined_injective {left right : Bytes × Bytes}
    (leftDigests : left.1.length = 32 ∧ left.2.length = 32)
    (rightDigests : right.1.length = 32 ∧ right.2.length = 32)
    (same : combined left.1 left.2 = combined right.1 right.2) :
    left = right ∨ left = right.swap := by
  have split {first second third fourth : Bytes} (lengths : first.length = third.length)
      (appended : first ++ second = third ++ fourth) : first = third ∧ second = fourth :=
    List.append_inj appended lengths
  obtain ⟨first, second⟩ := left
  obtain ⟨third, fourth⟩ := right
  dsimp only at leftDigests rightDigests same
  unfold combined at same
  by_cases leftSorted : compareBytes first second ≠ .gt
  · by_cases rightSorted : compareBytes third fourth ≠ .gt
    · rw [if_pos leftSorted, if_pos rightSorted] at same
      obtain ⟨rfl, rfl⟩ := split (leftDigests.1.trans rightDigests.1.symm) same
      exact Or.inl rfl
    · rw [if_pos leftSorted, if_neg rightSorted] at same
      obtain ⟨rfl, rfl⟩ := split (leftDigests.1.trans rightDigests.2.symm) same
      exact Or.inr rfl
  · by_cases rightSorted : compareBytes third fourth ≠ .gt
    · rw [if_neg leftSorted, if_pos rightSorted] at same
      obtain ⟨rfl, rfl⟩ := split (leftDigests.2.trans rightDigests.1.symm) same
      exact Or.inr rfl
    · rw [if_neg leftSorted, if_neg rightSorted] at same
      obtain ⟨rfl, rfl⟩ := split (leftDigests.2.trans rightDigests.2.symm) same
      exact Or.inl rfl

/-! ### Roots and the strings hashed for them -/

/-- The strings hashed on the way from the leaves to the root. -/
def hashedStrings (leafHashes : List Bytes) : List Bytes :=
  (allPairs (hashPair keccak) leafHashes).map fun pair => combined pair.1 pair.2

theorem computeRoot_of_climb {leafHashes : List Bytes} {root : Bytes} {others : List Bytes}
    (filled : leafHashes ≠ []) (climbed : climb (hashPair keccak) leafHashes = root :: others) :
    computeRoot keccak leafHashes = .ok root := by
  rw [computeRoot, if_neg (fun empty => filled (List.eq_nil_of_length_eq_zero empty)), climbed]

/-- The loop ends with one node, so `level[0]` is there. -/
theorem climb_root {leafHashes : List Bytes} (filled : leafHashes ≠ []) :
    ∃ root, climb (hashPair keccak) leafHashes = [root] ∧
      computeRoot keccak leafHashes = .ok root := by
  obtain ⟨root, climbed⟩ :=
    List.length_eq_one_iff.mp (climb_length (hashPair keccak) leafHashes filled)
  exact ⟨root, climbed, computeRoot_of_climb keccak filled climbed⟩

theorem computeRoot_eq_iff {first second : List Bytes} (firstFilled : first ≠ [])
    (secondFilled : second ≠ []) :
    computeRoot keccak first = computeRoot keccak second ↔
      climb (hashPair keccak) first = climb (hashPair keccak) second := by
  obtain ⟨firstRoot, firstClimb, firstComputed⟩ := climb_root keccak firstFilled
  obtain ⟨secondRoot, secondClimb, secondComputed⟩ := climb_root keccak secondFilled
  rw [firstComputed, secondComputed, firstClimb, secondClimb, Except.ok.injEq, List.singleton_inj]

/-- Leaf hashes are digests. -/
def Digests (leafHashes : List Bytes) : Prop :=
  ∀ leaf ∈ leafHashes, leaf.length = 32

theorem hashPair_length (first second : Bytes) : (hashPair keccak first second).length = 32 :=
  encodeWord_length _

variable {keccak} in
/-- Where the hash meets no collision, a node determines the two below it up to
their order. -/
theorem separates_of_collisionFree {first second : List Bytes} (firstDigests : Digests first)
    (secondDigests : Digests second)
    (collisionFree : CollisionFree keccak
      (hashedStrings keccak first ++ hashedStrings keccak second)) :
    Separates (hashPair keccak)
      (allPairs (hashPair keccak) first ++ allPairs (hashPair keccak) second) := by
  have digests (pair : Bytes × Bytes) (member : pair ∈
      allPairs (hashPair keccak) first ++ allPairs (hashPair keccak) second) :
      pair.1.length = 32 ∧ pair.2.length = 32 := by
    rcases List.mem_append.mp member with inFirst | inSecond
    · exact forall_mem_allPairs (hashPair_length keccak) firstDigests pair inFirst
    · exact forall_mem_allPairs (hashPair_length keccak) secondDigests pair inSecond
  have hashed (pair : Bytes × Bytes) (member : pair ∈
      allPairs (hashPair keccak) first ++ allPairs (hashPair keccak) second) :
      combined pair.1 pair.2 ∈ hashedStrings keccak first ++ hashedStrings keccak second := by
    unfold hashedStrings
    rw [← List.map_append]
    exact List.mem_map_of_mem member
  intro left leftMember right rightMember same
  apply combined_injective (digests left leftMember) (digests right rightMember)
  exact collisionFree _ (hashed left leftMember) _ (hashed right rightMember)
    (encodeWord_injective same)

/-! ### The order of the leaves -/

/-- All leaves are equal, or there is a full level of them and at most one
differs. -/
def OrderFree (leafHashes : List Bytes) : Prop :=
  (∃ common, leafHashes = List.replicate leafHashes.length common) ∨
    ∃ height odd common, leafHashes.length = 2 ^ height ∧
      leafHashes.Perm (odd :: List.replicate (2 ^ height - 1) common)

section Arrangements

variable {Leaf : Type}

private theorem unequal_of_not_replicate {leaves : List Leaf}
    (mixed : ¬∃ common, leaves = List.replicate leaves.length common) (filled : leaves ≠ []) :
    ∃ first second rest, first ≠ second ∧ leaves.Perm (first :: second :: rest) := by
  obtain ⟨first, others, rfl⟩ := List.exists_cons_of_ne_nil filled
  have different : ∃ second ∈ others, second ≠ first := by
    by_contra none
    apply mixed
    refine ⟨first, List.eq_replicate_iff.mpr ⟨rfl, ?_⟩⟩
    intro leaf member
    rcases List.mem_cons.mp member with same | later
    · exact same
    · by_contra unequal
      exact none ⟨leaf, later, unequal⟩
  obtain ⟨second, member, unequal⟩ := different
  obtain ⟨front, back, rfl⟩ := List.append_of_mem member
  exact ⟨first, second, front ++ back, unequal.symm, List.Perm.cons first List.perm_middle⟩

/-- Two disjoint pairs of unequal leaves. -/
private theorem unequal_pairs {leaves : List Leaf} (several : 4 ≤ leaves.length)
    (mixed : ¬∃ odd common, leaves.Perm (odd :: List.replicate (leaves.length - 1) common)) :
    ∃ first second third fourth rest,
      leaves.Perm (first :: second :: third :: fourth :: rest) ∧ second ≠ third ∧
        first ≠ fourth := by
  have notEqual : ¬∃ common, leaves = List.replicate leaves.length common := by
    rintro ⟨common, same⟩
    apply mixed
    refine ⟨common, common, ?_⟩
    rw [← List.replicate_succ, Nat.sub_add_cancel (by omega)]
    exact List.Perm.of_eq same
  obtain ⟨first, fourth, others, unequal, arranged⟩ :=
    unequal_of_not_replicate notEqual (List.ne_nil_of_length_pos (by omega))
  have length := arranged.length_eq
  simp only [List.length_cons] at length
  by_cases constant : ∃ common, others = List.replicate others.length common
  · obtain ⟨common, same⟩ := constant
    have nearly (odd : Leaf) (perm : leaves.Perm (odd :: common :: others)) : False := by
      apply mixed
      refine ⟨odd, common, perm.trans ?_⟩
      rw [same, ← List.replicate_succ]
      apply List.Perm.of_eq
      congr 2
      omega
    have notFirst : first ≠ common := by
      intro equal
      apply nearly fourth
      rw [← equal]
      exact arranged.trans (List.Perm.swap _ _ _)
    have notFourth : fourth ≠ common := by
      intro equal
      apply nearly first
      rw [← equal]
      exact arranged
    obtain ⟨count, counted⟩ : ∃ count, others.length = count + 1 + 1 :=
      ⟨others.length - 2, by omega⟩
    rw [counted, List.replicate_succ, List.replicate_succ] at same
    refine ⟨first, fourth, common, common, List.replicate count common, ?_, notFourth, notFirst⟩
    rw [← same]
    exact arranged
  · obtain ⟨second, third, rest, apart, arrangedOthers⟩ :=
      unequal_of_not_replicate constant (List.ne_nil_of_length_pos (by omega))
    refine ⟨first, second, third, fourth, rest, ?_, apart, unequal⟩
    have moved : (fourth :: second :: third :: rest).Perm
        (second :: third :: fourth :: rest) :=
      (List.Perm.swap _ _ _).trans (List.Perm.cons second (List.Perm.swap _ _ _))
    exact arranged.trans (List.Perm.cons first
      ((List.Perm.cons fourth arrangedOthers).trans moved))

private theorem one_off_of_perm {leaves : List Leaf} {odd common : Leaf} {count : Nat}
    (perm : leaves.Perm (odd :: List.replicate count common)) :
    ∃ before after, before + after = count ∧
      leaves = List.replicate before common ++ odd :: List.replicate after common := by
  obtain ⟨front, back, rfl⟩ :=
    List.append_of_mem (perm.mem_iff.mpr (List.mem_cons_self : odd ∈ odd :: _))
  have others : (front ++ back).Perm (List.replicate count common) :=
    List.Perm.cons_inv (List.perm_middle.symm.trans perm)
  have same := List.perm_replicate.mp others
  obtain ⟨length, allCommon⟩ := List.eq_replicate_iff.mp same
  refine ⟨front.length, back.length, ?_, ?_⟩
  · rw [← length, List.length_append]
  · have frontSame : front = List.replicate front.length common :=
      List.eq_replicate_iff.mpr ⟨rfl, fun leaf member =>
        allCommon leaf (List.mem_append_left _ member)⟩
    have backSame : back = List.replicate back.length common :=
      List.eq_replicate_iff.mpr ⟨rfl, fun leaf member =>
        allCommon leaf (List.mem_append_right _ member)⟩
    rw [← frontSame, ← backSame]

end Arrangements

theorem OrderFree.climb_eq {leafHashes other : List Bytes} (orderFree : OrderFree leafHashes)
    (perm : other.Perm leafHashes) :
    climb (hashPair keccak) other = climb (hashPair keccak) leafHashes := by
  rcases orderFree with ⟨common, same⟩ | ⟨height, odd, common, _, arranged⟩
  · rw [same] at perm ⊢
    rw [List.perm_replicate.mp perm]
  · have positive : 0 < 2 ^ height := Nat.two_pow_pos height
    obtain ⟨top, climbs⟩ := climb_one_off (hashPair_comm keccak) height odd common
    obtain ⟨before, after, count, rfl⟩ := one_off_of_perm arranged
    obtain ⟨otherBefore, otherAfter, otherCount, rfl⟩ := one_off_of_perm (perm.trans arranged)
    rw [climbs before after (by omega), climbs otherBefore otherAfter (by omega)]

section Distinguished

variable {keccak}
variable {leafHashes : List Bytes}

/-- Two orders of the leaves, with everything a meeting of their climbs needs. -/
private theorem separates_of_perm (digests : Digests leafHashes)
    (collisionFree : CollisionFree keccak
      (leafHashes.permutations.flatMap (hashedStrings keccak)))
    {first second : List Bytes} (firstPerm : first.Perm leafHashes)
    (secondPerm : second.Perm leafHashes) :
    Separates (hashPair keccak)
      (allPairs (hashPair keccak) first ++ allPairs (hashPair keccak) second) := by
  have hashed {order : List Bytes} (perm : order.Perm leafHashes) :
      hashedStrings keccak order ⊆ leafHashes.permutations.flatMap (hashedStrings keccak) := by
    intro string member
    exact List.mem_flatMap.mpr ⟨order, List.mem_permutations.mpr perm, member⟩
  apply separates_of_collisionFree
  · intro leaf member
    exact digests leaf (firstPerm.subset member)
  · intro leaf member
    exact digests leaf (secondPerm.subset member)
  · intro left leftMember right rightMember
    apply collisionFree
    · rcases List.mem_append.mp leftMember with inFirst | inSecond
      · exact hashed firstPerm inFirst
      · exact hashed secondPerm inSecond
    · rcases List.mem_append.mp rightMember with inFirst | inSecond
      · exact hashed firstPerm inFirst
      · exact hashed secondPerm inSecond

/-- Off a full level the last leaf counts more often than the first, so
exchanging two unequal ones shows in the root. -/
private theorem ends_distinguished {first last : Bytes} {rest : List Bytes}
    (unequal : first ≠ last) (notFull : ∀ height, rest.length + 2 ≠ 2 ^ height)
    (separates : Separates (hashPair keccak)
      (allPairs (hashPair keccak) (first :: rest ++ [last]) ++
        allPairs (hashPair keccak) (last :: rest ++ [first]))) :
    climb (hashPair keccak) (first :: rest ++ [last]) ≠
      climb (hashPair keccak) (last :: rest ++ [first]) := by
  intro meet
  have sameRounds : rounds (first :: rest ++ [last]).length =
      rounds (last :: rest ++ [first]).length := by
    simp only [List.length_append, List.length_cons]
  have counted := climb_congr Nat.add_comm sameRounds separates meet
    (fun leaf => if leaf = first then 1 else 0)
  obtain ⟨weight, _, heavy, climbs⟩ := climb_weights (rest.length + 2) (by omega)
  have atLeastTwo := heavy notFull
  obtain ⟨others, climbed⟩ := climbs (rest.map fun leaf => if leaf = first then 1 else 0)
    (by rw [List.length_map])
  have sums := congrArg List.sum counted
  simp only [List.map_append, List.map_cons, List.map_nil, if_pos, if_neg unequal.symm] at sums
  have once := climbed 1 0
  have often := climbed 0 1
  rw [once, often] at sums
  omega

theorem sum_singletons {Element : Type} (elements : List Element) :
    (elements.map fun element => ({element} : Multiset Element)).sum = elements := by
  induction elements with
  | nil => rfl
  | cons element rest ih =>
      rw [List.map_cons, List.sum_cons, ih, Multiset.singleton_add, Multiset.cons_coe]

/-- Two full levels with one root have the same nodes above them. -/
private theorem nextLevel_perm_of_climb_eq {order other : List Bytes} {height : Nat}
    (several : 1 < order.length) (length : order.length = 2 ^ height)
    (otherLength : other.length = order.length)
    (separates : Separates (hashPair keccak)
      (allPairs (hashPair keccak) order ++ allPairs (hashPair keccak) other))
    (meet : climb (hashPair keccak) order = climb (hashPair keccak) other) :
    (nextLevel (hashPair keccak) order).Perm (nextLevel (hashPair keccak) other) := by
  have otherSeveral : 1 < other.length := by omega
  rw [climb_of_lt several, climb_of_lt otherSeveral] at meet
  have nextSeparates := separates.nextLevel several otherSeveral
  have sameRounds : rounds (nextLevel (hashPair keccak) order).length =
      rounds (nextLevel (hashPair keccak) other).length := by
    rw [nextLevel_length, nextLevel_length, otherLength]
  have contents := climb_congr (fun left right : Multiset Bytes => add_comm left right)
    sameRounds nextSeparates meet (fun node => {node})
  have sums := congrArg List.sum contents
  have half (level : List Bytes) (sameLength : level.length = order.length) :
      ((nextLevel (hashPair keccak) level).map fun node => ({node} : Multiset Bytes)).length =
        2 ^ (height - 1) := by
    rw [List.length_map, nextLevel_length, sameLength, length]
    cases height with
    | zero =>
        rw [Nat.pow_zero] at length
        omega
    | succ height =>
        rw [Nat.pow_succ, Nat.succ_sub_one]
        omega
  rw [climb_sum_of_full (half order rfl), climb_sum_of_full (half other otherLength),
    sum_singletons, sum_singletons, Multiset.coe_eq_coe] at sums
  exact sums

/-- On a full level two exchanged leaves change the pairs, and the pairs show in
the root. -/
private theorem pairs_distinguished {first second third fourth : Bytes} {rest : List Bytes}
    {height : Nat} (apart : second ≠ third) (unequal : first ≠ fourth)
    (full : rest.length + 4 = 2 ^ height)
    (separates : Separates (hashPair keccak)
      (allPairs (hashPair keccak) (first :: second :: third :: fourth :: rest) ++
        allPairs (hashPair keccak) (first :: third :: second :: fourth :: rest))) :
    climb (hashPair keccak) (first :: second :: third :: fourth :: rest) ≠
      climb (hashPair keccak) (first :: third :: second :: fourth :: rest) := by
  intro meet
  have several (order : List Bytes) (length : order.length = rest.length + 4) :
      1 < order.length := by omega
  have sameLength : (first :: third :: second :: fourth :: rest).length =
      (first :: second :: third :: fourth :: rest).length := rfl
  have above := nextLevel_perm_of_climb_eq
    (several (first :: second :: third :: fourth :: rest) rfl) full sameLength separates meet
  have changed : [hashPair keccak first second, hashPair keccak third fourth].Perm
      [hashPair keccak first third, hashPair keccak second fourth] :=
    (List.perm_append_right_iff (nextLevel (hashPair keccak) rest)).mp above
  have combines (order : List Bytes) (length : order.length = rest.length + 4)
      (pair : Bytes × Bytes) (member : pair ∈ pairsOf order) :
      pair ∈ allPairs (hashPair keccak) order :=
    pairsOf_subset_allPairs (several order length) member
  have before := List.mem_append_left
    (allPairs (hashPair keccak) (first :: third :: second :: fourth :: rest))
    (combines (first :: second :: third :: fourth :: rest) rfl (first, second)
      List.mem_cons_self)
  rcases List.mem_cons.mp (changed.subset List.mem_cons_self) with same | later
  · have after := List.mem_append_right
      (allPairs (hashPair keccak) (first :: second :: third :: fourth :: rest))
      (combines (first :: third :: second :: fourth :: rest) rfl (first, third)
        List.mem_cons_self)
    rcases separates _ before _ after same with equal | swapped
    · exact apart (Prod.mk.inj equal).2
    · obtain ⟨firstThird, secondFirst⟩ := Prod.mk.inj swapped
      exact apart (secondFirst.trans firstThird)
  · have after := List.mem_append_right
      (allPairs (hashPair keccak) (first :: second :: third :: fourth :: rest))
      (combines (first :: third :: second :: fourth :: rest) rfl (second, fourth)
        (List.mem_cons_of_mem _ List.mem_cons_self))
    rcases separates _ before _ after (List.mem_singleton.mp later) with equal | swapped
    · obtain ⟨firstSecond, secondFourth⟩ := Prod.mk.inj equal
      exact unequal (firstSecond.trans secondFourth)
    · exact unequal (Prod.mk.inj swapped).1

/-- Two leaves are a full level with at most one that differs, so a mixed level
that is full has more of them. -/
private theorem four_of_mixed {height : Nat} (mixed : ¬OrderFree leafHashes)
    (filled : leafHashes ≠ []) (length : leafHashes.length = 2 ^ height) :
    4 ≤ leafHashes.length := by
  obtain ⟨notEqual, notFull⟩ := not_or.mp mixed
  obtain ⟨first, second, rest, _, perm⟩ := unequal_of_not_replicate notEqual filled
  have counted := perm.length_eq
  simp only [List.length_cons] at counted
  match height, length with
  | 0, length => omega
  | 1, length =>
      have empty : rest = [] := List.eq_nil_of_length_eq_zero (by omega)
      rw [empty] at perm
      exact absurd ⟨1, first, second, length, perm⟩ notFull
  | height + 2, length =>
      have positive : 0 < 2 ^ height := Nat.two_pow_pos height
      rw [Nat.pow_add] at length
      omega

private theorem orders_of_full {height : Nat} (mixed : ¬OrderFree leafHashes)
    (filled : leafHashes ≠ []) (length : leafHashes.length = 2 ^ height)
    (digests : Digests leafHashes)
    (collisionFree : CollisionFree keccak
      (leafHashes.permutations.flatMap (hashedStrings keccak))) :
    ∃ order other : List Bytes, order.Perm leafHashes ∧ other.Perm leafHashes ∧
      climb (hashPair keccak) order ≠ climb (hashPair keccak) other := by
  have notNearly : ¬∃ odd common,
      leafHashes.Perm (odd :: List.replicate (leafHashes.length - 1) common) := by
    rintro ⟨odd, common, perm⟩
    rw [length] at perm
    exact mixed (Or.inr ⟨height, odd, common, length, perm⟩)
  obtain ⟨first, second, third, fourth, rest, perm, apart, unequal⟩ :=
    unequal_pairs (four_of_mixed mixed filled length) notNearly
  have exchanged : (first :: third :: second :: fourth :: rest).Perm leafHashes :=
    (List.Perm.cons first (List.Perm.swap _ _ _)).trans perm.symm
  have counted := perm.length_eq
  simp only [List.length_cons] at counted
  exact ⟨_, _, perm.symm, exchanged, pairs_distinguished apart unequal
    (show rest.length + 4 = 2 ^ height by omega)
    (separates_of_perm digests collisionFree perm.symm exchanged)⟩

private theorem orders_of_not_full (mixed : ¬OrderFree leafHashes) (filled : leafHashes ≠ [])
    (notFull : ∀ height, leafHashes.length ≠ 2 ^ height) (digests : Digests leafHashes)
    (collisionFree : CollisionFree keccak
      (leafHashes.permutations.flatMap (hashedStrings keccak))) :
    ∃ order other : List Bytes, order.Perm leafHashes ∧ other.Perm leafHashes ∧
      climb (hashPair keccak) order ≠ climb (hashPair keccak) other := by
  obtain ⟨notEqual, _⟩ := not_or.mp mixed
  obtain ⟨first, last, rest, unequal, perm⟩ := unequal_of_not_replicate notEqual filled
  have counted := perm.length_eq
  simp only [List.length_cons] at counted
  have forward : (first :: rest ++ [last]).Perm leafHashes :=
    (List.Perm.cons first (List.perm_append_singleton last rest)).trans perm.symm
  have backward : (last :: rest ++ [first]).Perm leafHashes :=
    (List.Perm.cons last (List.perm_append_singleton first rest)).trans
      ((List.Perm.swap _ _ _).trans perm.symm)
  have neverFull : ∀ height, rest.length + 2 ≠ 2 ^ height := by
    intro height
    have never := notFull height
    omega
  exact ⟨_, _, forward, backward, ends_distinguished unequal neverFull
    (separates_of_perm digests collisionFree forward backward)⟩

end Distinguished

/-- The root is the same in every order of the leaves exactly when all leaves are
equal, or there is a full level of them and at most one differs. -/
theorem root_free_of_order_iff (leafHashes : List Bytes) (digests : Digests leafHashes)
    (collisionFree : CollisionFree keccak
      (leafHashes.permutations.flatMap (hashedStrings keccak))) :
    (∀ other : List Bytes, other.Perm leafHashes →
      computeRoot keccak other = computeRoot keccak leafHashes) ↔ OrderFree leafHashes := by
  by_cases filled : leafHashes = []
  · subst filled
    constructor
    · intro _
      exact Or.inl ⟨[], rfl⟩
    · intro _ other perm
      rw [List.perm_nil.mp perm]
  have otherFilled {other : List Bytes} (perm : other.Perm leafHashes) : other ≠ [] := by
    intro empty
    rw [empty] at perm
    exact filled (List.nil_perm.mp perm)
  constructor
  · intro same
    have meet {first second : List Bytes} (firstPerm : first.Perm leafHashes)
        (secondPerm : second.Perm leafHashes) :
        climb (hashPair keccak) first = climb (hashPair keccak) second :=
      (computeRoot_eq_iff keccak (otherFilled firstPerm) (otherFilled secondPerm)).mp
        ((same first firstPerm).trans (same second secondPerm).symm)
    by_contra mixed
    by_cases full : ∃ height, leafHashes.length = 2 ^ height
    · obtain ⟨height, length⟩ := full
      obtain ⟨first, second, firstPerm, secondPerm, differ⟩ :=
        orders_of_full mixed filled length digests collisionFree
      exact differ (meet firstPerm secondPerm)
    · have notFull : ∀ height, leafHashes.length ≠ 2 ^ height :=
        fun height length => full ⟨height, length⟩
      obtain ⟨first, second, firstPerm, secondPerm, differ⟩ :=
        orders_of_not_full mixed filled notFull digests collisionFree
      exact differ (meet firstPerm secondPerm)
  · intro orderFree other perm
    apply (computeRoot_eq_iff keccak (otherFilled perm) filled).mpr
    exact orderFree.climb_eq keccak perm

/-! ### Three documents -/

/-- The Keccak-256 digests of three documents and of the nodes above them. -/
def digestA : Digest := 0x9549bd2909d0af2be94e9a12d9f2bccb424efd0825a2f93d989c84a862fd3df1
def digestB : Digest := 0x9f48d52d439b024fb35255bb029c073654ec6c948247b027f4caa208333e9163
def digestC : Digest := 0x78fbd76c3179ad4ab5d8add127add570531129189dd36bc4b6a9d2816f10b9cb
def digestAA : Digest := 0x3e707ffe661feac44d5e35437e80eeb9b6d0abe2843470efc56cbb63e69ee9b7
def digestAB : Digest := 0xecc6070ebd5457651232f1d45d3c77629380eeafe90885dc49c0c54f71575fca
def digestCC : Digest := 0xbf62e9fd1c74c6301df917bfbd92a5f70b0fc10ea08804926c36e15156f0d9d1
def digestCA : Digest := 0x5f8df5c8ec22af337b0e5ce56732169832c29f1b7e17a8dcb2d63d4b60e8c6da
def digestBB : Digest := 0x32bae2251e2c8c2fe25f93609fbbf6b70e87012c01a8829ccab257dadd5668e4

def sampleDigests : List (Bytes × Digest) :=
  [(asciiBytes "document A", digestA),
    (asciiBytes "document B", digestB),
    (asciiBytes "document C", digestC),
    (encodeWords [digestA, digestA], digestAA),
    (encodeWords [digestA, digestB], digestAB),
    (encodeWords [digestAA, digestAB],
      0x188e7ef286aceff816d1118e903ecb44a9dffa4c40e9456dd424d095c77537a4),
    (encodeWords [digestC, digestC], digestCC),
    (encodeWords [digestCC, digestAB],
      0x437ed1ae4e0f1de84fb07154643e876c010c11786d968b848e83f38a0133fc3c),
    (encodeWords [digestC, digestA], digestCA),
    (encodeWords [digestB, digestB], digestBB),
    (encodeWords [digestBB, digestCA],
      0x2c072682161a574df72c284133730b59c72411be4d8947af1804ec75f23094cc)]

def keccakSample (bytes : Bytes) : Digest :=
  (sampleDigests.lookup bytes).getD 0

theorem climb_three {Node : Type} (pair : Node → Node → Node) (first second third : Node) :
    climb pair [first, second, third] = [pair (pair first second) (pair third third)] := by
  have several : 1 < [first, second, third].length := Nat.lt_succ_of_lt (Nat.lt_succ_self 1)
  rw [climb_of_lt several]
  exact climb_two pair (pair first second) (pair third third)

theorem allPairs_two {Node : Type} (pair : Node → Node → Node) (first second : Node) :
    allPairs pair [first, second] = [(first, second)] := by
  have several : 1 < [first, second].length := Nat.lt_succ_self 1
  have single : ¬1 < (nextLevel pair [first, second]).length := Nat.lt_irrefl 1
  rw [allPairs_of_lt several, allPairs, if_neg single]
  rfl

theorem hashedStrings_four (first second third fourth : Bytes) :
    hashedStrings keccak [first, second, third, fourth] =
      [combined first second, combined third fourth,
        combined (hashPair keccak first second) (hashPair keccak third fourth)] := by
  have several : 1 < [first, second, third, fourth].length :=
    Nat.lt_succ_of_lt (Nat.lt_succ_of_lt (Nat.lt_succ_self 1))
  have above : allPairs (hashPair keccak)
      (nextLevel (hashPair keccak) [first, second, third, fourth]) =
        [(hashPair keccak first second, hashPair keccak third fourth)] :=
    allPairs_two (hashPair keccak) _ _
  rw [hashedStrings, allPairs_of_lt several, above]
  rfl

/-- In every order of four leaves, three of them equal, the same strings are hashed. -/
private theorem hashed_of_four {odd common string : Bytes}
    (member : string ∈ [odd, common, common, common].permutations.flatMap
      (hashedStrings keccak)) :
    string ∈ [combined odd common, combined common common,
      combined (hashPair keccak odd common) (hashPair keccak common common)] := by
  obtain ⟨order, permuted, hashed⟩ := List.mem_flatMap.mp member
  have perm : order.Perm (odd :: List.replicate 3 common) := List.mem_permutations.mp permuted
  obtain ⟨before, after, count, arranged⟩ := one_off_of_perm perm
  have pair := combined_comm common odd
  have node := hashPair_comm keccak common odd
  have top := combined_comm (hashPair keccak common common) (hashPair keccak odd common)
  have place : before = 0 ∧ after = 3 ∨ before = 1 ∧ after = 2 ∨ before = 2 ∧ after = 1 ∨
      before = 3 ∧ after = 0 := by
    omega
  rcases place with ⟨rfl, rfl⟩ | ⟨rfl, rfl⟩ | ⟨rfl, rfl⟩ | ⟨rfl, rfl⟩
  · have order_eq : order = [odd, common, common, common] := arranged
    rw [order_eq, hashedStrings_four] at hashed
    exact hashed
  · have order_eq : order = [common, odd, common, common] := arranged
    rw [order_eq, hashedStrings_four, pair, node] at hashed
    exact hashed
  · have order_eq : order = [common, common, odd, common] := arranged
    rw [order_eq, hashedStrings_four, top] at hashed
    exact (List.Perm.swap _ _ _).subset hashed
  · have order_eq : order = [common, common, common, odd] := arranged
    rw [order_eq, hashedStrings_four, pair, node, top] at hashed
    exact (List.Perm.swap _ _ _).subset hashed

/-- Wherever one document stands beside three copies of another, two levels of sorted
pairs meet in the same root. -/
theorem root_free_of_order_sample :
    computeRoot keccakSample
        [encodeWord digestA, encodeWord digestA, encodeWord digestB, encodeWord digestA] =
      computeRoot keccakSample
        [encodeWord digestB, encodeWord digestA, encodeWord digestA, encodeWord digestA] := by
  apply (root_free_of_order_iff keccakSample
    [encodeWord digestB, encodeWord digestA, encodeWord digestA, encodeWord digestA] _ _).mpr
  · exact Or.inr ⟨2, _, _, rfl, List.Perm.refl _⟩
  · exact @List.perm_middle _ _ [encodeWord digestA, encodeWord digestA] [encodeWord digestA]
  · intro leaf member
    simp only [List.mem_cons, List.not_mem_nil, or_false] at member
    rcases member with rfl | rfl | rfl | rfl
    · exact encodeWord_length _
    · exact encodeWord_length _
    · exact encodeWord_length _
    · exact encodeWord_length _
  · have free : CollisionFree keccakSample
        [combined (encodeWord digestB) (encodeWord digestA),
          combined (encodeWord digestA) (encodeWord digestA),
          combined (hashPair keccakSample (encodeWord digestB) (encodeWord digestA))
            (hashPair keccakSample (encodeWord digestA) (encodeWord digestA))] := by
      unfold CollisionFree
      decide +kernel
    intro left leftMember right rightMember
    exact free left (hashed_of_four keccakSample leftMember) right
      (hashed_of_four keccakSample rightMember)

theorem root_depends_on_order :
    [encodeWord digestC, encodeWord digestA, encodeWord digestB].Perm
        [encodeWord digestA, encodeWord digestB, encodeWord digestC] ∧
      computeRoot keccakSample [encodeWord digestC, encodeWord digestA, encodeWord digestB] ≠
        computeRoot keccakSample [encodeWord digestA, encodeWord digestB, encodeWord digestC] := by
  constructor
  · exact (List.perm_append_singleton (encodeWord digestC) [_, _]).symm
  · rw [ne_eq, computeRoot_eq_iff keccakSample (List.cons_ne_nil _ _) (List.cons_ne_nil _ _),
      climb_three, climb_three, List.singleton_inj]
    decide +kernel

end Dics.MerkleTreeService
