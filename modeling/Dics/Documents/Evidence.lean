/-
What a root says about the documents.

Documents are hashed to leaves without a mark that tells a leaf from an inner
node, and an odd node counts twice.  Apart from documents that are themselves
a concatenation of two digests, the root binds the documents as often as the
tree counts them.
-/

import Dics.Documents.Merkle
import Mathlib.Data.Set.Function

open Pairings TypedData

namespace Dics.MerkleTreeService

variable (keccak : Bytes → Digest)

def documentRoot (documents : List Bytes) : Except Error Bytes :=
  computeRoot keccak (documents.map (computeLeafHash keccak))

/-- The strings hashed above the leaves. -/
def innerStrings (documents : List Bytes) : List Bytes :=
  hashedStrings keccak (documents.map (computeLeafHash keccak))

def hashedFor (documents : List Bytes) : List Bytes :=
  documents ++ innerStrings keccak documents

/-- The documents, each as often as the tree counts it: an odd node, with all
the documents below it, counts twice. -/
def treeContents (documents : List Bytes) : Multiset Bytes :=
  (climb (· + ·) (documents.map fun document => ({document} : Multiset Bytes))).sum

theorem mem_treeContents {documents : List Bytes} {document : Bytes} :
    document ∈ treeContents documents ↔ document ∈ documents := by
  rw [treeContents, mem_climb_sum, sum_singletons, Multiset.mem_coe]

/-- A full level counts every document once. -/
theorem treeContents_of_full {documents : List Bytes} {height : Nat}
    (full : documents.length = 2 ^ height) : treeContents documents = documents := by
  rw [treeContents, climb_sum_of_full (by rw [List.length_map]; exact full), sum_singletons]

theorem digests_of_documents (documents : List Bytes) :
    Digests (documents.map (computeLeafHash keccak)) := by
  intro leaf member
  obtain ⟨document, _, rfl⟩ := List.mem_map.mp member
  exact encodeWord_length _

section Binding

variable {keccak}
variable {first second : List Bytes}

/-- No document is a string hashed above the leaves of the other list, so no
leaf is an inner node there. -/
private theorem apart_of_documents
    (collisionFree : CollisionFree keccak (hashedFor keccak first ++ hashedFor keccak second))
    (documents : ∀ document ∈ first, document ∉ innerStrings keccak second) :
    Apart (hashPair keccak) (first.map (computeLeafHash keccak))
      (second.map (computeLeafHash keccak)) := by
  intro node nodeMember pair member same
  obtain ⟨document, documentMember, rfl⟩ := List.mem_map.mp nodeMember
  have inner : combined pair.1 pair.2 ∈ innerStrings keccak second := List.mem_map_of_mem member
  have equal : document = combined pair.1 pair.2 := by
    apply collisionFree
    · exact List.mem_append_left _ (List.mem_append_left _ documentMember)
    · exact List.mem_append_right _ (List.mem_append_right _ inner)
    · exact encodeWord_injective same
  rw [← equal] at inner
  exact documents document documentMember inner

private theorem reads_back
    (collisionFree : CollisionFree keccak (hashedFor keccak first ++ hashedFor keccak second)) :
    ∃ interpret : Bytes → Multiset Bytes, ∀ document ∈ first ++ second,
      interpret (computeLeafHash keccak document) = {document} := by
  have injective : Set.InjOn (computeLeafHash keccak)
      {document | document ∈ first ++ second} := by
    intro left leftMember right rightMember same
    have hashed {document : Bytes} (member : document ∈ first ++ second) :
        document ∈ hashedFor keccak first ++ hashedFor keccak second := by
      rcases List.mem_append.mp member with inFirst | inSecond
      · exact List.mem_append_left _ (List.mem_append_left _ inFirst)
      · exact List.mem_append_right _ (List.mem_append_left _ inSecond)
    exact collisionFree left (hashed leftMember) right (hashed rightMember)
      (encodeWord_injective same)
  refine ⟨fun node => {Function.invFunOn (computeLeafHash keccak)
    {document | document ∈ first ++ second} node}, ?_⟩
  intro document member
  dsimp only
  rw [injective.leftInvOn_invFunOn member]

theorem treeContents_eq_of_root_eq (firstFilled : first ≠ []) (secondFilled : second ≠ [])
    (collisionFree : CollisionFree keccak (hashedFor keccak first ++ hashedFor keccak second))
    (firstApart : ∀ document ∈ first, document ∉ innerStrings keccak second)
    (secondApart : ∀ document ∈ second, document ∉ innerStrings keccak first)
    (same : documentRoot keccak first = documentRoot keccak second) :
    treeContents first = treeContents second := by
  have firstLeaves : first.map (computeLeafHash keccak) ≠ [] :=
    fun empty => firstFilled (List.map_eq_nil_iff.mp empty)
  have secondLeaves : second.map (computeLeafHash keccak) ≠ [] :=
    fun empty => secondFilled (List.map_eq_nil_iff.mp empty)
  have meet := (computeRoot_eq_iff keccak firstLeaves secondLeaves).mp same
  have separates := separates_of_collisionFree (digests_of_documents keccak first)
    (digests_of_documents keccak second)
    (fun left leftMember right rightMember => collisionFree left
      (append_subset (List.subset_append_right _ _) (List.subset_append_right _ _) leftMember)
      right
      (append_subset (List.subset_append_right _ _) (List.subset_append_right _ _) rightMember))
  have swapped : CollisionFree keccak (hashedFor keccak second ++ hashedFor keccak first) :=
    fun left leftMember right rightMember => collisionFree left
      (List.mem_append.mpr (List.mem_append.mp leftMember).symm) right
      (List.mem_append.mpr (List.mem_append.mp rightMember).symm)
  have sameRounds := rounds_eq_of_climb_eq separates firstLeaves secondLeaves
    (apart_of_documents collisionFree firstApart) (apart_of_documents swapped secondApart) meet
  obtain ⟨interpret, reads⟩ := reads_back collisionFree
  have contents := climb_congr (fun left right : Multiset Bytes => add_comm left right)
    sameRounds separates meet interpret
  have read {documents : List Bytes} (included : documents ⊆ first ++ second) :
      (documents.map (computeLeafHash keccak)).map interpret =
        documents.map fun document => ({document} : Multiset Bytes) := by
    rw [List.map_map]
    apply List.map_congr_left
    intro document member
    exact reads document (included member)
  rw [read (List.subset_append_left _ _), read (List.subset_append_right _ _)] at contents
  exact congrArg List.sum contents

end Binding

/-- Where no document is a string hashed above the leaves of the other list, the
roots of two lists differ as soon as their trees count different documents: in
particular when a document is in one list only, and when both levels are full
and the lists differ as multisets. -/
theorem root_binds_tree_contents (first second : List Bytes) (firstFilled : first ≠ [])
    (secondFilled : second ≠ [])
    (collisionFree : CollisionFree keccak (hashedFor keccak first ++ hashedFor keccak second))
    (firstApart : ∀ document ∈ first, document ∉ innerStrings keccak second)
    (secondApart : ∀ document ∈ second, document ∉ innerStrings keccak first) :
    (treeContents first ≠ treeContents second →
      documentRoot keccak first ≠ documentRoot keccak second) ∧
    ((∃ document, ¬(document ∈ first ↔ document ∈ second)) →
      documentRoot keccak first ≠ documentRoot keccak second) ∧
    (∀ height otherHeight, first.length = 2 ^ height → second.length = 2 ^ otherHeight →
      ¬first.Perm second → documentRoot keccak first ≠ documentRoot keccak second) := by
  have counted (same : documentRoot keccak first = documentRoot keccak second) :=
    treeContents_eq_of_root_eq firstFilled secondFilled collisionFree firstApart secondApart same
  refine ⟨fun differ same => differ (counted same), ?_, ?_⟩
  · rintro ⟨document, onlyOne⟩ same
    apply onlyOne
    rw [← mem_treeContents, counted same, mem_treeContents]
  · intro height otherHeight firstFull secondFull differ same
    have contents := counted same
    rw [treeContents_of_full firstFull, treeContents_of_full secondFull] at contents
    exact differ (Multiset.coe_eq_coe.mp contents)

def documentA : Bytes := asciiBytes "document A"
def documentB : Bytes := asciiBytes "document B"
def documentC : Bytes := asciiBytes "document C"

theorem innerStrings_singleton (document : Bytes) : innerStrings keccak [document] = [] := by
  have single : ¬1 < [computeLeafHash keccak document].length := Nat.lt_irrefl 1
  rw [innerStrings, List.map_singleton, hashedStrings, allPairs, if_neg single]
  rfl

theorem innerStrings_two (first second : Bytes) :
    innerStrings keccak [first, second] =
      [combined (computeLeafHash keccak first) (computeLeafHash keccak second)] := by
  rw [innerStrings, List.map_cons, List.map_singleton, hashedStrings, allPairs_two]
  rfl

/-- Repeating the last of three documents changes nothing on the way up. -/
theorem three_and_four {Node : Type} (pair : Node → Node → Node) (first second third : Node) :
    climb pair [first, second, third, third] = climb pair [first, second, third] ∧
      allPairs pair [first, second, third, third] = allPairs pair [first, second, third] ∧
      allPairs pair [first, second, third] =
        [(first, second), (third, third), (pair first second, pair third third)] := by
  have three : 1 < [first, second, third].length := Nat.lt_succ_of_lt (Nat.lt_succ_self 1)
  have four : 1 < [first, second, third, third].length :=
    Nat.lt_succ_of_lt (Nat.lt_succ_of_lt (Nat.lt_succ_self 1))
  refine ⟨?_, ?_, ?_⟩
  · rw [climb_of_lt three, climb_of_lt four]
    rfl
  · rw [allPairs_of_lt three, allPairs_of_lt four]
    rfl
  · rw [allPairs_of_lt three]
    exact congrArg (pairsOf [first, second, third] ++ ·)
      (allPairs_two pair (pair first second) (pair third third))

theorem innerStrings_three (first second third : Bytes) :
    innerStrings keccak [first, second, third] =
      [combined (computeLeafHash keccak first) (computeLeafHash keccak second),
        combined (computeLeafHash keccak third) (computeLeafHash keccak third),
        combined
          (hashPair keccak (computeLeafHash keccak first) (computeLeafHash keccak second))
          (hashPair keccak (computeLeafHash keccak third)
            (computeLeafHash keccak third))] := by
  rw [innerStrings, List.map_cons, List.map_cons, List.map_singleton, hashedStrings,
    (three_and_four _ _ _ _).2.2]
  rfl

/-- A third document, paired with itself for want of another, changes the root of two. -/
theorem root_binds_tree_contents_sample :
    documentRoot keccakSample [documentA, documentB] ≠
      documentRoot keccakSample [documentA, documentB, documentC] := by
  refine (root_binds_tree_contents keccakSample [documentA, documentB]
    [documentA, documentB, documentC] (List.cons_ne_nil _ _) (List.cons_ne_nil _ _) ?_ ?_ ?_).2.1
    ⟨documentC, by decide +kernel⟩
  · rw [hashedFor, hashedFor, innerStrings_two, innerStrings_three]
    unfold CollisionFree
    decide +kernel
  · rw [innerStrings_three]
    decide +kernel
  · rw [innerStrings_two]
    decide +kernel

/-! ### Where the root binds less -/

/-- Without any collision, a document uploaded twice and a document made of two
digests meet the roots of other lists. -/
theorem different_evidence_same_root :
    (CollisionFree keccakSample (hashedFor keccakSample [documentA, documentB, documentC] ++
        hashedFor keccakSample [documentA, documentB, documentC, documentC]) ∧
      ¬[documentA, documentB, documentC].Perm [documentA, documentB, documentC, documentC] ∧
      documentRoot keccakSample [documentA, documentB, documentC] =
        documentRoot keccakSample [documentA, documentB, documentC, documentC]) ∧
    (CollisionFree keccakSample (hashedFor keccakSample [encodeWords [digestA, digestB]] ++
        hashedFor keccakSample [documentA, documentB]) ∧
      ¬[encodeWords [digestA, digestB]].Perm [documentA, documentB] ∧
      documentRoot keccakSample [encodeWords [digestA, digestB]] =
        documentRoot keccakSample [documentA, documentB]) := by
  refine ⟨⟨?_, ?_, ?_⟩, ?_, ?_, ?_⟩
  · have pairs := three_and_four (hashPair keccakSample) (computeLeafHash keccakSample documentA)
      (computeLeafHash keccakSample documentB) (computeLeafHash keccakSample documentC)
    simp only [hashedFor, innerStrings, hashedStrings, List.map_cons, List.map_nil, pairs]
    unfold CollisionFree
    decide +kernel
  · intro perm
    exact absurd perm.length_eq (by decide)
  · have climbs := three_and_four (hashPair keccakSample) (computeLeafHash keccakSample documentA)
      (computeLeafHash keccakSample documentB) (computeLeafHash keccakSample documentC)
    exact ((computeRoot_eq_iff keccakSample (List.cons_ne_nil _ _) (List.cons_ne_nil _ _)).mpr
      climbs.1).symm
  · simp only [hashedFor, innerStrings_singleton, innerStrings_two]
    unfold CollisionFree
    decide +kernel
  · intro perm
    exact absurd perm.length_eq (by decide)
  · apply (computeRoot_eq_iff keccakSample (List.cons_ne_nil _ _) (List.cons_ne_nil _ _)).mpr
    have single : [computeLeafHash keccakSample (encodeWords [digestA, digestB])].length ≤ 1 :=
      Nat.le_refl 1
    simp only [List.map_cons, List.map_nil]
    rw [climb_of_le single, climb_two]
    decide +kernel

end Dics.MerkleTreeService
