/-
Trees built level by level.

A level is combined in adjacent pairs, an odd last node with itself, until one
node is left.  The combination is a parameter.  Two climbs that meet at the top
under a combination that separates unordered pairs meet under every commutative
one; this is what a root tells about its leaves.
-/

import Mathlib.Algebra.BigOperators.Group.Multiset.Basic
import Mathlib.Tactic.Ring

namespace Pairings

variable {Node Value : Type}

/-! ### One level -/

/-- The pairs a level combines. -/
def pairsOf : List Node → List (Node × Node)
  | [] => []
  | [last] => [(last, last)]
  | first :: second :: rest => (first, second) :: pairsOf rest

def nextLevel (pair : Node → Node → Node) (level : List Node) : List Node :=
  (pairsOf level).map fun combined => pair combined.1 combined.2

theorem pairsOf_length (level : List Node) : (pairsOf level).length = (level.length + 1) / 2 := by
  induction level using pairsOf.induct with
  | case1 => simp only [pairsOf, List.length_nil, Nat.reduceAdd, Nat.reduceDiv]
  | case2 last =>
      simp only [pairsOf, List.length_cons, List.length_nil, Nat.reduceAdd, Nat.reduceDiv]
  | case3 first second rest ih =>
      simp only [pairsOf, List.length_cons, ih]
      omega

theorem nextLevel_length (pair : Node → Node → Node) (level : List Node) :
    (nextLevel pair level).length = (level.length + 1) / 2 := by
  rw [nextLevel, List.length_map, pairsOf_length]

theorem pairsOf_map (interpret : Node → Value) (level : List Node) :
    pairsOf (level.map interpret) = (pairsOf level).map (Prod.map interpret interpret) := by
  induction level using pairsOf.induct with
  | case1 => rfl
  | case2 last => rfl
  | case3 first second rest ih =>
      simp only [List.map_cons, pairsOf, ih, Prod.map_apply]

theorem mem_of_mem_pairsOf {level : List Node} {combined : Node × Node}
    (member : combined ∈ pairsOf level) : combined.1 ∈ level ∧ combined.2 ∈ level := by
  induction level using pairsOf.induct with
  | case1 => cases member
  | case2 last =>
      rw [List.mem_singleton.mp member]
      exact ⟨List.mem_cons_self, List.mem_cons_self⟩
  | case3 first second rest ih =>
      rcases List.mem_cons.mp member with same | later
      · rw [same]
        exact ⟨List.mem_cons_self, List.mem_cons_of_mem _ List.mem_cons_self⟩
      · obtain ⟨left, right⟩ := ih later
        exact ⟨List.mem_cons_of_mem _ (List.mem_cons_of_mem _ left),
          List.mem_cons_of_mem _ (List.mem_cons_of_mem _ right)⟩

/-- A level of even length splits before any other level. -/
theorem pairsOf_append_of_even (front back : List Node) (even : front.length % 2 = 0) :
    pairsOf (front ++ back) = pairsOf front ++ pairsOf back := by
  induction front using pairsOf.induct with
  | case1 => rfl
  | case2 last => cases even
  | case3 first second rest ih =>
      simp only [List.length_cons] at even
      simp only [List.cons_append, pairsOf, ih (by omega)]

/-! ### The climb -/

def climb (pair : Node → Node → Node) (level : List Node) : List Node :=
  if 1 < level.length then climb pair (nextLevel pair level) else level
termination_by level.length
decreasing_by
  rw [nextLevel_length]
  omega

/-- Every pair combined on the way up. -/
def allPairs (pair : Node → Node → Node) (level : List Node) : List (Node × Node) :=
  if 1 < level.length then pairsOf level ++ allPairs pair (nextLevel pair level) else []
termination_by level.length
decreasing_by
  rw [nextLevel_length]
  omega

/-- How many levels are combined above a level of `count` nodes. -/
def rounds (count : Nat) : Nat :=
  if 1 < count then rounds ((count + 1) / 2) + 1 else 0
termination_by count

theorem climb_of_lt {pair : Node → Node → Node} {level : List Node} (several : 1 < level.length) :
    climb pair level = climb pair (nextLevel pair level) := by
  rw [climb, if_pos several]

theorem climb_of_le {pair : Node → Node → Node} {level : List Node} (single : level.length ≤ 1) :
    climb pair level = level := by
  rw [climb, if_neg (by omega)]

theorem climb_two (pair : Node → Node → Node) (first second : Node) :
    climb pair [first, second] = [pair first second] := by
  have several : 1 < [first, second].length := Nat.lt_succ_self 1
  have single : (nextLevel pair [first, second]).length ≤ 1 := Nat.le_refl 1
  rw [climb_of_lt several, climb_of_le single]
  rfl

theorem allPairs_of_lt {pair : Node → Node → Node} {level : List Node}
    (several : 1 < level.length) :
    allPairs pair level = pairsOf level ++ allPairs pair (nextLevel pair level) := by
  rw [allPairs, if_pos several]

theorem pairsOf_subset_allPairs {pair : Node → Node → Node} {level : List Node}
    (several : 1 < level.length) : pairsOf level ⊆ allPairs pair level := by
  rw [allPairs_of_lt several]
  exact List.subset_append_left _ _

theorem allPairs_nextLevel_subset {pair : Node → Node → Node} {level : List Node}
    (several : 1 < level.length) :
    allPairs pair (nextLevel pair level) ⊆ allPairs pair level := by
  rw [allPairs_of_lt several]
  exact List.subset_append_right _ _

theorem rounds_eq_zero {count : Nat} : rounds count = 0 ↔ count ≤ 1 := by
  unfold rounds
  by_cases several : 1 < count
  · rw [if_pos several]
    omega
  · rw [if_neg several]
    omega

theorem rounds_eq_succ {count above : Nat} :
    rounds count = above + 1 ↔ 1 < count ∧ rounds ((count + 1) / 2) = above := by
  constructor
  · intro counted
    rw [rounds] at counted
    by_cases several : 1 < count
    · rw [if_pos several] at counted
      exact ⟨several, Nat.succ.inj counted⟩
    · rw [if_neg several] at counted
      cases counted
  · rintro ⟨several, rfl⟩
    rw [rounds, if_pos several]

/-- Every climb from a non-empty level ends at one node. -/
theorem climb_length (pair : Node → Node → Node) (level : List Node) (filled : level ≠ []) :
    (climb pair level).length = 1 := by
  induction level using climb.induct pair with
  | case1 level several ih =>
      rw [climb_of_lt several]
      apply ih
      intro empty
      have length := nextLevel_length pair level
      rw [empty, List.length_nil] at length
      omega
  | case2 level single =>
      rw [climb_of_le (by omega)]
      have positive := List.length_pos_of_ne_nil filled
      omega

/-! ### What a meeting of two climbs tells -/

/-- Among these pairs the combination forgets nothing but the order. -/
def Separates (pair : Node → Node → Node) (pairs : List (Node × Node)) : Prop :=
  ∀ left ∈ pairs, ∀ right ∈ pairs, pair left.1 left.2 = pair right.1 right.2 →
    left = right ∨ left = right.swap

theorem Separates.mono {pair : Node → Node → Node} {pairs more : List (Node × Node)}
    (separates : Separates pair more) (included : pairs ⊆ more) : Separates pair pairs := by
  intro left leftMember right rightMember same
  exact separates left (included leftMember) right (included rightMember) same

theorem append_subset {front back fronts backs : List Node} (first : front ⊆ fronts)
    (second : back ⊆ backs) : front ++ back ⊆ fronts ++ backs :=
  List.append_subset.mpr ⟨List.subset_append_of_subset_left _ first,
    List.subset_append_of_subset_right _ second⟩

theorem Separates.nextLevel {pair : Node → Node → Node} {first second : List Node}
    (separates : Separates pair (allPairs pair first ++ allPairs pair second))
    (firstSeveral : 1 < first.length) (secondSeveral : 1 < second.length) :
    Separates pair
      (allPairs pair (nextLevel pair first) ++ allPairs pair (nextLevel pair second)) :=
  separates.mono (append_subset (allPairs_nextLevel_subset firstSeveral)
    (allPairs_nextLevel_subset secondSeveral))

/-- An interpretation of the nodes of two levels carries over to the levels
above them. -/
private theorem lift_interpretation {pair : Node → Node → Node} {combine : Value → Value → Value}
    (commutes : ∀ left right, combine left right = combine right left)
    {pairs : List (Node × Node)} (separates : Separates pair pairs) (interpret : Node → Value) :
    ∃ lifted : Node → Value, ∀ combined ∈ pairs,
      lifted (pair combined.1 combined.2) =
        combine (interpret combined.1) (interpret combined.2) := by
  classical
  refine ⟨fun node => if found : ∃ combined ∈ pairs, pair combined.1 combined.2 = node then
    combine (interpret found.choose.1) (interpret found.choose.2) else interpret node, ?_⟩
  intro combined member
  have found : ∃ other ∈ pairs, pair other.1 other.2 = pair combined.1 combined.2 :=
    ⟨combined, member, rfl⟩
  dsimp only
  rw [dif_pos found]
  obtain ⟨chosen, same⟩ := found.choose_spec
  rcases separates _ chosen _ member same with equal | swapped
  · rw [equal]
  · rw [swapped]
    exact commutes _ _

private theorem nextLevel_map {pair : Node → Node → Node} {combine : Value → Value → Value}
    {interpret lifted : Node → Value} {level : List Node}
    (carries : ∀ combined ∈ pairsOf level, lifted (pair combined.1 combined.2) =
      combine (interpret combined.1) (interpret combined.2)) :
    nextLevel combine (level.map interpret) = (nextLevel pair level).map lifted := by
  unfold nextLevel
  rw [pairsOf_map, List.map_map, List.map_map]
  apply List.map_congr_left
  intro combined member
  exact (carries combined member).symm

/-- Two climbs of equally many rounds that meet under a separating combination
meet under every commutative one, whatever the leaves are taken for. -/
theorem climb_congr {pair : Node → Node → Node} {combine : Value → Value → Value}
    (commutes : ∀ left right, combine left right = combine right left)
    {first second : List Node} (sameRounds : rounds first.length = rounds second.length)
    (separates : Separates pair (allPairs pair first ++ allPairs pair second))
    (meet : climb pair first = climb pair second) (interpret : Node → Value) :
    climb combine (first.map interpret) = climb combine (second.map interpret) := by
  generalize counted : rounds first.length = count at sameRounds
  induction count generalizing first second interpret with
  | zero =>
      have firstSingle := rounds_eq_zero.mp counted
      have secondSingle := rounds_eq_zero.mp sameRounds.symm
      rw [climb_of_le firstSingle, climb_of_le secondSingle] at meet
      rw [meet]
  | succ count ih =>
      obtain ⟨firstSeveral, firstAbove⟩ := rounds_eq_succ.mp counted
      obtain ⟨secondSeveral, secondAbove⟩ := rounds_eq_succ.mp sameRounds.symm
      rw [climb_of_lt firstSeveral, climb_of_lt secondSeveral] at meet
      have here : Separates pair (pairsOf first ++ pairsOf second) :=
        separates.mono (append_subset (pairsOf_subset_allPairs firstSeveral)
          (pairsOf_subset_allPairs secondSeveral))
      have above := separates.nextLevel firstSeveral secondSeveral
      obtain ⟨lifted, carries⟩ := lift_interpretation commutes here interpret
      rw [← nextLevel_length pair first] at firstAbove
      rw [← nextLevel_length pair second] at secondAbove
      have carried := ih above meet lifted firstAbove secondAbove.symm
      have climbs (level : List Node) (several : 1 < level.length) :
          climb combine (level.map interpret) =
            climb combine (nextLevel combine (level.map interpret)) := by
        apply climb_of_lt
        rw [List.length_map]
        exact several
      rw [climbs first firstSeveral, climbs second secondSeveral,
        nextLevel_map (fun combined member => carries combined (List.mem_append_left _ member)),
        nextLevel_map (fun combined member => carries combined (List.mem_append_right _ member))]
      exact carried

/-- A node combined on the way up stood on the level or was itself combined. -/
theorem component_of_mem_allPairs {pair : Node → Node → Node} {level : List Node}
    {combined : Node × Node} (member : combined ∈ allPairs pair level) :
    combined.1 ∈ level ∨ ∃ below ∈ allPairs pair level, combined.1 = pair below.1 below.2 := by
  induction level using climb.induct pair with
  | case1 level several ih =>
      rw [allPairs_of_lt several] at member ⊢
      rcases List.mem_append.mp member with here | above
      · exact Or.inl (mem_of_mem_pairsOf here).1
      · right
        rcases ih above with next | ⟨below, belowMember, same⟩
        · obtain ⟨below, belowMember, same⟩ := List.mem_map.mp next
          exact ⟨below, List.mem_append_left _ belowMember, same.symm⟩
        · exact ⟨below, List.mem_append_right _ belowMember, same⟩
  | case2 level single =>
      rw [allPairs, if_neg single] at member
      cases member

/-- A property of the leaves and of everything combined holds of all that is
combined. -/
theorem forall_mem_allPairs {pair : Node → Node → Node} {Holds : Node → Prop}
    (combines : ∀ left right, Holds (pair left right)) {level : List Node}
    (leaves : ∀ node ∈ level, Holds node) :
    ∀ combined ∈ allPairs pair level, Holds combined.1 ∧ Holds combined.2 := by
  induction level using climb.induct pair with
  | case1 level several ih =>
      intro combined member
      rw [allPairs_of_lt several] at member
      rcases List.mem_append.mp member with here | above
      · obtain ⟨left, right⟩ := mem_of_mem_pairsOf here
        exact ⟨leaves _ left, leaves _ right⟩
      · apply ih _ combined above
        intro node nodeMember
        obtain ⟨below, _, same⟩ := List.mem_map.mp nodeMember
        rw [← same]
        exact combines _ _
  | case2 level single =>
      intro combined member
      rw [allPairs, if_neg single] at member
      cases member

/-- The top of a climb of at least one round is a combined node. -/
theorem top_of_lt {pair : Node → Node → Node} {level : List Node} (several : 1 < level.length)
    {top : Node} (top_mem : top ∈ climb pair level) :
    ∃ below ∈ allPairs pair level, top = pair below.1 below.2 := by
  induction level using climb.induct pair with
  | case1 level _ ih =>
      rw [climb_of_lt several] at top_mem
      rw [allPairs_of_lt several]
      by_cases more : 1 < (nextLevel pair level).length
      · obtain ⟨below, member, same⟩ := ih more top_mem
        exact ⟨below, List.mem_append_right _ member, same⟩
      · rw [climb_of_le (by omega)] at top_mem
        obtain ⟨below, member, same⟩ := List.mem_map.mp top_mem
        exact ⟨below, List.mem_append_left _ member, same.symm⟩
  | case2 level single => exact absurd several single

/-- No node of the first level is combined while climbing the second. -/
def Apart (pair : Node → Node → Node) (first second : List Node) : Prop :=
  ∀ node ∈ first, ∀ combined ∈ allPairs pair second, node ≠ pair combined.1 combined.2

private theorem Apart.nextLevel {pair : Node → Node → Node} {first second : List Node}
    (apart : Apart pair first second) (firstSeveral : 1 < first.length)
    (secondSeveral : 1 < second.length)
    (separates : Separates pair (allPairs pair first ++ allPairs pair second)) :
    Apart pair (nextLevel pair first) (nextLevel pair second) := by
  intro node nodeMember combined member same
  obtain ⟨below, belowMember, rfl⟩ := List.mem_map.mp nodeMember
  have inFirst : below ∈ allPairs pair first := pairsOf_subset_allPairs firstSeveral belowMember
  have inSecond := allPairs_nextLevel_subset secondSeveral member
  have components : ∃ lower ∈ allPairs pair second, combined.1 = pair lower.1 lower.2 := by
    rcases component_of_mem_allPairs member with next | ⟨lower, lowerMember, lowerSame⟩
    · obtain ⟨lower, lowerMember, lowerSame⟩ := List.mem_map.mp next
      exact ⟨lower, pairsOf_subset_allPairs secondSeveral lowerMember, lowerSame.symm⟩
    · exact ⟨lower, allPairs_nextLevel_subset secondSeveral lowerMember, lowerSame⟩
  obtain ⟨lower, lowerMember, lowerSame⟩ := components
  obtain ⟨left, right⟩ := mem_of_mem_pairsOf belowMember
  rcases separates below (List.mem_append_left _ inFirst) combined
    (List.mem_append_right _ inSecond) same with equal | swapped
  · rw [← equal] at lowerSame
    exact apart below.1 left lower lowerMember lowerSame
  · have other : combined.1 = below.2 := by
      rw [swapped]
      rfl
    rw [other] at lowerSame
    exact apart below.2 right lower lowerMember lowerSame

/-- Where leaves are told from combined nodes, climbs that meet have equally
many rounds. -/
theorem rounds_eq_of_climb_eq {pair : Node → Node → Node} {first second : List Node}
    (separates : Separates pair (allPairs pair first ++ allPairs pair second))
    (firstFilled : first ≠ []) (secondFilled : second ≠ [])
    (firstApart : Apart pair first second) (secondApart : Apart pair second first)
    (meet : climb pair first = climb pair second) :
    rounds first.length = rounds second.length := by
  generalize counted : rounds first.length = count
  induction count generalizing first second with
  | zero =>
      have single := rounds_eq_zero.mp counted
      by_contra different
      have several : 1 < second.length := by
        by_contra few
        exact different (rounds_eq_zero.mpr (by omega)).symm
      rw [climb_of_le single] at meet
      obtain ⟨leaf, rest, rfl⟩ := List.exists_cons_of_ne_nil firstFilled
      have top : leaf ∈ climb pair second := by
        rw [← meet]
        exact List.mem_cons_self
      obtain ⟨below, member, same⟩ := top_of_lt several top
      exact firstApart leaf List.mem_cons_self below member same
  | succ count ih =>
      obtain ⟨firstSeveral, firstAbove⟩ := rounds_eq_succ.mp counted
      by_cases secondSeveral : 1 < second.length
      · symm
        apply rounds_eq_succ.mpr
        refine ⟨secondSeveral, ?_⟩
        rw [← nextLevel_length pair second]
        rw [← nextLevel_length pair first] at firstAbove
        rw [climb_of_lt firstSeveral, climb_of_lt secondSeveral] at meet
        have filled (level : List Node) (several : 1 < level.length) :
            nextLevel pair level ≠ [] := by
          intro empty
          have length := nextLevel_length pair level
          rw [empty, List.length_nil] at length
          omega
        have swapped : Separates pair (allPairs pair second ++ allPairs pair first) := by
          apply separates.mono
          intro combined member
          exact List.mem_append.mpr (List.mem_append.mp member).symm
        exact (ih (separates.nextLevel firstSeveral secondSeveral)
          (filled first firstSeveral) (filled second secondSeveral)
          (firstApart.nextLevel firstSeveral secondSeveral separates)
          (secondApart.nextLevel secondSeveral firstSeveral swapped) meet firstAbove).symm
      · rw [climb_of_le (Nat.not_lt.mp secondSeveral)] at meet
        obtain ⟨leaf, rest, rfl⟩ := List.exists_cons_of_ne_nil secondFilled
        have top : leaf ∈ climb pair first := by
          rw [meet]
          exact List.mem_cons_self
        obtain ⟨below, member, same⟩ := top_of_lt firstSeveral top
        exact absurd same (secondApart leaf List.mem_cons_self below member)

/-! ### Climbs that add up -/

section Sums

variable {Amount : Type} [AddCommMonoid Amount]

theorem nextLevel_sum {level : List Amount} (even : level.length % 2 = 0) :
    (nextLevel (· + ·) level).sum = level.sum := by
  induction level using pairsOf.induct with
  | case1 => rfl
  | case2 last => cases even
  | case3 first second rest ih =>
      simp only [List.length_cons] at even
      have later := ih (by omega)
      simp only [nextLevel, pairsOf, List.map_cons, List.sum_cons] at later ⊢
      rw [later, add_assoc]

/-- A full level loses and doubles nothing. -/
theorem climb_sum_of_full {level : List Amount} {height : Nat}
    (full : level.length = 2 ^ height) : (climb (· + ·) level).sum = level.sum := by
  induction height generalizing level with
  | zero => rw [climb_of_le (Nat.le_of_eq full)]
  | succ height ih =>
      have positive : 0 < 2 ^ height := Nat.two_pow_pos height
      rw [Nat.pow_succ] at full
      have half : (nextLevel (· + ·) level).length = 2 ^ height := by
        rw [nextLevel_length]
        omega
      rw [climb_of_lt (by omega), ih half, nextLevel_sum (by omega)]

end Sums

/-- Doubling a node neither hides nor invents an element. -/
theorem mem_climb_sum {Element : Type} {level : List (Multiset Element)} {element : Element} :
    element ∈ (climb (· + ·) level).sum ↔ element ∈ level.sum := by
  induction level using climb.induct (fun left right : Multiset Element => left + right) with
  | case1 level several ih =>
      rw [climb_of_lt several, ih]
      clear ih several
      induction level using pairsOf.induct with
      | case1 => rfl
      | case2 last =>
          simp only [nextLevel, pairsOf, List.map_cons, List.map_nil, List.sum_cons,
            List.sum_nil, add_zero, Multiset.mem_add, or_self]
      | case3 first second rest ih =>
          simp only [nextLevel] at ih
          simp only [nextLevel, pairsOf, List.map_cons, List.sum_cons, Multiset.mem_add, ih,
            or_assoc]
  | case2 level single => rw [climb_of_le (by omega)]

private theorem nextLevel_ends_even (pair : Node → Node → Node) (first second : Node)
    (inner : List Node) (third last : Node) (even : inner.length % 2 = 0) :
    nextLevel pair (first :: (second :: (inner ++ [third])) ++ [last]) =
      pair first second :: nextLevel pair inner ++ [pair third last] := by
  have regrouped : first :: (second :: (inner ++ [third])) ++ [last] =
      first :: second :: (inner ++ [third, last]) := by
    simp only [List.cons_append, List.append_assoc, List.nil_append]
  unfold nextLevel
  rw [regrouped, pairsOf, pairsOf_append_of_even _ _ even]
  simp only [pairsOf, List.map_cons, List.map_append, List.map_nil, List.cons_append]

private theorem nextLevel_ends_odd (pair : Node → Node → Node) (first second : Node)
    (inner : List Node) (last : Node) (even : inner.length % 2 = 0) :
    nextLevel pair (first :: (second :: inner) ++ [last]) =
      pair first second :: nextLevel pair inner ++ [pair last last] := by
  have regrouped : first :: (second :: inner) ++ [last] = first :: second :: (inner ++ [last]) :=
    rfl
  unfold nextLevel
  rw [regrouped, pairsOf, pairsOf_append_of_even _ _ even]
  simp only [pairsOf, List.map_cons, List.map_append, List.map_nil, List.cons_append]

/-- How often the last of `count` leaves counts where the first counts once. -/
def Weighs (count weight : Nat) : Prop :=
  ∀ middle : List Nat, middle.length + 2 = count → ∃ rest, ∀ first last,
    (climb (· + ·) (first :: middle ++ [last])).sum = first + weight * last + rest

theorem weighs_two : Weighs 2 1 := by
  intro middle length
  have empty : middle = [] := List.eq_nil_of_length_eq_zero (by omega)
  refine ⟨0, ?_⟩
  intro first last
  rw [empty, List.singleton_append, climb_two, List.sum_singleton]
  omega

private theorem climb_step {count : Nat} (several : 2 ≤ count) {level : List Nat}
    (length : level.length = count) :
    climb (· + ·) level = climb (· + ·) (nextLevel (· + ·) level) :=
  climb_of_lt (by omega)

theorem Weighs.even {count weight : Nat} (several : 3 ≤ count) (even : count % 2 = 0)
    (half : Weighs ((count + 1) / 2) weight) : Weighs count weight := by
  intro middle length
  obtain ⟨second, others, rfl⟩ :=
    List.exists_cons_of_length_pos (show 0 < middle.length by omega)
  rw [List.length_cons] at length
  obtain ⟨inner, third, rfl⟩ :=
    List.eq_nil_or_concat others |>.resolve_left (List.ne_nil_of_length_pos (by omega))
  rw [List.concat_eq_append, List.length_append, List.length_singleton] at length
  obtain ⟨rest, climbed⟩ := half (nextLevel (· + ·) inner) (by
    rw [nextLevel_length]
    omega)
  refine ⟨second + weight * third + rest, ?_⟩
  intro first last
  have counted : (first :: (second :: (inner ++ [third])) ++ [last]).length = count := by
    simp only [List.length_append, List.length_cons, List.length_nil]
    omega
  rw [List.concat_eq_append, climb_step (by omega) counted,
    nextLevel_ends_even _ _ _ _ _ _ (by omega), climbed]
  ring

/-- The last of an odd number of leaves is paired with itself. -/
theorem Weighs.odd {count weight : Nat} (several : 3 ≤ count) (odd : count % 2 = 1)
    (half : Weighs ((count + 1) / 2) weight) : Weighs count (2 * weight) := by
  intro middle length
  obtain ⟨second, inner, rfl⟩ :=
    List.exists_cons_of_length_pos (show 0 < middle.length by omega)
  rw [List.length_cons] at length
  obtain ⟨rest, climbed⟩ := half (nextLevel (· + ·) inner) (by
    rw [nextLevel_length]
    omega)
  refine ⟨second + rest, ?_⟩
  intro first last
  have counted : (first :: (second :: inner) ++ [last]).length = count := by
    simp only [List.length_append, List.length_cons, List.length_nil]
    omega
  rw [climb_step (by omega) counted, nextLevel_ends_odd _ _ _ _ _ (by omega), climbed]
  ring

/-- The first leaf counts once.  The last one counts more often unless the level
is full. -/
theorem climb_weights (count : Nat) (several : 2 ≤ count) :
    ∃ weight, 1 ≤ weight ∧ ((∀ height, count ≠ 2 ^ height) → 2 ≤ weight) ∧
      Weighs count weight := by
  induction count using Nat.strong_induction_on with
  | _ count ih =>
      by_cases two : count = 2
      · refine ⟨1, Nat.le_refl 1, fun notFull => absurd two (notFull 1), ?_⟩
        rw [two]
        exact weighs_two
      · obtain ⟨weight, positive, heavy, weighs⟩ := ih ((count + 1) / 2) (by omega) (by omega)
        by_cases even : count % 2 = 0
        · refine ⟨weight, positive, ?_, weighs.even (by omega) even⟩
          intro notFull
          apply heavy
          intro height full
          apply notFull (height + 1)
          rw [Nat.pow_succ]
          omega
        · exact ⟨2 * weight, by omega, fun _ => by omega, weighs.odd (by omega) (by omega)⟩

/-! ### One leaf that differs -/

private theorem pairsOf_replicate (node : Node) (half : Nat) :
    pairsOf (List.replicate (2 * half) node) = List.replicate half (node, node) := by
  induction half with
  | zero => rfl
  | succ half ih =>
      have split : 2 * (half + 1) = 2 * half + 1 + 1 := by omega
      rw [split, List.replicate_succ, List.replicate_succ, pairsOf, ih, List.replicate_succ]

private theorem nextLevel_one_off {pair : Node → Node → Node}
    (commutes : ∀ left right, pair left right = pair right left) (odd common : Node)
    {before after height : Nat} (full : before + after + 1 = 2 ^ (height + 1)) :
    ∃ fewerBefore fewerAfter, fewerBefore + fewerAfter + 1 = 2 ^ height ∧
      nextLevel pair (List.replicate before common ++ odd :: List.replicate after common) =
        List.replicate fewerBefore (pair common common) ++
          pair odd common :: List.replicate fewerAfter (pair common common) := by
  rw [Nat.pow_succ] at full
  by_cases even : before % 2 = 0
  · obtain ⟨half, rfl⟩ : ∃ half, before = 2 * half := ⟨before / 2, by omega⟩
    obtain ⟨rest, rfl⟩ : ∃ rest, after = 2 * rest + 1 := ⟨after / 2, by omega⟩
    refine ⟨half, rest, by omega, ?_⟩
    unfold nextLevel
    rw [pairsOf_append_of_even _ _ (by rw [List.length_replicate]; exact even),
      List.replicate_succ, pairsOf, pairsOf_replicate, pairsOf_replicate]
    simp only [List.map_append, List.map_cons, List.map_replicate]
  · obtain ⟨half, rfl⟩ : ∃ half, before = 2 * half + 1 := ⟨before / 2, by omega⟩
    obtain ⟨rest, rfl⟩ : ∃ rest, after = 2 * rest := ⟨after / 2, by omega⟩
    refine ⟨half, rest, by omega, ?_⟩
    have regrouped : List.replicate (2 * half + 1) common ++
          odd :: List.replicate (2 * rest) common =
        List.replicate (2 * half) common ++
          common :: odd :: List.replicate (2 * rest) common := by
      rw [List.replicate_succ', List.append_assoc]
      rfl
    unfold nextLevel
    rw [regrouped, pairsOf_append_of_even _ _ (by rw [List.length_replicate]; omega), pairsOf,
      pairsOf_replicate, pairsOf_replicate]
    simp only [List.map_append, List.map_cons, List.map_replicate, commutes common odd]

/-- On a full level the place of a single differing leaf does not matter. -/
theorem climb_one_off {pair : Node → Node → Node}
    (commutes : ∀ left right, pair left right = pair right left) (height : Nat)
    (odd common : Node) :
    ∃ top, ∀ before after, before + after + 1 = 2 ^ height →
      climb pair (List.replicate before common ++ odd :: List.replicate after common) =
        [top] := by
  induction height generalizing odd common with
  | zero =>
      refine ⟨odd, ?_⟩
      intro before after full
      obtain ⟨rfl, rfl⟩ : before = 0 ∧ after = 0 := by
        rw [Nat.pow_zero] at full
        omega
      exact climb_of_le (Nat.le_refl 1)
  | succ height ih =>
      obtain ⟨top, climbs⟩ := ih (pair odd common) (pair common common)
      refine ⟨top, ?_⟩
      intro before after full
      have positive : 0 < 2 ^ height := Nat.two_pow_pos height
      obtain ⟨fewerBefore, fewerAfter, half, next⟩ := nextLevel_one_off commutes odd common full
      rw [Nat.pow_succ] at full
      rw [climb_of_lt (by
        simp only [List.length_append, List.length_cons, List.length_replicate]
        omega), next]
      exact climbs fewerBefore fewerAfter half

end Pairings
