/-
Walking along paths.

A path is read component by component.  An ordinary component enters a
directory, `..` leaves the one entered last, and `.` and the empty component
do nothing.  A walk that never leaves a directory does not depend on what is
below it, and one that does leave it does not depend on the directory left.
-/

import Mathlib.Data.List.Infix
import Mathlib.Tactic.SplitIfs

namespace Paths

section Walks

variable {Name : Type}

/-- What one component asks for. -/
inductive Move (Name : Type) where
  | stay
  | up
  | enter (name : Name)

/-- The directory reached by one move, as the names entered, the last one first. -/
def move (trail : List Name) : Move Name → List Name
  | .stay => trail
  | .up => trail.tail
  | .enter name => name :: trail

def walk (trail : List Name) (moves : List (Move Name)) : List Name :=
  moves.foldl move trail

theorem walk_cons (trail : List Name) (next : Move Name) (moves : List (Move Name)) :
    walk trail (next :: moves) = walk (move trail next) moves := rfl

theorem walk_append (trail : List Name) (first second : List (Move Name)) :
    walk trail (first ++ second) = walk (walk trail first) second :=
  List.foldl_append

/-- Whether a walk that starts `depth` levels above a directory never leaves it. -/
def remains : Nat → List (Move Name) → Bool
  | _, [] => true
  | depth, .stay :: moves => remains depth moves
  | depth, .enter _ :: moves => remains (depth + 1) moves
  | 0, .up :: _ => false
  | depth + 1, .up :: moves => remains depth moves

/-- What is below is not touched. -/
theorem walk_of_remains {above : List Name} {moves : List (Move Name)}
    (remaining : remains above.length moves = true) (below : List Name) :
    walk (above ++ below) moves = walk above moves ++ below := by
  induction moves generalizing above with
  | nil => rfl
  | cons next moves ih =>
      rw [walk_cons, walk_cons]
      cases next with
      | stay => exact ih remaining
      | enter name => exact @ih (name :: above) remaining
      | up =>
          cases above with
          | nil => cases remaining
          | cons name above => exact ih remaining

/-- From the moment a directory is left, the walk goes on below it and no
longer depends on its name. -/
theorem walk_of_leaves {above : List Name} {moves : List (Move Name)}
    (leaving : remains above.length moves = false) :
    ∃ rest : List (Move Name), ∀ (name : Name) (below : List Name),
      walk (above ++ name :: below) moves = walk below rest := by
  induction moves generalizing above with
  | nil => cases leaving
  | cons next moves ih =>
      cases next with
      | stay => exact ih leaving
      | enter entered => exact @ih (entered :: above) leaving
      | up =>
          cases above with
          | nil => exact ⟨moves, fun name below => rfl⟩
          | cons last above => exact ih leaving

/-- Properly below a directory. -/
def Inside (directory trail : List Name) : Prop :=
  directory <:+ trail ∧ directory ≠ trail

instance [DecidableEq Name] (directory trail : List Name) : Decidable (Inside directory trail) :=
  inferInstanceAs (Decidable (_ ∧ _))

theorem inside_append_cons (above : List Name) (name : Name) (directory : List Name) :
    Inside directory (above ++ name :: directory) := by
  constructor
  · exact ⟨above ++ [name], (List.append_cons above name directory).symm⟩
  · intro same
    have lengths := congrArg List.length same
    rw [List.length_append, List.length_cons] at lengths
    omega

end Walks

section Texts

/-- The components `..`, `.` and the empty one name no file. -/
def moveOf : List Char → Move (List Char)
  | [] => .stay
  | ['.'] => .stay
  | ['.', '.'] => .up
  | component => .enter component

theorem moveOf_of_mem {component : List Char} {letter : Char} (member : letter ∈ component)
    (other : letter ≠ '.') : moveOf component = .enter component := by
  unfold moveOf
  split
  · cases member
  · exact absurd (List.mem_singleton.mp member) other
  · simp only [List.mem_cons, List.not_mem_nil, or_false, or_self] at member
    exact absurd member other
  · rfl

def moves (path : List Char) : List (Move (List Char)) :=
  (path.splitOn '/').map moveOf

theorem moves_append_separator (first second : List Char) :
    moves (first ++ '/' :: second) = moves first ++ moves second := by
  rw [moves, List.splitOn_append_cons_self, List.map_append]
  rfl

theorem moves_of_single {component : List Char} (single : '/' ∉ component) :
    moves component = [moveOf component] := by
  rw [moves, List.splitOn_eq_singleton single]
  rfl

/-- Letters in front of a path that hold no separator lengthen its first component. -/
theorem splitOn_append {front : List Char} (single : '/' ∉ front) (path : List Char) :
    (front ++ path).splitOn '/' = (path.splitOn '/').modifyHead (front ++ ·) := by
  induction front with
  | nil => exact (congrFun List.modifyHead_id _).symm
  | cons letter front ih =>
      rw [List.mem_cons, not_or] at single
      rw [List.cons_append, List.splitOn_cons_eq_if_modifyHead,
        if_neg (by simpa using Ne.symm single.1), ih single.2, List.modifyHead_modifyHead]
      rfl

def firstComponent (path : List Char) : List Char :=
  (path.splitOn '/').headD []

/-- The moves after the first component. -/
def laterMoves (path : List Char) : List (Move (List Char)) :=
  (moves path).tail

theorem moves_append {front : List Char} (single : '/' ∉ front) (path : List Char) :
    moves (front ++ path) = moveOf (front ++ firstComponent path) :: laterMoves path := by
  rw [moves, splitOn_append single, firstComponent, laterMoves, moves]
  cases split : path.splitOn '/' with
  | nil => exact absurd split (List.splitOn_ne_nil _ _)
  | cons component rest => rfl

def rooted (path : List Char) : Bool :=
  path.head? == some '/'

/-- One path after another, with a separator between them unless there is one. -/
def combine (first second : List Char) : List Char :=
  if second = [] then first
  else if first = [] then second
  else if rooted second then second
  else if first.getLast? = some '/' then first ++ second
  else first ++ '/' :: second

theorem mem_combine {first second : List Char} {letter : Char}
    (member : letter ∈ combine first second) :
    letter ∈ first ∨ letter = '/' ∨ letter ∈ second := by
  unfold combine at member
  split_ifs at member
  · exact Or.inl member
  · exact Or.inr (Or.inr member)
  · exact Or.inr (Or.inr member)
  · rcases List.mem_append.mp member with inFirst | inSecond
    · exact Or.inl inFirst
    · exact Or.inr (Or.inr inSecond)
  · rcases List.mem_append.mp member with inFirst | inSecond
    · exact Or.inl inFirst
    · exact Or.inr (List.mem_cons.mp inSecond)

theorem mem_combine_right (first : List Char) {second : List Char} {letter : Char}
    (member : letter ∈ second) : letter ∈ combine first second := by
  unfold combine
  rw [if_neg (List.ne_nil_of_mem member)]
  split_ifs
  · exact member
  · exact member
  · exact List.mem_append_right _ member
  · exact List.mem_append_right _ (List.mem_cons_of_mem _ member)

theorem walk_combine (trail : List (List Char)) (first : List Char) {second : List Char}
    (relative : rooted second = false) :
    walk trail (moves (combine first second)) = walk (walk trail (moves first)) (moves second) := by
  unfold combine
  split
  · rename_i empty
    rw [empty]
    rfl
  · split
    · rename_i empty
      rw [empty]
      rfl
    · rw [if_neg (by rw [relative]; decide)]
      split
      · rename_i ends
        obtain ⟨front, rfl⟩ := List.getLast?_eq_some_iff.mp ends
        rw [List.append_assoc, List.singleton_append, moves_append_separator,
          moves_append_separator, walk_append, walk_append]
        rfl
      · rw [moves_append_separator, walk_append]

theorem rooted_combine (first : List Char) {second : List Char} (relative : rooted second = false) :
    rooted (combine first second) = rooted first := by
  unfold combine
  split
  · rfl
  · cases first with
    | nil => exact relative
    | cons letter first =>
        rw [if_neg (List.cons_ne_nil _ _), if_neg (by rw [relative]; decide)]
        split
        · rfl
        · rfl

/-- The directory or file a path leads to, seen from the current directory. -/
def resolve (currentDirectory path : List Char) : List (List Char) :=
  walk [] (moves (if rooted path then path else combine currentDirectory path))

theorem resolve_combine (currentDirectory first : List Char) {second : List Char}
    (relative : rooted second = false) :
    resolve currentDirectory (combine first second) =
      walk (resolve currentDirectory first) (moves second) := by
  unfold resolve
  rw [rooted_combine first relative]
  cases start : rooted first with
  | true => exact walk_combine [] first relative
  | false =>
      have whole : rooted (combine first second) = false := by
        rw [rooted_combine first relative, start]
      rw [if_neg (by decide), if_neg (by decide), walk_combine [] _ whole,
        walk_combine [] _ start, walk_combine _ first relative]

end Texts

end Paths
