/-
Working through a list of items again and again.

Each item is marked when it is first handled, and a marked item is skipped.  A
script that goes through the items in order and may stop anywhere has, at every
moment, handled exactly a first part of the list, if handling one item always
marks it together with its effect.
-/

import Dics.Lib.Scripts

open Scripts

namespace Replay

variable {State Item Table Value : Type}

/-! ### Progress of a script -/

/-- A script took a state with `before` items handled to one with `after`, by no
more than up to `limit`, and up to it at least if it ran to its end. -/
structure Advanced (Handled : Nat → State → Prop) (before limit after : Nat)
    (outcome : Outcome State Value) : Prop where
  handled : Handled after outcome.state
  grown : before ≤ after
  within : after ≤ max before limit
  reached : outcome.Completed → limit ≤ after

theorem advanced_idle {Handled : Nat → State → Prop} {count limit : Nat}
    {outcome : Outcome State Value} (handled : Handled count outcome.state)
    (reached : limit ≤ count) : Advanced Handled count limit count outcome :=
  ⟨handled, Nat.le_refl _, Nat.le_max_left _ _, fun _ => reached⟩

theorem advanced_stopped {Handled : Nat → State → Prop} {count limit : Nat}
    {outcome : Outcome State Value} (handled : Handled count outcome.state)
    (stopped : outcome.value = none) : Advanced Handled count limit count outcome :=
  ⟨handled, Nat.le_refl _, Nat.le_max_left _ _, fun completed => absurd stopped completed⟩

/-- A completed script gives way to the rest, an interrupted one ends both. -/
theorem advanced_bind {Result : Type} {Handled : Nat → State → Prop}
    {first : Script State Value} {rest : Value → Script State Result} {state : State}
    {before middle limit final : Nat} (ordered : limit ≤ final)
    (head : Advanced Handled before limit middle (first state))
    (tail : ∀ next value, first state = ⟨next, some value⟩ → limit ≤ middle →
      Handled middle next → ∃ after, Advanced Handled middle final after (rest value next)) :
    ∃ after, Advanced Handled before final after ((first >>= rest) state) := by
  cases outcome : first state with
  | mk next value =>
      rw [outcome] at head
      cases value with
      | none =>
          rw [bind_of_none outcome]
          refine ⟨middle, head.handled, head.grown, ?_, ?_⟩
          · have within := head.within
            omega
          · intro completed
            exact absurd rfl completed
      | some value =>
          rw [bind_of_some outcome]
          have reached := head.reached nofun
          obtain ⟨after, advanced⟩ := tail next value outcome reached head.handled
          refine ⟨after, advanced.handled, Nat.le_trans head.grown advanced.grown, ?_,
            advanced.reached⟩
          have first := head.within
          have second := advanced.within
          omega

theorem advanced_read {Result : Type} {Handled : Nat → State → Prop} {fault : Fault}
    {answer : State → Value} {rest : Value → Script State Result} {state : State}
    {count limit : Nat} (handled : Handled count state)
    (tail : ∃ after, Advanced Handled count limit after (rest (answer state) state)) :
    ∃ after, Advanced Handled count limit after
      ((request fault (fun state => (state, answer state)) >>= rest) state) := by
  cases fault with
  | none => exact tail
  | lost => exact ⟨count, advanced_stopped handled rfl⟩
  | late => exact ⟨count, advanced_stopped handled rfl⟩

/-- The script handles the item at a position, once everything before it was
handled. -/
def Handles (Handled : Nat → State → Prop) (position : Nat) (script : Script State Unit) :
    Prop :=
  ∀ count state, position ≤ count → Handled count state →
    ∃ after, Advanced Handled count (position + 1) after (script state)

theorem advanced_forEach {Handled : Nat → State → Prop} {body : Item → Script State Unit}
    (stretch earlier later : List Item)
    (handles : ∀ position item, (earlier ++ stretch ++ later)[position]? = some item →
      item ∈ stretch → Handles Handled position (body item))
    {count : Nat} {state : State} (ready : earlier.length ≤ count)
    (handled : Handled count state) :
    ∃ after, Advanced Handled count (earlier.length + stretch.length) after
      (forEach body stretch state) := by
  induction stretch generalizing earlier count state with
  | nil => exact ⟨count, advanced_idle handled ready⟩
  | cons item rest ih =>
      have regroup : earlier ++ item :: rest ++ later = (earlier ++ [item]) ++ rest ++ later := by
        simp only [List.append_assoc, List.cons_append, List.nil_append]
      have here : (earlier ++ item :: rest ++ later)[earlier.length]? = some item := by
        simp only [List.append_assoc, List.cons_append,
          List.getElem?_append_right (Nat.le_refl _), Nat.sub_self, List.getElem?_cons_zero]
      have length : (earlier ++ [item]).length = earlier.length + 1 := by
        rw [List.length_append, List.length_singleton]
      have total : earlier.length + (item :: rest).length =
          (earlier ++ [item]).length + rest.length := by
        rw [length, List.length_cons]
        omega
      obtain ⟨middle, head⟩ :=
        handles earlier.length item here List.mem_cons_self count state ready handled
      rw [total]
      refine advanced_bind ?_ head ?_
      · omega
      · intro next value _outcome reached middleHandled
        rw [regroup] at handles
        refine ih (earlier ++ [item]) ?_ ?_ middleHandled
        · intro position other found among
          exact handles position other found (List.mem_cons_of_mem _ among)
        · omega

/-! ### Handled items and what they amount to -/

/-- How a state shows which items were handled and what they amounted to. -/
structure Ledger (State Item Table : Type) where
  marked : State → Item → Prop
  table : State → Table
  write : Table → Item → Table
  initial : Table

/-- The first `count` items are marked, the others are not, and the table is
what the first `count` items amount to. -/
structure Upto (ledger : Ledger State Item Table) (items : List Item) (count : Nat)
    (state : State) : Prop where
  bounded : count ≤ items.length
  marked : ∀ position item, items[position]? = some item →
    (ledger.marked state item ↔ position < count)
  table : ledger.table state = (items.take count).foldl ledger.write ledger.initial

theorem Upto.advance {ledger : Ledger State Item Table} {items : List Item} {count : Nat}
    {state next : State} {item : Item} (upto : Upto ledger items count state)
    (here : items[count]? = some item)
    (marks : ∀ position other, items[position]? = some other →
      (ledger.marked next other ↔ ledger.marked state other ∨ position = count))
    (writes : ledger.table next = ledger.write (ledger.table state) item) :
    Upto ledger items (count + 1) next := by
  refine ⟨?_, ?_, ?_⟩
  · obtain ⟨inside, _⟩ := List.getElem?_eq_some_iff.mp here
    exact inside
  · intro position other found
    rw [marks position other found, upto.marked position other found]
    omega
  · rw [writes, upto.table, List.take_add_one, here, Option.toList_some, List.foldl_append,
      List.foldl_cons, List.foldl_nil]

theorem Upto.congr {ledger : Ledger State Item Table} {items : List Item} {count : Nat}
    {state next : State} (upto : Upto ledger items count state)
    (marks : ∀ item ∈ items, (ledger.marked next item ↔ ledger.marked state item))
    (same : ledger.table next = ledger.table state) : Upto ledger items count next := by
  refine ⟨upto.bounded, ?_, ?_⟩
  · intro position item found
    rw [marks item (List.mem_of_getElem? found)]
    exact upto.marked position item found
  · rw [same]
    exact upto.table

/-! ### Cutting an ordered list -/

theorem filter_lt_append_filter_ge {rank : Item → Nat} {items : List Item}
    (ordered : items.Pairwise fun first second => rank first ≤ rank second) (bound : Nat) :
    items.filter (fun item => rank item < bound) ++
      items.filter (fun item => bound ≤ rank item) = items := by
  induction items with
  | nil => rfl
  | cons item rest ih =>
      obtain ⟨least, orderedRest⟩ := List.pairwise_cons.mp ordered
      by_cases below : rank item < bound
      · have notAbove : ¬bound ≤ rank item := Nat.not_le_of_lt below
        simp only [List.filter_cons, below, notAbove, decide_true, decide_false, if_true,
          Bool.false_eq_true, if_false, List.cons_append, ih orderedRest]
      · have above : bound ≤ rank item := Nat.le_of_not_lt below
        have noneBelow : rest.filter (fun other => rank other < bound) = [] := by
          apply List.filter_eq_nil_iff.mpr
          intro other member
          have larger := least other member
          simp only [decide_eq_true_eq]
          omega
        have allAbove : rest.filter (fun other => bound ≤ rank other) = rest := by
          apply List.filter_eq_self.mpr
          intro other member
          have larger := least other member
          simp only [decide_eq_true_eq]
          omega
        simp only [List.filter_cons, below, above, decide_true, decide_false, if_true,
          Bool.false_eq_true, if_false, noneBelow, allAbove, List.nil_append]

end Replay
