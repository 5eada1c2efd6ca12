/-
Half-open spans of time, bought one after the other.

Whoever always buys from where the last span ended, or from later, owns spans
that never overlap, so no moment is paid for twice.
-/

import Mathlib.Algebra.GroupWithZero.Nat
import Mathlib.Order.Interval.Finset.Nat

namespace Spans

structure Span where
  start : Nat
  length : Nat

def Span.finish (span : Span) : Nat :=
  span.start + span.length

def Span.moments (span : Span) : Finset Nat :=
  Finset.Ico span.start span.finish

/-- All moments of a list of spans, each counted once. -/
def moments : List Span → Finset Nat
  | [] => ∅
  | span :: rest => span.moments ∪ moments rest

def Ordered (spans : List Span) : Prop :=
  spans.Pairwise (fun earlier later => earlier.finish ≤ later.start)

theorem disjoint_of_finish_le {earlier later : Span} (apart : earlier.finish ≤ later.start) :
    Disjoint earlier.moments later.moments := by
  rw [Finset.disjoint_left]
  intro moment inEarlier inLater
  have before := (Finset.mem_Ico.mp inEarlier).2
  have after := (Finset.mem_Ico.mp inLater).1
  omega

theorem Ordered.disjoint {spans : List Span} (ordered : Ordered spans) :
    spans.Pairwise (fun earlier later => Disjoint earlier.moments later.moments) :=
  List.Pairwise.imp disjoint_of_finish_le ordered

/-- A list of ordered spans grows by a span that starts after all of them. -/
theorem Ordered.snoc {spans : List Span} {span : Span} (ordered : Ordered spans)
    (after : ∀ earlier ∈ spans, earlier.finish ≤ span.start) : Ordered (spans ++ [span]) := by
  apply List.pairwise_append.mpr
  refine ⟨ordered, List.pairwise_singleton _ _, ?_⟩
  intro earlier member last isLast
  rw [List.mem_singleton.mp isLast]
  exact after earlier member

private theorem disjoint_moments {span : Span} {rest : List Span}
    (apart : ∀ later ∈ rest, Disjoint span.moments later.moments) :
    Disjoint span.moments (moments rest) := by
  induction rest with
  | nil => exact Finset.disjoint_empty_right _
  | cons next rest ih =>
      apply Finset.disjoint_union_right.mpr
      constructor
      · exact apart next List.mem_cons_self
      · exact ih (fun later member => apart later (List.mem_cons_of_mem _ member))

/-- Ordered spans last as long together as each by itself. -/
theorem Ordered.card_moments {spans : List Span} (ordered : Ordered spans) :
    (moments spans).card = (spans.map Span.length).sum := by
  induction spans with
  | nil => rfl
  | cons span rest ih =>
      obtain ⟨first, others⟩ := List.pairwise_cons.mp ordered
      have apart : Disjoint span.moments (moments rest) :=
        disjoint_moments (fun later member => disjoint_of_finish_le (first later member))
      have alone : span.moments.card = span.length := by
        rw [Span.moments, Nat.card_Ico, Span.finish, Nat.add_sub_cancel_left]
      calc (moments (span :: rest)).card
          = span.moments.card + (moments rest).card := Finset.card_union_of_disjoint apart
        _ = span.length + (rest.map Span.length).sum := by rw [alone, ih others]
        _ = ((span :: rest).map Span.length).sum := by rw [List.map_cons, List.sum_cons]

end Spans
