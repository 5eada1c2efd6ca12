/-
Reminders that are sent once.

Something is sighted again and again with a value that never falls.  A reminder
is sent at a sighting unless the last one was about the same value, and only a
delivered reminder is remembered.
-/

import Mathlib.Order.Lattice

namespace Reminders

variable {Value : Type} [LinearOrder Value]

/-- One sighting, and whether a reminder would get through. -/
structure Sighting (Value : Type) where
  value : Value
  delivered : Bool

/-- The values reminded of, when the last reminder was about `last`. -/
def remind (last : Value) : List (Sighting Value) → List Value
  | [] => []
  | sighting :: rest =>
      if sighting.value ≠ last ∧ sighting.delivered = true then
        sighting.value :: remind sighting.value rest
      else remind last rest

/-- The value the next sighting is compared with. -/
def lastReminded (last : Value) : List (Sighting Value) → Value
  | [] => last
  | sighting :: rest =>
      if sighting.value ≠ last ∧ sighting.delivered = true then
        lastReminded sighting.value rest
      else lastReminded last rest

theorem remind_append (last : Value) (first second : List (Sighting Value)) :
    remind last (first ++ second) =
      remind last first ++ remind (lastReminded last first) second := by
  induction first generalizing last with
  | nil => rfl
  | cons sighting rest ih =>
      rw [List.cons_append, remind, remind, lastReminded]
      split
      · rw [ih, List.cons_append]
      · exact ih last

theorem lastReminded_append (last : Value) (first second : List (Sighting Value)) :
    lastReminded last (first ++ second) =
      lastReminded (lastReminded last first) second := by
  induction first generalizing last with
  | nil => rfl
  | cons sighting rest ih =>
      rw [List.cons_append, lastReminded, lastReminded]
      split
      · exact ih sighting.value
      · exact ih last

section Single

variable {last : Value} {sighting : Sighting Value}

theorem remind_sent (sends : sighting.value ≠ last ∧ sighting.delivered = true) :
    remind last [sighting] = [sighting.value] := if_pos sends

theorem lastReminded_sent (sends : sighting.value ≠ last ∧ sighting.delivered = true) :
    lastReminded last [sighting] = sighting.value := if_pos sends

theorem remind_kept (keeps : ¬(sighting.value ≠ last ∧ sighting.delivered = true)) :
    remind last [sighting] = [] := if_neg keeps

theorem lastReminded_kept (keeps : ¬(sighting.value ≠ last ∧ sighting.delivered = true)) :
    lastReminded last [sighting] = last := if_neg keeps

end Single

/-- The values never fall, and none lies below `floor`. -/
def Rising : Value → List (Sighting Value) → Prop
  | _, [] => True
  | floor, sighting :: rest => floor ≤ sighting.value ∧ Rising sighting.value rest

theorem Rising.lower {floor lower : Value} {sightings : List (Sighting Value)}
    (rising : Rising floor sightings) (below : lower ≤ floor) : Rising lower sightings := by
  cases sightings with
  | nil => exact trivial
  | cons sighting rest => exact ⟨below.trans rising.1, rising.2⟩

theorem rising_of_eq {floor : Value} {sightings : List (Sighting Value)}
    (same : ∀ sighting ∈ sightings, sighting.value = floor) : Rising floor sightings := by
  induction sightings with
  | nil => exact trivial
  | cons sighting rest ih =>
      have here := same sighting List.mem_cons_self
      refine ⟨le_of_eq here.symm, ?_⟩
      rw [here]
      exact ih (fun other member => same other (List.mem_cons_of_mem _ member))

theorem Rising.floor_le {floor : Value} {sightings : List (Sighting Value)}
    (rising : Rising floor sightings) : ∀ sighting ∈ sightings, floor ≤ sighting.value := by
  induction sightings generalizing floor with
  | nil => exact List.forall_mem_nil _
  | cons first rest ih =>
      intro sighting member
      rcases List.mem_cons.mp member with here | later
      · rw [here]
        exact rising.1
      · exact rising.1.trans (ih rising.2 sighting later)

theorem Rising.append {floor middle : Value} {first second : List (Sighting Value)}
    (head : Rising floor first) (bounded : ∀ sighting ∈ first, sighting.value ≤ middle)
    (start : floor ≤ middle) (tail : Rising middle second) :
    Rising floor (first ++ second) := by
  induction first generalizing floor with
  | nil => exact tail.lower start
  | cons sighting rest ih =>
      refine ⟨head.1, ih head.2 ?_ (bounded sighting List.mem_cons_self)⟩
      intro other member
      exact bounded other (List.mem_cons_of_mem _ member)

/-- Exactly the values are reminded of that were sighted when a reminder got
through, all but the first `last`. -/
theorem mem_remind {last : Value} {sightings : List (Sighting Value)}
    (rising : Rising last sightings) (value : Value) :
    value ∈ remind last sightings ↔
      value ≠ last ∧ ∃ sighting ∈ sightings, sighting.value = value ∧
        sighting.delivered = true := by
  induction sightings generalizing last with
  | nil => simp [remind]
  | cons sighting rest ih =>
      have above := rising.2.floor_le
      have split : (∃ other ∈ sighting :: rest, other.value = value ∧ other.delivered = true) ↔
          (sighting.value = value ∧ sighting.delivered = true) ∨
            ∃ other ∈ rest, other.value = value ∧ other.delivered = true := by
        simp only [List.mem_cons, or_and_right, exists_or, exists_eq_left]
      rw [remind, split]
      by_cases sends : sighting.value ≠ last ∧ sighting.delivered = true
      · rw [if_pos sends, List.mem_cons, ih rising.2]
        constructor
        · rintro (same | ⟨_, later⟩)
          · rw [same]
            exact ⟨sends.1, Or.inl ⟨rfl, sends.2⟩⟩
          · refine ⟨?_, Or.inr later⟩
            obtain ⟨other, member, same, _⟩ := later
            rintro rfl
            have between := above other member
            rw [same] at between
            exact sends.1 (le_antisymm between rising.1)
        · rintro ⟨_, ⟨same, _⟩ | later⟩
          · exact Or.inl same.symm
          · by_cases same : value = sighting.value
            · exact Or.inl same
            · exact Or.inr ⟨same, later⟩
      · rw [if_neg sends, ih (rising.2.lower rising.1)]
        constructor
        · rintro ⟨new, later⟩
          exact ⟨new, Or.inr later⟩
        · rintro ⟨new, ⟨same, delivered⟩ | later⟩
          · refine absurd ⟨?_, delivered⟩ sends
            rw [same]
            exact new
          · exact ⟨new, later⟩

/-- No value is reminded of twice. -/
theorem nodup_remind {last : Value} {sightings : List (Sighting Value)}
    (rising : Rising last sightings) : (remind last sightings).Nodup := by
  induction sightings generalizing last with
  | nil => exact List.nodup_nil
  | cons sighting rest ih =>
      rw [remind]
      split
      · refine List.nodup_cons.mpr ⟨?_, ih rising.2⟩
        intro again
        exact ((mem_remind rising.2 _).mp again).1 rfl
      · exact ih (rising.2.lower rising.1)

end Reminders
