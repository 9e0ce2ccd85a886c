import GuildWarden.Payload.Item
import GuildWarden.Payload.Order
import Mathlib.Data.Rat.Cast.Order

/-
  This file proves what equality and order of payloads mean
  for whole numbers, and for which causes a payload is not
  read as one.

  Key definitions include:
    * `Cause.isMisreading`

  Main statements:
    * `Payload.atMost?_int`
    * `Payload.same_int_unique`
    * `Payload.isMisreading_of_idItem`
-/

namespace GuildWarden

namespace Payload

------------------------------------------------------------
-- Order
------------------------------------------------------------

/- Whole numbers compare by their values. -/
theorem atMost?_int
    (a b : Int) :
    (Payload.int a).atMost? (.int b) =
      some (decide (a ≤ b)) := by
  simp [atMost?, magnitude?, Magnitude.le]

/- A payload equals a whole number by its magnitude. -/
theorem same_int
    (p : Payload)
    (n : Int) :
    p.same (.int n) =
      p.magnitude?.any
        (sameMagnitude · (some (.at n))) := by
  cases p with
  | float value =>
      simp only [same, magnitude?.eq_def (.int n)]
      cases (Payload.float value).magnitude? <;> rfl
  | _ => simp [same, magnitude?]

/- The magnitude of a payload that equals a whole number. -/
theorem magnitude?_of_same_int
    {p : Payload}
    {n : Int}
    (hSame : p.same (.int n) = true) :
    p.magnitude? = some (some (.at n)) := by
  rw [same_int] at hSame
  cases hPlace : p.magnitude? with
  | none => simp [hPlace] at hSame
  | some place =>
      cases place with
      | none => simp [hPlace, sameMagnitude] at hSame
      | some x =>
          have hEqual : x = .at n := by
            simpa [hPlace, sameMagnitude] using hSame
          rw [hEqual]

/- A payload equals at most one whole number. -/
theorem same_int_unique
    {p : Payload}
    {m n : Int}
    (hFirst : p.same (.int m) = true)
    (hSecond : p.same (.int n) = true) :
    m = n := by
  have hPlaces :=
    (magnitude?_of_same_int hFirst).symm.trans
      (magnitude?_of_same_int hSecond)
  simpa using hPlaces

end Payload

------------------------------------------------------------
-- Reading
------------------------------------------------------------

/- A payload has not the shape or the value of a number. -/
def Cause.isMisreading : Cause → Bool
  | .badType => true
  | .missingField => true
  | .badValue _ => true
  | .outOfRange => true
  | _ => false

namespace Payload

variable {p : Payload}
variable {cause : Cause}

theorem isMisreading_of_item
    {name : String}
    (hMissing : p.item name = .error cause) :
    cause.isMisreading = true := by
  unfold item at hMissing
  split at hMissing
  · cases hMissing
    rfl
  · split at hMissing
    · cases hMissing
    · cases hMissing
      rfl

theorem isMisreading_of_wholeNumber
    (hUnread : p.wholeNumber = .error cause) :
    cause.isMisreading = true := by
  unfold wholeNumber at hUnread
  split at hUnread
  case h_6 =>
    split at hUnread
    · cases hUnread
    · cases hUnread
      rfl
  all_goals
    cases hUnread
    try rfl

/- An id that cannot be read is no failure of anything else. -/
theorem isMisreading_of_idItem
    (hUnread : p.idItem = .error cause) :
    cause.isMisreading = true := by
  unfold idItem at hUnread
  cases hItem : p.item "id" with
  | error cause' =>
      rw [hItem] at hUnread
      cases hUnread
      exact isMisreading_of_item hItem
  | ok q =>
      rw [hItem] at hUnread
      exact isMisreading_of_wholeNumber hUnread

end Payload

end GuildWarden
