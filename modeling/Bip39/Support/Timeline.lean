import Mathlib.Init

/-!
# Before the end of a timeline

A timeline is a list of events, some of which end what is going on.  A goal is
reached in time when it is reached at an event that no ending event precedes.
-/

namespace Bip39.Support

variable {α : Type} {ending : α → Prop} {goal weaker : α → List α → Prop}
  {event : α} {events : List α}

/-- At some event the goal holds of it and of what follows, and no event before
it is an ending one. -/
def InTime (ending : α → Prop) (goal : α → List α → Prop)
    (events : List α) : Prop :=
  ∃ before event after, events = before ++ event :: after ∧
    (∀ earlier ∈ before, ¬ending earlier) ∧ goal event after

theorem not_inTime_nil : ¬InTime ending goal [] := by
  intro reached
  obtain ⟨before, event, after, split, -⟩ := reached
  simp at split

theorem inTime_cons :
    InTime ending goal (event :: events) ↔
      goal event events ∨ (¬ending event ∧ InTime ending goal events) := by
  constructor
  · intro reached
    obtain ⟨before, reachedEvent, after, split, quiet, holds⟩ := reached
    cases before with
    | nil =>
        cases split
        exact .inl holds
    | cons first before =>
        cases split
        exact .inr ⟨quiet event (by simp), before, reachedEvent, after, rfl,
          fun earlier member => quiet earlier (by simp [member]), holds⟩
  · intro either
    rcases either with holds | ⟨quietHere, before, reachedEvent, after, rfl,
      quiet, holds⟩
    · exact ⟨[], event, events, rfl, by simp, holds⟩
    · refine ⟨event :: before, reachedEvent, after, rfl, ?_, holds⟩
      intro earlier member
      rcases List.mem_cons.mp member with rfl | later
      · exact quietHere
      · exact quiet earlier later

/-- A goal that entails reaching a weaker one later can be replaced by it. -/
theorem InTime.later (reached : InTime ending goal events)
    (quiet : ∀ event after, goal event after → ¬ending event)
    (later : ∀ event after, goal event after → InTime ending weaker after) :
    InTime ending weaker events := by
  obtain ⟨before, event, after, rfl, silent, holds⟩ := reached
  induction before with
  | nil =>
      apply inTime_cons.mpr
      exact .inr ⟨quiet event after holds, later event after holds⟩
  | cons first before induction =>
      apply inTime_cons.mpr
      exact .inr ⟨silent first (by simp), induction fun earlier member =>
        silent earlier (by simp [member])⟩

end Bip39.Support
