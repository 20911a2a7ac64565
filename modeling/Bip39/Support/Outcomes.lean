import Mathlib.Data.List.Basic

/-!
# Outcomes of computations with a state and exceptions

A computation starts in a state and ends, with a result or a failure, in
another one; what it changed before a failure stays changed.  A plan is a
simpler computation on a part of that state.  A judgement about a sequence of
computations is put together from judgements about its parts.
-/

namespace Bip39.Support

/-- A monad whose computations run on a state and may fail. -/
class Runs (m : Type → Type) [Monad m] (σ ε : outParam Type) where
  run {α : Type} : m α → σ → Except ε α × σ
  run_pure {α : Type} (value : α) (state : σ) :
    run (pure value) state = (.ok value, state)
  run_bind {α β : Type} (first : m α) (next : α → m β) (state : σ) :
    run (first >>= next) state =
      match run first state with
      | (.ok value, after) => run (next value) after
      | (.error failure, after) => (.error failure, after)

variable {m : Type → Type} [Monad m] {σ ε α β : Type} [Runs m σ ε]

namespace Runs

theorem run_bind_ok {first : m α} {next : α → m β} {state after : σ}
    {value : α} (run : Runs.run first state = (.ok value, after)) :
    Runs.run (first >>= next) state = Runs.run (next value) after := by
  rw [run_bind, run]

theorem run_bind_error {first : m α} {next : α → m β} {state after : σ}
    {failure : ε} (run : Runs.run first state = (.error failure, after)) :
    Runs.run (first >>= next) state = (.error failure, after) := by
  rw [run_bind, run]

end Runs

/-- What is known of a result and of a failure. -/
def Outcome (good : α → Prop) (cause : ε → Prop) : Except ε α → Prop
  | .ok value => good value
  | .error failure => cause failure

namespace Outcome

variable {good : α → Prop} {cause : ε → Prop}

theorem imp {better : α → Prop} {weaker : ε → Prop} {result : Except ε α}
    (outcome : Outcome good cause result)
    (results : ∀ value, good value → better value)
    (failures : ∀ failure, cause failure → weaker failure) :
    Outcome better weaker result := by
  cases result with
  | ok value => exact results value outcome
  | error failure => exact failures failure outcome

theorem bind {first : Except ε α} {next : α → Except ε β} {better : β → Prop}
    (step : Outcome good cause first)
    (rest : ∀ value, good value → Outcome better cause (next value)) :
    Outcome better cause (first >>= next) := by
  cases first with
  | ok value => exact rest value step
  | error failure => exact step

end Outcome

section Plans

variable {ι γ δ : Type} {view : σ → ι}

/-- Seen through `view`, the computation does what the plan says, up to a
relation between their results.  After a failure nothing is said of what is
seen. -/
def Implements (view : σ → ι) (same : α → γ → Prop) (computation : m α)
    (plan : StateT ι (Except ε) γ) : Prop :=
  ∀ state,
    match plan (view state) with
    | .ok (expected, seen) =>
        ∃ value after, Runs.run computation state = (.ok value, after) ∧
          same value expected ∧ view after = seen
    | .error failure =>
        ∃ after, Runs.run computation state = (.error failure, after)

namespace Implements

variable {same : α → γ → Prop}

theorem pure {value : α} {expected : γ} (related : same value expected) :
    Implements view same (Pure.pure value : m α) (Pure.pure expected) := by
  intro state
  exact ⟨value, state, Runs.run_pure value state, related, rfl⟩

theorem bind {better : β → δ → Prop} {first : m α} {next : α → m β}
    {plan : StateT ι (Except ε) γ} {later : γ → StateT ι (Except ε) δ}
    (step : Implements view same first plan)
    (rest : ∀ value expected, same value expected →
      Implements view better (next value) (later expected)) :
    Implements view better (first >>= next) (plan >>= later) := by
  intro state
  have reached := step state
  change match (plan (view state) >>= fun result => later result.1 result.2) with
    | .ok (expected, seen) =>
        ∃ value after, Runs.run (first >>= next) state = (.ok value, after) ∧
          better value expected ∧ view after = seen
    | .error failure =>
        ∃ after, Runs.run (first >>= next) state = (.error failure, after)
  cases planned : plan (view state) with
  | error failure =>
      rw [planned] at reached
      obtain ⟨after, run⟩ := reached
      exact ⟨after, Runs.run_bind_error run⟩
  | ok result =>
      obtain ⟨expected, seen⟩ := result
      rw [planned] at reached
      obtain ⟨value, between, run, related, rfl⟩ := reached
      rw [Runs.run_bind_ok run]
      exact rest value expected related between

/-- A step that does not show in the view and has no part in the plan. -/
theorem skip {better : β → δ → Prop} {first : m α} {next : α → m β}
    {plan : StateT ι (Except ε) δ} {value : α}
    (silent : ∀ state, ∃ after, Runs.run first state = (.ok value, after) ∧
      view after = view state)
    (rest : Implements view better (next value) plan) :
    Implements view better (first >>= next) plan := by
  intro state
  obtain ⟨after, run, unseen⟩ := silent state
  rw [Runs.run_bind_ok run, ← unseen]
  exact rest after

end Implements

end Plans

section Views

variable {ι κ γ δ : Type} {view : ι → κ}

/-- What the plan makes of its input depends on the view of it only. -/
def Respects (view : ι → κ) (plan : StateT ι (Except ε) γ) : Prop :=
  ∀ seen other, view seen = view other →
    (plan seen).map (Prod.map id view) = (plan other).map (Prod.map id view)

namespace Respects

theorem pure (value : γ) :
    Respects view (Pure.pure value : StateT ι (Except ε) γ) := by
  intro seen other same
  change Except.ok (value, view seen) = Except.ok (value, view other)
  rw [same]

theorem bind {plan : StateT ι (Except ε) γ}
    {later : γ → StateT ι (Except ε) δ} (step : Respects view plan)
    (rest : ∀ value, Respects view (later value)) :
    Respects view (plan >>= later) := by
  intro seen other same
  have reached := step seen other same
  change (plan seen >>= fun result => later result.1 result.2).map _ =
    (plan other >>= fun result => later result.1 result.2).map _
  cases first : plan seen with
  | error failure =>
      rw [first] at reached
      cases second : plan other with
      | error otherFailure =>
          rw [second] at reached
          cases reached
          rfl
      | ok result =>
          rw [second] at reached
          cases reached
  | ok result =>
      rw [first] at reached
      cases second : plan other with
      | error failure =>
          rw [second] at reached
          cases reached
      | ok otherResult =>
          rw [second] at reached
          obtain ⟨value, between⟩ := result
          obtain ⟨otherValue, otherBetween⟩ := otherResult
          have pairs := Except.ok.inj reached
          obtain ⟨sameValue, sameView⟩ := Prod.mk.inj pairs
          change value = otherValue at sameValue
          subst sameValue
          exact rest value between otherBetween sameView

/-- A view that tells the same apart. -/
theorem comp {kept : Type} {encode : κ → kept}
    (injective : Function.Injective encode) {plan : StateT ι (Except ε) γ}
    (respects : Respects view plan) :
    Respects (fun state => encode (view state)) plan := by
  intro seen other same
  have reached := congrArg (Except.map (Prod.map id encode))
    (respects seen other (injective same))
  cases first : plan seen <;> cases second : plan other <;>
    (rw [first, second] at reached
     exact reached)

end Respects

end Views

/-- The computation relates every state to the one it ends in. -/
def Keeps (relation : σ → σ → Prop) (computation : m α) : Prop :=
  ∀ state, relation state (Runs.run computation state).2

namespace Keeps

variable {relation : σ → σ → Prop}

theorem pure (refl : ∀ state, relation state state) (value : α) :
    Keeps relation (Pure.pure value : m α) := by
  intro state
  rw [Runs.run_pure]
  exact refl state

theorem bind
    (trans : ∀ first second third, relation first second →
      relation second third → relation first third)
    {first : m α} {next : α → m β} (step : Keeps relation first)
    (rest : ∀ value, Keeps relation (next value)) :
    Keeps relation (first >>= next) := by
  intro state
  have reached := step state
  rw [Runs.run_bind]
  cases run : Runs.run first state with
  | mk result after =>
      rw [run] at reached
      cases result with
      | ok value => exact trans _ _ _ reached (rest value after)
      | error failure => exact reached

end Keeps

section Input

variable {ι : Type} (input : σ → List ι) (withInput : List ι → σ → σ)
  (ended : ε → Prop)

/-- The computation either consumes a stretch of the input and would end in
the same way whatever came after it, or fails because the input is at its
end. -/
def Local (computation : m α) : Prop :=
  ∀ state,
    (∃ used, input state = used ++ input (Runs.run computation state).2 ∧
      ∀ rest, Runs.run computation (withInput (used ++ rest) state) =
        ((Runs.run computation state).1,
          withInput rest (Runs.run computation state).2)) ∨
    (∃ failure, (Runs.run computation state).1 = .error failure ∧
      ended failure) ∧ input (Runs.run computation state).2 = []

variable {input withInput ended}

namespace Local

theorem pure (value : α) :
    Local input withInput ended (Pure.pure value : m α) := by
  intro state
  left
  refine ⟨[], ?_, ?_⟩
  · rw [Runs.run_pure]
    rfl
  · intro rest
    rw [Runs.run_pure, Runs.run_pure]
    rfl

/-- The second stretch starts where the first one ends. -/
theorem bind {first : m α} {next : α → m β}
    (step : Local input withInput ended first)
    (rest : ∀ value, Local input withInput ended (next value)) :
    Local input withInput ended (first >>= next) := by
  intro state
  rcases step state with ⟨used, split, runs⟩ | ⟨⟨failure, failed, isEnd⟩, empty⟩
  · cases run : Runs.run first state with
    | mk result between =>
        rw [run] at split runs
        cases result with
        | error failure =>
            left
            refine ⟨used, ?_, ?_⟩
            · rw [Runs.run_bind_error run]
              exact split
            · intro later
              rw [Runs.run_bind_error run, Runs.run_bind_error (runs later)]
        | ok value =>
            rw [Runs.run_bind_ok run]
            rcases rest value between with
              ⟨more, splitMore, runsMore⟩ | ended
            · left
              refine ⟨used ++ more, ?_, ?_⟩
              · rw [split, splitMore, List.append_assoc]
              · intro later
                rw [List.append_assoc, Runs.run_bind_ok (runs (more ++ later))]
                exact runsMore later
            · exact .inr ended
  · right
    cases run : Runs.run first state with
    | mk result between =>
        rw [run] at failed empty
        cases failed
        rw [Runs.run_bind_error run]
        exact ⟨⟨failure, rfl, isEnd⟩, empty⟩

end Local

end Input

end Bip39.Support
