import Mathlib.Init

/-!
# Counted loops in an exception monad

`forCount` is the loop whose counter runs from zero up to a bound; the other
two loops are the same loop over a transformed counter.  A loop body may fail,
and then the whole loop fails with the same error.  The run rule carries an
invariant indexed by the counter either to the end of the loop or to the
iteration that failed.
-/

namespace Bip39.Support

universe u v

section Loops

variable {m : Type u → Type v} [Monad m] {σ : Type u}

/-- `for (index = 0; index < count; ++index)`. -/
def forCount (count : Nat) (body : Nat → σ → m σ) (init : σ) : m σ :=
  match count with
  | 0 => pure init
  | count + 1 => forCount count body init >>= body count

/-- `for (offset = 0; offset < limit; offset += stride)`. -/
def forStride (stride limit : Nat) (body : Nat → σ → m σ) (init : σ) : m σ :=
  forCount ((limit + stride - 1) / stride) (fun index => body (index * stride))
    init

/-- `for (index = count - 1; index >= 0; --index)`. -/
def forDown (count : Nat) (body : Nat → σ → m σ) (init : σ) : m σ :=
  forCount count (fun index => body (count - 1 - index)) init

theorem forCount_succ (count : Nat) (body : Nat → σ → m σ) (init : σ) :
    forCount (count + 1) body init = forCount count body init >>= body count :=
  rfl

end Loops

variable {ε σ α β : Type}

theorem bind_eq_ok {first : Except ε α} {next : α → Except ε β} {result : β} :
    (first >>= next) = .ok result ↔
      ∃ value, first = .ok value ∧ next value = .ok result := by
  cases first with
  | error failure =>
      constructor
      · intro impossible
        cases impossible
      · rintro ⟨value, impossible, _⟩
        cases impossible
  | ok value =>
      constructor
      · intro continued
        exact ⟨value, rfl, continued⟩
      · rintro ⟨other, same, continued⟩
        cases same
        exact continued

/-- Run rule: the invariant reaches the end of the loop, or the first
iteration that fails. -/
theorem forCount_run (count : Nat) (body : Nat → σ → Except ε σ) (init : σ)
    (invariant : Nat → σ → Prop) (start : invariant 0 init)
    (step : ∀ index, index < count → ∀ state next, invariant index state →
      body index state = .ok next → invariant (index + 1) next) :
    (∃ final, forCount count body init = .ok final ∧ invariant count final) ∨
      ∃ index state failure, index < count ∧ invariant index state ∧
        body index state = .error failure ∧
        forCount count body init = .error failure := by
  induction count with
  | zero => exact .inl ⟨init, rfl, start⟩
  | succ count induction =>
      have earlier := induction fun index below =>
        step index (Nat.lt_succ_of_lt below)
      rcases earlier with ⟨state, run, held⟩ | ⟨index, state, failure, below,
        held, failed, run⟩
      · cases last : body count state with
        | ok next =>
            refine .inl ⟨next, ?_, step count (Nat.lt_succ_self count) state
              next held last⟩
            rw [forCount_succ, run]
            exact last
        | error failure =>
            refine .inr ⟨count, state, failure, Nat.lt_succ_self count, held,
              last, ?_⟩
            rw [forCount_succ, run]
            exact last
      · refine .inr ⟨index, state, failure, Nat.lt_succ_of_lt below, held,
          failed, ?_⟩
        rw [forCount_succ, run]
        rfl

theorem forCount_ok (count : Nat) (body : Nat → σ → Except ε σ) (init : σ)
    (invariant : Nat → σ → Prop) (start : invariant 0 init)
    (step : ∀ index, index < count → ∀ state, invariant index state →
      ∃ next, body index state = .ok next ∧ invariant (index + 1) next) :
    ∃ final, forCount count body init = .ok final ∧ invariant count final := by
  have preserved : ∀ index, index < count → ∀ state next,
      invariant index state → body index state = .ok next →
        invariant (index + 1) next := by
    intro index below state next held run
    obtain ⟨reached, reachedRun, reachedHeld⟩ := step index below state held
    rw [run] at reachedRun
    cases reachedRun
    exact reachedHeld
  rcases forCount_run count body init invariant start preserved with
    done | ⟨index, state, failure, below, held, failed, _⟩
  · exact done
  · obtain ⟨next, run, _⟩ := step index below state held
    rw [failed] at run
    cases run

end Bip39.Support
