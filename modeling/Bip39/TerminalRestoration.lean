import Bip39.SignalDelivery

/-!
# Restoration of handlers and terminal settings

Every handler `SignalGuard` replaces is recorded first, and the records are
undone in the reverse order, by the constructor when a later step fails and by
the destructor otherwise.  So whichever system call fails, a call of
`read_hidden_line` leaves the handlers and the terminal as it found them.
-/

namespace Bip39

open Bip39.Source Bip39.Support

theorem setHandler_undo (signal : Signal) (handler : Handler)
    (process : Process) :
    SignalGuard.setHandler signal (process.handlers signal)
      (SignalGuard.setHandler signal handler process) = process := by
  have handlers : (fun other => if other = signal then process.handlers signal
      else if other = signal then handler else process.handlers other) =
        process.handlers := by
    funext other
    by_cases same : other = signal
    · simp [same]
    · simp [same]
  simp only [SignalGuard.setHandler, handlers]

theorem signalGuard_restore_congr (installed : List (Signal × Handler))
    {process later : Process} (same : later.handlers = process.handlers) :
    SignalGuard.restore installed later =
      { later with
        handlers := (SignalGuard.restore installed process).handlers } := by
  induction installed generalizing process later with
  | nil =>
      simp only [SignalGuard.restore, ← same]
  | cons record installed induction =>
      obtain ⟨signal, original⟩ := record
      have next : (SignalGuard.setHandler signal original later).handlers =
          (SignalGuard.setHandler signal original process).handlers := by
        simp only [SignalGuard.setHandler, same]
      rw [SignalGuard.restore, SignalGuard.restore, induction next]
      rfl

/-- The installation either fails and has undone its steps, or succeeds with
records that undo them. -/
theorem signalGuard_install_cases (script : Script)
    (installed : List (Signal × Handler)) (signals : List Signal)
    (process : Process) :
    (∃ failure, SignalGuard.install script installed signals process =
      (.error failure, SignalGuard.restore installed process)) ∨
    ∃ final handlers,
      SignalGuard.install script installed signals process =
        (.ok final, { process with handlers }) ∧
      SignalGuard.restore final { process with handlers } =
        SignalGuard.restore installed process := by
  induction signals generalizing installed process with
  | nil => exact .inr ⟨installed, process.handlers, rfl, rfl⟩
  | cons signal signals induction =>
      rw [SignalGuard.install]
      cases script.sigaction signal with
      | some error => exact .inl ⟨_, rfl⟩
      | none =>
          have undone : SignalGuard.restore
              ((signal, process.handlers signal) :: installed)
              (SignalGuard.setHandler signal .rememberSignal process) =
                SignalGuard.restore installed process := by
            rw [SignalGuard.restore, setHandler_undo]
          rcases induction ((signal, process.handlers signal) :: installed)
            (SignalGuard.setHandler signal .rememberSignal process) with
            ⟨failure, run⟩ | ⟨final, handlers, run, restored⟩
          · exact .inl ⟨failure, run.trans (by rw [undone])⟩
          · exact .inr ⟨final, handlers, run, restored.trans undone⟩

theorem signalGuard_construct_cases (script : Script) (process : Process) :
    (∃ failure, SignalGuard.construct script process =
      (.error failure, { process with caughtSignal := none })) ∨
    ∃ installed handlers,
      SignalGuard.construct script process =
        (.ok installed, { process with handlers, caughtSignal := none }) ∧
      ∀ later : Process, later.handlers = handlers →
        SignalGuard.restore installed later =
          { later with handlers := process.handlers } := by
  rcases signalGuard_install_cases script [] SignalGuard.signals
    { process with caughtSignal := none } with
    ⟨failure, run⟩ | ⟨installed, handlers, run, restored⟩
  · exact .inl ⟨failure, run⟩
  · refine .inr ⟨installed, handlers, run, ?_⟩
    intro later same
    have same : later.handlers =
        { process with handlers, caughtSignal := none : Process }.handlers := same
    rw [signalGuard_restore_congr installed same, restored]
    rfl

theorem terminalEchoGuard_construct_cases (script : Script)
    (process : Process) :
    (∃ failure, TerminalEchoGuard.construct script process =
      (.error failure, process)) ∨
    ∃ hidden, TerminalEchoGuard.construct script process =
      (.ok process.terminal, { process with terminal := hidden }) := by
  unfold TerminalEchoGuard.construct
  split
  · exact .inl ⟨_, rfl⟩
  · split
    · exact .inl ⟨_, rfl⟩
    · split
      · exact .inl ⟨_, rfl⟩
      · exact .inr ⟨_, rfl⟩

/-- A call that has ended leaves the handlers and the terminal as it found
them, every signal it raises meets them so, and the target keeps its value
unless the call returns. -/
structure PutBack (process : Process) (target : Text) (result : HiddenLine) :
    Prop where
  handlers : result.outcome ≠ .waiting →
    result.process.handlers = process.handlers
  terminal : result.outcome ≠ .waiting →
    result.process.terminal = process.terminal
  raised : ∃ calls, result.process.raised = process.raised ++ calls ∧
    ∀ call ∈ calls, call.handlers = process.handlers ∧
      call.terminal = process.terminal
  target_eq : result.outcome ≠ .returned → result.target = target

theorem putBack_thrown {process after : Process} {target : Text}
    {failure : Failure} (handlers : after.handlers = process.handlers)
    (terminal : after.terminal = process.terminal)
    (raised : after.raised = process.raised) :
    PutBack process target
      { outcome := .thrown failure, target, process := after } where
  handlers := fun _ => handlers
  terminal := fun _ => terminal
  raised := ⟨[], by simpa using raised, by simp⟩
  target_eq := fun _ => rfl

theorem finishLine_putBack {process after : Process} {target : Text}
    (exit : LoopExit) (raised : after.raised = process.raised) :
    PutBack process target (finishLine target process (exit, after)) := by
  cases exit with
  | waiting =>
      constructor
      · exact fun left => (left rfl).elim
      · exact fun left => (left rfl).elim
      · exact ⟨[], by simpa [finishLine] using raised, by simp⟩
      · exact fun _ => rfl
  | thrown failure => exact putBack_thrown rfl rfl raised
  | broke input signalNumber =>
      cases signalNumber with
      | none =>
          constructor
          · exact fun _ => rfl
          · exact fun _ => rfl
          · exact ⟨[], by
              simpa [finishLine, unguarded, Process.write] using raised,
              by simp⟩
          · exact fun left => (left rfl).elim
      | some signal =>
          rw [finishLine, raiseLine_eq]
          constructor
          · exact fun _ => raise_handlers _ _
          · exact fun _ => raise_terminal _ _
          · refine ⟨[{ signal, handlers := process.handlers
                       terminal := process.terminal }], ?_, by simp⟩
            rw [raise_raised]
            simp [unguarded, Process.write, raised]
          · exact fun _ => rfl

/-- Whatever fails, and however the loop is left, a call of `read_hidden_line`
puts back what it found. -/
theorem readHiddenLine_putBack (script : Script) (prompt target : Text)
    (process : Process) :
    PutBack process target (readHiddenLine script prompt target process) := by
  rcases signalGuard_construct_cases script (process.write prompt) with
    ⟨failure, run⟩ | ⟨installed, handlers, run, restored⟩
  · simp only [readHiddenLine, run]
    exact putBack_thrown rfl rfl rfl
  · simp only [readHiddenLine, run, foldl_rememberSignal]
    generalize begins : ({ process.write prompt with
      handlers
      caughtSignal := script.arrivals.getLast?.or none } : Process) = begun
    have kept : begun.handlers = handlers ∧
        begun.terminal = process.terminal ∧ begun.raised = process.raised := by
      rw [← begins]
      exact ⟨rfl, rfl, rfl⟩
    rcases terminalEchoGuard_construct_cases script begun with
      ⟨failure, prepared⟩ | ⟨hidden, prepared⟩
    · simp only [prepared, restored begun kept.1]
      exact putBack_thrown rfl kept.2.1 kept.2.2
    · simp only [prepared]
      obtain ⟨flag, frame⟩ := readLoop_frame [] script.reads
        { begun with terminal := hidden }
      generalize readLoop [] script.reads { begun with terminal := hidden } =
        left at frame ⊢
      obtain ⟨exit, after⟩ := left
      cases frame
      have leaves := restored
        { begun with terminal := process.terminal, caughtSignal := flag } kept.1
      have finished := @finishLine_putBack process
        { begun with terminal := hidden, caughtSignal := flag } target exit
        kept.2.2
      cases exit with
      | waiting => exact finished
      | thrown failure =>
          simp only [TerminalEchoGuard.restore, kept.2.1, leaves]
          exact finished
      | broke input signalNumber =>
          simp only [TerminalEchoGuard.restore, kept.2.1, leaves]
          cases signalNumber with
          | none => exact finished
          | some signal => exact finished

end Bip39
