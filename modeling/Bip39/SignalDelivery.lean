import Bip39.Source.HiddenLine
import Bip39.Support.Timeline

/-!
# Signals during passphrase entry

The handlers only set a flag, and the loop of `read_hidden_line` looks at it
only when `read` was interrupted.  A signal that has been caught is raised
again exactly when an interrupted call comes before the loop ends otherwise.
-/

namespace Bip39

open Bip39.Source Bip39.Support

/-- The events that end the loop whatever was caught: the end of the line, the
end of the input, and an error other than an interruption. -/
def EndsLoop : Event → Prop
  | .signal _ => False
  | .chunk piece => piece.bytes.getLast? = some (chr '\n')
  | .endOfFile => True
  | .failure error => error ≠ eintr

/-- An interrupted call comes before any event that ends the loop. -/
def Interrupted (events : List Event) : Prop :=
  InTime EndsLoop (fun event _ => event = .failure eintr) events

/-- The signal arrives before any event that ends the loop. -/
def Delivered (signal : Signal) (events : List Event) : Prop :=
  InTime EndsLoop (fun event _ => event = .signal signal) events

/-- A signal arrives, and after it an interrupted call, before any event that
ends the loop. -/
def Noticed (events : List Event) : Prop :=
  InTime EndsLoop
    (fun event after => (∃ signal, event = .signal signal) ∧ Interrupted after)
    events

section Steps

variable {events : List Event}

theorem interrupted_signal {number : Signal} :
    Interrupted (.signal number :: events) ↔ Interrupted events := by
  simp [Interrupted, inTime_cons, EndsLoop]

theorem interrupted_chunk {piece : Chunk} :
    Interrupted (.chunk piece :: events) ↔
      piece.bytes.getLast? ≠ some (chr '\n') ∧ Interrupted events := by
  simp [Interrupted, inTime_cons, EndsLoop]

theorem not_interrupted_endOfFile : ¬Interrupted (.endOfFile :: events) := by
  simp [Interrupted, inTime_cons, EndsLoop]

theorem interrupted_failure {error : Nat} :
    Interrupted (.failure error :: events) ↔ error = eintr := by
  simp only [Interrupted, inTime_cons, EndsLoop, Event.failure.injEq]
  constructor
  · intro either
    rcases either with same | ⟨ends, -⟩
    · exact same
    · exact Decidable.not_not.mp ends
  · intro same
    exact .inl same

theorem noticed_signal {number : Signal} :
    Noticed (.signal number :: events) ↔ Interrupted events := by
  simp only [Noticed, inTime_cons, EndsLoop]
  constructor
  · intro either
    rcases either with ⟨-, interrupted⟩ | ⟨-, later⟩
    · exact interrupted
    · apply InTime.later later
      · intro event after both
        obtain ⟨⟨signal, rfl⟩, -⟩ := both
        exact fun ends => ends
      · intro event after both
        exact both.2
  · intro interrupted
    exact .inl ⟨⟨number, rfl⟩, interrupted⟩

theorem noticed_chunk {piece : Chunk} :
    Noticed (.chunk piece :: events) ↔
      piece.bytes.getLast? ≠ some (chr '\n') ∧ Noticed events := by
  simp [Noticed, inTime_cons, EndsLoop]

theorem not_noticed_endOfFile : ¬Noticed (.endOfFile :: events) := by
  simp [Noticed, inTime_cons, EndsLoop]

theorem noticed_failure {error : Nat} :
    Noticed (.failure error :: events) ↔ error = eintr ∧ Noticed events := by
  simp [Noticed, inTime_cons, EndsLoop]

end Steps

theorem getLast?_append_chunk (input : Text) (piece : Chunk) :
    (input ++ piece.bytes).getLast? = piece.bytes.getLast? := by
  rw [List.getLast?_append, List.getLast?_eq_some_getLast piece.nonempty]
  rfl

/-- The loop is left on account of a caught signal. -/
def LeftBySignal (result : LoopExit × Process) : Prop :=
  ∃ rest signal, result.1 = .broke rest (some signal)

/-- Once a signal is pending, any interrupted call in time is enough. -/
theorem readLoop_pending_iff {pending : Signal} (input : Text)
    (events : List Event) {process : Process}
    (caught : process.caughtSignal = some pending) :
    LeftBySignal (readLoop input events process) ↔ Interrupted events := by
  induction events generalizing input process pending with
  | nil => simp [LeftBySignal, readLoop, Interrupted, not_inTime_nil]
  | cons event events induction =>
      cases event with
      | signal number =>
          rw [readLoop, interrupted_signal]
          exact induction input rfl
      | chunk piece =>
          rw [readLoop, interrupted_chunk]
          simp only [getLast?_append_chunk]
          by_cases ends : piece.bytes.getLast? = some (chr '\n')
          · simp [LeftBySignal, ends]
          · simp only [ends, if_false, ne_eq, not_false_eq_true, true_and]
            exact induction _ caught
      | endOfFile =>
          simp [LeftBySignal, readLoop, not_interrupted_endOfFile]
      | failure error =>
          rw [readLoop, interrupted_failure]
          by_cases interrupted : error = eintr
          · simp [LeftBySignal, interrupted, caught]
          · simp [LeftBySignal, interrupted]

theorem readLoop_caught_iff (input : Text) (events : List Event)
    {process : Process} (quiet : process.caughtSignal = none) :
    LeftBySignal (readLoop input events process) ↔ Noticed events := by
  induction events generalizing input process with
  | nil => simp [LeftBySignal, readLoop, Noticed, not_inTime_nil]
  | cons event events induction =>
      cases event with
      | signal number =>
          rw [readLoop, noticed_signal]
          exact readLoop_pending_iff input events rfl
      | chunk piece =>
          rw [readLoop, noticed_chunk]
          simp only [getLast?_append_chunk]
          by_cases ends : piece.bytes.getLast? = some (chr '\n')
          · simp [LeftBySignal, ends]
          · simp only [ends, if_false, ne_eq, not_false_eq_true, true_and]
            exact induction _ quiet
      | endOfFile => simp [LeftBySignal, readLoop, not_noticed_endOfFile]
      | failure error =>
          rw [readLoop, noticed_failure]
          by_cases interrupted : error = eintr
          · simp only [interrupted, if_true, quiet, true_and]
            exact induction input quiet
          · simp [LeftBySignal, interrupted]

theorem readLoop_frame (input : Text) (events : List Event)
    (process : Process) :
    ∃ caught, (readLoop input events process).2 =
      { process with caughtSignal := caught } := by
  induction events generalizing input process with
  | nil => exact ⟨process.caughtSignal, rfl⟩
  | cons event events induction =>
      cases event with
      | signal number =>
          obtain ⟨caught, frame⟩ := induction input
            (rememberSignal process number)
          exact ⟨caught, frame⟩
      | chunk piece =>
          simp only [readLoop]
          split
          · exact ⟨process.caughtSignal, rfl⟩
          · exact induction _ process
      | endOfFile => exact ⟨process.caughtSignal, rfl⟩
      | failure error =>
          simp only [readLoop]
          split
          · split
            · exact ⟨process.caughtSignal, rfl⟩
            · exact induction input process
          · exact ⟨process.caughtSignal, rfl⟩

/-- The signal the loop leaves with was pending or has been delivered. -/
theorem readLoop_delivered {input rest : Text} {events : List Event}
    {process after : Process} {signal : Signal}
    (left : readLoop input events process = (.broke rest (some signal), after)) :
    process.caughtSignal = some signal ∨ Delivered signal events := by
  induction events generalizing input process with
  | nil => cases left
  | cons event events induction =>
      have step := @inTime_cons _ EndsLoop
        (fun event _ => event = Event.signal signal) event events
      cases event with
      | signal number =>
          right
          rcases induction left with same | later
          · cases same
            exact step.mpr (.inl rfl)
          · exact step.mpr (.inr ⟨fun ends => ends, later⟩)
      | chunk piece =>
          simp only [readLoop, getLast?_append_chunk] at left
          split at left
          · cases left
          · rename_i continues
            exact (induction left).imp_right fun later =>
              step.mpr (.inr ⟨continues, later⟩)
      | endOfFile => cases left
      | failure error =>
          simp only [readLoop] at left
          split at left
          · rename_i interrupted
            split at left
            · rename_i caught
              cases left
              exact .inl caught
            · exact (induction left).imp_right fun later =>
                step.mpr (.inr ⟨fun ends => ends interrupted, later⟩)
          · cases left

/-- Everything that happens from the installation of the handlers on. -/
def timeline (script : Script) : List Event :=
  script.arrivals.map .signal ++ script.reads

/-- Signals that arrive before the loop are no different from signals that
arrive before its first call. -/
theorem readLoop_arrivals (input : Text) (arrivals : List Signal)
    (events : List Event) (process : Process) :
    readLoop input (arrivals.map .signal ++ events) process =
      readLoop input events (arrivals.foldl rememberSignal process) := by
  induction arrivals generalizing process with
  | nil => rfl
  | cons signal arrivals induction =>
      rw [List.map_cons, List.cons_append, readLoop, induction,
        List.foldl_cons]

/-- The handlers are installed, and put back whatever happened in between. -/
theorem signalGuard_construct {script : Script}
    (installs : ∀ signal, script.sigaction signal = none)
    (process : Process) :
    ∃ installed,
      SignalGuard.construct script process =
        (.ok installed, { process with
          handlers := fun _ => .rememberSignal
          caughtSignal := none }) ∧
      ∀ later, SignalGuard.restore installed later =
        { later with handlers := process.handlers } := by
  simp only [SignalGuard.construct, SignalGuard.signals, SignalGuard.install,
    installs]
  refine ⟨_, Prod.ext rfl ?_, ?_⟩
  · simp only [SignalGuard.setHandler, Process.mk.injEq, and_true]
    funext signal
    cases signal <;> rfl
  · intro later
    simp only [SignalGuard.restore, SignalGuard.setHandler, Process.mk.injEq,
      and_true]
    funext signal
    cases signal <;> rfl

def TerminalReady (script : Script) : Prop :=
  script.isatty = true ∧ script.tcgetattr = none ∧ script.tcsetattr = none

theorem foldl_rememberSignal (arrivals : List Signal) (process : Process) :
    arrivals.foldl rememberSignal process =
      { process with
        caughtSignal := arrivals.getLast?.or process.caughtSignal } := by
  induction arrivals generalizing process with
  | nil => rfl
  | cons signal arrivals induction =>
      rw [List.foldl_cons, induction, List.getLast?_cons]
      cases arrivals.getLast? <;> rfl

/-- The process when both guards have been constructed. -/
def guarded (prompt : Text) (process : Process) : Process :=
  { process.write prompt with
    handlers := fun _ => .rememberSignal
    terminal := { process.terminal with echo := false, echonl := false }
    caughtSignal := none }

def unguarded (original after : Process) : Process :=
  { after with handlers := original.handlers, terminal := original.terminal }

section Raising

variable (process : Process) (signal : Signal)

theorem raise_end :
    (process.raise signal).1 =
      if process.handlers signal = .defaultAction then .killed
      else .returned := by
  cases action : process.handlers signal <;> simp [Process.raise, action]

/-- A raised signal changes nothing else than the flag. -/
theorem raise_frame :
    ∃ flag, (process.raise signal).2 = { process with
      caughtSignal := flag
      raised := process.raised ++ [{
        signal
        handlers := process.handlers
        terminal := process.terminal }] } := by
  unfold Process.raise
  dsimp only
  split
  · exact ⟨process.caughtSignal, rfl⟩
  · exact ⟨some signal, rfl⟩
  · exact ⟨process.caughtSignal, rfl⟩

theorem raise_handlers :
    (process.raise signal).2.handlers = process.handlers := by
  obtain ⟨flag, frame⟩ := raise_frame process signal
  rw [frame]

theorem raise_terminal :
    (process.raise signal).2.terminal = process.terminal := by
  obtain ⟨flag, frame⟩ := raise_frame process signal
  rw [frame]

theorem raise_raised :
    (process.raise signal).2.raised = process.raised ++ [{
      signal
      handlers := process.handlers
      terminal := process.terminal }] := by
  obtain ⟨flag, frame⟩ := raise_frame process signal
  rw [frame]

end Raising

/-- What a call comes to when its signal is raised again under these
handlers. -/
def interruptedBy (handlers : Signal → Handler) (signal : Signal) :
    HiddenLineOutcome :=
  if handlers signal = .defaultAction then .killed signal
  else .thrown (.runtimeError (text "passphrase entry interrupted"))

def raiseLine (target : Text) (process : Process) (signal : Signal) :
    HiddenLine :=
  match process.raise signal with
  | (.killed, process) => { outcome := .killed signal, target, process }
  | (.returned, process) =>
      { outcome := .thrown
          (.runtimeError (text "passphrase entry interrupted"))
        target, process }

theorem raiseLine_eq (target : Text) (process : Process) (signal : Signal) :
    raiseLine target process signal =
      { outcome := interruptedBy process.handlers signal
        target
        process := (process.raise signal).2 } := by
  have ended := raise_end process signal
  unfold raiseLine interruptedBy
  cases raised : process.raise signal with
  | mk ending after =>
      rw [raised] at ended
      by_cases action : process.handlers signal = .defaultAction
      · rw [if_pos action] at ended ⊢
        cases ended
        rfl
      · rw [if_neg action] at ended ⊢
        cases ended
        rfl

theorem raiseLine_cout (target : Text) (process : Process) (signal : Signal) :
    (raiseLine target process signal).process.cout = process.cout := by
  obtain ⟨flag, frame⟩ := raise_frame process signal
  rw [raiseLine_eq, frame]

theorem interruptedBy_ended (handlers : Signal → Handler) (signal : Signal) :
    interruptedBy handlers signal ≠ .waiting ∧
      interruptedBy handlers signal ≠ .returned := by
  unfold interruptedBy
  split
  · exact ⟨HiddenLineOutcome.noConfusion, HiddenLineOutcome.noConfusion⟩
  · exact ⟨HiddenLineOutcome.noConfusion, HiddenLineOutcome.noConfusion⟩

/-- What `read_hidden_line` makes of the way its loop was left. -/
def finishLine (target : Text) (original : Process) :
    LoopExit × Process → HiddenLine
  | (.waiting, after) => { outcome := .waiting, target, process := after }
  | (.thrown failure, after) =>
      { outcome := .thrown failure, target,
        process := unguarded original after }
  | (.broke input none, after) =>
      { outcome := .returned, target := input,
        process := (unguarded original after).write [chr '\n'] }
  | (.broke _ (some signal), after) =>
      raiseLine target ((unguarded original after).write [chr '\n']) signal

theorem readHiddenLine_ready {script : Script}
    (installs : ∀ signal, script.sigaction signal = none)
    (ready : TerminalReady script) (prompt target : Text)
    (process : Process) :
    readHiddenLine script prompt target process =
      finishLine target process
        (readLoop [] (timeline script) (guarded prompt process)) := by
  obtain ⟨installed, constructed, restored⟩ :=
    signalGuard_construct installs (process.write prompt)
  obtain ⟨terminal, read, hidden⟩ := ready
  rw [timeline, readLoop_arrivals, foldl_rememberSignal]
  simp only [readHiddenLine, constructed, foldl_rememberSignal,
    TerminalEchoGuard.construct, terminal, read, hidden, restored,
    TerminalEchoGuard.restore, Bool.true_eq_false, if_false]
  simp only [guarded, Process.write]
  generalize readLoop [] script.reads _ = result
  obtain ⟨exit, after⟩ := result
  cases exit with
  | waiting => rfl
  | thrown failure => rfl
  | broke input signalNumber =>
      cases signalNumber with
      | none => rfl
      | some signal => rfl

/-- A terminal that cannot be prepared makes the call throw; nothing is
raised. -/
theorem readHiddenLine_unready {script : Script}
    (installs : ∀ signal, script.sigaction signal = none)
    (unready : ¬TerminalReady script) (prompt target : Text)
    (process : Process) :
    ∃ failure after,
      readHiddenLine script prompt target process =
        { outcome := .thrown failure, target, process := after } ∧
      after.raised = process.raised := by
  obtain ⟨installed, constructed, restored⟩ :=
    signalGuard_construct installs (process.write prompt)
  simp only [readHiddenLine, constructed, foldl_rememberSignal,
    TerminalEchoGuard.construct]
  cases terminal : script.isatty with
  | false => exact ⟨_, _, rfl, by simp [restored, Process.write]⟩
  | true =>
      cases read : script.tcgetattr with
      | some error => exact ⟨_, _, rfl, by simp [restored, Process.write]⟩
      | none =>
          cases hidden : script.tcsetattr with
          | some error => exact ⟨_, _, rfl, by simp [restored, Process.write]⟩
          | none => exact (unready ⟨terminal, read, hidden⟩).elim

theorem readLoop_waiting {input : Text} {events : List Event}
    {process after : Process}
    (waits : readLoop input events process = (.waiting, after)) :
    ∀ event ∈ events, ¬EndsLoop event := by
  induction events generalizing input process with
  | nil => simp
  | cons event events induction =>
      have both : ¬EndsLoop event ∧ ∀ later ∈ events, ¬EndsLoop later := by
        cases event with
        | signal number => exact ⟨fun ends => ends, induction waits⟩
        | chunk piece =>
            simp only [readLoop, getLast?_append_chunk] at waits
            split at waits
            · cases waits
            · rename_i continues
              exact ⟨continues, induction waits⟩
        | endOfFile => cases waits
        | failure error =>
            simp only [readLoop] at waits
            split at waits
            · rename_i interrupted
              split at waits
              · cases waits
              · exact ⟨fun ends => ends interrupted, induction waits⟩
            · cases waits
      intro earlier member
      rcases List.mem_cons.mp member with rfl | later
      · exact both.1
      · exact both.2 earlier later

/-- Without an event that ends it the loop waits or leaves with a signal. -/
theorem readLoop_quiet (input : Text) {events : List Event}
    (quiet : ∀ event ∈ events, ¬EndsLoop event) (process : Process) :
    (readLoop input events process).1 = .waiting ∨
      LeftBySignal (readLoop input events process) := by
  induction events generalizing input process with
  | nil => exact .inl rfl
  | cons event events induction =>
      have here := quiet event (by simp)
      have later : ∀ other ∈ events, ¬EndsLoop other := by
        intro other member
        exact quiet other (by simp [member])
      cases event with
      | signal number => exact induction input later _
      | chunk piece =>
          have continues : ¬piece.bytes.getLast? = some (chr '\n') := here
          simp only [readLoop, getLast?_append_chunk, continues, if_false]
          exact induction _ later process
      | endOfFile => exact (here trivial).elim
      | failure error =>
          have interrupted : error = eintr := Decidable.not_not.mp here
          simp only [readLoop, if_pos interrupted]
          cases caught : process.caughtSignal with
          | none => exact induction input later process
          | some signal => exact .inr ⟨input, signal, rfl⟩

/-- A run of the guarded block: the handlers are all installed, and a signal is
delivered before an event that ends the loop. -/
structure SignalledRun where
  script : Script
  installs : ∀ signal, script.sigaction signal = none
  delivered : ∃ signal, Delivered signal (timeline script)

/-- The call leaves the target alone and has raised a delivered signal once
more, after the handlers and the terminal were put back.  It throws when the
process has gone on from there. -/
structure Reraised (script : Script) (target : Text) (process : Process)
    (result : HiddenLine) : Prop where
  target_eq : result.target = target
  raised : ∃ signal, Delivered signal (timeline script) ∧
    result.process.raised = process.raised ++
      [{ signal, handlers := process.handlers, terminal := process.terminal }] ∧
    result.outcome = interruptedBy process.handlers signal

/-- The call is still reading, or it has raised the signal again. -/
def Kept (script : Script) (target : Text) (process : Process)
    (result : HiddenLine) : Prop :=
  result.outcome = .waiting ∨ Reraised script target process result

theorem not_kept_of_raised {script : Script} {target : Text}
    {process : Process} {result : HiddenLine}
    (ended : result.outcome ≠ .waiting)
    (silent : result.process.raised = process.raised) :
    ¬Kept script target process result := by
  intro kept
  rcases kept with waiting | reraised
  · exact ended waiting
  · obtain ⟨signal, -, more, -⟩ := reraised.raised
    rw [silent] at more
    exact absurd (congrArg List.length more) (by simp)

theorem finishLine_silent {target : Text} {process : Process}
    {result : LoopExit × Process} (other : ¬LeftBySignal result) :
    (finishLine target process result).process.raised = result.2.raised := by
  obtain ⟨exit, after⟩ := result
  cases exit with
  | waiting => rfl
  | thrown failure => rfl
  | broke input signalNumber =>
      cases signalNumber with
      | none => rfl
      | some signal => exact (other ⟨input, signal, rfl⟩).elim

theorem finishLine_waiting {target : Text} {process : Process}
    {result : LoopExit × Process} :
    (finishLine target process result).outcome = .waiting ↔
      result.1 = .waiting := by
  obtain ⟨exit, after⟩ := result
  cases exit with
  | waiting => exact ⟨fun _ => rfl, fun _ => rfl⟩
  | thrown failure => simp [finishLine]
  | broke input signalNumber =>
      cases signalNumber with
      | none => simp [finishLine]
      | some signal =>
          rw [finishLine, raiseLine_eq]
          have ended := interruptedBy_ended process.handlers signal
          exact ⟨fun waits => (ended.1 waits).elim, LoopExit.noConfusion⟩

theorem finishLine_reraised {script : Script} {prompt target : Text}
    {process : Process}
    (left : LeftBySignal
      (readLoop [] (timeline script) (guarded prompt process))) :
    Reraised script target process (finishLine target process
      (readLoop [] (timeline script) (guarded prompt process))) := by
  obtain ⟨caught, frame⟩ :=
    readLoop_frame [] (timeline script) (guarded prompt process)
  cases run : readLoop [] (timeline script) (guarded prompt process) with
  | mk exit after =>
      rw [run] at left frame
      obtain ⟨rest, signal, rfl⟩ := left
      cases frame
      rw [finishLine, raiseLine_eq]
      refine ⟨rfl, signal, ?_, raise_raised _ _, rfl⟩
      rcases readLoop_delivered run with pending | delivered
      · cases pending
      · exact delivered

/-- A signal is kept exactly when the terminal could be prepared and an
interrupted call follows the signal before the line ends, the input ends, or
`read` fails otherwise; nothing can be said yet of a run that still reads. -/
theorem signal_kept_iff (run : SignalledRun) (prompt target : Text)
    (process : Process) :
    Kept run.script target process
        (readHiddenLine run.script prompt target process) ↔
      TerminalReady run.script ∧
        (Noticed (timeline run.script) ∨
          ∀ event ∈ timeline run.script, ¬EndsLoop event) := by
  by_cases ready : TerminalReady run.script
  · rw [readHiddenLine_ready run.installs ready]
    have noticed : LeftBySignal (readLoop [] (timeline run.script)
        (guarded prompt process)) ↔ Noticed (timeline run.script) :=
      readLoop_caught_iff [] (timeline run.script) rfl
    constructor
    · intro kept
      refine ⟨ready, ?_⟩
      by_cases left : LeftBySignal (readLoop [] (timeline run.script)
          (guarded prompt process))
      · exact .inl (noticed.mp left)
      · right
        by_cases waits : (readLoop [] (timeline run.script)
            (guarded prompt process)).1 = .waiting
        · exact readLoop_waiting (Prod.ext waits rfl)
        · obtain ⟨caught, frame⟩ := readLoop_frame [] (timeline run.script)
            (guarded prompt process)
          refine (not_kept_of_raised ?_ ?_ kept).elim
          · exact fun waiting => waits (finishLine_waiting.mp waiting)
          · rw [finishLine_silent left, frame]
            rfl
    · intro condition
      rcases condition.2 with heard | quiet
      · exact .inr (finishLine_reraised (noticed.mpr heard))
      · rcases readLoop_quiet [] quiet (guarded prompt process) with
          waits | left
        · exact .inl (finishLine_waiting.mpr waits)
        · exact .inr (finishLine_reraised left)
  · obtain ⟨failure, after, thrown, silent⟩ :=
      readHiddenLine_unready run.installs ready prompt target process
    rw [thrown]
    constructor
    · intro kept
      refine (not_kept_of_raised ?_ silent kept).elim
      exact HiddenLineOutcome.noConfusion
    · intro condition
      exact (ready condition.1).elim

/-- An interactive terminal and default actions. -/
def freshProcess : Process :=
  { handlers := fun _ => .defaultAction
    terminal := { echo := true, echonl := false, others := 0 } }

/-- Interrupt key, then the rest of a line: `read` is interrupted. -/
def interruptedRun : SignalledRun where
  script := { reads := [.signal .sigint, .failure eintr] }
  installs := fun _ => rfl
  delivered := ⟨.sigint, [], .signal .sigint, _, rfl, by simp, rfl⟩

theorem signal_kept_interrupted :
    Kept interruptedRun.script [] freshProcess
      (readHiddenLine interruptedRun.script (text "Confirm passphrase: ") []
        freshProcess) :=
  (signal_kept_iff interruptedRun _ _ _).mpr
    ⟨⟨rfl, rfl, rfl⟩, .inl ⟨[], .signal .sigint, _, rfl, by simp,
      ⟨.sigint, rfl⟩, [], _, [], rfl, by simp, rfl⟩⟩

/-- Interrupt signal while no call is blocked, then a whole line. -/
def betweenCallsRun : SignalledRun where
  script := { reads := [.signal .sigint,
    .chunk ⟨text "x\n", by decide, by decide⟩] }
  installs := fun _ => rfl
  delivered := ⟨.sigint, [], .signal .sigint, _, rfl, by simp, rfl⟩

/-- The line is returned as the passphrase and the signal is lost. -/
theorem signal_swallowed :
    let result := readHiddenLine betweenCallsRun.script
      (text "Confirm passphrase: ") [] freshProcess
    (result.outcome = .returned ∧ result.target = text "x" ∧
      result.process.raised = []) ∧
      ¬Kept betweenCallsRun.script [] freshProcess result := by
  have ended : (readHiddenLine betweenCallsRun.script
      (text "Confirm passphrase: ") [] freshProcess).outcome = .returned := by
    decide
  have silent : (readHiddenLine betweenCallsRun.script
      (text "Confirm passphrase: ") [] freshProcess).process.raised = [] := by
    rfl
  refine ⟨⟨ended, by decide, silent⟩, not_kept_of_raised ?_ silent⟩
  rw [ended]
  exact HiddenLineOutcome.noConfusion

end Bip39
