import Bip39.SheetRecovery

/-!
# Rejected lines

A line that the selected source rejects costs another prompt and nothing else:
what a run makes of its input depends only on what the source accepts of it.
-/

namespace Bip39

open Bip39.Source Bip39.Support

def EntropyMode.accepts : EntropyMode → Text → Option Text
  | system => fun _ => none
  | mixedDice => fun line => (dieFace line).map fun face => [face]
  | diceOnly => fun line => (dieFace line).map fun face => [face]
  | mixedCards => namedCard
  | cardsOnly => namedCard

/-- Two inputs that differ in rejected lines. -/
def SameAccepted (mode : EntropyMode) (input other : List Text) : Prop :=
  input.filterMap mode.accepts = other.filterMap mode.accepts

section Plans

theorem lift_respects {κ α : Type} {view : List Text → κ}
    (result : Except Failure α) : Respects view (Plan.lift result) := by
  intro seen other same
  cases result with
  | error failure => rfl
  | ok value =>
      change Except.ok (value, view seen) = Except.ok (value, view other)
      rw [same]

def rollsOf (keep : UInt8 → UInt8) (count : Nat) (faces : Bytes) :
    Except Failure (Bytes × Bytes) :=
  match splitReaching List.length count faces with
  | some (used, rest) => .ok (used.map keep, rest)
  | none => .error diceEnded

theorem takeRolls_selected (keep : UInt8 → UInt8) (count : Nat)
    (lines : List Text) :
    (takeRolls keep count lines).map (Prod.map id (List.filterMap dieFace)) =
      rollsOf keep count (lines.filterMap dieFace) := by
  have split : splitReaching List.length count (lines.filterMap dieFace) =
      (splitReaching facesIn count lines).map
        (Prod.map (List.filterMap dieFace) (List.filterMap dieFace)) :=
    splitReaching_filterMap dieFace gradual_length lines
  rw [rollsOf, takeRolls, split]
  cases splitReaching facesIn count lines with
  | none => rfl
  | some split => rfl

def deckOf (names : List Text) : Except Failure (Text × List Text) :=
  match splitReaching (fun names => names.eraseDups.length) cardsPerDeck
    names with
  | some (used, rest) => .ok (used.eraseDups.flatten, rest)
  | none => .error cardsEnded

theorem takeDeck_selected (lines : List Text) :
    (takeDeck lines).map (Prod.map id (List.filterMap namedCard)) =
      deckOf (lines.filterMap namedCard) := by
  have split : splitReaching (fun names : List Text => names.eraseDups.length)
      cardsPerDeck (lines.filterMap namedCard) =
      (deckLines lines).map
        (Prod.map (List.filterMap namedCard) (List.filterMap namedCard)) :=
    splitReaching_filterMap namedCard gradual_distinct_values lines
  rw [deckOf, takeDeck, split]
  cases deckLines lines with
  | none => rfl
  | some split => rfl

theorem takeRolls_respects (keep : UInt8 → UInt8) (count : Nat) :
    Respects (fun lines => lines.filterMap fun line =>
      (dieFace line).map fun face => [face]) (takeRolls keep count) := by
  have view : (fun lines : List Text => lines.filterMap fun line =>
        (dieFace line).map fun face => [face]) =
      fun lines => (lines.filterMap dieFace).map fun face => [face] := by
    funext lines
    exact List.map_filterMap.symm
  have injective : Function.Injective
      (List.map fun face : UInt8 => [face]) := by
    apply List.map_injective_iff.mpr
    intro face other same
    exact List.singleton_injective same
  rw [view]
  apply Respects.comp injective
  intro seen other same
  exact (takeRolls_selected keep count seen).trans
    (by rw [same, ← takeRolls_selected])

theorem takeDeck_respects :
    Respects (List.filterMap namedCard) takeDeck := by
  intro seen other same
  exact (takeDeck_selected seen).trans (by rw [same, ← takeDeck_selected])

/-- The entries of a source are made of what it accepts. -/
theorem entries_respects (strength : Strength) (mode : EntropyMode) :
    Respects (List.filterMap mode.accepts) (mode.entries strength) := by
  cases mode with
  | system => exact .pure []
  | mixedDice => exact takeRolls_respects _ _
  | diceOnly => exact takeRolls_respects _ _
  | mixedCards => exact takeDeck_respects
  | cardsOnly =>
      apply Respects.bind takeDeck_respects
      intro first
      by_cases two : strength = .bits256
      · rw [if_pos two]
        apply Respects.bind takeDeck_respects
        intro second
        by_cases same : first = second
        · rw [if_pos same]
          exact lift_respects _
        · rw [if_neg same]
          exact .pure _
      · rw [if_neg two]
        exact .pure _

theorem session_respects (environment : Environment)
    (options : CommandLineOptions) (mode : EntropyMode) (strength : Strength) :
    Respects (List.filterMap mode.accepts)
      (session environment options mode strength) := by
  apply Respects.bind (lift_respects _)
  intro wordlist
  apply Respects.bind
  · apply Respects.bind
    · apply Respects.bind (entries_respects strength mode)
      exact fun entered => lift_respects _
    · intro entropy
      apply Respects.bind (lift_respects _)
      exact fun digest => .pure _
  · exact fun secret => .pure _

end Plans

/-- Sessions on inputs that differ in rejected lines fail alike or make the
same secret. -/
theorem session_cases {environment : Environment}
    {options : CommandLineOptions} {mode : EntropyMode} {strength : Strength}
    {input other : List Text} (same : SameAccepted mode input other) :
    (∃ failure,
      session environment options mode strength input = .error failure ∧
      session environment options mode strength other = .error failure) ∨
    ∃ made rest otherRest,
      session environment options mode strength input = .ok (made, rest) ∧
      session environment options mode strength other =
        .ok (made, otherRest) ∧ SameAccepted mode rest otherRest := by
  have alike := session_respects environment options mode strength input other
    same
  cases first : session environment options mode strength input with
  | error failure =>
      cases second : session environment options mode strength other with
      | error otherFailure =>
          rw [first, second] at alike
          cases alike
          exact .inl ⟨failure, rfl, rfl⟩
      | ok result =>
          rw [first, second] at alike
          cases alike
  | ok result =>
      cases second : session environment options mode strength other with
      | error failure =>
          rw [first, second] at alike
          cases alike
      | ok otherResult =>
          rw [first, second] at alike
          obtain ⟨made, rest⟩ := result
          obtain ⟨otherMade, otherRest⟩ := otherResult
          obtain ⟨sameMade, sameRest⟩ := Prod.mk.inj (Except.ok.inj alike)
          change made = otherMade at sameMade
          subst sameMade
          exact .inr ⟨made, rest, otherRest, rfl, rfl, sameRest⟩

def runAfterPages (environment : Environment) (options : CommandLineOptions)
    {strength : Strength} (wordlist : Wordlist) (secret : Secret strength)
    (shown : Console) (process : Process) : Ended :=
  if options.showSeed then
    showSeed environment (secret.mnemonic wordlist) shown process
  else finishRun shown process

/-- Both runs report the same failure, or both show the pages of one secret
and go on alike, with the same accepted lines left. -/
def RunsAlike (environment : Environment) (options : CommandLineOptions)
    (mode : EntropyMode) (strength : Strength) (out err : Text)
    (process : Process) (run otherRun : Ended) : Prop :=
  (∃ failure after otherAfter,
    run = handleException environment failure after process ∧
    otherRun = handleException environment failure otherAfter process) ∨
  ∃ (wordlist : Wordlist) (secret : Secret strength)
    (prompts otherPrompts reported otherReported : Text)
    (rest otherRest : List Text),
    SameAccepted mode rest otherRest ∧
    run = runAfterPages environment options wordlist secret {
      input := rest
      cout := { text := out ++ prompts ++
        secret.pages wordlist options.showEntropy }
      cerr := { text := err ++ reported } } process ∧
    otherRun = runAfterPages environment options wordlist secret {
      input := otherRest
      cout := { text := out ++ otherPrompts ++
        secret.pages wordlist options.showEntropy }
      cerr := { text := err ++ otherReported } } process

/-- Inputs that differ in rejected lines only make runs that differ in prompts
and complaints only. -/
theorem main_ignores_rejected {environment : Environment}
    {options : CommandLineOptions} {mode : EntropyMode} {strength : Strength}
    (stored : environment.stored = .ok options)
    (accepted : Accepted options mode strength) {input other : List Text}
    (same : SameAccepted mode input other) (out err : Text)
    (process : Process) :
    RunsAlike environment options mode strength out err process
      (main environment
        { input, cout := { text := out }, cerr := { text := err } } process)
      (main environment
        { input := other, cout := { text := out }, cerr := { text := err } }
        process) := by
  have run := main_session stored accepted input out err process
  have otherRun := main_session stored accepted other out err process
  rcases session_cases same with
    ⟨failure, first, second⟩ | ⟨made, rest, otherRest, first, second, later⟩
  · left
    rw [first] at run
    rw [second] at otherRun
    obtain ⟨after, run⟩ := run
    obtain ⟨otherAfter, otherRun⟩ := otherRun
    exact ⟨failure, after, otherAfter, run, otherRun⟩
  · right
    obtain ⟨wordlist, secret⟩ := made
    rw [first] at run
    rw [second] at otherRun
    obtain ⟨prompts, reported, run⟩ := run
    obtain ⟨otherPrompts, otherReported, otherRun⟩ := otherRun
    exact ⟨wordlist, secret, prompts, otherPrompts, reported, otherReported,
      rest, otherRest, later, run, otherRun⟩

theorem main_ignores_rejected_sample :
    let options : CommandLineOptions := { useCardsOnly := true }
    RunsAlike (sampleEnvironment options) options .cardsOnly .bits128 [] []
      freshProcess
      (main (sampleEnvironment options) { input := canonicalNames } freshProcess)
      (main (sampleEnvironment options)
        { input := text "joker" :: canonicalNames } freshProcess) := by
  have same : SameAccepted .cardsOnly canonicalNames
      (text "joker" :: canonicalNames) := by
    have rejected : namedCard (text "joker") = none := by decide +kernel
    exact (List.filterMap_cons_none rejected).symm
  exact main_ignores_rejected rfl ⟨rfl, rfl, rfl⟩ same [] [] freshProcess

end Bip39
