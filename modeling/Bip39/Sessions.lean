import Bip39.ConsoleStreams
import Bip39.EntropyModes

/-!
# Sessions

The plan of a run, without prompts, complaints and formatting: it takes entries
from the front of standard input, conditions them and ends with a secret or
with the first failure.  The entropy dispatch of `main` implements it whatever
OpenSSL reports.
-/

namespace Bip39

open Bip39.Source Bip39.Support

abbrev Plan (α : Type) : Type :=
  StateT (List Text) (Except Failure) α

def Plan.lift {α : Type} (result : Except Failure α) : Plan α :=
  fun lines => result.map fun value => (value, lines)

def takeRolls (keep : UInt8 → UInt8) (count : Nat) : Plan Bytes := fun lines =>
  match splitReaching facesIn count lines with
  | some (used, rest) => .ok ((used.filterMap dieFace).map keep, rest)
  | none => .error diceEnded

def takeDeck : Plan Text := fun lines =>
  match deckLines lines with
  | some (used, rest) => .ok ((distinctCards used).flatten, rest)
  | none => .error cardsEnded

def sameOrdering : Failure :=
  .invalidArgument
    (text "the second card-only shuffle must differ from the first")

/-- `RAND_priv_bytes`. -/
def drawn (openSsl : OpenSsl) (count : Nat) :
    Except Failure (Vector UInt8 count) :=
  match openSsl.randPrivBytes count with
  | none => .error (.runtimeError
      (text "RAND_priv_bytes failed: " ++ opensslErrorMessage openSsl))
  | some random => .ok random

theorem digest_take_length (digest : Digest) (strength : Strength) :
    (digest.bytes.take strength.byteCount).length = strength.byteCount := by
  have small := (le_of_mem_entropySizes strength.byteCount_mem).2
  rw [List.length_take, digest.size_eq, sha256Size]
  exact Nat.min_eq_left small

/-- As many bytes of the digest as the strength asks for. -/
def Entropy.ofDigest (strength : Strength) (digest : Digest) :
    Entropy strength where
  bytes := digest.bytes.take strength.byteCount
  size_eq := digest_take_length digest strength

namespace EntropyMode

/-- What the user enters, as the bytes that are hashed. -/
def entries (strength : Strength) : EntropyMode → Plan Bytes
  | system => pure []
  | mixedDice => takeRolls (fun face => face - chr '1') strength.mixedRolls
  | diceOnly => takeRolls id strength.onlyRolls
  | mixedCards => takeDeck
  | cardsOnly => do
      let first ← takeDeck
      if strength = .bits256 then
        let second ← takeDeck
        if first = second then Plan.lift (.error sameOrdering)
        else return first ++ second
      else return first

/-- What is hashed in front of the entries. -/
def domain (strength : Strength) : EntropyMode → Bytes
  | system => []
  | mixedDice => mixedDiceDomain ++
      uint16Be (UInt16.ofNat (strength.byteCount * 8)) ++
      uint16Be (UInt16.ofNat strength.mixedRolls)
  | diceOnly => []
  | mixedCards => mixedCardsDomain
  | cardsOnly => cardsOnlyDomain

/-- The entropy made of the entries. -/
def condition (openSsl : OpenSsl) (strength : Strength) (entered : Bytes)
    (mode : EntropyMode) : Except Failure (Entropy strength) :=
  match mode with
  | system => do
      let random ← drawn openSsl strength.byteCount
      return { bytes := random.toList, size_eq := random.length_toList }
  | mixedDice | mixedCards => do
      let random ← drawn openSsl sha256Size
      let digest ← sha256 openSsl
        (mode.domain strength ++ entered ++ random.toList)
      return .ofDigest strength digest
  | diceOnly | cardsOnly => do
      let digest ← sha256 openSsl (mode.domain strength ++ entered)
      return .ofDigest strength digest

def plan (openSsl : OpenSsl) (strength : Strength) (mode : EntropyMode) :
    Plan (Entropy strength) := do
  let entered ← mode.entries strength
  Plan.lift (mode.condition openSsl strength entered)

def secret (openSsl : OpenSsl) (strength : Strength) (mode : EntropyMode) :
    Plan (Secret strength) := do
  let entropy ← mode.plan openSsl strength
  let digest ← Plan.lift (sha256 openSsl entropy.bytes)
  return { entropy, digest }

end EntropyMode

def chosenWordlist (environment : Environment) (options : CommandLineOptions) :
    Except Failure Wordlist :=
  if options.wordlistFilename = [] then .ok .english
  else
    match environment.file options.wordlistFilename with
    | none => .error (.runtimeError
        (text "could not open wordlist file: " ++ options.wordlistFilename))
    | some bytes => Wordlist.ofLines (fileLines bytes)

/-- A run up to the Tiny Seed. -/
def session (environment : Environment) (options : CommandLineOptions)
    (mode : EntropyMode) (strength : Strength) :
    Plan (Wordlist × Secret strength) := do
  let wordlist ← Plan.lift (chosenWordlist environment options)
  let secret ← mode.secret environment.openSsl strength
  return (wordlist, secret)

section Plans

variable {α β : Type} {lines rest : List Text}

theorem plan_bind_eq_ok {plan : Plan α} {next : α → Plan β} {result : β} :
    (plan >>= next) lines = .ok (result, rest) ↔
      ∃ value between, plan lines = .ok (value, between) ∧
        next value between = .ok (result, rest) := by
  change (plan lines >>= fun taken => next taken.1 taken.2) = _ ↔ _
  rw [bind_eq_ok, Prod.exists]

theorem plan_lift_eq_ok {result : Except Failure α} {value : α} :
    Plan.lift result lines = .ok (value, rest) ↔
      result = .ok value ∧ lines = rest := by
  cases result with
  | error failure => simp [Plan.lift, Except.map]
  | ok found => simp [Plan.lift, Except.map]

theorem plan_pure_eq_ok {found value : α} :
    (pure found : Plan α) lines = .ok (value, rest) ↔
      found = value ∧ lines = rest := by
  change Except.ok (found, lines) = _ ↔ _
  rw [Except.ok.injEq, Prod.mk.injEq]

end Plans

/-- A session that succeeds has made each of its choices. -/
theorem session_eq_ok_iff {environment : Environment}
    {options : CommandLineOptions} {mode : EntropyMode} {strength : Strength}
    {wordlist : Wordlist} {secret : Secret strength} {lines rest : List Text} :
    session environment options mode strength lines =
        .ok ((wordlist, secret), rest) ↔
      chosenWordlist environment options = .ok wordlist ∧
        mode.secret environment.openSsl strength lines = .ok (secret, rest) := by
  simp only [session, plan_bind_eq_ok, plan_lift_eq_ok, plan_pure_eq_ok,
    Prod.mk.injEq]
  constructor
  · rintro ⟨found, between, ⟨chosen, rfl⟩, made, after, run, ⟨rfl, rfl⟩, rfl⟩
    exact ⟨chosen, run⟩
  · rintro ⟨chosen, run⟩
    exact ⟨wordlist, lines, ⟨chosen, rfl⟩, secret, rest, run, ⟨rfl, rfl⟩, rfl⟩

theorem sha256_eq_ok_iff {openSsl : OpenSsl} {data : Bytes} {digest : Digest} :
    sha256 openSsl data = .ok digest ↔
      openSsl.evpDigest data = some digest.bytes := by
  unfold sha256
  cases answer : openSsl.evpDigest data with
  | none =>
      constructor
      · intro impossible
        cases impossible
      · intro impossible
        cases impossible
  | some written =>
      dsimp only
      rw [Option.some.injEq]
      split
      · rename_i fits
        rw [Except.ok.injEq]
        constructor
        · rintro rfl
          rfl
        · intro same
          cases digest
          cases same
          rfl
      · rename_i other
        constructor
        · intro impossible
          cases impossible
        · rintro rfl
          exact (other digest.size_eq).elim

/-- A secret is made of the entries by conditioning and hashing. -/
theorem secret_eq_ok_iff {openSsl : OpenSsl} {mode : EntropyMode}
    {strength : Strength} {secret : Secret strength} {lines rest : List Text} :
    mode.secret openSsl strength lines = .ok (secret, rest) ↔
      ∃ entered, mode.entries strength lines = .ok (entered, rest) ∧
        mode.condition openSsl strength entered = .ok secret.entropy ∧
        openSsl.evpDigest secret.entropy.bytes = some secret.digest.bytes := by
  simp only [EntropyMode.secret, EntropyMode.plan, plan_bind_eq_ok,
    plan_lift_eq_ok, plan_pure_eq_ok, sha256_eq_ok_iff]
  constructor
  · rintro ⟨entropy, _, ⟨entered, after, entries, conditioned, rfl⟩, digest, _,
      ⟨hashed, rfl⟩, rfl, rfl⟩
    exact ⟨entered, entries, conditioned, hashed⟩
  · rintro ⟨entered, entries, conditioned, hashed⟩
    exact ⟨secret.entropy, rest, ⟨entered, rest, entries, conditioned, rfl⟩,
      secret.digest, rest, ⟨hashed, rfl⟩, rfl, rfl⟩

section Programs

/-- The program does to standard input what the plan says. -/
abbrev Follows {α γ : Type} (same : α → γ → Prop) (program : Program α)
    (plan : Plan γ) : Prop :=
  Implements Console.input same program plan

variable {α β γ δ : Type} {same : α → γ → Prop} {better : β → δ → Prop}

theorem follows_lift {result : Except Failure α} {planned : Except Failure γ}
    (value : γ → α) (agree : result = planned.map value) :
    Follows (fun found expected => found = value expected)
      (Program.lift result) (Plan.lift planned) := by
  intro console
  subst agree
  cases planned with
  | error failure => exact ⟨console, rfl⟩
  | ok expected => exact ⟨value expected, console, rfl, rfl, rfl⟩

theorem follows_ok {value : α} {next : α → Program β} {plan : Plan δ}
    (rest : Follows better (next value) plan) :
    Follows better (Program.lift (.ok value) >>= next) plan :=
  Implements.skip (fun console => ⟨console, rfl, rfl⟩) rest

theorem follows_cout (write : OStream → OStream) {next : Unit → Program β}
    {plan : Plan δ} (rest : Follows better (next ()) plan) :
    Follows better (Program.cout write >>= next) plan :=
  Implements.skip
    (fun console => ⟨{ console with cout := write console.cout }, rfl, rfl⟩) rest

theorem follows_cerr (write : OStream → OStream) {next : Unit → Program β}
    {plan : Plan δ} (rest : Follows better (next ()) plan) :
    Follows better (Program.cerr write >>= next) plan :=
  Implements.skip
    (fun console => ⟨{ console with cerr := write console.cerr }, rfl, rfl⟩) rest

end Programs

/-- Rolls read by the program. -/
structure ReadRolls (keep : UInt8 → UInt8) (count : Nat)
    (rolls expected : Bytes) : Prop where
  same : rolls = expected
  count : rolls.length = count
  faces : ∀ roll ∈ rolls, ∃ face ∈ text "123456", roll = keep face

theorem readRolls_follows (keep : UInt8 → UInt8) (total count : Nat) :
    Follows (ReadRolls keep count) (readRolls keep total count)
      (takeRolls keep count) := by
  intro console
  by_cases enough : count ≤ facesIn console.input
  · obtain ⟨used, after, split, reaches, run⟩ :=
      readRolls_enough keep total enough
    have taken : takeRolls keep count console.input =
        .ok ((used.filterMap dieFace).map keep, after.input) := by
      rw [takeRolls, split, splitReaching_of_reaches reaches]
    rw [taken]
    refine ⟨_, after, run, ⟨rfl, ?_, ?_⟩, rfl⟩
    · rw [List.length_map]
      exact reaches.enough
    · intro roll member
      obtain ⟨face, listed, rfl⟩ := List.mem_map.mp member
      obtain ⟨line, -, accepted⟩ := List.mem_filterMap.mp listed
      exact ⟨face, mem_faces_of_dieFace accepted, rfl⟩
  · have short := Nat.lt_of_not_le enough
    have taken : takeRolls keep count console.input = .error diceEnded := by
      rw [takeRolls, splitReaching_of_short facesIn_gradual short]
    rw [taken]
    exact readRolls_short keep total short

theorem readCardDeck_follows (shuffleNumber : Nat) :
    Follows (fun deck expected => deck = expected ∧ IsDeck deck)
      (readCardDeck shuffleNumber) takeDeck := by
  intro console
  rcases deckLines_cases console.input with
    ⟨short, lines⟩ | ⟨used, rest, split, reaches, lines⟩
  · have taken : takeDeck console.input = .error cardsEnded := by
      rw [takeDeck, lines]
    rw [taken]
    obtain ⟨complaints, run⟩ := readCardDeck_ends shuffleNumber console short
    exact ⟨_, run⟩
  · have taken : takeDeck console.input =
        .ok ((distinctCards used).flatten, rest) := by
      rw [takeDeck, lines]
    rw [taken]
    obtain ⟨complaints, run⟩ :=
      readCardDeck_complete shuffleNumber console split reaches
    exact ⟨_, _, run, ⟨rfl, isDeck_of_reaches reaches⟩, rfl⟩

/-- The tail of every conditioner. -/
theorem truncated_eq (openSsl : OpenSsl) (strength : Strength)
    (input : Bytes) :
    (do
        let digest ← sha256 openSsl input
        truncateDigest digest strength.byteCount) =
      (do
        let digest ← sha256 openSsl input
        return Entropy.ofDigest strength digest : Except Failure _).map
          (·.bytes) := by
  cases sha256 openSsl input with
  | error failure => rfl
  | ok digest =>
      have fits : strength.byteCount ≤ digest.bytes.length := by
        rw [digest.size_eq]
        exact (le_of_mem_entropySizes strength.byteCount_mem).2
      exact if_pos fits

/-- A conditioner whose arguments are accepted hashes what it should. -/
theorem conditioned_eq (openSsl : OpenSsl) {strength : Strength}
    {built : Except Failure Bytes} {input : Bytes} {condition : Prop}
    (yields : YieldsExactlyIf built input condition) (holds : condition) :
    (built >>= fun conditionerInput => do
        let digest ← sha256 openSsl conditionerInput
        truncateDigest digest strength.byteCount) =
      (do
        let digest ← sha256 openSsl input
        return Entropy.ofDigest strength digest : Except Failure _).map
          (·.bytes) := by
  obtain ⟨found, run⟩ := yields.ok_iff.mpr holds
  rw [run, (yields.eq_of_ok run).2]
  exact truncated_eq openSsl strength input

theorem generateSystemEntropy_eq (openSsl : OpenSsl) (count : Nat) :
    generateSystemEntropy openSsl count =
      (drawn openSsl count).map Vector.toList := by
  unfold generateSystemEntropy drawn
  cases openSsl.randPrivBytes count <;> rfl

section Modes

variable (openSsl : OpenSsl) (strength : Strength)

/-- What a source returns, against the entropy of its plan. -/
abbrev SameEntropy (bytes : Bytes) (entropy : Entropy strength) : Prop :=
  bytes = entropy.bytes

theorem generateSystem_follows :
    Follows (SameEntropy strength)
      (EntropyMode.system.generate openSsl strength.byteCount)
      (EntropyMode.system.plan openSsl strength) := by
  change Follows _ (Program.lift _) (Plan.lift _)
  apply follows_lift
  rw [generateSystemEntropy_eq]
  unfold EntropyMode.condition
  cases drawn openSsl strength.byteCount <;> rfl

theorem generateDiceOnlyEntropy_follows :
    Follows (SameEntropy strength)
      (EntropyMode.diceOnly.generate openSsl strength.byteCount)
      (EntropyMode.diceOnly.plan openSsl strength) := by
  simp only [EntropyMode.generate, generateDiceOnlyEntropy,
    strength.diceOnlyRollCount_eq, readAsciiDiceRolls_eq]
  apply follows_ok
  apply follows_cout
  apply Implements.bind (readRolls_follows id _ _)
  intro rolls entered read
  obtain ⟨rfl, count, faces⟩ := read
  apply follows_lift
  apply conditioned_eq openSsl (diceOnlyInput_yields rolls strength.byteCount)
  refine ⟨strength.byteCount_mem, ?_, ?_⟩
  · rw [count]
    exact strength.diceOnlyRollCount_eq
  · intro roll member
    obtain ⟨face, listed, rfl⟩ := faces roll member
    exact faces_range listed

/-- The random bytes are drawn after the entries are read. -/
theorem drawn_follows
    {conditioner : Bytes → Except Failure Bytes}
    {later : Vector UInt8 sha256Size → Except Failure (Entropy strength)}
    (each : ∀ random, conditioner random.toList =
      (later random).map (·.bytes)) :
    Follows (SameEntropy strength)
      (Program.lift (generateSystemEntropy openSsl sha256Size) >>=
        fun systemRandom => Program.lift (conditioner systemRandom))
      (Plan.lift (drawn openSsl sha256Size >>= later)) := by
  rw [generateSystemEntropy_eq]
  cases drawn openSsl sha256Size with
  | error failure => exact fun console => ⟨console, rfl⟩
  | ok random =>
      apply follows_ok
      exact follows_lift _ (each random)

theorem generateMixedDiceEntropy_follows :
    Follows (SameEntropy strength)
      (EntropyMode.mixedDice.generate openSsl strength.byteCount)
      (EntropyMode.mixedDice.plan openSsl strength) := by
  simp only [EntropyMode.generate, generateMixedDiceEntropy,
    strength.mixedDiceRollCount_eq, readMixedDiceRolls_eq]
  apply follows_ok
  apply follows_cout
  apply Implements.bind (readRolls_follows _ _ _)
  intro rolls entered read
  obtain ⟨rfl, count, faces⟩ := read
  apply drawn_follows
  intro random
  have accepted := @conditioned_eq openSsl strength _ _ _
    (mixDiceInput_yields rolls random.toList strength.byteCount)
    ⟨strength.byteCount_mem, by rw [count, strength.mixedDiceRollCount_eq],
      fun roll member => by
        obtain ⟨face, listed, rfl⟩ := faces roll member
        exact zeroBased_le_five listed,
      random.length_toList⟩
  rw [count] at accepted
  exact accepted

theorem generateMixedCardEntropy_follows :
    Follows (SameEntropy strength)
      (EntropyMode.mixedCards.generate openSsl strength.byteCount)
      (EntropyMode.mixedCards.plan openSsl strength) := by
  apply follows_cout
  apply follows_cout
  apply Implements.bind (readCardDeck_follows 1)
  intro deck entered read
  obtain ⟨rfl, ordering⟩ := read
  apply drawn_follows
  intro random
  exact conditioned_eq openSsl
    (mixCardInput_yields deck random.toList strength.byteCount)
    ⟨strength.byteCount_mem, random.length_toList, ordering⟩

theorem cardsOnlyDeckCount_eq :
    cardsOnlyDeckCount strength.byteCount =
      .ok (if strength = .bits256 then 2 else 1) := by
  cases strength <;> rfl

theorem generateCardsOnlyEntropy_follows :
    Follows (SameEntropy strength)
      (EntropyMode.cardsOnly.generate openSsl strength.byteCount)
      (EntropyMode.cardsOnly.plan openSsl strength) := by
  simp only [EntropyMode.generate, generateCardsOnlyEntropy,
    cardsOnlyDeckCount_eq]
  apply follows_ok
  apply follows_cout
  apply follows_cout
  rw [EntropyMode.plan, EntropyMode.entries, bind_assoc]
  apply Implements.bind (readCardDeck_follows 1)
  intro firstDeck first read
  obtain ⟨rfl, ordering⟩ := read
  have finished : ∀ second,
      SecondDeckFits strength.byteCount firstDeck second →
      cardsOnlyEntropy openSsl firstDeck second strength.byteCount =
        (EntropyMode.cardsOnly.condition openSsl strength
          (firstDeck ++ second)).map (·.bytes) := by
    intro second fits
    have accepted := @conditioned_eq openSsl strength _ _ _
      (cardsOnlyInput_yields firstDeck second strength.byteCount)
      ⟨strength.byteCount_mem, ordering, fits⟩
    rw [List.append_assoc] at accepted
    exact accepted
  by_cases two : strength = .bits256
  · subst two
    apply follows_cout
    simp only [if_true, bind_assoc]
    apply Implements.bind (readCardDeck_follows 2)
    intro secondDeck second readAgain
    obtain ⟨rfl, again⟩ := readAgain
    by_cases same : firstDeck = secondDeck
    · subst same
      rw [if_pos rfl]
      intro console
      refine ⟨console, ?_⟩
      exact congrArg (·, console) (cardsOnlyEntropy_same openSsl ordering)
    · rw [if_neg same, pure_bind]
      exact follows_lift _ (finished secondDeck
        (.inr ⟨rfl, again, fun other => same other.symm⟩))
  · have small : strength.byteCount < 32 := by
      cases strength <;> first | decide | exact absurd rfl two
    simp only [two, if_false, if_true, pure_bind]
    have one := finished [] (.inl ⟨small, rfl⟩)
    rw [List.append_nil] at one
    exact follows_lift _ one

/-- Each source implements its plan. -/
theorem generate_follows (mode : EntropyMode) :
    Follows (SameEntropy strength)
      (mode.generate openSsl strength.byteCount)
      (mode.plan openSsl strength) := by
  cases mode with
  | system => exact generateSystem_follows openSsl strength
  | mixedDice => exact generateMixedDiceEntropy_follows openSsl strength
  | diceOnly => exact generateDiceOnlyEntropy_follows openSsl strength
  | mixedCards => exact generateMixedCardEntropy_follows openSsl strength
  | cardsOnly => exact generateCardsOnlyEntropy_follows openSsl strength

end Modes

end Bip39
