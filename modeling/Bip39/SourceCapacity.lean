import Bip39.Reproduction
import Bip39.Support.Counting

/-!
# What the sources can be told

How many different entries each source can be given, against the number of
entropies of the strength they are for.
-/

namespace Bip39

open Bip39.Source Bip39.Support

/-- The entries that some input makes a source read. -/
def possibleEntries (strength : Strength) (mode : EntropyMode) : Set Bytes :=
  {entered | ∃ lines rest, mode.entries strength lines = .ok (entered, rest)}

section Rolls

def faces : Finset UInt8 :=
  (text "123456").toFinset

theorem mem_faces {face : UInt8} : face ∈ faces ↔ face ∈ text "123456" := by
  rw [faces, List.mem_toFinset]

/-- Each face on a line of its own is read as it is. -/
theorem filterMap_dieFace {rolled : Bytes}
    (listed : ∀ face ∈ rolled, face ∈ faces) :
    (rolled.map fun face => [face]).filterMap dieFace = rolled := by
  have single : ∀ face ∈ text "123456", dieFace [face] = some face := by
    decide +kernel
  rw [List.filterMap_map]
  have each : ∀ face ∈ rolled,
      (dieFace ∘ fun face => [face]) face = some face := by
    intro face member
    exact single face (mem_faces.mp (listed face member))
  rw [List.filterMap_congr each]
  exact List.filterMap_some

theorem takeRolls_lines (keep : UInt8 → UInt8) {rolled : Bytes}
    (listed : ∀ face ∈ rolled, face ∈ faces) :
    takeRolls keep rolled.length (rolled.map fun face => [face]) =
      .ok (rolled.map keep, []) := by
  have read := filterMap_dieFace listed
  have full : facesIn (rolled.map fun face => [face]) =
      (rolled.map fun face => [face]).length := by
    rw [facesIn, read, List.length_map]
  have reaches := facesIn_gradual.reaches_of_length full
  have split := splitReaching_of_reaches reaches []
  rw [List.append_nil, List.length_map] at split
  rw [takeRolls, split]
  dsimp only
  rw [read]

theorem possibleRolls_eq (keep : UInt8 → UInt8) (count : Nat) :
    {rolls | ∃ lines rest, takeRolls keep count lines = .ok (rolls, rest)} =
      List.map keep '' wordsOver faces count := by
  apply Set.ext
  intro rolls
  constructor
  · intro possible
    obtain ⟨lines, rest, taken⟩ := possible
    obtain ⟨rolled, counted, listed, kept⟩ := takeRolls_eq_ok taken
    refine ⟨rolled, ⟨counted, ?_⟩, kept.symm⟩
    intro face member
    exact mem_faces.mpr (listed face member)
  · intro image
    obtain ⟨rolled, ⟨counted, listed⟩, same⟩ := image
    subst same
    rw [← counted]
    exact ⟨_, _, takeRolls_lines keep listed⟩

theorem possibleRolls_ncard {keep : UInt8 → UInt8}
    (injective : Function.Injective keep) (count : Nat) :
    {rolls | ∃ lines rest,
      takeRolls keep count lines = .ok (rolls, rest)}.ncard = 6 ^ count := by
  rw [possibleRolls_eq, Set.ncard_image_of_injective _
    (List.map_injective_iff.mpr injective), ncard_wordsOver]
  rfl

end Rolls

section Decks

/-- The names of the cards in any order, entered as they are. -/
theorem takeDeck_names {order : List Text} (ordering : order.Perm canonicalNames)
    (rest : List Text) : takeDeck (order ++ rest) = .ok (order.flatten, rest) := by
  have named : ∀ name ∈ canonicalNames, namedCard name = some name := by
    decide +kernel
  have each : ∀ name ∈ order, namedCard name = some name := by
    intro name member
    exact named name (ordering.mem_iff.mp member)
  have distinct : distinctCards order = order := by
    rw [distinctCards, List.filterMap_congr each, List.filterMap_some]
    exact eraseDups_of_nodup (ordering.nodup_iff.mpr canonicalNames_nodup)
  have full : cardsIn order = order.length := by
    rw [cardsIn, distinct]
  have reaches := cardsIn_gradual.reaches_of_length full
  rw [ordering.length_eq] at reaches
  have split : deckLines (order ++ rest) = some (order, rest) :=
    splitReaching_of_reaches reaches rest
  rw [takeDeck, split]
  dsimp only
  rw [distinct]

theorem possibleDecks_eq :
    {deck | ∃ lines rest, takeDeck lines = .ok (deck, rest)} =
      {deck | IsDeck deck} := by
  apply Set.ext
  intro deck
  constructor
  · intro possible
    obtain ⟨lines, rest, taken⟩ := possible
    exact takeDeck_eq_ok taken
  · intro ordering
    obtain ⟨order, permutation, same⟩ := ordering
    subst same
    exact ⟨_, _, takeDeck_names permutation []⟩

theorem decks_ncard : {deck | IsDeck deck}.ncard = Nat.factorial 52 := by
  have flattened : {deck | IsDeck deck} =
      List.flatten '' {order : List Text | order.Perm canonicalNames} := by
    apply Set.ext
    intro deck
    constructor
    · intro ordering
      obtain ⟨order, permutation, same⟩ := ordering
      exact ⟨order, permutation, same.symm⟩
    · intro image
      obtain ⟨order, permutation, same⟩ := image
      exact ⟨order, permutation, same.symm⟩
  have injective : Set.InjOn List.flatten
      {order : List Text | order.Perm canonicalNames} := by
    have size : ∀ order : List Text, order.Perm canonicalNames →
        ∀ name ∈ order, name.length = 2 := by
      intro order permutation name member
      exact canonicalNames_size name (permutation.mem_iff.mp member)
    intro order permutation other otherPermutation same
    have names := congrArg deckNames same
    rw [deckNames_flatten (size order permutation),
      deckNames_flatten (size other otherPermutation)] at names
    exact names
  rw [flattened, injective.ncard_image, ncard_orderings canonicalNames_nodup,
    canonicalNames_length]
  rfl

/-- The entries of a cards-only run are a deck or two different decks. -/
theorem possibleTwoDecks_eq :
    possibleEntries .bits256 .cardsOnly =
      (fun decks : Text × Text => decks.1 ++ decks.2) ''
        {deck | IsDeck deck}.offDiag := by
  apply Set.ext
  intro entered
  constructor
  · intro possible
    obtain ⟨lines, rest, entries⟩ := possible
    obtain ⟨first, between, taken, later⟩ := plan_bind_eq_ok.mp entries
    rw [if_pos rfl] at later
    obtain ⟨second, after, takenAgain, later⟩ := plan_bind_eq_ok.mp later
    by_cases same : first = second
    · rw [if_pos same] at later
      cases later
    · rw [if_neg same] at later
      obtain ⟨whole, -⟩ := plan_pure_eq_ok.mp later
      exact ⟨(first, second),
        ⟨takeDeck_eq_ok taken, takeDeck_eq_ok takenAgain, same⟩, whole⟩
  · intro image
    obtain ⟨⟨first, second⟩, ⟨ordering, again, different⟩, whole⟩ := image
    obtain ⟨order, permutation, same⟩ := ordering
    obtain ⟨other, otherPermutation, otherSame⟩ := again
    dsimp only at same otherSame different whole
    refine ⟨order ++ (other ++ []), [], plan_bind_eq_ok.mpr
      ⟨_, _, takeDeck_names permutation _, ?_⟩⟩
    rw [if_pos rfl]
    refine plan_bind_eq_ok.mpr ⟨_, _, takeDeck_names otherPermutation _, ?_⟩
    rw [← same, ← otherSame, if_neg different, ← whole]
    rfl

theorem possibleOneDeck_eq {strength : Strength} (one : strength ≠ .bits256) :
    possibleEntries strength .cardsOnly = {deck | IsDeck deck} := by
  rw [← possibleDecks_eq]
  apply Set.ext
  intro entered
  constructor
  · intro possible
    obtain ⟨lines, rest, entries⟩ := possible
    obtain ⟨first, between, taken, later⟩ := plan_bind_eq_ok.mp entries
    rw [if_neg one] at later
    obtain ⟨same, -⟩ := plan_pure_eq_ok.mp later
    rw [← same]
    exact ⟨_, _, taken⟩
  · intro possible
    obtain ⟨lines, rest, taken⟩ := possible
    refine ⟨lines, rest, plan_bind_eq_ok.mpr ⟨_, _, taken, ?_⟩⟩
    rw [if_neg one]
    rfl

theorem twoDecks_ncard :
    (possibleEntries .bits256 .cardsOnly).ncard =
      Nat.factorial 52 * (Nat.factorial 52 - 1) := by
  have injective : Set.InjOn (fun decks : Text × Text => decks.1 ++ decks.2)
      {deck | IsDeck deck}.offDiag := by
    intro decks ordering others otherOrdering same
    have lengths : decks.1.length = others.1.length :=
      ordering.1.length.trans otherOrdering.1.length.symm
    obtain ⟨first, second⟩ := List.append_inj same lengths
    exact Prod.ext first second
  have finite : {deck | IsDeck deck}.Finite := by
    apply Set.finite_of_ncard_ne_zero
    rw [decks_ncard]
    exact Nat.factorial_ne_zero 52
  rw [possibleTwoDecks_eq, injective.ncard_image, ncard_offDiag finite,
    decks_ncard]

end Decks

/-- How many different entries a source can be given. -/
def EntropyMode.entryCount (strength : Strength) : EntropyMode → Nat
  | system => 1
  | mixedDice => 6 ^ strength.mixedRolls
  | diceOnly => 6 ^ strength.onlyRolls
  | mixedCards => Nat.factorial 52
  | cardsOnly =>
      if strength = .bits256 then Nat.factorial 52 * (Nat.factorial 52 - 1)
      else Nat.factorial 52

theorem possibleEntries_ncard (strength : Strength) (mode : EntropyMode) :
    (possibleEntries strength mode).ncard = mode.entryCount strength := by
  cases mode with
  | system =>
      have nothing : possibleEntries strength .system = {[]} := by
        apply Set.ext
        intro entered
        constructor
        · intro possible
          obtain ⟨lines, rest, entries⟩ := possible
          exact (plan_pure_eq_ok.mp entries).1.symm
        · intro same
          exact ⟨[], [], plan_pure_eq_ok.mpr ⟨same.symm, rfl⟩⟩
      rw [nothing, Set.ncard_singleton]
      rfl
  | mixedDice =>
      exact possibleRolls_ncard sub_left_injective strength.mixedRolls
  | diceOnly => exact possibleRolls_ncard Function.injective_id strength.onlyRolls
  | mixedCards =>
      change {deck | ∃ lines rest, takeDeck lines = .ok (deck, rest)}.ncard = _
      rw [possibleDecks_eq, decks_ncard]
      rfl
  | cardsOnly =>
      unfold EntropyMode.entryCount
      by_cases two : strength = .bits256
      · subst two
        rw [twoDecks_ncard, if_pos rfl]
      · rw [possibleOneDeck_eq two, decks_ncard, if_neg two]

section Sizes

variable (strength : Strength)

theorem onlyRolls_sizes :
    (2 ^ (8 * strength.byteCount) ≤ 6 ^ strength.onlyRolls ↔
      strength ≠ .bits256) ∧
    2 ^ (8 * strength.byteCount) < 2 * 6 ^ strength.onlyRolls ∧
    6 ^ strength.onlyRolls < 6 * 2 ^ (8 * strength.byteCount) := by
  cases strength <;> decide +kernel

theorem mixedRolls_sizes :
    2 ^ 64 * 2 ^ (8 * strength.byteCount) ≤ 6 ^ strength.mixedRolls ∧
    6 ^ strength.mixedRolls < 6 * (2 ^ 64 * 2 ^ (8 * strength.byteCount)) := by
  cases strength <;> decide +kernel

theorem decks_sizes :
    2 ^ (8 * strength.byteCount) ≤
      EntropyMode.cardsOnly.entryCount strength := by
  cases strength <;> decide +kernel

end Sizes

/-- Dice alone and cards alone can be told at least as many different entries
as there are secrets, except that 99 rolls are short of 24 words by less than
one bit.  One roll less would not be enough, nor would a single deck be for
24 words.  The mixed rolls add 64 bits. -/
theorem sources_capacity (strength : Strength) :
    let secrets := 2 ^ (8 * strength.byteCount)
    (secrets ≤ (possibleEntries strength .diceOnly).ncard ↔
      strength ≠ .bits256) ∧
    secrets < 2 * (possibleEntries strength .diceOnly).ncard ∧
    (possibleEntries strength .diceOnly).ncard < 6 * secrets ∧
    secrets ≤ (possibleEntries strength .cardsOnly).ncard ∧
    {deck | IsDeck deck}.ncard < 2 ^ 256 ∧
    2 ^ 64 * secrets ≤ (possibleEntries strength .mixedDice).ncard ∧
    (possibleEntries strength .mixedDice).ncard < 6 * (2 ^ 64 * secrets) := by
  obtain ⟨enough, nearly, least⟩ := onlyRolls_sizes strength
  obtain ⟨more, leastMixed⟩ := mixedRolls_sizes strength
  simp only [possibleEntries_ncard, decks_ncard]
  have oneDeck : Nat.factorial 52 < 2 ^ 256 := by decide +kernel
  exact ⟨enough, nearly, least, decks_sizes strength, oneDeck, more, leastMixed⟩

end Bip39
