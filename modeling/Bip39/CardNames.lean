import Bip39.CardEntry
import Bip39.Support.Trimming

/-!
# Names of playing cards

A card has several spellings: its rank and suit in either case, and a ten also
in digits.  `normalize_card` accepts the spellings with whitespace around them
and maps all spellings of a card to one canonical name.
-/

namespace Bip39

open Bip39.Source Bip39.Support

inductive Rank where
  | ace
  | two
  | three
  | four
  | five
  | six
  | seven
  | eight
  | nine
  | ten
  | jack
  | queen
  | king
  deriving DecidableEq, Repr

inductive Suit where
  | clubs
  | diamonds
  | hearts
  | spades
  deriving DecidableEq, Repr

namespace Rank

/-- In the order of `card_ranks`. -/
def all : List Rank :=
  [ace, two, three, four, five, six, seven, eight, nine, ten, jack, queen, king]

/-- The character of the rank in a canonical name. -/
def character : Rank → UInt8
  | ace => chr 'a'
  | two => chr '2'
  | three => chr '3'
  | four => chr '4'
  | five => chr '5'
  | six => chr '6'
  | seven => chr '7'
  | eight => chr '8'
  | nine => chr '9'
  | ten => chr 't'
  | jack => chr 'j'
  | queen => chr 'q'
  | king => chr 'k'

def spellings : Rank → List Text
  | ace => [text "a", text "A"]
  | two => [text "2"]
  | three => [text "3"]
  | four => [text "4"]
  | five => [text "5"]
  | six => [text "6"]
  | seven => [text "7"]
  | eight => [text "8"]
  | nine => [text "9"]
  | ten => [text "t", text "T", text "10"]
  | jack => [text "j", text "J"]
  | queen => [text "q", text "Q"]
  | king => [text "k", text "K"]

theorem mem_all (rank : Rank) : rank ∈ all := by
  cases rank <;> decide

end Rank

namespace Suit

/-- In the order of `card_suits`. -/
def all : List Suit := [clubs, diamonds, hearts, spades]

def character : Suit → UInt8
  | clubs => chr 'c'
  | diamonds => chr 'd'
  | hearts => chr 'h'
  | spades => chr 's'

def spellings : Suit → List Text
  | clubs => [text "c", text "C"]
  | diamonds => [text "d", text "D"]
  | hearts => [text "h", text "H"]
  | spades => [text "s", text "S"]

theorem mem_all (suit : Suit) : suit ∈ all := by
  cases suit <;> decide

end Suit

structure PlayingCard where
  rank : Rank
  suit : Suit
  deriving DecidableEq, Repr

namespace PlayingCard

/-- The canonical name. -/
def name (card : PlayingCard) : Text :=
  [card.rank.character, card.suit.character]

/-- A spelling of the rank followed by a spelling of the suit. -/
def spellings (card : PlayingCard) : List Text :=
  card.rank.spellings.flatMap fun rank =>
    card.suit.spellings.map fun suit => rank ++ suit

end PlayingCard

/-- A line that spells a card, with any whitespace around the spelling. -/
def Spells (line : Text) (card : PlayingCard) : Prop :=
  ∃ before spelling after : Text,
    line = before ++ spelling ++ after ∧
      (∀ character ∈ before, isspace character) ∧
      spelling ∈ card.spellings ∧
      ∀ character ∈ after, isspace character

namespace PlayingCard

/-- No spelling starts or ends with whitespace, and every spelling is
normalized to the canonical name. -/
theorem spelling_table (card : PlayingCard) {spelling : Text}
    (member : spelling ∈ card.spellings) :
    (spelling.head?.all fun character => !isspace character) ∧
      (spelling.getLast?.all fun character => !isspace character) ∧
      namedCard spelling = some card.name := by
  have table : ∀ rank ∈ Rank.all, ∀ suit ∈ Suit.all,
      ∀ spelling ∈ spellings ⟨rank, suit⟩,
        (spelling.head?.all fun character => !isspace character) ∧
          (spelling.getLast?.all fun character => !isspace character) ∧
          namedCard spelling = some (name ⟨rank, suit⟩) := by
    decide
  exact table card.rank card.rank.mem_all card.suit card.suit.mem_all
    spelling member

theorem name_mem_spellings (card : PlayingCard) : card.name ∈ card.spellings := by
  have table : ∀ rank ∈ Rank.all, ∀ suit ∈ Suit.all,
      name ⟨rank, suit⟩ ∈ spellings ⟨rank, suit⟩ := by
    decide
  exact table card.rank card.rank.mem_all card.suit card.suit.mem_all

theorem name_injective {left right : PlayingCard}
    (same : left.name = right.name) : left = right := by
  have ranks : ∀ one ∈ Rank.all, ∀ other ∈ Rank.all,
      one.character = other.character → one = other := by
    decide
  have suits : ∀ one ∈ Suit.all, ∀ other ∈ Suit.all,
      one.character = other.character → one = other := by
    decide
  simp only [name, List.cons.injEq, and_true] at same
  have sameRank := ranks left.rank left.rank.mem_all right.rank
    right.rank.mem_all same.1
  have sameSuit := suits left.suit left.suit.mem_all right.suit
    right.suit.mem_all same.2
  cases left
  cases right
  cases sameRank
  cases sameSuit
  rfl

theorem name_mem_canonicalNames (card : PlayingCard) :
    card.name ∈ canonicalNames := by
  have table : ∀ rank ∈ Rank.all, ∀ suit ∈ Suit.all,
      name ⟨rank, suit⟩ ∈ canonicalNames := by
    decide
  exact table card.rank card.rank.mem_all card.suit card.suit.mem_all

theorem exists_name_eq {canonical : Text} (listed : canonical ∈ canonicalNames) :
    ∃ card : PlayingCard, card.name = canonical := by
  have table : ∀ canonical ∈ canonicalNames, ∃ rank ∈ Rank.all,
      ∃ suit ∈ Suit.all, name ⟨rank, suit⟩ = canonical := by
    decide
  obtain ⟨rank, -, suit, -, same⟩ := table canonical listed
  exact ⟨⟨rank, suit⟩, same⟩

end PlayingCard

/-- Trimming gives a spelling exactly when the line is that spelling between
whitespace. -/
theorem trimAsciiSpace_eq_spelling_iff {line spelling : Text}
    {card : PlayingCard} (member : spelling ∈ card.spellings) :
    trimAsciiSpace line = spelling ↔
      ∃ before after, line = before ++ spelling ++ after ∧
        (∀ character ∈ before, isspace character) ∧
        ∀ character ∈ after, isspace character := by
  obtain ⟨first, last, -⟩ := card.spelling_table member
  apply trim_eq_iff
  · intro character head
    rw [Option.mem_def.mp head] at first
    simpa using first
  · intro character tail
    rw [Option.mem_def.mp tail] at last
    simpa using last

theorem spells_iff {line : Text} {card : PlayingCard} :
    Spells line card ↔ trimAsciiSpace line ∈ card.spellings := by
  constructor
  · intro spells
    obtain ⟨before, spelling, after, split, beforeBlank, member, afterBlank⟩ :=
      spells
    rw [(trimAsciiSpace_eq_spelling_iff member).mpr
      ⟨before, after, split, beforeBlank, afterBlank⟩]
    exact member
  · intro member
    obtain ⟨before, after, split, beforeBlank, afterBlank⟩ :=
      (trimAsciiSpace_eq_spelling_iff member).mp rfl
    exact ⟨before, _, after, split, beforeBlank, member, afterBlank⟩

theorem normalizeCard_congr {left right : Text}
    (same : trimAsciiSpace left = trimAsciiSpace right) :
    normalizeCard left = normalizeCard right := by
  unfold normalizeCard
  rw [same]

/-- Every line that spells a card is normalized to the name of that card. -/
theorem normalizeCard_of_spells {line : Text} {card : PlayingCard}
    (spells : Spells line card) : normalizeCard line = .ok card.name := by
  have member := spells_iff.mp spells
  have alone : trimAsciiSpace (trimAsciiSpace line) = trimAsciiSpace line :=
    (trimAsciiSpace_eq_spelling_iff member).mpr ⟨[], [], by simp⟩
  obtain ⟨-, -, named⟩ := card.spelling_table member
  rw [← normalizeCard_congr alone]
  exact namedCard_eq_some_iff.mp named

/-- A character that a rank is written with. -/
theorem rank_of_tolower {character : UInt8}
    (listed : tolower character ∈ cardRanks) :
    ∃ rank : Rank, rank.character = tolower character ∧
      [character] ∈ rank.spellings := by
  have table : ∀ value < 256,
      tolower (UInt8.ofNat value) ∈ cardRanks →
        ∃ rank ∈ Rank.all, rank.character = tolower (UInt8.ofNat value) ∧
          [UInt8.ofNat value] ∈ rank.spellings := by
    decide +kernel
  have found := table character.toNat character.toNat_lt
  rw [UInt8.ofNat_toNat] at found
  obtain ⟨rank, -, spelled⟩ := found listed
  exact ⟨rank, spelled⟩

theorem suit_of_tolower {character : UInt8}
    (listed : tolower character ∈ cardSuits) :
    ∃ suit : Suit, suit.character = tolower character ∧
      [character] ∈ suit.spellings := by
  have table : ∀ value < 256,
      tolower (UInt8.ofNat value) ∈ cardSuits →
        ∃ suit ∈ Suit.all, suit.character = tolower (UInt8.ofNat value) ∧
          [UInt8.ofNat value] ∈ suit.spellings := by
    decide +kernel
  have found := table character.toNat character.toNat_lt
  rw [UInt8.ofNat_toNat] at found
  obtain ⟨suit, -, spelled⟩ := found listed
  exact ⟨suit, spelled⟩

/-- The last step of `normalize_card` lets only listed characters through. -/
theorem checkedName_eq_ok {rank suit : UInt8} {name : Text}
    (run : (do let _ ← cardIndex rank suit; return [rank, suit]) =
      (.ok name : Except Failure Text)) :
    name = [rank, suit] ∧ rank ∈ cardRanks ∧ suit ∈ cardSuits := by
  obtain ⟨index, found, same⟩ := bind_eq_ok.mp run
  cases same
  rcases cardIndex_cases rank suit with ⟨member, -⟩ | ⟨what, failed⟩
  · exact ⟨rfl, mem_canonicalNames_iff.mp member⟩
  · rw [found] at failed
    cases failed

theorem mem_spellings {rank : Rank} {suit : Suit} {first second : Text}
    (rankSpelled : first ∈ rank.spellings)
    (suitSpelled : second ∈ suit.spellings) :
    first ++ second ∈ PlayingCard.spellings ⟨rank, suit⟩ := by
  apply List.mem_flatMap.mpr
  exact ⟨first, rankSpelled, List.mem_map.mpr ⟨second, suitSpelled, rfl⟩⟩

/-- A line that is accepted spells the card it is normalized to. -/
theorem spells_of_normalizeCard {line name : Text}
    (run : normalizeCard line = .ok name) :
    ∃ card : PlayingCard, card.name = name ∧ Spells line card := by
  unfold normalizeCard at run
  split at run
  · rename_i first second trimmed
    obtain ⟨rfl, rankListed, suitListed⟩ := checkedName_eq_ok run
    obtain ⟨rank, rankName, rankSpelled⟩ := rank_of_tolower rankListed
    obtain ⟨suit, suitName, suitSpelled⟩ := suit_of_tolower suitListed
    refine ⟨⟨rank, suit⟩, ?_, ?_⟩
    · rw [PlayingCard.name, rankName, suitName, lowercaseAscii, lowercaseAscii]
    · apply spells_iff.mpr
      rw [trimmed]
      exact mem_spellings rankSpelled suitSpelled
  · rename_i first second third trimmed
    split at run
    · rename_i ten
      obtain ⟨rfl, -, suitListed⟩ := checkedName_eq_ok run
      obtain ⟨suit, suitName, suitSpelled⟩ := suit_of_tolower suitListed
      refine ⟨⟨.ten, suit⟩, ?_, ?_⟩
      · rw [PlayingCard.name, suitName, lowercaseAscii]
        rfl
      · apply spells_iff.mpr
        rw [trimmed, ten.1, ten.2]
        have digits : text "10" ∈ Rank.ten.spellings := by decide
        exact mem_spellings digits suitSpelled
    · cases run
  · cases run

theorem normalizeCard_eq_ok_iff {line name : Text} :
    normalizeCard line = .ok name ↔
      ∃ card : PlayingCard, card.name = name ∧ Spells line card := by
  constructor
  · exact spells_of_normalizeCard
  · rintro ⟨card, rfl, spells⟩
    exact normalizeCard_of_spells spells

theorem normalizeCard_eq_name_iff {line : Text} {card : PlayingCard} :
    normalizeCard line = .ok card.name ↔ Spells line card := by
  rw [normalizeCard_eq_ok_iff]
  constructor
  · intro named
    obtain ⟨other, same, spells⟩ := named
    rw [← PlayingCard.name_injective same]
    exact spells
  · intro spells
    exact ⟨card, rfl, spells⟩

theorem spells_name (card : PlayingCard) : Spells card.name card :=
  ⟨[], card.name, [], by simp, by simp, card.name_mem_spellings, by simp⟩

/-- `normalize_card` accepts exactly the lines that spell a card; its results
are the 52 canonical names, which it leaves alone, and two lines have the same
result exactly when they spell the same card. -/
theorem normalizeCard_correct :
    (∀ line : Text,
      (∃ card : PlayingCard, trimAsciiSpace line ∈ card.spellings ∧
        normalizeCard line = .ok card.name) ∨
      ((∀ card : PlayingCard, trimAsciiSpace line ∉ card.spellings) ∧
        ∃ what, normalizeCard line = .error (.invalidArgument what))) ∧
    (∀ line name : Text, normalizeCard line = .ok name →
      (∃ rank suit index, name = [rank, suit] ∧ name ∈ canonicalNames ∧
        cardIndex rank suit = .ok index) ∧
      normalizeCard name = .ok name) ∧
    (∀ (left right : Text) (leftCard rightCard : PlayingCard),
      Spells left leftCard → Spells right rightCard →
        (normalizeCard left = normalizeCard right ↔ leftCard = rightCard)) ∧
    canonicalNames.length = 52 ∧ canonicalNames.Nodup ∧
    ∀ name ∈ canonicalNames, ∃ card : PlayingCard, card.name = name ∧
      ∀ line : Text, normalizeCard line = .ok name ↔ Spells line card := by
  refine ⟨?_, ?_, ?_, canonicalNames_length, canonicalNames_nodup, ?_⟩
  · intro line
    rcases normalizeCard_cases line with ⟨name, run, -⟩ | ⟨what, failed⟩
    · obtain ⟨card, rfl, spells⟩ := spells_of_normalizeCard run
      exact .inl ⟨card, spells_iff.mp spells, run⟩
    · refine .inr ⟨?_, what, failed⟩
      intro card member
      have run := normalizeCard_of_spells (spells_iff.mpr member)
      rw [failed] at run
      cases run
  · intro line name run
    obtain ⟨card, rfl, -⟩ := spells_of_normalizeCard run
    have canonical := card.name_mem_canonicalNames
    refine ⟨⟨card.rank.character, card.suit.character, _, rfl, canonical,
      cardIndex_of_mem canonical⟩, ?_⟩
    exact normalizeCard_of_spells (spells_name card)
  · intro left right leftCard rightCard leftSpells rightSpells
    rw [normalizeCard_of_spells leftSpells, normalizeCard_of_spells rightSpells,
      Except.ok.injEq]
    exact ⟨PlayingCard.name_injective, congrArg PlayingCard.name⟩
  · intro name listed
    obtain ⟨card, rfl⟩ := PlayingCard.exists_name_eq listed
    exact ⟨card, rfl, fun line => normalizeCard_eq_name_iff⟩

end Bip39
