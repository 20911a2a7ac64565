import Bip39.Conditioners
import Bip39.Source.Readers
import Bip39.Support.ShortestPrefix

/-!
# Card entry

The state of the deck reader is a function of the lines it has read: the cards
in it are the distinct cards those lines name, in the order in which they first
occur.  A deck is complete after the shortest stretch of lines that names 52
of them.
-/

namespace Bip39

open Bip39.Source Bip39.Support

/-- The card a line names, if it names one. -/
def namedCard (line : Text) : Option Text :=
  (normalizeCard line).toOption

/-- The distinct cards some lines name, in the order of first occurrence. -/
def distinctCards (lines : List Text) : List Text :=
  (lines.filterMap namedCard).eraseDups

def cardsIn (lines : List Text) : Nat :=
  (distinctCards lines).length

theorem cardsIn_gradual : Gradual cardsIn :=
  gradual_distinct namedCard

theorem cardIndex_cases (rank suit : UInt8) :
    ([rank, suit] ∈ canonicalNames ∧
      ∃ index, cardIndex rank suit = .ok index) ∨
    ∃ what, cardIndex rank suit = .error (.invalidArgument what) := by
  by_cases member : [rank, suit] ∈ canonicalNames
  · exact .inl ⟨member, _, cardIndex_of_mem member⟩
  · exact .inr ⟨_, cardIndex_of_not_mem member⟩

/-- Normalization gives a canonical name or throws `invalid_argument`. -/
theorem normalizeCard_cases (line : Text) :
    (∃ card, normalizeCard line = .ok card ∧ card ∈ canonicalNames) ∨
    ∃ what, normalizeCard line = .error (.invalidArgument what) := by
  have finish : ∀ rank suit,
      (∃ card, (cardIndex rank suit >>= fun _ => .ok [rank, suit]) =
        .ok card ∧ card ∈ canonicalNames) ∨
      ∃ what, (cardIndex rank suit >>= fun _ => .ok [rank, suit]) =
        (.error (.invalidArgument what) : Except Failure Text) := by
    intro rank suit
    rcases cardIndex_cases rank suit with ⟨member, index, run⟩ | ⟨what, run⟩
    · exact .inl ⟨[rank, suit], by rw [run]; rfl, member⟩
    · exact .inr ⟨what, by rw [run]; rfl⟩
  unfold normalizeCard
  split
  · exact finish _ _
  · split
    · exact finish _ _
    · exact .inr ⟨_, rfl⟩
  · exact .inr ⟨_, rfl⟩

theorem namedCard_eq_some_iff {line card : Text} :
    namedCard line = some card ↔ normalizeCard line = .ok card := by
  unfold namedCard
  cases normalizeCard line with
  | error failure => simp [Except.toOption]
  | ok named => simp [Except.toOption]

theorem mem_canonicalNames_of_mem_distinctCards {lines : List Text}
    {card : Text} (member : card ∈ distinctCards lines) :
    card ∈ canonicalNames := by
  obtain ⟨line, -, named⟩ := List.mem_filterMap.mp
    (List.mem_eraseDups.mp member)
  have run := namedCard_eq_some_iff.mp named
  rcases normalizeCard_cases line with ⟨other, success, canonical⟩ | ⟨_, failed⟩
  · rw [run] at success
    cases success
    exact canonical
  · rw [run] at failed
    cases failed

theorem distinctCards_snoc_none {lines : List Text} {line : Text}
    (rejected : namedCard line = none) :
    distinctCards (lines ++ [line]) = distinctCards lines := by
  simp [distinctCards, rejected]

theorem distinctCards_snoc_known {lines : List Text} {line card : Text}
    (named : namedCard line = some card)
    (known : card ∈ distinctCards lines) :
    distinctCards (lines ++ [line]) = distinctCards lines := by
  have snoc : (lines ++ [line]).filterMap namedCard =
      lines.filterMap namedCard ++ [card] := by
    simp [named]
  unfold distinctCards
  rw [snoc, eraseDups_snoc_of_mem (List.mem_eraseDups.mp known)]

theorem distinctCards_snoc_new {lines : List Text} {line card : Text}
    (named : namedCard line = some card)
    (new : card ∉ distinctCards lines) :
    distinctCards (lines ++ [line]) = distinctCards lines ++ [card] := by
  have snoc : (lines ++ [line]).filterMap namedCard =
      lines.filterMap namedCard ++ [card] := by
    simp [named]
  have absent : card ∉ lines.filterMap namedCard := by
    intro member
    exact new (List.mem_eraseDups.mpr member)
  unfold distinctCards
  rw [snoc, eraseDups_snoc_of_not_mem absent]

/-- The local variables of the reader after it has read some lines. -/
def readerAfter (lines : List Text) : DeckReader :=
  { deck := (distinctCards lines).flatten
    seen := distinctCards lines
    position := cardsIn lines + 1 }

/-- One iteration of the reader, for a card, a repeated card and a rejected
line alike. -/
theorem acceptCard_readerAfter (lines : List Text) (line : Text)
    (cerr : OStream) :
    ∃ complaints, acceptCard (readerAfter lines) cerr line =
      .ok (readerAfter (lines ++ [line]), complaints) := by
  unfold acceptCard
  rcases normalizeCard_cases line with ⟨card, run, -⟩ | ⟨what, run⟩
  · rw [run]
    have named := namedCard_eq_some_iff.mpr run
    by_cases known : card ∈ distinctCards lines
    · have same := distinctCards_snoc_known named known
      simp only [readerAfter, cardsIn, List.contains_iff_mem, known, if_true,
        same]
      exact ⟨_, rfl⟩
    · have more := distinctCards_snoc_new named known
      refine ⟨cerr, ?_⟩
      simp [readerAfter, cardsIn, known, more]
  · rw [run]
    have rejected : namedCard line = none := by
      simp [namedCard, run, Except.toOption]
    simp only [readerAfter, cardsIn, distinctCards_snoc_none rejected]
    exact ⟨_, rfl⟩

/-- The prompts for a deck.  Each shows one more than the number of distinct
cards that the lines before it name. -/
def cardPrompts (shuffleNumber : Nat) (lines : List Text) (asked : Nat)
    (cout : OStream) : OStream :=
  (List.range asked).foldl
    (fun stream read =>
      promptCard shuffleNumber (cardsIn (lines.take read) + 1) stream)
    cout

theorem cardPrompts_succ (shuffleNumber : Nat) (earlier later : List Text)
    (cout : OStream) :
    promptCard shuffleNumber (cardsIn earlier + 1)
        (cardPrompts shuffleNumber (earlier ++ later) earlier.length cout) =
      cardPrompts shuffleNumber (earlier ++ later) (earlier.length + 1)
        cout := by
  simp [cardPrompts, List.range_succ]

/-- One turn of the reader: as long as the deck is short it prompts and
passes on the state that the line leads to. -/
theorem readCardDeckFrom_step (shuffleNumber : Nat) {earlier : List Text}
    (short : cardsIn earlier < cardsPerDeck) (line : Text)
    (lines : List Text) (cout cerr : OStream) :
    ∃ complaints,
      readCardDeckFrom shuffleNumber (readerAfter earlier) cout cerr
          (line :: lines) =
        readCardDeckFrom shuffleNumber (readerAfter (earlier ++ [line]))
          (promptCard shuffleNumber (cardsIn earlier + 1) cout) complaints
          lines := by
  obtain ⟨complaints, accepted⟩ := acceptCard_readerAfter earlier line cerr
  refine ⟨complaints, ?_⟩
  have unfinished : (readerAfter earlier).position ≤ cardsPerDeck := short
  rw [readCardDeckFrom, if_pos unfinished]
  simp only [accepted]
  rfl

/-- As long as the deck is short the reader takes the lines one by one. -/
theorem readCardDeckFrom_run (shuffleNumber : Nat) (earlier : List Text)
    {later : List Text}
    (short : ∀ front, front <+: earlier ++ later → front ≠ earlier ++ later →
      cardsIn front < cardsPerDeck)
    (rest : List Text) (cout cerr : OStream) :
    ∃ complaints,
      readCardDeckFrom shuffleNumber (readerAfter earlier)
          (cardPrompts shuffleNumber (earlier ++ later) earlier.length cout)
          cerr (later ++ rest) =
        readCardDeckFrom shuffleNumber (readerAfter (earlier ++ later))
          (cardPrompts shuffleNumber (earlier ++ later)
            (earlier ++ later).length cout)
          complaints rest := by
  induction later generalizing earlier cerr with
  | nil => exact ⟨cerr, by simp⟩
  | cons line later induction =>
      have here : cardsIn earlier < cardsPerDeck :=
        short earlier (List.prefix_append earlier _) (by simp)
      obtain ⟨between, turn⟩ := readCardDeckFrom_step shuffleNumber here line
        (later ++ rest)
        (cardPrompts shuffleNumber (earlier ++ line :: later) earlier.length
          cout) cerr
      have regroup : earlier ++ line :: later = earlier ++ [line] ++ later := by
        simp
      rw [cardPrompts_succ, regroup] at turn
      rw [regroup] at short ⊢
      obtain ⟨complaints, run⟩ := induction _ short between
      refine ⟨complaints, ?_⟩
      rw [List.cons_append, turn]
      simpa using run

theorem readCardDeck_complete (shuffleNumber : Nat) (console : Console)
    {used rest : List Text} (split : console.input = used ++ rest)
    (reaches : Reaches cardsIn cardsPerDeck used) :
    ∃ complaints,
      readCardDeck shuffleNumber console =
        (.ok (distinctCards used).flatten,
          { input := rest
            cout := cardPrompts shuffleNumber used used.length console.cout
            cerr := complaints }) := by
  unfold readCardDeck
  rw [split]
  obtain ⟨complaints, run⟩ := readCardDeckFrom_run shuffleNumber []
    reaches.shortest rest console.cout console.cerr
  refine ⟨complaints, run.trans ?_⟩
  have finished : ¬(readerAfter used).position ≤ cardsPerDeck := by
    intro unfinished
    exact Nat.not_lt_of_le unfinished
      (Nat.lt_succ_of_le (Nat.le_of_eq reaches.enough.symm))
  rw [List.nil_append, readCardDeckFrom, if_neg finished]
  rfl

theorem readCardDeck_ends (shuffleNumber : Nat) (console : Console)
    (short : cardsIn console.input < cardsPerDeck) :
    ∃ complaints,
      readCardDeck shuffleNumber console =
        (.error cardsEnded,
          { input := []
            cout := cardPrompts shuffleNumber console.input
              (console.input.length + 1) console.cout
            cerr := complaints }) := by
  have always : ∀ front, front <+: console.input → front ≠ console.input →
      cardsIn front < cardsPerDeck := by
    intro front before _
    obtain ⟨back, whole⟩ := before
    rw [← whole] at short
    exact Nat.lt_of_le_of_lt (cardsIn_gradual.le_append front back) short
  obtain ⟨complaints, run⟩ := readCardDeckFrom_run shuffleNumber []
    always [] console.cout console.cerr
  rw [List.append_nil] at run
  refine ⟨complaints, run.trans ?_⟩
  have unfinished : (readerAfter console.input).position ≤ cardsPerDeck := short
  rw [List.nil_append, readCardDeckFrom, if_pos unfinished]
  have last :=
    cardPrompts_succ shuffleNumber console.input [] console.cout
  rw [List.append_nil] at last
  rw [← last]
  rfl

theorem distinctCards_nodup (lines : List Text) :
    (distinctCards lines).Nodup :=
  eraseDups_nodup _

/-- What the reader returns is an ordering of all 52 cards. -/
theorem isDeck_of_reaches {lines : List Text}
    (reaches : Reaches cardsIn cardsPerDeck lines) :
    IsDeck (distinctCards lines).flatten := by
  refine ⟨distinctCards lines, ?_, rfl⟩
  have inside : (distinctCards lines).Subperm canonicalNames := by
    apply List.subperm_of_subset (distinctCards_nodup lines)
    intro card member
    exact mem_canonicalNames_of_mem_distinctCards member
  apply inside.perm_of_length_le
  rw [canonicalNames_length]
  exact Nat.le_of_eq reaches.enough.symm

/-- The reader delivers a full deck, or the input ended. -/
theorem readCardDeck_cases (shuffleNumber : Nat) (console : Console) :
    (∃ deck after, readCardDeck shuffleNumber console = (.ok deck, after) ∧
      IsDeck deck) ∨
    ∃ after, readCardDeck shuffleNumber console = (.error cardsEnded, after) := by
  by_cases enough : cardsPerDeck ≤ cardsIn console.input
  · obtain ⟨used, rest, split, reaches⟩ :=
      cardsIn_gradual.exists_reaches enough
    obtain ⟨complaints, run⟩ :=
      readCardDeck_complete shuffleNumber console split reaches
    exact .inl ⟨_, _, run, isDeck_of_reaches reaches⟩
  · obtain ⟨complaints, run⟩ := readCardDeck_ends shuffleNumber console
      (Nat.lt_of_not_le enough)
    exact .inr ⟨_, run⟩

theorem flatten_distinctCards_inj {first second : List Text} :
    (distinctCards first).flatten = (distinctCards second).flatten ↔
      distinctCards first = distinctCards second := by
  have size : ∀ lines, ∀ card ∈ distinctCards lines, card.length = 2 := by
    intro lines card member
    exact canonicalNames_size card
      (mem_canonicalNames_of_mem_distinctCards member)
  constructor
  · intro same
    have names := congrArg deckNames same
    rw [deckNames_flatten (size first), deckNames_flatten (size second)]
      at names
    exact names
  · intro same
    rw [same]

/-- The lines that complete a deck name its cards first. -/
theorem take_distinctCards {used : List Text}
    (reaches : Reaches cardsIn cardsPerDeck used) (rest : List Text) :
    (distinctCards (used ++ rest)).take cardsPerDeck = distinctCards used := by
  have first : distinctCards (used ++ rest) = distinctCards used ++
      ((rest.filterMap namedCard).removeAll
        (used.filterMap namedCard)).eraseDups := by
    rw [distinctCards, List.filterMap_append, List.eraseDups_append]
    rfl
  rw [first, ← reaches.enough]
  exact List.take_left

theorem cardsOnlyDeckCount_of_mem {byteCount : Nat}
    (supported : byteCount ∈ entropySizes) :
    cardsOnlyDeckCount byteCount = .ok (if byteCount = 32 then 2 else 1) := by
  unfold cardsOnlyDeckCount
  rw [requireSupportedEntropySize_of_mem supported]
  rfl

theorem cardsOnlyEntropy_same (openSsl : OpenSsl) {deck : Text}
    (ordering : IsDeck deck) :
    cardsOnlyEntropy openSsl deck deck 32 =
      .error (.invalidArgument (text
        "the second card-only shuffle must differ from the first")) := by
  have validated := validateCanonicalDeck_eq_ok_iff.mpr ordering
  unfold cardsOnlyEntropy cardsOnlyInput
  rw [cardsOnlyDeckCount_of_mem (by decide)]
  simp only [bind, Except.bind, checkSecondDeck, validated, if_true]
  rfl

section CardsOnly

variable (hash : Bytes → Digest) (random : (count : Nat) → Vector UInt8 count)

/-- What cards-only mode prints before it asks for the first deck. -/
def cardsOnlyIntroduction (byteCount : Nat) (cout : OStream) : OStream :=
  cardEntryInstructions
    (announceCardsOnly (if byteCount = 32 then 2 else 1) (byteCount * 8) cout)

theorem generateCardsOnlyEntropy_eq {byteCount : Nat}
    (supported : byteCount ∈ entropySizes) (openSsl : OpenSsl)
    (console : Console) :
    generateCardsOnlyEntropy openSsl byteCount console =
      (readCardDeck 1 >>= fun firstDeck =>
        if byteCount = 32 then do
          .cout announceSecondShuffle
          let secondDeck ← readCardDeck 2
          .lift (cardsOnlyEntropy openSsl firstDeck secondDeck byteCount)
        else .lift (cardsOnlyEntropy openSsl firstDeck [] byteCount))
        { console with
          cout := cardsOnlyIntroduction byteCount console.cout } := by
  unfold generateCardsOnlyEntropy
  rw [cardsOnlyDeckCount_of_mem supported]
  by_cases two : byteCount = 32
  · subst two
    rfl
  · unfold cardsOnlyIntroduction
    simp only [two, if_false]
    rfl

theorem cardsOnly_firstDeck_ends {byteCount : Nat}
    (supported : byteCount ∈ entropySizes) (openSsl : OpenSsl)
    {console : Console} (short : cardsIn console.input < cardsPerDeck) :
    ∃ complaints,
      generateCardsOnlyEntropy openSsl byteCount console =
        (.error cardsEnded,
          { input := []
            cout := cardPrompts 1 console.input (console.input.length + 1)
              (cardsOnlyIntroduction byteCount console.cout)
            cerr := complaints }) := by
  rw [generateCardsOnlyEntropy_eq supported]
  obtain ⟨complaints, run⟩ := readCardDeck_ends 1 { console with
    cout := cardsOnlyIntroduction byteCount console.cout } short
  exact ⟨complaints, Program.bind_run_error run⟩

theorem cardsOnly_oneDeck {byteCount : Nat}
    (supported : byteCount ∈ entropySizes) (one : byteCount ≠ 32)
    {console : Console} {used rest : List Text}
    (split : console.input = used ++ rest)
    (reaches : Reaches cardsIn cardsPerDeck used) :
    ∃ complaints,
      generateCardsOnlyEntropy (.reliable hash random) byteCount console =
        (.ok (hashTruncated hash byteCount
            (cardsOnlyDomain ++ (distinctCards used).flatten)),
          { input := rest
            cout := cardPrompts 1 used used.length
              (cardsOnlyIntroduction byteCount console.cout)
            cerr := complaints }) := by
  rw [generateCardsOnlyEntropy_eq supported]
  obtain ⟨complaints, run⟩ := readCardDeck_complete 1 { console with
    cout := cardsOnlyIntroduction byteCount console.cout } split reaches
  refine ⟨complaints, ?_⟩
  rw [Program.bind_run_ok run, if_neg one]
  have small : byteCount < 32 :=
    Nat.lt_of_le_of_ne (le_of_mem_entropySizes supported).2 one
  have yields := cardsOnlyEntropy_yields hash random
    (distinctCards used).flatten [] byteCount
  rcases yields with ⟨-, success⟩ | ⟨unfit, -⟩
  · rw [success, List.append_nil]
    rfl
  · exact (unfit ⟨supported, isDeck_of_reaches reaches,
      .inl ⟨small, rfl⟩⟩).elim

/-- For 32 bytes the run goes on with the second deck. -/
theorem cardsOnly_firstDeck (openSsl : OpenSsl) {console : Console}
    {used rest : List Text} (split : console.input = used ++ rest)
    (reaches : Reaches cardsIn cardsPerDeck used) :
    ∃ complaints,
      generateCardsOnlyEntropy openSsl 32 console =
        (readCardDeck 2 >>= fun secondDeck =>
          .lift (cardsOnlyEntropy openSsl (distinctCards used).flatten
            secondDeck 32))
          { input := rest
            cout := announceSecondShuffle (cardPrompts 1 used used.length
              (cardsOnlyIntroduction 32 console.cout))
            cerr := complaints } := by
  rw [generateCardsOnlyEntropy_eq (by decide)]
  obtain ⟨complaints, run⟩ := readCardDeck_complete 1 { console with
    cout := cardsOnlyIntroduction 32 console.cout } split reaches
  refine ⟨complaints, ?_⟩
  rw [Program.bind_run_ok run]
  exact Program.bind_run_ok rfl

theorem cardsOnly_secondDeck_ends (openSsl : OpenSsl) {console : Console}
    {used rest : List Text} (split : console.input = used ++ rest)
    (reaches : Reaches cardsIn cardsPerDeck used)
    (short : cardsIn rest < cardsPerDeck) :
    ∃ complaints,
      generateCardsOnlyEntropy openSsl 32 console =
        (.error cardsEnded,
          { input := []
            cout := cardPrompts 2 rest (rest.length + 1)
              (announceSecondShuffle (cardPrompts 1 used used.length
                (cardsOnlyIntroduction 32 console.cout)))
            cerr := complaints }) := by
  obtain ⟨earlier, run⟩ := cardsOnly_firstDeck openSsl split reaches
  obtain ⟨complaints, second⟩ := readCardDeck_ends 2 {
    input := rest
    cout := announceSecondShuffle (cardPrompts 1 used used.length
      (cardsOnlyIntroduction 32 console.cout))
    cerr := earlier } short
  exact ⟨complaints, run.trans (Program.bind_run_error second)⟩

theorem cardsOnly_twoDecks {console : Console}
    {used between rest : List Text}
    (split : console.input = used ++ (between ++ rest))
    (reaches : Reaches cardsIn cardsPerDeck used)
    (again : Reaches cardsIn cardsPerDeck between) :
    ∃ complaints,
      generateCardsOnlyEntropy (.reliable hash random) 32 console =
        (if distinctCards used = distinctCards between then
          .error (.invalidArgument (text
            "the second card-only shuffle must differ from the first"))
        else .ok (hashTruncated hash 32
            (cardsOnlyDomain ++ (distinctCards used).flatten ++
              (distinctCards between).flatten)),
          { input := rest
            cout := cardPrompts 2 between between.length
              (announceSecondShuffle (cardPrompts 1 used used.length
                (cardsOnlyIntroduction 32 console.cout)))
            cerr := complaints }) := by
  obtain ⟨earlier, run⟩ := cardsOnly_firstDeck
    (.reliable hash random) split reaches
  obtain ⟨complaints, second⟩ := readCardDeck_complete 2 {
    input := between ++ rest
    cout := announceSecondShuffle (cardPrompts 1 used used.length
      (cardsOnlyIntroduction 32 console.cout))
    cerr := earlier } rfl again
  refine ⟨complaints, (run.trans (Program.bind_run_ok second)).trans ?_⟩
  have ordering := isDeck_of_reaches reaches
  by_cases same : distinctCards used = distinctCards between
  · rw [← same, cardsOnlyEntropy_same _ ordering, if_pos rfl]
    rfl
  · have different :
        (distinctCards between).flatten ≠ (distinctCards used).flatten := by
      intro equal
      exact same (flatten_distinctCards_inj.mp equal).symm
    have yields := cardsOnlyEntropy_yields hash random
      (distinctCards used).flatten (distinctCards between).flatten 32
    rcases yields with ⟨-, success⟩ | ⟨unfit, -⟩
    · rw [success, if_neg same]
      rfl
    · exact (unfit ⟨by decide, ordering,
        .inr ⟨rfl, isDeck_of_reaches again, different⟩⟩).elim

/-- The lines up to the one that completes a deck, and the lines after it. -/
def deckLines (lines : List Text) : Option (List Text × List Text) :=
  splitReaching (fun earlier => (distinctCards earlier).length) 52 lines

theorem deckLines_cases (lines : List Text) :
    (cardsIn lines < cardsPerDeck ∧ deckLines lines = none) ∨
    ∃ used rest, lines = used ++ rest ∧
      Reaches cardsIn cardsPerDeck used ∧
      deckLines lines = some (used, rest) := by
  by_cases enough : cardsPerDeck ≤ cardsIn lines
  · obtain ⟨used, rest, split, reaches⟩ :=
      cardsIn_gradual.exists_reaches enough
    refine .inr ⟨used, rest, split, reaches, ?_⟩
    rw [split]
    exact splitReaching_of_reaches reaches rest
  · have short := Nat.lt_of_not_le enough
    exact .inl ⟨short, splitReaching_of_short cardsIn_gradual short⟩

/-- What a cards-only run should do with the lines it is given.  `complaints`
is what it reports about lines that bring no new card. -/
def cardsOnlyOutcome (byteCount : Nat) (console : Console)
    (complaints : OStream) : Except Failure Bytes × Console :=
  let inputEnded : Except Failure Bytes := .error
    (.runtimeError (text "input ended before all cards were entered"))
  let digest (decks : Text) : Bytes :=
    (hash (text "bip39-cards-only-v1" ++ decks)).bytes.take byteCount
  let introduction := cardsOnlyIntroduction byteCount console.cout
  match deckLines console.input with
  | none =>
      (inputEnded, {
        input := []
        cout := cardPrompts 1 console.input (console.input.length + 1)
          introduction
        cerr := complaints })
  | some (used, rest) =>
      let first := (distinctCards console.input).take 52
      let prompted := cardPrompts 1 used used.length introduction
      if byteCount = 32 then
        match deckLines rest with
        | none =>
            (inputEnded, {
              input := []
              cout := cardPrompts 2 rest (rest.length + 1)
                (announceSecondShuffle prompted)
              cerr := complaints })
        | some (between, remaining) =>
            let second := (distinctCards rest).take 52
            (if first = second then
              .error (.invalidArgument (text
                "the second card-only shuffle must differ from the first"))
            else .ok (digest (first.flatten ++ second.flatten)), {
              input := remaining
              cout := cardPrompts 2 between between.length
                (announceSecondShuffle prompted)
              cerr := complaints })
      else
        (.ok (digest first.flatten), {
          input := rest
          cout := prompted
          cerr := complaints })

/-- A cards-only run is determined by the orderings its lines spell out: the
first 52 distinct cards, and for 32 bytes the first 52 distinct cards after
the line that completes the first deck. -/
theorem generateCardsOnlyEntropy_correct (byteCount : Nat)
    (supported : byteCount ∈ [16, 20, 24, 28, 32]) (console : Console) :
    ∃ complaints,
      generateCardsOnlyEntropy (.reliable hash random) byteCount console =
        cardsOnlyOutcome hash byteCount console complaints := by
  have sizes : byteCount ∈ entropySizes := supported
  unfold cardsOnlyOutcome
  rcases deckLines_cases console.input with
    ⟨short, none⟩ | ⟨used, rest, split, reaches, found⟩
  · rw [none]
    exact cardsOnly_firstDeck_ends sizes _ short
  · have first : (distinctCards console.input).take 52 = distinctCards used :=
      split ▸ take_distinctCards reaches rest
    simp only [found, first]
    by_cases two : byteCount = 32
    · subst two
      simp only [if_true]
      rcases deckLines_cases rest with
        ⟨short, none⟩ | ⟨between, remaining, splitRest, again, foundRest⟩
      · simp only [none]
        exact cardsOnly_secondDeck_ends _ split reaches short
      · have second : (distinctCards rest).take 52 = distinctCards between :=
          splitRest ▸ take_distinctCards again remaining
        simp only [foundRest, second]
        obtain ⟨complaints, run⟩ := cardsOnly_twoDecks hash random
          (splitRest ▸ split) reaches again
        refine ⟨complaints, run.trans ?_⟩
        rw [List.append_assoc]
        rfl
    · obtain ⟨complaints, run⟩ :=
        cardsOnly_oneDeck hash random sizes two split reaches
      refine ⟨complaints, run.trans ?_⟩
      simp only [two, if_false]
      rfl

end CardsOnly

/-- The run on a deck in the order of the canonical names. -/
theorem generateCardsOnlyEntropy_sortedDeck :
    deckLines canonicalNames = some (canonicalNames, []) ∧
      ∃ complaints,
        generateCardsOnlyEntropy
            (.reliable (fun _ => ⟨List.replicate 32 0, rfl⟩)
              fun count => Vector.replicate count 0)
            16 { input := canonicalNames } =
          cardsOnlyOutcome (fun _ => ⟨List.replicate 32 0, rfl⟩) 16
            { input := canonicalNames } complaints :=
  ⟨by decide +kernel, generateCardsOnlyEntropy_correct _ _ 16 (by decide) _⟩

end Bip39
