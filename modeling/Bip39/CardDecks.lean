import Bip39.Source.Entropy
import Mathlib.Data.List.Nodup
import Mathlib.Data.List.Perm.Subperm

/-!
# Deck validation

The validator walks over the two-character names of a deck and only rejects
bad names and repetitions.  Since `card_index` numbers the 52 canonical names
one to one, a deck of 52 names that passes is an ordering of all of them.
-/

namespace Bip39

open Bip39.Source Bip39.Support

/-- The 52 canonical names, in the order of `card_index`. -/
def canonicalNames : List Text :=
  cardSuits.flatMap fun suit => cardRanks.map fun rank => [rank, suit]

/-- A deck names all 52 cards, each once, in some order. -/
def IsDeck (deck : Text) : Prop :=
  ∃ names : List Text, names.Perm canonicalNames ∧ deck = names.flatten

theorem canonicalNames_length : canonicalNames.length = cardsPerDeck := by
  decide

theorem canonicalNames_nodup : canonicalNames.Nodup := by
  decide

theorem canonicalNames_size : ∀ name ∈ canonicalNames, name.length = 2 := by
  decide

theorem mem_canonicalNames_iff {rank suit : UInt8} :
    [rank, suit] ∈ canonicalNames ↔ rank ∈ cardRanks ∧ suit ∈ cardSuits := by
  constructor
  · intro member
    obtain ⟨listedSuit, suitMember, inner⟩ := List.mem_flatMap.mp member
    obtain ⟨listedRank, rankMember, same⟩ := List.mem_map.mp inner
    simp only [List.cons.injEq, and_true] at same
    rw [← same.1, ← same.2]
    exact ⟨rankMember, suitMember⟩
  · intro both
    apply List.mem_flatMap.mpr
    exact ⟨suit, both.2, List.mem_map.mpr ⟨rank, both.1, rfl⟩⟩

theorem cardIndex_of_mem {rank suit : UInt8}
    (member : [rank, suit] ∈ canonicalNames) :
    cardIndex rank suit = .ok (canonicalNames.idxOf [rank, suit]) := by
  have table : ∀ suit ∈ cardSuits, ∀ rank ∈ cardRanks,
      (cardIndex rank suit).toOption =
        some (canonicalNames.idxOf [rank, suit]) := by
    decide +kernel
  obtain ⟨rankMember, suitMember⟩ := mem_canonicalNames_iff.mp member
  have found := table suit suitMember rank rankMember
  cases result : cardIndex rank suit with
  | error failure =>
      rw [result] at found
      cases found
  | ok index =>
      rw [result] at found
      simpa [Except.toOption] using found

theorem cardIndex_of_not_mem {rank suit : UInt8}
    (absent : [rank, suit] ∉ canonicalNames) :
    cardIndex rank suit =
      .error (.invalidArgument (text "invalid canonical card name")) := by
  unfold cardIndex
  by_cases rankMember : rank ∈ cardRanks
  · have suitAbsent : suit ∉ cardSuits := by
      intro suitMember
      exact absent (mem_canonicalNames_iff.mpr ⟨rankMember, suitMember⟩)
    rw [List.idxOf?_eq_none_iff.mpr suitAbsent]
    cases cardRanks.idxOf? rank <;> rfl
  · rw [List.idxOf?_eq_none_iff.mpr rankMember]

/-- The two-character names of a deck. -/
def deckNames : Text → List Text
  | rank :: suit :: rest => [rank, suit] :: deckNames rest
  | _ => []

/-- A deck of `count` cards is empty or a card before a smaller deck. -/
theorem deck_induction {motive : (count : Nat) → (deck : Text) →
      deck.length = count * 2 → Prop}
    (nil : motive 0 [] rfl)
    (cons : ∀ count rank suit rest (size : rest.length = count * 2)
      (larger : (rank :: suit :: rest).length = (count + 1) * 2),
      motive count rest size → motive (count + 1) (rank :: suit :: rest) larger)
    (count : Nat) (deck : Text) (size : deck.length = count * 2) :
    motive count deck size := by
  induction count generalizing deck with
  | zero =>
      have empty : deck = [] := List.eq_nil_of_length_eq_zero (by omega)
      subst empty
      exact nil
  | succ count induction =>
      match deck, size with
      | [], size => simp at size
      | [rank], size =>
          simp only [List.length_singleton] at size
          omega
      | rank :: suit :: rest, size =>
          have restSize : rest.length = count * 2 := by
            simp only [List.length_cons] at size
            omega
          exact cons count rank suit rest restSize size (induction rest restSize)

theorem deckNames_length {deck : Text} {count : Nat}
    (size : deck.length = count * 2) : (deckNames deck).length = count := by
  induction count, deck, size using deck_induction with
  | nil => rfl
  | cons count rank suit rest size larger induction =>
      simp [deckNames, induction]

theorem flatten_deckNames {deck : Text} {count : Nat}
    (size : deck.length = count * 2) : (deckNames deck).flatten = deck := by
  induction count, deck, size using deck_induction with
  | nil => rfl
  | cons count rank suit rest size larger induction =>
      simp [deckNames, induction]

theorem deckNames_flatten {names : List Text}
    (size : ∀ name ∈ names, name.length = 2) :
    deckNames names.flatten = names := by
  induction names with
  | nil => rfl
  | cons name names induction =>
      have tail : ∀ other ∈ names, other.length = 2 := by
        intro other member
        exact size other (by simp [member])
      obtain ⟨rank, suit, rfl⟩ := List.length_eq_two.mp (size name (by simp))
      simp [deckNames, induction tail]

theorem flatten_length_of_size {names : List Text}
    (size : ∀ name ∈ names, name.length = 2) :
    names.flatten.length = names.length * 2 := by
  induction names with
  | nil => rfl
  | cons name names induction =>
      have tail : ∀ other ∈ names, other.length = 2 := by
        intro other member
        exact size other (by simp [member])
      rw [List.flatten_cons, List.length_append, size name (by simp),
        induction tail, List.length_cons]
      omega

theorem deckNames_getElem {deck : Text} {count index : Nat}
    (size : deck.length = count * 2) (below : index < count)
    (inside : index < (deckNames deck).length) :
    ∃ (first : index * 2 < deck.length) (second : index * 2 + 1 < deck.length),
      (deckNames deck)[index] = [deck[index * 2], deck[index * 2 + 1]] := by
  induction count, deck, size using deck_induction generalizing index with
  | nil => omega
  | cons count rank suit rest size larger induction =>
      cases index with
      | zero => exact ⟨by simp, by simp, rfl⟩
      | succ index =>
          have restInside : index < (deckNames rest).length := by
            simpa [deckNames] using inside
          obtain ⟨first, second, found⟩ := induction (by omega) restInside
          have firstPosition : (index + 1) * 2 = index * 2 + 1 + 1 := by
            omega
          refine ⟨by simp only [List.length_cons]; omega,
            by simp only [List.length_cons]; omega, ?_⟩
          simp only [deckNames, List.getElem_cons_succ, firstPosition]
          exact found

/-- The table of seen cards after the given names. -/
def seenMarks (names : List Text) : List Bool :=
  canonicalNames.map fun name => decide (name ∈ names)

theorem seenMarks_nil :
    seenMarks [] = List.replicate cardsPerDeck false := by
  decide

theorem seenMarks_set {names : List Text} {name : Text}
    (member : name ∈ canonicalNames) :
    (seenMarks names).set (canonicalNames.idxOf name) true =
      seenMarks (names ++ [name]) := by
  have inside := List.idxOf_lt_length_iff.mpr member
  apply List.ext_getElem
  · simp [seenMarks]
  · intro position left right
    have bound : position < canonicalNames.length := by
      simpa [seenMarks] using right
    rw [List.getElem_set]
    by_cases marked : canonicalNames.idxOf name = position
    · subst marked
      simp [seenMarks, List.getElem_idxOf inside]
    · have other : canonicalNames[position] ≠ name := by
        intro same
        apply marked
        rw [← same]
        exact canonicalNames_nodup.idxOf_getElem position bound
      simp [seenMarks, marked, other]

/-- What one iteration does with the next name. -/
theorem markCard_eq {deck : Text} {index : Nat}
    (size : deck.length = cardsPerDeck * 2) (below : index < cardsPerDeck)
    (inside : index < (deckNames deck).length) (names : List Text) :
    markCard deck (index * canonicalCardSize) (seenMarks names) =
      if (deckNames deck)[index] ∈ canonicalNames then
        if (deckNames deck)[index] ∈ names then
          .error (.invalidArgument
            (text "canonical deck contains a duplicate card"))
        else .ok (seenMarks (names ++ [(deckNames deck)[index]]))
      else .error (.invalidArgument (text "invalid canonical card name")) := by
  obtain ⟨first, second, shape⟩ := deckNames_getElem size below inside
  rw [shape]
  unfold markCard canonicalCardSize
  rw [subscript_of_lt first, subscript_of_lt second]
  by_cases member : [deck[index * 2], deck[index * 2 + 1]] ∈ canonicalNames
  · have position := List.idxOf_lt_length_iff.mpr member
    have tableInside : canonicalNames.idxOf
        [deck[index * 2], deck[index * 2 + 1]] < (seenMarks names).length := by
      simpa [seenMarks] using position
    have mark : (seenMarks names)[canonicalNames.idxOf
        [deck[index * 2], deck[index * 2 + 1]]] =
          decide ([deck[index * 2], deck[index * 2 + 1]] ∈ names) := by
      simp [seenMarks, List.getElem_idxOf position]
    simp only [bind, Except.bind, cardIndex_of_mem member]
    rw [subscript_of_lt tableInside, mark, seenMarks_set member, if_pos member]
    by_cases repeated : [deck[index * 2], deck[index * 2 + 1]] ∈ names
    · simp only [repeated, decide_true, if_true]
      rfl
    · simp only [repeated, decide_false, if_false]
      rfl
  · simp only [bind, Except.bind, cardIndex_of_not_mem member, member, if_false]

/-- After `done` rounds the table marks the names seen so far, and these are
different canonical names. -/
structure Marked (deck : Text) (done : Nat) (seen : List Bool) : Prop where
  table : seen = seenMarks ((deckNames deck).take done)
  distinct : ((deckNames deck).take done).Nodup
  canonical : ∀ name ∈ (deckNames deck).take done, name ∈ canonicalNames

theorem marked_zero (deck : Text) :
    Marked deck 0 (List.replicate cardsPerDeck false) :=
  ⟨seenMarks_nil.symm, List.nodup_nil, by simp⟩

theorem markCard_step {deck : Text} {index : Nat} {seen next : List Bool}
    (size : deck.length = cardsPerDeck * 2) (below : index < cardsPerDeck)
    (marked : Marked deck index seen)
    (run : markCard deck (index * canonicalCardSize) seen = .ok next) :
    Marked deck (index + 1) next := by
  have inside : index < (deckNames deck).length :=
    (deckNames_length size).symm ▸ below
  obtain ⟨rfl, distinct, canonical⟩ := marked
  rw [markCard_eq size below inside] at run
  have snoc : (deckNames deck).take (index + 1) =
      (deckNames deck).take index ++ [(deckNames deck)[index]] := by
    rw [List.take_add_one, List.getElem?_eq_getElem inside]
    rfl
  split at run
  · rename_i member
    split at run
    · cases run
    · rename_i fresh
      cases run
      constructor
      · rw [snoc]
      · rw [snoc]
        apply List.nodup_append.mpr
        refine ⟨distinct, by simp, ?_⟩
        intro old oldMember new newMember same
        rw [List.mem_singleton.mp newMember] at same
        exact fresh (same ▸ oldMember)
      · rw [snoc]
        intro name nameMember
        rcases List.mem_append.mp nameMember with old | new
        · exact canonical name old
        · exact List.mem_singleton.mp new ▸ member
  · cases run

/-- A round that fails throws `invalid_argument`, and the name it looks at is
not canonical or not new. -/
theorem markCard_reject {deck : Text} {index : Nat} {seen : List Bool}
    {failure : Failure} (size : deck.length = cardsPerDeck * 2)
    (below : index < cardsPerDeck) (marked : Marked deck index seen)
    (failed : markCard deck (index * canonicalCardSize) seen =
      .error failure) :
    (∃ what, failure = .invalidArgument what) ∧
      ¬((deckNames deck).Nodup ∧
        ∀ name ∈ deckNames deck, name ∈ canonicalNames) := by
  have inside : index < (deckNames deck).length :=
    (deckNames_length size).symm ▸ below
  obtain ⟨rfl, -, -⟩ := marked
  rw [markCard_eq size below inside] at failed
  split at failed
  · split at failed
    · rename_i repeated
      cases failed
      refine ⟨⟨_, rfl⟩, ?_⟩
      intro good
      obtain ⟨earlier, bound, same⟩ := List.mem_take_iff_getElem.mp repeated
      have equal := (List.Nodup.getElem_inj_iff good.1).mp same
      omega
    · cases failed
  · rename_i absent
    cases failed
    refine ⟨⟨_, rfl⟩, ?_⟩
    intro good
    exact absent (good.2 _ (List.getElem_mem inside))

theorem validateCanonicalDeck_of_size {deck : Text}
    (size : deck.length = canonicalDeckSize) :
    validateCanonicalDeck deck =
      (forCount cardsPerDeck
        (fun index => markCard deck (index * canonicalCardSize))
        (List.replicate cardsPerDeck false) >>= fun _ => .ok ()) := by
  unfold validateCanonicalDeck
  rw [size]
  rfl

/-- The loop of the validator stays inside its arrays, accepts exactly the
decks of distinct canonical names and throws `invalid_argument` otherwise. -/
theorem validateCanonicalDeck_cases (deck : Text) :
    (validateCanonicalDeck deck = .ok () ∧
      deck.length = canonicalDeckSize ∧ (deckNames deck).Nodup ∧
        ∀ name ∈ deckNames deck, name ∈ canonicalNames) ∨
    ((∃ what, validateCanonicalDeck deck = .error (.invalidArgument what)) ∧
      ¬(deck.length = canonicalDeckSize ∧ (deckNames deck).Nodup ∧
        ∀ name ∈ deckNames deck, name ∈ canonicalNames)) := by
  by_cases size : deck.length = canonicalDeckSize
  · rw [validateCanonicalDeck_of_size size]
    rcases forCount_run cardsPerDeck
        (fun index => markCard deck (index * canonicalCardSize))
        (List.replicate cardsPerDeck false) (Marked deck) (marked_zero deck)
        (fun index below seen next marked run =>
          markCard_step size below marked run)
      with ⟨seen, run, marked⟩ | ⟨index, seen, failure, below, marked, failed,
        run⟩
    · left
      have whole : (deckNames deck).take cardsPerDeck = deckNames deck := by
        apply List.take_of_length_le
        exact Nat.le_of_eq (deckNames_length size)
      rw [run]
      exact ⟨rfl, size, whole ▸ marked.distinct, whole ▸ marked.canonical⟩
    · right
      obtain ⟨⟨what, rfl⟩, bad⟩ := markCard_reject size below marked failed
      rw [run]
      exact ⟨⟨what, rfl⟩, fun good => bad good.2⟩
  · right
    constructor
    · refine ⟨text "a canonical deck must contain 52 cards", ?_⟩
      unfold validateCanonicalDeck
      simp only [size, ne_eq, not_false_eq_true, if_true]
      rfl
    · intro good
      exact size good.1

/-- Counting: 52 different canonical names are all of them. -/
theorem isDeck_iff {deck : Text} :
    IsDeck deck ↔
      deck.length = canonicalDeckSize ∧ (deckNames deck).Nodup ∧
        ∀ name ∈ deckNames deck, name ∈ canonicalNames := by
  constructor
  · intro ordering
    obtain ⟨names, permutation, rfl⟩ := ordering
    have size : ∀ name ∈ names, name.length = 2 := by
      intro name member
      exact canonicalNames_size name (permutation.subset member)
    rw [deckNames_flatten size, flatten_length_of_size size,
      permutation.length_eq, canonicalNames_length]
    refine ⟨rfl, permutation.nodup_iff.mpr canonicalNames_nodup, ?_⟩
    intro name member
    exact permutation.subset member
  · intro good
    obtain ⟨size, unique, listed⟩ := good
    have count : (deckNames deck).length = cardsPerDeck :=
      deckNames_length size
    have inside : (deckNames deck).Subperm canonicalNames :=
      List.subperm_of_subset unique listed
    refine ⟨deckNames deck, ?_, (flatten_deckNames size).symm⟩
    apply inside.perm_of_length_le
    rw [canonicalNames_length, count]

theorem validateCanonicalDeck_eq_ok_iff {deck : Text} :
    validateCanonicalDeck deck = .ok () ↔ IsDeck deck := by
  rw [isDeck_iff]
  rcases validateCanonicalDeck_cases deck with ⟨run, good⟩ | ⟨failed, bad⟩
  · exact ⟨fun _ => good, fun _ => run⟩
  · obtain ⟨what, failed⟩ := failed
    constructor
    · intro run
      rw [failed] at run
      cases run
    · intro good
      exact (bad good).elim

theorem validateCanonicalDeck_of_not_isDeck {deck : Text}
    (bad : ¬IsDeck deck) :
    ∃ what, validateCanonicalDeck deck = .error (.invalidArgument what) := by
  rcases validateCanonicalDeck_cases deck with ⟨-, good⟩ | ⟨failed, -⟩
  · exact (bad (isDeck_iff.mpr good)).elim
  · exact failed

theorem IsDeck.length {deck : Text} (ordering : IsDeck deck) :
    deck.length = 104 :=
  (isDeck_iff.mp ordering).1

end Bip39
