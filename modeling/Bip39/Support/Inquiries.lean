import Bip39.Support.ShortestPrefix

/-!
# Inquiries

A loop asks for one item after another until it has heard enough.  What it
asks for an item and what it reports on one depend on the items before.  An
inquiry can be held in stages; over the whole of it, it has asked and reported
what each turn calls for.
-/

namespace Bip39.Support

variable {α β : Type}

/-- How much has been heard, what is asked for the next item and what is
reported on an item, given the items before. -/
structure Inquiry (α β : Type) where
  size : List α → Nat
  ask : List α → List β
  report : List α → α → List β

/-- What an inquiry has heard, what it has left, and what it has said. -/
structure Transcript (α β : Type) where
  heard : List α
  rest : List α
  asked : List β := []
  reported : List β := []
  deriving DecidableEq, Repr

/-- The same transcript after something else has been said. -/
def Transcript.after (asked reported : List β) (later : Transcript α β) :
    Transcript α β :=
  { later with
    asked := asked ++ later.asked
    reported := reported ++ later.reported }

theorem Transcript.after_nil (transcript : Transcript α β) :
    transcript.after [] [] = transcript := rfl

theorem Transcript.after_after (asked reported more others : List β)
    (later : Transcript α β) :
    (later.after more others).after asked reported =
      later.after (asked ++ more) (reported ++ others) := by
  unfold after
  rw [List.append_assoc, List.append_assoc]

/-- Every item with the items before it. -/
def turns (earlier : List α) : List α → List (List α × α)
  | [] => []
  | item :: items => (earlier, item) :: turns (earlier ++ [item]) items

theorem turns_append (earlier first second : List α) :
    turns earlier (first ++ second) =
      turns earlier first ++ turns (earlier ++ first) second := by
  induction first generalizing earlier with
  | nil => simp [turns]
  | cons item first induction =>
      rw [List.cons_append, turns, turns, induction, List.append_assoc]
      rfl

namespace Inquiry

variable (inquiry : Inquiry α β)

def questions (items : List α) : List β :=
  (turns [] items).flatMap fun turn => inquiry.ask turn.1

def remarks (items : List α) : List β :=
  (turns [] items).flatMap fun turn => inquiry.report turn.1 turn.2

theorem questions_snoc (items : List α) (item : α) :
    inquiry.questions (items ++ [item]) =
      inquiry.questions items ++ inquiry.ask items := by
  simp [questions, turns_append, turns]

theorem remarks_snoc (items : List α) (item : α) :
    inquiry.remarks (items ++ [item]) =
      inquiry.remarks items ++ inquiry.report items item := by
  simp [remarks, turns_append, turns]

/-- The loop, once it has heard the items in `earlier`. -/
def goOn (count : Nat) (earlier : List α) : List α → Transcript α β
  | [] =>
      if inquiry.size earlier < count then
        { heard := earlier, rest := [], asked := inquiry.ask earlier }
      else { heard := earlier, rest := [] }
  | item :: items =>
      if inquiry.size earlier < count then
        (goOn count (earlier ++ [item]) items).after (inquiry.ask earlier)
          (inquiry.report earlier item)
      else { heard := earlier, rest := item :: items }

/-- The shortest stretch with enough in it is heard, or everything is. -/
def hold (count : Nat) (items : List α) : Transcript α β :=
  match splitReaching inquiry.size count items with
  | some (heard, rest) => {
      heard, rest
      asked := inquiry.questions heard
      reported := inquiry.remarks heard }
  | none => {
      heard := items
      rest := []
      asked := inquiry.questions items ++ inquiry.ask items
      reported := inquiry.remarks items }

variable {inquiry} {count : Nat} {earlier : List α}

theorem goOn_enough (enough : count ≤ inquiry.size earlier) (items : List α) :
    inquiry.goOn count earlier items = { heard := earlier, rest := items } := by
  have full := Nat.not_lt_of_le enough
  cases items with
  | nil => exact if_neg full
  | cons item items => exact if_neg full

theorem goOn_nil (short : inquiry.size earlier < count) :
    inquiry.goOn count earlier [] =
      { heard := earlier, rest := [], asked := inquiry.ask earlier } :=
  if_pos short

theorem goOn_cons (short : inquiry.size earlier < count) (item : α)
    (items : List α) :
    inquiry.goOn count earlier (item :: items) =
      (inquiry.goOn count (earlier ++ [item]) items).after (inquiry.ask earlier)
        (inquiry.report earlier item) :=
  if_pos short

/-- No more is heard than is needed. -/
theorem goOn_size (gradual : Gradual inquiry.size)
    (start : inquiry.size earlier ≤ count) (items : List α) :
    inquiry.size (inquiry.goOn count earlier items).heard ≤ count := by
  induction items generalizing earlier with
  | nil =>
      by_cases short : inquiry.size earlier < count
      · rw [goOn_nil short]
        exact start
      · rw [goOn_enough (Nat.le_of_not_lt short)]
        exact start
  | cons item items induction =>
      by_cases short : inquiry.size earlier < count
      · rw [goOn_cons short]
        apply induction
        rcases gradual.step earlier item with same | more <;> omega
      · rw [goOn_enough (Nat.le_of_not_lt short)]
        exact start

section Stages

variable {early : Nat} (before : early ≤ count)

include before

/-- An inquiry that wants more goes on where the other one has stopped. -/
theorem goOn_stages (items : List α)
    (enough : early ≤ inquiry.size (inquiry.goOn early earlier items).heard) :
    inquiry.goOn count earlier items =
      let first := inquiry.goOn early earlier items
      (inquiry.goOn count first.heard first.rest).after first.asked
        first.reported := by
  induction items generalizing earlier with
  | nil =>
      by_cases short : inquiry.size earlier < early
      · rw [goOn_nil short] at enough
        exact absurd short (Nat.not_lt_of_le enough)
      · rw [goOn_enough (Nat.le_of_not_lt short)]
        rfl
  | cons item items induction =>
      by_cases short : inquiry.size earlier < early
      · have stillShort := Nat.lt_of_lt_of_le short before
        rw [goOn_cons short] at enough ⊢
        rw [goOn_cons stillShort, induction enough]
        exact Transcript.after_after ..
      · rw [goOn_enough (Nat.le_of_not_lt short)]
        rfl

/-- When the items run out it does not matter how much was wanted. -/
theorem goOn_ends (items : List α)
    (ended : inquiry.size (inquiry.goOn early earlier items).heard < early) :
    inquiry.goOn count earlier items = inquiry.goOn early earlier items := by
  induction items generalizing earlier with
  | nil =>
      by_cases short : inquiry.size earlier < early
      · rw [goOn_nil short, goOn_nil (Nat.lt_of_lt_of_le short before)]
      · rw [goOn_enough (Nat.le_of_not_lt short)] at ended
        exact (short ended).elim
  | cons item items induction =>
      by_cases short : inquiry.size earlier < early
      · rw [goOn_cons short] at ended ⊢
        rw [goOn_cons (Nat.lt_of_lt_of_le short before), induction ended]
      · rw [goOn_enough (Nat.le_of_not_lt short)] at ended
        exact (short ended).elim

end Stages

/-- As long as not enough is heard, each turn adds its question and its
report. -/
theorem goOn_append (items rest : List α)
    (short : ∀ front, front <+: earlier ++ items → front ≠ earlier ++ items →
      inquiry.size front < count) :
    (inquiry.goOn count earlier (items ++ rest)).after
        (inquiry.questions earlier) (inquiry.remarks earlier) =
      (inquiry.goOn count (earlier ++ items) rest).after
        (inquiry.questions (earlier ++ items))
        (inquiry.remarks (earlier ++ items)) := by
  induction items generalizing earlier with
  | nil => rw [List.nil_append, List.append_nil]
  | cons item items induction =>
      have here : inquiry.size earlier < count :=
        short earlier (List.prefix_append earlier _) (by simp)
      have regroup : earlier ++ item :: items = earlier ++ [item] ++ items := by
        simp
      rw [regroup] at short ⊢
      rw [List.cons_append, goOn_cons here, Transcript.after_after,
        ← questions_snoc inquiry earlier item, ← remarks_snoc]
      exact induction short

/-- The loop says what its turns call for and stops as soon as it can. -/
theorem goOn_eq_hold (gradual : Gradual inquiry.size) (items : List α) :
    inquiry.goOn count [] items = inquiry.hold count items := by
  by_cases enough : count ≤ inquiry.size items
  · obtain ⟨heard, rest, rfl, reaches⟩ := gradual.exists_reaches enough
    have told := @goOn_append _ _ inquiry count [] heard rest reaches.shortest
    change (inquiry.goOn count [] (heard ++ rest)).after [] [] = _ at told
    rw [Transcript.after_nil, List.nil_append,
      goOn_enough (Nat.le_of_eq reaches.enough.symm)] at told
    rw [told, hold, splitReaching_of_reaches reaches]
    simp [Transcript.after]
  · have short := Nat.lt_of_not_le enough
    have always : ∀ front, front <+: items → front ≠ items →
        inquiry.size front < count := by
      intro front early _
      exact Nat.lt_of_le_of_lt (gradual.le_of_prefix early) short
    have told := @goOn_append _ _ inquiry count [] items [] always
    change (inquiry.goOn count [] (items ++ [])).after [] [] = _ at told
    rw [Transcript.after_nil, List.append_nil, List.nil_append,
      goOn_nil short] at told
    rw [told, hold, splitReaching_of_short gradual short]
    simp [Transcript.after]

theorem hold_split (gradual : Gradual inquiry.size) (items : List α) :
    (inquiry.hold count items).heard ++ (inquiry.hold count items).rest =
      items := by
  by_cases enough : count ≤ inquiry.size items
  · obtain ⟨heard, rest, rfl, reaches⟩ := gradual.exists_reaches enough
    rw [hold, splitReaching_of_reaches reaches]
  · rw [hold, splitReaching_of_short gradual (Nat.lt_of_not_le enough)]
    exact List.append_nil items

end Inquiry

end Bip39.Support
