import Mathlib.Data.List.Induction
import Mathlib.Data.List.Nodup

/-!
# Reading until there is enough

A reader consumes items until a measure of what it has read reaches a bound.
When every item raises the measure by at most one, the stretch it consumes is
the shortest prefix of the input with the measure equal to the bound.
-/

namespace Bip39.Support

variable {α : Type}

/-- A measure of lists that starts at zero and grows by at most one with each
item. -/
structure Gradual (size : List α → Nat) : Prop where
  empty : size [] = 0
  step : ∀ items item, size (items ++ [item]) = size items ∨
    size (items ++ [item]) = size items + 1

/-- The measure is `count` here and smaller on every proper prefix. -/
structure Reaches (size : List α → Nat) (count : Nat) (used : List α) :
    Prop where
  enough : size used = count
  shortest : ∀ earlier, earlier <+: used → earlier ≠ used →
    size earlier < count

variable {size : List α → Nat} {count : Nat}

namespace Gradual

theorem le_append (gradual : Gradual size) (first second : List α) :
    size first ≤ size (first ++ second) := by
  induction second using List.reverseRecOn with
  | nil => simp
  | append_singleton second item induction =>
      rw [← List.append_assoc]
      rcases gradual.step (first ++ second) item with same | more
      · exact same ▸ induction
      · exact more ▸ Nat.le_succ_of_le induction

theorem le_of_prefix (gradual : Gradual size) {earlier items : List α}
    (early : earlier <+: items) : size earlier ≤ size items := by
  obtain ⟨later, rfl⟩ := early
  exact gradual.le_append earlier later

/-- The item that reaches the bound ends the shortest stretch. -/
theorem reaches_snoc (gradual : Gradual size) {items : List α} {item : α}
    (short : size items < count) (enough : size (items ++ [item]) = count) :
    Reaches size count (items ++ [item]) := by
  refine ⟨enough, ?_⟩
  intro earlier early proper
  rcases List.prefix_concat_iff.mp early with whole | inside
  · exact (proper whole).elim
  · exact Nat.lt_of_le_of_lt (gradual.le_of_prefix inside) short

theorem reaches_zero (gradual : Gradual size) : Reaches size 0 [] := by
  refine ⟨gradual.empty, ?_⟩
  intro earlier early proper
  exact (proper (List.prefix_nil.mp early)).elim

theorem le_length (gradual : Gradual size) (items : List α) :
    size items ≤ items.length := by
  induction items using List.reverseRecOn with
  | nil => exact Nat.le_of_eq gradual.empty
  | append_singleton items item induction =>
      rw [List.length_append, List.length_singleton]
      rcases gradual.step items item with same | more <;> omega

/-- When every item counts, no shorter stretch is enough. -/
theorem reaches_of_length (gradual : Gradual size) {items : List α}
    (full : size items = items.length) : Reaches size items.length items := by
  refine ⟨full, ?_⟩
  intro earlier early proper
  apply Nat.lt_of_le_of_lt (gradual.le_length earlier)
  apply Nat.lt_of_le_of_ne early.length_le
  intro same
  exact proper (early.eq_of_length same)

/-- An input with enough in it has a shortest stretch that is enough. -/
theorem exists_reaches (gradual : Gradual size) {items : List α}
    (enough : count ≤ size items) :
    ∃ used rest, items = used ++ rest ∧ Reaches size count used := by
  induction items using List.reverseRecOn with
  | nil =>
      have none : count = 0 := by
        rw [gradual.empty] at enough
        exact Nat.le_zero.mp enough
      exact ⟨[], [], rfl, none ▸ gradual.reaches_zero⟩
  | append_singleton items item induction =>
      by_cases early : count ≤ size items
      · obtain ⟨used, rest, split, reaches⟩ := induction early
        refine ⟨used, rest ++ [item], ?_, reaches⟩
        rw [split, List.append_assoc]
      · have short : size items < count := Nat.lt_of_not_le early
        have last : size (items ++ [item]) = count := by
          rcases gradual.step items item with same | more <;> omega
        exact ⟨items ++ [item], [], (List.append_nil _).symm,
          gradual.reaches_snoc short last⟩

end Gradual

/-- The shortest stretch that reaches the bound, and the items after it. -/
def splitReaching (size : List α → Nat) (count : Nat) (items : List α) :
    Option (List α × List α) :=
  ((List.range (items.length + 1)).find? fun used =>
    size (items.take used) = count).map fun used =>
      (items.take used, items.drop used)

theorem splitReaching_of_reaches {used : List α}
    (reaches : Reaches size count used) (rest : List α) :
    splitReaching size count (used ++ rest) = some (used, rest) := by
  have found : (List.range ((used ++ rest).length + 1)).find? (fun read =>
      decide (size ((used ++ rest).take read) = count)) =
        some used.length := by
    apply List.find?_range_eq_some.mpr
    refine ⟨?_, ?_, ?_⟩
    · rw [List.take_left, reaches.enough]
      exact decide_eq_true rfl
    · rw [List.mem_range, List.length_append]
      omega
    · intro earlier before
      have short : size (used.take earlier) < count := by
        apply reaches.shortest _ (List.take_prefix earlier used)
        intro whole
        have lengths := congrArg List.length whole
        rw [List.length_take] at lengths
        omega
      rw [List.take_append_of_le_length (Nat.le_of_lt before)]
      simpa using Nat.ne_of_lt short
  rw [splitReaching, found, Option.map_some, List.take_left, List.drop_left]

theorem splitReaching_of_short (gradual : Gradual size) {items : List α}
    (short : size items < count) : splitReaching size count items = none := by
  have missed : (List.range (items.length + 1)).find? (fun read =>
      decide (size (items.take read) = count)) = none := by
    apply List.find?_range_eq_none.mpr
    intro read _
    have less := gradual.le_of_prefix (List.take_prefix read items)
    have different : size (items.take read) ≠ count := by omega
    simpa using different
  rw [splitReaching, missed, Option.map_none]

section Selected

variable {β : Type} {weight : List β → Nat} (select : α → Option β)

theorem Gradual.comp_filterMap (gradual : Gradual weight) :
    Gradual fun items => weight (items.filterMap select) := by
  refine ⟨gradual.empty, ?_⟩
  intro items item
  rw [List.filterMap_append]
  cases selected : select item with
  | none =>
      left
      simp [selected]
  | some value =>
      have last : [item].filterMap select = [value] := by
        simp [selected]
      rw [last]
      exact gradual.step _ value

/-- A stretch of the selected values is selected from a stretch. -/
theorem Reaches.filterMap {used : List α}
    (reaches : Reaches (fun items => weight (items.filterMap select)) count
      used) : Reaches weight count (used.filterMap select) := by
  refine ⟨reaches.enough, ?_⟩
  intro earlier early proper
  obtain ⟨later, whole⟩ := early
  obtain ⟨first, rest, split, selected, -⟩ :=
    List.filterMap_eq_append_iff.mp whole.symm
  subst split
  rw [← selected]
  apply reaches.shortest first (List.prefix_append first rest)
  intro same
  apply proper
  rw [← selected, ← same]

/-- Items that are not selected play no part in a split. -/
theorem splitReaching_filterMap (gradual : Gradual weight) (items : List α) :
    splitReaching weight count (items.filterMap select) =
      (splitReaching (fun items => weight (items.filterMap select)) count
        items).map (Prod.map (List.filterMap select) (List.filterMap select)) := by
  have selected := gradual.comp_filterMap select
  by_cases enough : count ≤ weight (items.filterMap select)
  · obtain ⟨used, rest, split, reaches⟩ := selected.exists_reaches enough
    rw [split, splitReaching_of_reaches reaches, List.filterMap_append,
      splitReaching_of_reaches (reaches.filterMap select)]
    rfl
  · have short := Nat.lt_of_not_le enough
    rw [splitReaching_of_short selected short,
      splitReaching_of_short gradual short]
    rfl

end Selected

theorem gradual_length : Gradual (@List.length α) := by
  refine ⟨rfl, ?_⟩
  intro items item
  exact .inr List.length_append

/-- The length of what a partial function selects is gradual. -/
theorem gradual_filterMap {β : Type} (select : α → Option β) :
    Gradual fun items => (items.filterMap select).length :=
  gradual_length.comp_filterMap select

section Distinct

variable {β : Type} [BEq β] [LawfulBEq β]

theorem eraseDups_snoc_of_mem {values : List β} {value : β}
    (known : value ∈ values) :
    (values ++ [value]).eraseDups = values.eraseDups := by
  rw [List.eraseDups_append]
  simp [known, List.removeAll]

/-- Only a new value extends the list of first occurrences. -/
theorem eraseDups_snoc_of_not_mem {values : List β} {value : β}
    (new : value ∉ values) :
    (values ++ [value]).eraseDups = values.eraseDups ++ [value] := by
  rw [List.eraseDups_append]
  simp [new, List.removeAll, List.eraseDups_cons]

theorem eraseDups_of_nodup {values : List β} (unique : values.Nodup) :
    values.eraseDups = values := by
  induction values using List.reverseRecOn with
  | nil => rfl
  | append_singleton values value induction =>
      obtain ⟨earlier, -, apart⟩ := List.nodup_append.mp unique
      have new : value ∉ values := fun member =>
        apart value member value (List.mem_singleton_self value) rfl
      rw [eraseDups_snoc_of_not_mem new, induction earlier]

theorem eraseDups_nodup (values : List β) : values.eraseDups.Nodup := by
  induction values using List.reverseRecOn with
  | nil => simp
  | append_singleton values value induction =>
      by_cases known : value ∈ values
      · rw [eraseDups_snoc_of_mem known]
        exact induction
      · rw [eraseDups_snoc_of_not_mem known]
        apply List.nodup_append.mpr
        refine ⟨induction, by simp, ?_⟩
        intro old oldMember last lastMember same
        rw [List.mem_singleton.mp lastMember] at same
        exact known (same ▸ List.mem_eraseDups.mp oldMember)

theorem gradual_distinct_values :
    Gradual fun values : List β => values.eraseDups.length := by
  refine ⟨rfl, ?_⟩
  intro values value
  by_cases known : value ∈ values
  · left
    rw [eraseDups_snoc_of_mem known]
  · right
    rw [eraseDups_snoc_of_not_mem known, List.length_append]
    rfl

/-- The number of distinct values that a partial function selects is gradual. -/
theorem gradual_distinct (select : α → Option β) :
    Gradual fun items => (items.filterMap select).eraseDups.length :=
  gradual_distinct_values.comp_filterMap select

end Distinct

end Bip39.Support
