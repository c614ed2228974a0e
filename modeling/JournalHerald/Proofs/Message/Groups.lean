import JournalHerald.Message.MissionSummary
import JournalHerald.Proofs.Text.Order
import Mathlib.Algebra.BigOperators.Group.List.Lemmas
import Mathlib.Algebra.GroupWithZero.Nat
import Mathlib.Data.List.Dedup
import Mathlib.Data.Prod.Lex
import Mathlib.Order.WithBot

/-!
# Groups of missions

The summary groups missions by where they lead. Each name makes a group of its own, and whatever is
not a name goes into a group of unknown destinations. The groups add up to all missions, and they
stand in an order that has nothing to do with the order of the missions (`tallies_groups`,
`groups_congr`).

* `Denotes` says which values belong to a group;
* `Precedes` is the order of groups. It is linear: `rank` embeds the groups into a linear order;
* `Tallies` is the account that groups give of values.
-/

namespace JournalHerald.MissionSummary

/-! ### What belongs to a group -/

/-- A value is a name, or it is none: it is blank, or not even a text. -/
def Denotes (v : Value) : Option Text → Prop
  | some s => v = .text s ∧ Text.isBlankText s = false
  | none => ∀ s, v = .text s → Text.isBlankText s = true

theorem name?_eq_some_iff {v : Value} {s : Text} :
    name? v = some s ↔ v = .text s ∧ Text.isBlankText s = false := by
  cases v with
  | text u =>
    show (if Text.isBlankText u then none else some u) = some s ↔ _
    by_cases hblank : Text.isBlankText u = true
    · rw [if_pos hblank]
      constructor
      · rintro ⟨⟩
      · rintro ⟨⟨⟩, hs⟩
        rw [hblank] at hs
        cases hs
    · rw [if_neg hblank]
      constructor
      · rintro ⟨⟩
        exact ⟨rfl, Bool.eq_false_of_not_eq_true hblank⟩
      · rintro ⟨⟨⟩, -⟩
        rfl
  | _ => simp [name?]

theorem denotes_iff {v : Value} {d : Option Text} : Denotes v d ↔ name? v = d := by
  cases d with
  | some s => exact name?_eq_some_iff.symm
  | none =>
    rw [Option.eq_none_iff_forall_ne_some]
    simp only [Denotes, ne_eq, name?_eq_some_iff, not_and, Bool.not_eq_false]

instance (v : Value) (d : Option Text) : Decidable (Denotes v d) :=
  decidable_of_iff _ denotes_iff.symm

/-! ### The order of groups -/

/-- One group precedes another one: the group without a name comes first, the others come in the
order of their names in lower case, and of the names themselves if these are alike. -/
def Precedes : Option Text → Option Text → Prop
  | none, none => False
  | none, some _ => True
  | some _, none => False
  | some s, some t => (Text.lowercase s).numbers < (Text.lowercase t).numbers ∨
      Text.lowercase s = Text.lowercase t ∧ s.numbers < t.numbers

/-- The rank of a group in the linear order of pairs of texts, with one rank below all of them. -/
def rank : Option Text → WithBot (List Nat ×ₗ List Nat)
  | none => ⊥
  | some s => (toLex ((Text.lowercase s).numbers, s.numbers) : List Nat ×ₗ List Nat)

theorem rank_injective : Function.Injective rank := by
  intro a b h
  cases a with
  | none =>
    cases b with
    | none => rfl
    | some t => exact absurd h WithBot.bot_ne_coe
  | some s =>
    cases b with
    | none => exact absurd h WithBot.coe_ne_bot
    | some t =>
      have hpair := toLex.injective (WithBot.coe_inj.1 h)
      exact congrArg some (Text.numbers_injective (Prod.mk.inj hpair).2)

theorem precedes_iff {a b : Option Text} : Precedes a b ↔ rank a < rank b := by
  cases a with
  | none =>
    cases b with
    | none => exact iff_of_false id (lt_irrefl _)
    | some t => exact iff_of_true trivial (WithBot.bot_lt_coe _)
  | some s =>
    cases b with
    | none => exact iff_of_false id not_lt_bot
    | some t =>
      simp only [Precedes, rank, WithBot.coe_lt_coe, Prod.Lex.toLex_lt_toLex,
        Text.numbers_injective.eq_iff]

theorem before_iff {a b : Option Text} : before a b = true ↔ rank a ≤ rank b := by
  cases a with
  | none => exact iff_of_true rfl bot_le
  | some s =>
    cases b with
    | none => exact iff_of_false Bool.false_ne_true (not_le_of_gt (WithBot.bot_lt_coe _))
    | some t =>
      have hnot : (!Text.before t s) = true ↔ s.numbers ≤ t.numbers := by
        rw [Bool.not_eq_true', ← Bool.not_eq_true, Text.before_iff, not_lt]
      simp only [before, rank, WithBot.coe_le_coe, Prod.Lex.toLex_le_toLex, Bool.or_eq_true,
        Bool.and_eq_true, beq_iff_eq, Text.before_iff, hnot, Text.numbers_injective.eq_iff]

/-! ### Sorting without repetitions -/

/-- By recursion on what is left of the tail without the copies of the head. -/
theorem nodup_eraseDups (ds : List (Option Text)) : ds.eraseDups.Nodup := by
  cases ds with
  | nil => exact List.nodup_nil
  | cons d ds =>
    rw [List.eraseDups_cons, List.nodup_cons]
    refine ⟨fun hmem => ?_, nodup_eraseDups (ds.filter fun a => !a == d)⟩
    have hne := (List.mem_filter.1 (List.mem_eraseDups.1 hmem)).2
    simp at hne
termination_by ds.length
decreasing_by exact Nat.lt_succ_of_le (List.length_filter_le _ _)

/-- The keys of groups are the destinations, each of them once. -/
theorem mergeSort_perm_dedup (ds : List (Option Text)) :
    (ds.eraseDups.mergeSort before).Perm ds.dedup := by
  apply (List.mergeSort_perm _ _).trans
  rw [List.perm_ext_iff_of_nodup (nodup_eraseDups ds) (List.nodup_dedup ds)]
  intro d
  rw [List.mem_eraseDups, List.mem_dedup]

theorem pairwise_mergeSort_before (ds : List (Option Text)) :
    (ds.mergeSort before).Pairwise fun a b => rank a ≤ rank b := by
  have hsorted : (ds.mergeSort before).Pairwise fun a b => before a b = true := by
    apply List.pairwise_mergeSort
    · intro a b c hab hbc
      exact before_iff.2 ((before_iff.1 hab).trans (before_iff.1 hbc))
    · intro a b
      rw [Bool.or_eq_true, before_iff, before_iff]
      exact le_total _ _
  exact hsorted.imp before_iff.1

/-- The same destinations in another order come out in one order. -/
theorem mergeSort_congr {ds ds' : List (Option Text)} (h : ds.Perm ds') :
    ds.eraseDups.mergeSort before = ds'.eraseDups.mergeSort before := by
  apply List.Perm.eq_of_pairwise _ (pairwise_mergeSort_before _) (pairwise_mergeSort_before _)
  · exact (mergeSort_perm_dedup ds).trans (h.dedup.trans (mergeSort_perm_dedup ds').symm)
  · intro a b _ _ hab hba
    exact rank_injective (le_antisymm hab hba)

/-! ### Tallies -/

/-- Groups tell for each destination how many of the values lead there. -/
structure Tallies (values : List Value) (gs : List (Option Text × Nat)) : Prop where
  distinct : (gs.map Prod.fst).Nodup
  ordered : (gs.map Prod.fst).Pairwise Precedes
  positive : ∀ g ∈ gs, 0 < g.2
  number : ∀ g ∈ gs, g.2 = values.countP fun v => Denotes v g.1
  sum : (gs.map Prod.snd).sum = values.length

theorem map_fst_groups (ds : List (Option Text)) :
    (groups ds).map Prod.fst = ds.eraseDups.mergeSort before := by
  rw [groups, List.map_map]
  exact List.map_id _

/-- **The groups of destinations tally them.** -/
theorem tallies_groups (values : List Value) : Tallies values (groups (values.map name?)) := by
  have hperm := mergeSort_perm_dedup (values.map name?)
  have hnodup : ((groups (values.map name?)).map Prod.fst).Nodup := by
    rw [map_fst_groups]
    exact hperm.nodup_iff.2 (List.nodup_dedup _)
  have hcount : ∀ g ∈ groups (values.map name?),
      g.1 ∈ values.map name? ∧ g.2 = (values.map name?).count g.1 := by
    intro g hg
    obtain ⟨d, hd, rfl⟩ := List.mem_map.1 hg
    exact ⟨List.mem_dedup.1 (hperm.mem_iff.1 hd), rfl⟩
  refine ⟨hnodup, ?_, fun g hg => ?_, fun g hg => ?_, ?_⟩
  · -- no two ranks are equal, since no two keys are
    have hsorted := pairwise_mergeSort_before (values.map name?).eraseDups
    rw [← map_fst_groups] at hsorted
    apply (hsorted.and hnodup).imp
    rintro a b ⟨hle, hne⟩
    exact precedes_iff.2 (lt_of_le_of_ne hle (rank_injective.ne hne))
  · obtain ⟨hmem, hg⟩ := hcount g hg
    rw [hg]
    exact List.count_pos_iff.2 hmem
  · obtain ⟨-, hg⟩ := hcount g hg
    rw [hg, List.count, List.countP_map]
    apply List.countP_congr
    intro v _
    rw [decide_eq_true_iff, denotes_iff]
    exact beq_iff_eq
  · calc ((groups (values.map name?)).map Prod.snd).sum
        = ((values.map name?).dedup.map fun d => (values.map name?).count d).sum := by
          rw [groups, List.map_map]
          exact (hperm.map fun d => (values.map name?).count d).sum_eq
      _ = (values.map name?).length := by
          rw [← lawful_beq_subsingleton instBEqOfDecidableEq Option.instBEq]
          exact List.sum_map_count_dedup_eq_length _
      _ = values.length := List.length_map _

/-- Groups do not depend on the order of what they count. -/
theorem groups_congr {ds ds' : List (Option Text)} (h : ds.Perm ds') : groups ds = groups ds' := by
  rw [groups, groups, mergeSort_congr h]
  congr 1
  funext d
  rw [h.count_eq]

end JournalHerald.MissionSummary
