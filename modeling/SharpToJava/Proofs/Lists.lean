import Mathlib.Data.List.Induction
import Mathlib.Data.List.Nodup
import Mathlib.Data.List.Perm.Basic
import SharpToJava.Proofs.Weigh

/-!
Lists that are cut, sorted into groups and put together again. Items sorted by a key are the same
items, group by group; the groups stand in the order in which their keys first occurred.
-/

namespace SharpToJava

/-- Two lists are cut at the first mark, so they agree before it and after it. -/
theorem append_inj_of_cut {α : Type} {isCut : α → Bool} {first second rest others : List α}
    (uncut : ∀ c ∈ first, isCut c = false) (uncutToo : ∀ c ∈ second, isCut c = false)
    (cut : ∀ c ∈ rest.head?, isCut c = true) (cutToo : ∀ c ∈ others.head?, isCut c = true)
    (same : first ++ rest = second ++ others) : first = second ∧ rest = others := by
  have taken : ∀ start follow : List α, (∀ c ∈ start, isCut c = false) →
      (∀ c ∈ follow.head?, isCut c = true) →
        (start ++ follow).takeWhile (fun c => !isCut c) = start := by
    intro start follow plain marked
    rw [List.takeWhile_append_of_pos (by simpa using plain)]
    cases follow with
    | nil => simp
    | cons c later => simp [marked c rfl]
  have starts : first = second := by
    rw [← taken first rest uncut cut, same, taken second others uncutToo cutToo]
  exact ⟨starts, List.append_cancel_left (starts ▸ same)⟩

/-- A separator stands between each two texts. -/
theorem count_intercalate (c : Char) (separator : String) (texts : List String) :
    (separator.intercalate texts).toList.count c =
      weigh (·.toList.count c) texts + (texts.length - 1) * separator.toList.count c := by
  match texts with
  | [] => simp
  | [text] => simp
  | text :: next :: rest =>
      have later := count_intercalate c separator (next :: rest)
      simp only [String.intercalate_cons_cons, String.toList_append, List.count_append, later,
        weigh_cons, List.length_cons, Nat.add_sub_cancel, Nat.add_mul, Nat.one_mul]
      omega

/-- If no two items have hits, their order does not matter to the hits. -/
theorem filter_flatMap_eq_of_perm {α β : Type} {f : α → List β} {p : β → Bool}
    {items others : List α} (permuted : items.Perm others)
    (apart : items.Pairwise fun a b => (f a).filter p = [] ∨ (f b).filter p = []) :
    (items.flatMap f).filter p = (others.flatMap f).filter p := by
  induction permuted with
  | nil => rfl
  | cons item _ ih =>
      simp only [List.flatMap_cons, List.filter_append, ih (List.pairwise_cons.mp apart).2]
  | swap first second rest =>
      have either := (List.pairwise_cons.mp apart).1 first List.mem_cons_self
      simp only [List.flatMap_cons, List.filter_append]
      rcases either with none | none <;> simp [none]
  | trans one _ ihOne ihTwo =>
      exact (ihOne apart).trans (ihTwo (one.pairwise apart Or.symm))

/-- Items sorted by a key are the same items. -/
theorem perm_of_grouped {α β : Type} [DecidableEq β] (key : α → β) {keys : List β}
    (once : keys.Nodup) {items : List α} (covered : ∀ item ∈ items, key item ∈ keys) :
    (keys.flatMap fun group => items.filter fun item => key item == group).Perm items := by
  induction keys generalizing items with
  | nil =>
      have none : items = [] :=
        List.eq_nil_iff_forall_not_mem.mpr fun item member => by simpa using covered item member
      simp [none]
  | cons group rest ih =>
      obtain ⟨fresh, later⟩ := List.nodup_cons.mp once
      have others : ∀ item ∈ items.filter (fun item => !(key item == group)), key item ∈ rest := by
        intro item member
        obtain ⟨present, differs⟩ := List.mem_filter.mp member
        have listed := covered item present
        simp_all
      -- the items of the later groups are not among those of the first
      have same : (rest.flatMap fun group => items.filter fun item => key item == group) =
          rest.flatMap fun later => (items.filter fun item => !(key item == group)).filter
            fun item => key item == later := by
        apply List.flatMap_congr
        intro later member
        rw [List.filter_filter]
        apply List.filter_congr
        intro item _
        by_cases here : key item = later
        · have differs : later ≠ group := fun equal => fresh (equal ▸ member)
          simp [here, differs]
        · simp [here]
      rw [List.flatMap_cons, same]
      exact ((ih later others).append_left _).trans (List.filter_append_perm _ items)

theorem nodup_eraseDups {α : Type} [DecidableEq α] : ∀ items : List α, items.eraseDups.Nodup
  | [] => List.nodup_nil
  | item :: rest => by
    have shorter := List.length_filter_le (fun other => !other == item) rest
    rw [List.eraseDups_cons, List.nodup_cons, List.mem_eraseDups]
    exact ⟨by simp, nodup_eraseDups _⟩
termination_by items => items.length

section

variable {α β : Type} [DecidableEq β]

theorem eraseDups_concat (items : List β) (item : β) :
    (items ++ [item]).eraseDups =
      if item ∈ items then items.eraseDups else items.eraseDups ++ [item] := by
  rw [List.eraseDups_append]
  by_cases present : item ∈ items
  · simp [List.removeAll, present]
  · simp [List.removeAll, present, List.eraseDups_cons]

/-- Items without repetition come in the order of their first occurrence. -/
theorem pairwise_idxOf_eraseDups (items : List β) :
    items.eraseDups.Pairwise fun one other => items.idxOf one < items.idxOf other := by
  induction items using List.reverseRecOn with
  | nil => exact .nil
  | append_singleton items item ih =>
      have earlier : items.eraseDups.Pairwise fun one other =>
          (items ++ [item]).idxOf one < (items ++ [item]).idxOf other := by
        apply ih.imp_of_mem
        intro one other here there before
        rwa [List.idxOf_append_of_mem (List.mem_eraseDups.mp here),
          List.idxOf_append_of_mem (List.mem_eraseDups.mp there)]
      rw [eraseDups_concat]
      split
      case isTrue present => exact earlier
      case isFalse absent =>
        apply List.pairwise_append.mpr
        refine ⟨earlier, List.pairwise_singleton _ _, ?_⟩
        intro one here other last
        rw [List.mem_singleton.mp last, List.idxOf_append_of_notMem absent,
          List.idxOf_append_of_mem (List.mem_eraseDups.mp here)]
        have inside := List.idxOf_lt_length_iff.mpr (List.mem_eraseDups.mp here)
        omega

variable (key : α → β) {keys : List β} {group : β → List α}
  (keyed : ∀ value ∈ keys, ∀ item ∈ group value, key item = value)
include keyed

omit [DecidableEq β] in
/-- Groups in the order of their keys. -/
theorem pairwise_flatMap_key {rank : β → Nat}
    (ordered : keys.Pairwise fun one other => rank one < rank other) :
    (keys.flatMap group).Pairwise fun one other => rank (key one) ≤ rank (key other) := by
  apply List.pairwise_flatMap.mpr
  constructor
  · intro value listed
    apply List.pairwise_of_forall_mem_list
    intro one here other there
    exact Nat.le_of_eq (by rw [keyed value listed one here, keyed value listed other there])
  · apply ordered.imp_of_mem
    intro first second here there before one inFirst other inSecond
    rw [keyed first here one inFirst, keyed second there other inSecond]
    exact Nat.le_of_lt before

/-- One group of several. -/
theorem filter_flatMap_key (once : keys.Nodup) (value : β) :
    (keys.flatMap group).filter (fun item => key item == value) =
      if value ∈ keys then group value else [] := by
  induction keys with
  | nil => rfl
  | cons first rest ih =>
      obtain ⟨new, later⟩ := List.nodup_cons.mp once
      have others := ih (fun other listed => keyed other (List.mem_cons_of_mem _ listed)) later
      have own : ∀ item ∈ group first, key item = first := keyed first List.mem_cons_self
      rw [List.flatMap_cons, List.filter_append, others]
      by_cases here : value = first
      · subst here
        rw [if_neg new, if_pos List.mem_cons_self, List.append_nil, List.filter_eq_self]
        intro item member
        exact beq_iff_eq.mpr (own item member)
      · have none : (group first).filter (fun item => key item == value) = [] := by
          apply List.filter_eq_nil_iff.mpr
          intro item member
          rw [own item member, beq_iff_eq]
          exact Ne.symm here
        rw [none, List.nil_append]
        simp only [List.mem_cons, here, false_or]

end

/-- Two lists without a key twice, the one within the other and with all its keys. -/
theorem perm_of_same_keys {α β : Type} {items others : List (α × β)}
    (once : (items.map Prod.fst).Nodup) (onceToo : (others.map Prod.fst).Nodup)
    (within : items ⊆ others) (covered : others.map Prod.fst ⊆ items.map Prod.fst) :
    items.Perm others := by
  refine (List.perm_ext_iff_of_nodup once.of_map onceToo.of_map).mpr fun item => ?_
  refine ⟨fun member => within member, fun member => ?_⟩
  obtain ⟨other, present, same⟩ := List.mem_map.mp (covered (List.mem_map_of_mem member))
  rwa [← List.inj_on_of_nodup_map onceToo (within present) member same]

end SharpToJava
