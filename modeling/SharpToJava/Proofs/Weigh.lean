import Mathlib.Data.List.Perm.Subperm

/-!
Amounts of lists: what the items amount to taken together. Holes are shared out over the children of
a node, characters over the names of a type and edges over the classes of a unit in this way.
-/

namespace SharpToJava

def weigh {α : Type} (amount : α → Nat) : List α → Nat
  | [] => 0
  | item :: rest => amount item + weigh amount rest

variable {α β : Type} {amount : α → Nat} {items others : List α} {item : α}

@[simp] theorem weigh_nil : weigh amount [] = 0 := rfl

@[simp] theorem weigh_cons : weigh amount (item :: items) = amount item + weigh amount items := rfl

@[simp] theorem weigh_append :
    weigh amount (items ++ others) = weigh amount items + weigh amount others := by
  induction items with
  | nil => simp
  | cons item rest ih => simp [ih, Nat.add_assoc]

theorem weigh_map (f : β → α) (items : List β) :
    weigh amount (items.map f) = weigh (amount ∘ f) items := by
  induction items with
  | nil => rfl
  | cons item rest ih => simp [ih]

@[simp] theorem weigh_zero : weigh (fun _ => 0) items = 0 := by
  induction items with
  | nil => rfl
  | cons item rest ih => simp [ih]

@[simp] theorem weigh_one : weigh (fun _ => 1) items = items.length := by
  induction items with
  | nil => rfl
  | cons item rest ih => rw [weigh_cons, ih, List.length_cons, Nat.add_comm]

theorem weigh_eq_zero (each : ∀ item ∈ items, amount item = 0) : weigh amount items = 0 := by
  induction items with
  | nil => rfl
  | cons item rest ih =>
      have others := ih fun later member => each later (List.mem_cons_of_mem _ member)
      rw [weigh_cons, each item List.mem_cons_self, others]

theorem length_flatMap_eq_weigh (f : α → List β) (items : List α) :
    (items.flatMap f).length = weigh (fun item => (f item).length) items := by
  induction items with
  | nil => rfl
  | cons item rest ih => rw [List.flatMap_cons, List.length_append, ih, weigh_cons]

theorem weigh_le_of_sublist (kept : items.Sublist others) :
    weigh amount items ≤ weigh amount others := by
  induction kept with
  | slnil => exact Nat.le_refl _
  | cons dropped _ ih =>
      rw [weigh_cons]
      omega
  | cons_cons both _ ih =>
      rw [weigh_cons, weigh_cons]
      omega

theorem le_weigh_of_mem (member : item ∈ items) : amount item ≤ weigh amount items := by
  have single : weigh amount [item] ≤ weigh amount items :=
    weigh_le_of_sublist (List.singleton_sublist.mpr member)
  simpa using single

theorem weigh_eq_of_perm (permuted : items.Perm others) :
    weigh amount items = weigh amount others := by
  induction permuted with
  | nil => rfl
  | cons item _ ih => rw [weigh_cons, weigh_cons, ih]
  | swap first second rest =>
      simp only [weigh_cons]
      omega
  | trans _ _ first second => exact first.trans second

theorem weigh_le_of_nodup (different : items.Nodup) (present : items ⊆ others) :
    weigh amount items ≤ weigh amount others := by
  obtain ⟨ordered, permuted, kept⟩ := List.subperm_of_subset different present
  rw [← weigh_eq_of_perm permuted]
  exact weigh_le_of_sublist kept

theorem weigh_mono {measure : α → Nat} (each : ∀ item ∈ items, measure item ≤ amount item) :
    weigh measure items ≤ weigh amount items := by
  induction items with
  | nil => exact Nat.le_refl _
  | cons item rest ih =>
      have first := each item List.mem_cons_self
      have others := ih fun later member => each later (List.mem_cons_of_mem _ member)
      rw [weigh_cons, weigh_cons]
      omega

theorem weigh_indicator (chosen : α → Prop) [DecidablePred chosen] (items : List α) :
    weigh (fun item => if chosen item then 1 else 0) items = items.countP (chosen ·) := by
  induction items with
  | nil => rfl
  | cons item rest ih =>
      rw [weigh_cons, List.countP_cons, ih, Nat.add_comm]
      simp

end SharpToJava
