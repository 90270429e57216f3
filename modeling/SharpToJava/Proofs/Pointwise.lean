import Mathlib.Data.List.Forall2

/-!
Lists and options that are related item by item: what is taken from one of them has a counterpart
in what is taken from the other.
-/

namespace SharpToJava

variable {α β γ : Type} {r : α → β → Prop} {items : List α} {others : List β}

theorem map_eq_of_forall₂ {f : α → γ} {g : β → γ} (related : List.Forall₂ r items others)
    (same : ∀ a ∈ items, ∀ b, r a b → f a = g b) : items.map f = others.map g := by
  induction related with
  | nil => rfl
  | @cons a b _ _ first _ ih =>
      rw [List.map_cons, List.map_cons, same a List.mem_cons_self b first,
        ih fun c member => same c (List.mem_cons_of_mem _ member)]

theorem map_eq_of_rel {f : α → γ} {g : β → γ} {found : Option α} {other : Option β}
    (related : Option.Rel r found other) (same : ∀ a ∈ found, ∀ b, r a b → f a = g b) :
    found.map f = other.map g := by
  cases related with
  | none => rfl
  | @some a b both => rw [Option.map_some, Option.map_some, same a rfl b both]

theorem rel_and {p : α → Prop} {found : Option α} {other : Option β}
    (related : Option.Rel r found other) (each : ∀ a ∈ found, p a) :
    Option.Rel (fun a b => r a b ∧ p a) found other := by
  cases related with
  | none => exact .none
  | @some a b both => exact .some ⟨both, each a rfl⟩

theorem find?_rel {p : α → Bool} {q : β → Bool} (related : List.Forall₂ r items others)
    (agree : ∀ a b, r a b → p a = q b) : Option.Rel r (items.find? p) (others.find? q) := by
  induction related with
  | nil => exact .none
  | @cons a b _ _ first _ ih =>
      rw [List.find?_cons, List.find?_cons, agree a b first]
      split
      · exact .some first
      · exact ih

theorem filter_rel {p : α → Bool} {q : β → Bool} (related : List.Forall₂ r items others)
    (agree : ∀ a b, r a b → p a = q b) : List.Forall₂ r (items.filter p) (others.filter q) :=
  List.rel_filter (fun a b both => Bool.eq_iff_iff.mp (agree a b both)) related

theorem head?_rel (related : List.Forall₂ r items others) :
    Option.Rel r items.head? others.head? := by
  cases related with
  | nil => exact .none
  | cons first _ => exact .some first

theorem getLast?_rel (related : List.Forall₂ r items others) :
    Option.Rel r items.getLast? others.getLast? := by
  rw [← List.head?_reverse, ← List.head?_reverse]
  exact head?_rel (List.forall₂_reverse_iff.mpr related)

theorem takeWhile_rel {p : α → Bool} {q : β → Bool} (related : List.Forall₂ r items others)
    (agree : ∀ a b, r a b → p a = q b) :
    List.Forall₂ r (items.takeWhile p) (others.takeWhile q) := by
  induction related with
  | nil => exact .nil
  | @cons a b _ _ first _ ih =>
      rw [List.takeWhile_cons, List.takeWhile_cons, agree a b first]
      split
      · exact .cons first ih
      · exact .nil

theorem dropWhile_rel {p : α → Bool} {q : β → Bool} (related : List.Forall₂ r items others)
    (agree : ∀ a b, r a b → p a = q b) :
    List.Forall₂ r (items.dropWhile p) (others.dropWhile q) := by
  induction related with
  | nil => exact .nil
  | @cons a b _ _ first rest ih =>
      rw [List.dropWhile_cons, List.dropWhile_cons, agree a b first]
      split
      · exact ih
      · exact .cons first rest

theorem forall₂_and {p : α → Prop} (related : List.Forall₂ r items others)
    (each : ∀ a ∈ items, p a) : List.Forall₂ (fun a b => r a b ∧ p a) items others := by
  induction related with
  | nil => exact .nil
  | @cons a b _ _ first _ ih =>
      exact .cons ⟨first, each a List.mem_cons_self⟩
        (ih fun c member => each c (List.mem_cons_of_mem _ member))

theorem tail_rel (related : List.Forall₂ r items others) : List.Forall₂ r items.tail others.tail := by
  cases related with
  | nil => exact .nil
  | cons _ rest => exact rest

theorem exists_of_forall₂ (related : List.Forall₂ r items others) {item : α}
    (member : item ∈ items) : ∃ other ∈ others, r item other := by
  induction related with
  | nil => cases member
  | cons first _ ih =>
      rcases List.mem_cons.mp member with rfl | later
      · exact ⟨_, List.mem_cons_self, first⟩
      · obtain ⟨other, present, both⟩ := ih later
        exact ⟨other, List.mem_cons_of_mem _ present, both⟩

/-- If each item has a counterpart, so has the list. -/
theorem exists_forall₂ (each : ∀ item ∈ items, ∃ other, r item other) :
    ∃ others, List.Forall₂ r items others := by
  induction items with
  | nil => exact ⟨[], .nil⟩
  | cons item rest ih =>
      obtain ⟨other, first⟩ := each item List.mem_cons_self
      obtain ⟨others, related⟩ := ih fun later member => each later (List.mem_cons_of_mem _ member)
      exact ⟨other :: others, .cons first related⟩

end SharpToJava
