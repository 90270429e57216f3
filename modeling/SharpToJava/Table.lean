/-!
Dictionaries that keep the order of their keys. The value of a key is changed in its place, and a
new key comes last.
-/

namespace SharpToJava

/-- Keys with their values, in the order in which the keys were put in. -/
abbrev Table (β : Type) : Type := List (String × β)

namespace Table

variable {β : Type}

def has (entries : Table β) (key : String) : Bool := entries.any fun entry => entry.1 == key

/-- Changes the value of a key, or puts in a new key with the value made from nothing. -/
def alter (entries : Table β) (key : String) (change : Option β → β) : Table β :=
  match entries with
  | [] => [(key, change none)]
  | entry :: rest =>
    if entry.1 = key then (key, change (some entry.2)) :: rest else entry :: alter rest key change

def put (entries : Table β) (key : String) (value : β) : Table β :=
  entries.alter key fun _ => value

/-- Puts in a key with this value, unless the key is there. -/
def ensure (entries : Table β) (key : String) (value : β) : Table β :=
  entries.alter key fun found => found.getD value

def remove (entries : Table β) (key : String) : Table β :=
  entries.filter fun entry => entry.1 != key

variable {entries : Table β} {key other : String} {change : Option β → β}

theorem has_iff : entries.has key = true ↔ key ∈ entries.map Prod.fst := by
  simp [has]

theorem lookup_eq_none_iff_not_mem :
    List.lookup key entries = none ↔ key ∉ entries.map Prod.fst := by
  induction entries with
  | nil => simp
  | cons entry rest ih =>
      obtain ⟨name, value⟩ := entry
      rw [List.lookup_cons, List.map_cons, List.mem_cons, not_or, ← ih]
      by_cases here : key = name
      · simp [here]
      · simp [here, beq_false_of_ne here]

theorem isSome_lookup : (List.lookup key entries).isSome = entries.has key := by
  rw [Bool.eq_iff_iff, has_iff, Option.isSome_iff_ne_none, ne_eq, lookup_eq_none_iff_not_mem,
    Classical.not_not]

theorem alter_of_not_mem (new : key ∉ entries.map Prod.fst) :
    entries.alter key change = entries ++ [(key, change none)] := by
  induction entries with
  | nil => rfl
  | cons entry rest ih =>
      rw [List.map_cons, List.mem_cons, not_or] at new
      rw [alter, if_neg (Ne.symm new.1), ih new.2, List.cons_append]

theorem map_fst_alter_of_mem (known : key ∈ entries.map Prod.fst) :
    (entries.alter key change).map Prod.fst = entries.map Prod.fst := by
  induction entries with
  | nil => simp at known
  | cons entry rest ih =>
      unfold alter
      by_cases here : entry.1 = key
      · rw [if_pos here, List.map_cons, List.map_cons, here]
      · have later : key ∈ rest.map Prod.fst := by simpa [Ne.symm here] using known
        rw [if_neg here, List.map_cons, List.map_cons, ih later]

theorem map_fst_alter (entries : Table β) (key : String) (change : Option β → β) :
    (entries.alter key change).map Prod.fst =
      if key ∈ entries.map Prod.fst then entries.map Prod.fst
      else entries.map Prod.fst ++ [key] := by
  split
  case isTrue known => exact map_fst_alter_of_mem known
  case isFalse new => rw [alter_of_not_mem new, List.map_append, List.map_singleton]

theorem mem_map_fst_alter :
    other ∈ (entries.alter key change).map Prod.fst ↔
      other ∈ entries.map Prod.fst ∨ other = key := by
  rw [map_fst_alter]
  split
  case isTrue known => exact ⟨.inl, fun either => either.elim id fun same => same ▸ known⟩
  case isFalse => rw [List.mem_append, List.mem_singleton]

/-- What is there after a change was there before, or it is the changed entry. -/
theorem mem_alter {entry : String × β} (member : entry ∈ entries.alter key change) :
    entry ∈ entries ∨ ∃ found, entry = (key, change found) := by
  induction entries with
  | nil => exact .inr ⟨none, List.mem_singleton.mp member⟩
  | cons first rest ih =>
      unfold alter at member
      split at member <;> rcases List.mem_cons.mp member with rfl | later
      · exact .inr ⟨some first.2, rfl⟩
      · exact .inl (List.mem_cons_of_mem _ later)
      · exact .inl List.mem_cons_self
      · exact (ih later).imp_left (List.mem_cons_of_mem _)

theorem ensure_of_mem {value : β} (known : key ∈ entries.map Prod.fst) :
    entries.ensure key value = entries := by
  induction entries with
  | nil => simp at known
  | cons entry rest ih =>
      rw [ensure, alter]
      by_cases here : entry.1 = key
      · rw [if_pos here, ← here]
        rfl
      · have later : key ∈ rest.map Prod.fst := by simpa [Ne.symm here] using known
        rw [if_neg here, ← ensure, ih later]

theorem lookup_alter (entries : Table β) (key other : String) (change : Option β → β) :
    List.lookup other (entries.alter key change) =
      if other = key then some (change (List.lookup key entries))
      else List.lookup other entries := by
  induction entries with
  | nil =>
      by_cases same : other = key
      · simp [alter, same]
      · simp [alter, same]
  | cons entry rest ih =>
      obtain ⟨name, value⟩ := entry
      unfold alter
      by_cases here : name = key
      · subst here
        by_cases same : other = name
        · simp [same]
        · simp [same, List.lookup_cons, beq_false_of_ne same]
      · rw [if_neg here, List.lookup_cons, List.lookup_cons, ih]
        by_cases same : other = key
        · have differs : key ≠ name := Ne.symm here
          simp [same, beq_false_of_ne differs]
        · rw [if_neg same, if_neg same, List.lookup_cons]

theorem lookup_remove (entries : Table β) (key other : String) :
    List.lookup other (entries.remove key) =
      if other = key then none else List.lookup other entries := by
  unfold remove
  induction entries with
  | nil => simp
  | cons entry rest ih =>
      obtain ⟨name, value⟩ := entry
      by_cases dropped : name = key
      · rw [List.filter_cons_of_neg (by simp [dropped]), ih, List.lookup_cons, dropped]
        by_cases same : other = key
        · rw [if_pos same, if_pos same]
        · rw [beq_false_of_ne same]
      · rw [List.filter_cons_of_pos (by simp [dropped]), List.lookup_cons, List.lookup_cons, ih]
        by_cases same : other = name
        · rw [same, if_neg dropped, if_neg dropped]
        · rw [beq_false_of_ne same]

theorem has_put (entries : Table β) (key other : String) (value : β) :
    (entries.put key value).has other = (entries.has other || other == key) := by
  rw [Bool.eq_iff_iff, Bool.or_eq_true, has_iff, has_iff, put, mem_map_fst_alter, beq_iff_eq]

theorem has_remove (entries : Table β) (key other : String) :
    (entries.remove key).has other = (entries.has other && other != key) := by
  rw [← isSome_lookup, ← isSome_lookup, lookup_remove]
  by_cases same : other = key
  · simp [same]
  · simp [same]

/-- Taking a key out undoes putting it in. -/
theorem remove_put_of_not_mem {value : β} (new : key ∉ entries.map Prod.fst) :
    (entries.put key value).remove key = entries := by
  have others : entries.filter (fun entry => entry.1 != key) = entries := by
    apply List.filter_eq_self.mpr
    intro entry member
    exact bne_iff_ne.mpr fun same => new (same ▸ List.mem_map_of_mem member)
  rw [put, alter_of_not_mem new, remove, List.filter_append, others,
    List.filter_cons_of_neg (by simp), List.filter_nil, List.append_nil]

/-- After a value was put in, an entry is the one put in, or an earlier one with another key. -/
theorem mem_put_iff {value : β} (once : (entries.map Prod.fst).Nodup)
    {entry : String × β} :
    entry ∈ entries.put key value ↔ entry = (key, value) ∨ entry.1 ≠ key ∧ entry ∈ entries := by
  unfold put
  induction entries with
  | nil => simp [alter]
  | cons first rest ih =>
      obtain ⟨fresh, later⟩ := List.nodup_cons.mp once
      unfold alter
      split
      case isTrue here =>
        -- the key is not to be found again in the rest
        have others : ∀ other ∈ rest, other.1 ≠ key := fun other member same =>
          fresh (here ▸ same ▸ List.mem_map_of_mem member)
        simp only [List.mem_cons]
        constructor
        · intro after
          rcases after with same | member
          · exact .inl same
          · exact .inr ⟨others entry member, .inr member⟩
        · intro before
          rcases before with same | ⟨differs, rfl | member⟩
          · exact .inl same
          · exact absurd here differs
          · exact .inr member
      case isFalse elsewhere =>
        simp only [List.mem_cons, ih later]
        constructor
        · intro after
          rcases after with rfl | same | ⟨differs, member⟩
          · exact .inr ⟨elsewhere, .inl rfl⟩
          · exact .inl same
          · exact .inr ⟨differs, .inr member⟩
        · intro before
          rcases before with same | ⟨differs, same | member⟩
          · exact .inr (.inl same)
          · exact .inl same
          · exact .inr (.inr ⟨differs, member⟩)

/-- If a change adds some items to those of a value, then it adds them to those of all values. -/
theorem flatMap_alter_perm {γ : Type} {items : String × β → List γ} {extra : List γ}
    (known : ∀ value, (items (key, change (some value))).Perm (items (key, value) ++ extra))
    (new : (items (key, change none)).Perm extra) :
    ((entries.alter key change).flatMap items).Perm (entries.flatMap items ++ extra) := by
  induction entries with
  | nil => simpa [alter] using new
  | cons entry rest ih =>
      obtain ⟨name, value⟩ := entry
      unfold alter
      split
      case isTrue here =>
        obtain rfl : name = key := here
        rw [List.flatMap_cons, List.flatMap_cons, List.append_assoc]
        have behind : (extra ++ rest.flatMap items).Perm (rest.flatMap items ++ extra) :=
          List.perm_append_comm
        have front := (known value).append_right (rest.flatMap items)
        rw [List.append_assoc] at front
        exact front.trans (behind.append_left _)
      case isFalse =>
        rw [List.flatMap_cons, List.flatMap_cons, List.append_assoc]
        exact ih.append_left _

theorem flatMap_ensure {γ : Type} (entries : Table β) (key : String) {value : β}
    {items : String × β → List γ} (silent : items (key, value) = []) :
    (entries.ensure key value).flatMap items = entries.flatMap items := by
  by_cases known : key ∈ entries.map Prod.fst
  · rw [ensure_of_mem known]
  · rw [ensure, alter_of_not_mem known, List.flatMap_append, List.flatMap_singleton,
      Option.getD_none, silent, List.append_nil]

end Table

end SharpToJava
