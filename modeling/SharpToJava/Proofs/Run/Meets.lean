import SharpToJava.Run

/-!
What a run can be held to. Whatever a run does, its journal only grows (`Journal.Extends`): import
tables stay, and touched types, notes and counters are added to. `RunM.Meets` says so together with
what the result is like and which faults may come instead, and composes along `bind`.
-/

namespace SharpToJava

theorem Imports.prefix_addNew (items : List String) (item : String) :
    items <+: Imports.addNew items item := by
  unfold Imports.addNew
  split
  · exact List.prefix_refl items
  · exact List.prefix_append items [item]

theorem Imports.prefix_foldl_addNew (items added : List String) :
    items <+: added.foldl Imports.addNew items := by
  induction added generalizing items with
  | nil => exact List.prefix_refl items
  | cons item rest ih => exact (Imports.prefix_addNew items item).trans (ih _)

namespace Journal

theorem lookup_countTemp (temps : List (String × Nat)) (tag asked : String) :
    (countTemp temps tag).lookup asked =
      if asked = tag then some ((temps.lookup tag).getD 0 + 1) else temps.lookup asked := by
  induction temps with
  | nil =>
      by_cases same : asked = tag
      · simp [countTemp, same]
      · simp [countTemp, same, List.lookup_cons, beq_false_of_ne same]
  | cons entry rest ih =>
      obtain ⟨name, count⟩ := entry
      simp only [countTemp]
      by_cases here : name = tag
      · subst here
        by_cases same : asked = name
        · simp [same]
        · simp [same, List.lookup_cons, beq_false_of_ne same]
      · rw [if_neg here, List.lookup_cons, List.lookup_cons, List.lookup_cons, ih,
          beq_false_of_ne (Ne.symm here)]
        by_cases first : asked = name
        · subst first
          simp [here]
        · simp [beq_false_of_ne first]

theorem tempCount_countTemp (journal : Journal) (tag asked : String) :
    { journal with temps := countTemp journal.temps tag }.tempCount asked =
      journal.tempCount asked + if asked = tag then 1 else 0 := by
  unfold tempCount
  rw [lookup_countTemp]
  by_cases same : asked = tag
  · simp [same]
  · simp [same]

/-- A journal with more in it. -/
structure Extends (before after : Journal) : Prop where
  paths : after.imports.paths = before.imports.paths
  defaults : after.imports.defaults = before.imports.defaults
  touched : before.imports.touched <+: after.imports.touched
  notes : before.notes <+: after.notes
  discards : before.discards ≤ after.discards
  temps : ∀ tag, before.tempCount tag ≤ after.tempCount tag

theorem Extends.refl (journal : Journal) : journal.Extends journal :=
  ⟨rfl, rfl, List.prefix_refl _, List.prefix_refl _, Nat.le_refl _, fun _ => Nat.le_refl _⟩

theorem Extends.trans {first second third : Journal} (before : first.Extends second)
    (after : second.Extends third) : first.Extends third where
  paths := after.paths.trans before.paths
  defaults := after.defaults.trans before.defaults
  touched := before.touched.trans after.touched
  notes := before.notes.trans after.notes
  discards := Nat.le_trans before.discards after.discards
  temps tag := Nat.le_trans (before.temps tag) (after.temps tag)

end Journal

namespace RunM

variable {α β : Type} {fails : Fault → Prop} {post : α → Prop} {next : β → Prop}

/-- The run adds to its journal, and either its result is as promised or it ends with a fault that
is allowed for. -/
def Meets (fails : Fault → Prop) (run : RunM α) (post : α → Prop) : Prop :=
  ∀ before,
    match run.run before with
    | .ok result after => before.Extends after ∧ post result
    | .error fault after => before.Extends after ∧ fails fault

theorem Meets.of_ok {run : RunM α} (meets : Meets fails run post) {before after : Journal}
    {result : α} (done : run.run before = .ok result after) :
    before.Extends after ∧ post result := by
  have outcome := meets before
  rwa [done] at outcome

theorem Meets.of_error {run : RunM α} (meets : Meets fails run post) {before after : Journal}
    {fault : Fault} (failed : run.run before = .error fault after) : fails fault := by
  have outcome := meets before
  rw [failed] at outcome
  exact outcome.2

theorem meets_pure {result : α} (holds : post result) : Meets fails (pure result) post :=
  fun before => ⟨.refl before, holds⟩

theorem meets_throw {fault : Fault} (allowed : fails fault) :
    Meets fails (throw fault : RunM α) post :=
  fun before => ⟨.refl before, allowed⟩

/-- Only the journal is written, and it grows. -/
theorem meets_modify {change : Journal → Journal} {post : PUnit → Prop}
    (grows : ∀ before : Journal, before.Extends (change before)) (holds : post ⟨⟩) :
    Meets fails (modify change : RunM PUnit) post :=
  fun before => ⟨grows before, holds⟩

theorem Meets.bind {run : RunM α} {rest : α → RunM β} (first : Meets fails run post)
    (second : ∀ result, post result → Meets fails (rest result) next) :
    Meets fails (run >>= rest) next := by
  intro before
  have outcome := first before
  rw [EStateM.run_bind]
  cases ran : run.run before with
  | error fault after =>
      rw [ran] at outcome
      exact outcome
  | ok result between =>
      rw [ran] at outcome
      have last := second result outcome.2 between
      simp only
      cases ended : (rest result).run between with
      | ok value after =>
          rw [ended] at last
          exact ⟨outcome.1.trans last.1, last.2⟩
      | error fault after =>
          rw [ended] at last
          exact ⟨outcome.1.trans last.1, last.2⟩

theorem Meets.map {run : RunM α} {f : α → β} (first : Meets fails run post)
    (image : ∀ result, post result → next (f result)) : Meets fails (f <$> run) next := by
  rw [map_eq_pure_bind]
  exact first.bind fun result holds => meets_pure (image result holds)

theorem Meets.weaken {run : RunM α} {weaker : α → Prop} (meets : Meets fails run post)
    (implies : ∀ result, post result → weaker result) : Meets fails run weaker := by
  intro before
  have outcome := meets before
  split <;> rename_i ran <;> rw [ran] at outcome
  · exact ⟨outcome.1, implies _ outcome.2⟩
  · exact outcome

/-- A run of two parts that ends well has two parts that do. -/
theorem bind_eq_ok {run : RunM α} {rest : α → RunM β} {before after : Journal} {result : β}
    (done : (run >>= rest).run before = .ok result after) :
    ∃ value between, run.run before = .ok value between ∧
      (rest value).run between = .ok result after := by
  rw [EStateM.run_bind] at done
  cases ran : run.run before with
  | error fault between =>
      rw [ran] at done
      cases done
  | ok value between =>
      rw [ran] at done
      exact ⟨value, between, rfl, done⟩

theorem Meets.exists_ok {run : RunM α} (meets : Meets fails run post) (none : ∀ fault, ¬fails fault)
    (before : Journal) : ∃ result after, run.run before = .ok result after := by
  have outcome := meets before
  split at outcome
  case h_1 result after ran => exact ⟨result, after, ran⟩
  case h_2 fault after ran => exact absurd outcome.2 (none fault)

theorem meets_touch (type : String) : Meets fails (touch type) fun _ => True := by
  refine meets_modify (fun before => ?_) trivial
  exact ⟨rfl, rfl, Imports.prefix_foldl_addNew _ _, List.prefix_refl _, Nat.le_refl _,
    fun _ => Nat.le_refl _⟩

theorem meets_note (profile : Profile) (entry : Note) :
    Meets fails (note profile entry) fun _ => True := by
  refine meets_modify (fun before => ?_) trivial
  exact ⟨rfl, rfl, List.prefix_refl _, List.prefix_append _ _, Nat.le_refl _,
    fun _ => Nat.le_refl _⟩

theorem meets_mapType (profile : Profile) (use : TypeUse) (type : String) :
    Meets fails (mapType profile use type) (· = profile.types.map use type) :=
  (meets_touch _).bind fun _ _ => meets_pure rfl

theorem meets_nextDiscard :
    Meets fails nextDiscard fun name => ∃ count : Nat, name = "_dummy_" ++ toString count := by
  intro before
  refine ⟨⟨rfl, rfl, List.prefix_refl _, List.prefix_refl _, Nat.le_succ _,
    fun _ => Nat.le_refl _⟩, before.discards, rfl⟩

theorem meets_nextTemp (tag : String) :
    Meets fails (nextTemp tag) fun name => ∃ count : Nat, name = tag ++ "_" ++ toString count := by
  intro before
  refine ⟨⟨rfl, rfl, List.prefix_refl _, List.prefix_refl _, Nat.le_refl _, fun asked => ?_⟩,
    before.tempCount tag + 1, rfl⟩
  have counted := before.tempCount_countTemp tag asked
  exact Nat.le_trans (Nat.le_add_right _ _) (Nat.le_of_eq counted.symm)

theorem meets_collect {f : α → RunM (Option β)} {items : List α}
    (each : ∀ item ∈ items, Meets fails (f item) fun found => ∀ result ∈ found, next result) :
    Meets fails (collect f items) fun results => ∀ result ∈ results, next result := by
  induction items with
  | nil => exact meets_pure (by simp)
  | cons item rest ih =>
      have others := ih fun later member => each later (List.mem_cons_of_mem _ member)
      refine (each item List.mem_cons_self).bind fun found holds => ?_
      cases found with
      | none => exact others
      | some result =>
          refine others.bind fun results allHold => meets_pure ?_
          intro member present
          rcases List.mem_cons.mp present with rfl | later
          · exact holds _ rfl
          · exact allHold member later

end RunM

end SharpToJava
