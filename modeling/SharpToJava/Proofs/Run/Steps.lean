import SharpToJava.Proofs.Run.Meets

/-!
Runs made of steps. All that a run can do with its journal is to touch a type, to note a line and to
ask for a fresh name, one such step after the other (`RunM.OfSteps`). Of what the journal held before
only the counters are ever read, so from two journals with the same counters a run takes the same
steps: it ends alike and adds the same entries.
-/

namespace SharpToJava

/-- What a run adds to its journal, in the order in which it does so. -/
structure Entries where
  touched : List String := []
  lines : List String := []
  /-- How many discarded values got a name. -/
  discards : Nat := 0
  /-- The tags that helper variables were named after. -/
  tags : List String := []

/-- The entries of one run and then those of another. -/
instance : Append Entries where
  append first second := {
    touched := first.touched ++ second.touched
    lines := first.lines ++ second.lines
    discards := first.discards + second.discards
    tags := first.tags ++ second.tags }

namespace Journal

def record (journal : Journal) (entries : Entries) : Journal where
  imports := { journal.imports with
    touched := entries.touched.foldl Imports.addNew journal.imports.touched }
  discards := journal.discards + entries.discards
  temps := entries.tags.foldl countTemp journal.temps
  notes := journal.notes ++ entries.lines

@[simp] theorem record_empty (journal : Journal) : journal.record {} = journal := by simp [record]

theorem record_append (journal : Journal) (first second : Entries) :
    journal.record (first ++ second) = (journal.record first).record second := by
  change journal.record ⟨_ ++ _, _ ++ _, _ + _, _ ++ _⟩ = _
  simp [record, Nat.add_assoc]

theorem record_twice (journal : Journal) (touched lines further more : List String) :
    (journal.record { touched, lines }).record { touched := further, lines := more } =
      journal.record { touched := touched ++ further, lines := lines ++ more } :=
  (journal.record_append _ _).symm

theorem tempCount_le_foldl_countTemp (tags : List String) (journal : Journal) (asked : String) :
    journal.tempCount asked ≤
      { journal with temps := tags.foldl countTemp journal.temps }.tempCount asked := by
  induction tags generalizing journal with
  | nil => exact Nat.le_refl _
  | cons tag rest ih =>
      have once := journal.tempCount_countTemp tag asked
      have later := ih { journal with temps := countTemp journal.temps tag }
      rw [once] at later
      exact Nat.le_trans (Nat.le_add_right _ _) later

theorem extends_record (journal : Journal) (entries : Entries) :
    journal.Extends (journal.record entries) where
  paths := rfl
  defaults := rfl
  touched := Imports.prefix_foldl_addNew _ _
  notes := List.prefix_append _ _
  discards := Nat.le_add_right _ _
  temps := tempCount_le_foldl_countTemp entries.tags journal

/-- Journals from which the same names would be made up next. -/
structure SameCounters (first second : Journal) : Prop where
  discards : first.discards = second.discards
  temps : ∀ tag, first.temps.lookup tag = second.temps.lookup tag

theorem lookup_foldl_countTemp {temps others : List (String × Nat)}
    (same : ∀ tag, temps.lookup tag = others.lookup tag) (tags : List String) (asked : String) :
    (tags.foldl countTemp temps).lookup asked = (tags.foldl countTemp others).lookup asked := by
  induction tags generalizing temps others with
  | nil => exact same asked
  | cons tag rest ih =>
      apply ih
      intro other
      rw [lookup_countTemp, lookup_countTemp, same, same]

theorem SameCounters.record {first second : Journal} (same : first.SameCounters second)
    (entries : Entries) : (first.record entries).SameCounters (second.record entries) where
  discards := congrArg (· + entries.discards) same.discards
  temps := lookup_foldl_countTemp same.temps entries.tags

end Journal

namespace RunM

variable {α β : Type}

/-- A run that leaves its journal alone but for these steps. -/
inductive OfSteps : {α : Type} → RunM α → Prop where
  | pure {α : Type} (result : α) : OfSteps (pure result)
  | throw {α : Type} (fault : Fault) : OfSteps (throw fault : RunM α)
  | touch (type : String) : OfSteps (touch type)
  | noteLine (line : String) : OfSteps (noteLine line)
  | nextDiscard : OfSteps nextDiscard
  | nextTemp (tag : String) : OfSteps (nextTemp tag)
  | bind {α β : Type} {run : RunM α} {rest : α → RunM β} (first : OfSteps run)
      (second : ∀ result, OfSteps (rest result)) : OfSteps (run >>= rest)

theorem OfSteps.map {run : RunM α} (steps : OfSteps run) (f : α → β) : OfSteps (f <$> run) := by
  rw [map_eq_pure_bind]
  exact steps.bind fun result => .pure (f result)

theorem ofSteps_note (profile : Profile) (entry : Note) : OfSteps (note profile entry) :=
  .noteLine _

theorem ofSteps_mapType (profile : Profile) (use : TypeUse) (type : String) :
    OfSteps (mapType profile use type) :=
  (OfSteps.touch _).bind fun _ => .pure _

theorem ofSteps_collect {f : α → RunM (Option β)} {items : List α}
    (each : ∀ item ∈ items, OfSteps (f item)) : OfSteps (collect f items) := by
  induction items with
  | nil => exact .pure []
  | cons item rest ih =>
      have others := ih fun later member => each later (List.mem_cons_of_mem _ member)
      apply (each item List.mem_cons_self).bind
      intro found
      cases found with
      | none => exact others
      | some result => exact others.map (result :: ·)

/-- How a run ends, the journal at its end given. -/
def ending (outcome : Except Fault α) (journal : Journal) : EStateM.Result Fault Journal α :=
  match outcome with
  | .ok result => .ok result journal
  | .error fault => .error fault journal

theorem run_touch (type : String) (journal : Journal) :
    (touch type).run journal =
      .ok ⟨⟩ (journal.record { touched := TypeName.components type }) := by
  simp only [Journal.record, List.append_nil]
  rfl

theorem run_mapType (profile : Profile) (use : TypeUse) (type : String) (journal : Journal) :
    (mapType profile use type).run journal =
      .ok (profile.types.map use type) (journal.record {
        touched := TypeName.components (profile.types.map use type) }) := by
  rw [mapType, EStateM.run_bind, run_touch]
  rfl

theorem run_noteLine (line : String) (journal : Journal) :
    (noteLine line).run journal = .ok ⟨⟩ (journal.record { lines := [line] }) := rfl

theorem run_nextDiscard (journal : Journal) :
    nextDiscard.run journal =
      .ok ("_dummy_" ++ toString journal.discards) (journal.record { discards := 1 }) := by
  simp only [Journal.record, List.append_nil]
  rfl

theorem run_nextTemp (tag : String) (journal : Journal) :
    (nextTemp tag).run journal =
      .ok (tag ++ "_" ++ toString (journal.tempCount tag + 1))
        (journal.record { tags := [tag] }) := by
  simp only [Journal.record, List.append_nil]
  rfl

/-- From journals with the same counters a run takes the same steps. -/
theorem OfSteps.same_entries {run : RunM α} (steps : OfSteps run) {first second : Journal}
    (counters : first.SameCounters second) :
    ∃ (outcome : Except Fault α) (entries : Entries),
      run.run first = ending outcome (first.record entries) ∧
        run.run second = ending outcome (second.record entries) := by
  induction steps generalizing first second with
  | pure result =>
      refine ⟨.ok result, {}, ?_⟩
      rw [Journal.record_empty, Journal.record_empty]
      exact ⟨rfl, rfl⟩
  | throw fault =>
      refine ⟨.error fault, {}, ?_⟩
      rw [Journal.record_empty, Journal.record_empty]
      exact ⟨rfl, rfl⟩
  | touch type => exact ⟨.ok ⟨⟩, _, run_touch type first, run_touch type second⟩
  | noteLine line => exact ⟨.ok ⟨⟩, _, run_noteLine line first, run_noteLine line second⟩
  | nextDiscard =>
      refine ⟨.ok _, _, run_nextDiscard first, ?_⟩
      rw [run_nextDiscard, ← counters.discards]
      rfl
  | nextTemp tag =>
      have count : second.tempCount tag = first.tempCount tag := by
        rw [Journal.tempCount, Journal.tempCount, counters.temps]
      refine ⟨.ok _, _, run_nextTemp tag first, ?_⟩
      rw [run_nextTemp, count]
      rfl
  | @bind _ _ run rest _ _ firstIH secondIH =>
      obtain ⟨outcome, entries, one, two⟩ := firstIH counters
      cases outcome with
      | error fault =>
          refine ⟨.error fault, entries, ?_, ?_⟩
          · rw [EStateM.run_bind, one]
            rfl
          · rw [EStateM.run_bind, two]
            rfl
      | ok result =>
          -- the rest starts from journals that have grown alike
          obtain ⟨last, more, onward, likewise⟩ := secondIH result (counters.record entries)
          rw [← Journal.record_append] at onward likewise
          refine ⟨last, entries ++ more, ?_, ?_⟩
          · rw [EStateM.run_bind, one]
            exact onward
          · rw [EStateM.run_bind, two]
            exact likewise

theorem OfSteps.meets {run : RunM α} (steps : OfSteps run) :
    Meets (fun _ => True) run fun _ => True := by
  intro before
  obtain ⟨outcome, entries, ran, -⟩ := steps.same_entries ⟨rfl, fun _ => rfl⟩
  rw [ran]
  cases outcome with
  | error fault => exact ⟨before.extends_record entries, trivial⟩
  | ok result => exact ⟨before.extends_record entries, trivial⟩

end RunM

end SharpToJava
