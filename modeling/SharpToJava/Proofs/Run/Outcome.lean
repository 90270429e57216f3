import SharpToJava.Proofs.Run.Meets

/-!
The result of a run. `RunM.Gives` says what it is like if there is one, whatever the journal.
`RunM.Threads` follows the journal through a run over a list, from item to item. `RunM.InStep` puts
two runs side by side: from one journal both go on to the same journal with results that belong
together, or both end with the same fault.
-/

namespace SharpToJava

namespace RunM

variable {α β γ δ : Type}

/-- Whenever the run has a result, it is as promised. -/
def Gives (run : RunM α) (post : α → Prop) : Prop :=
  ∀ before result after, run.run before = .ok result after → post result

theorem gives_pure {result : α} {post : α → Prop} (holds : post result) :
    Gives (pure result) post := by
  intro before value after done
  cases done
  exact holds

theorem gives_throw (fault : Fault) {post : α → Prop} : Gives (throw fault) post :=
  fun _ _ _ done => nomatch done

theorem Gives.weaken {run : RunM α} {post weaker : α → Prop} (gives : run.Gives post)
    (implies : ∀ result, post result → weaker result) : run.Gives weaker :=
  fun before result after done => implies result (gives before result after done)

theorem Gives.bind {run : RunM α} {rest : α → RunM β} {post : α → Prop} {next : β → Prop}
    (first : run.Gives post) (second : ∀ result, post result → (rest result).Gives next) :
    (run >>= rest).Gives next := by
  intro before result after done
  obtain ⟨value, between, ran, ended⟩ := bind_eq_ok done
  exact second value (first before value between ran) between result after ended

/-- A first step of which nothing needs to be known. -/
theorem gives_bind {run : RunM α} {rest : α → RunM β} {next : β → Prop}
    (second : ∀ result, (rest result).Gives next) : (run >>= rest).Gives next := by
  intro before result after done
  obtain ⟨value, between, -, ended⟩ := bind_eq_ok done
  exact second value between result after ended

theorem Gives.map {run : RunM α} {f : α → β} {post : α → Prop} {next : β → Prop}
    (first : run.Gives post) (image : ∀ result, post result → next (f result)) :
    (f <$> run).Gives next := by
  rw [map_eq_pure_bind]
  exact first.bind fun result holds => gives_pure (image result holds)

theorem Meets.gives {run : RunM α} {post : α → Prop} (meets : Meets (fun _ => True) run post) :
    run.Gives post :=
  fun _ _ _ done => (meets.of_ok done).2

/-- What follows a run may count on what the run gives. -/
theorem Gives.bind_congr {run : RunM α} {rest other : α → RunM β} {post : α → Prop}
    (gives : run.Gives post) (same : ∀ result, post result → rest result = other result) :
    run >>= rest = run >>= other := by
  funext before
  change (run >>= rest).run before = (run >>= other).run before
  rw [EStateM.run_bind, EStateM.run_bind]
  cases ran : run.run before with
  | error fault after => rfl
  | ok result after => simp only [same result (gives before result after ran)]

theorem Gives.map_eq_self {run : RunM α} {f : α → α}
    (gives : run.Gives fun result => f result = result) : f <$> run = run := by
  rw [map_eq_pure_bind, gives.bind_congr fun result same => congrArg pure same, bind_pure]

theorem mapM_map (f : α → RunM β) (g : β → γ) (items : List α) :
    (items.mapM fun item => g <$> f item) = List.map g <$> items.mapM f := by
  induction items with
  | nil => simp
  | cons item rest ih => simp [List.mapM_cons, ih]

theorem gives_mapM {f : α → RunM β} {items : List α} {post : β → Prop}
    (each : ∀ item ∈ items, (f item).Gives post) :
    (items.mapM f).Gives fun results => ∀ result ∈ results, post result := by
  induction items with
  | nil => exact gives_pure (by simp)
  | cons item rest ih =>
      rw [List.mapM_cons]
      refine (each item List.mem_cons_self).bind fun result holds => ?_
      refine (ih fun later member => each later (List.mem_cons_of_mem _ member)).bind ?_
      intro results allHold
      exact gives_pure (List.forall_mem_cons.mpr ⟨holds, allHold⟩)

theorem gives_length_mapM (f : α → RunM β) (items : List α) :
    (items.mapM f).Gives fun results => results.length = items.length := by
  induction items with
  | nil => exact gives_pure rfl
  | cons item rest ih =>
      rw [List.mapM_cons]
      refine gives_bind fun result => ih.bind fun results length => gives_pure ?_
      rw [List.length_cons, List.length_cons, length]

/-- The result alone, if there is one. -/
def result? (run : RunM α) (before : Journal) : Option α :=
  match run.run before with
  | .ok result _ => some result
  | .error _ _ => none

theorem exists_of_result? {run : RunM α} {before : Journal} {result : α}
    (found : run.result? before = some result) :
    ∃ after, run.run before = .ok result after := by
  unfold result? at found
  split at found
  case h_1 value after ran =>
    cases found
    exact ⟨after, ran⟩
  case h_2 => cases found

/-- The results of the items of a list, each made from the journal that the item before it left; an
item may have none. -/
inductive Threads (step : α → Journal → Option β → Journal → Prop) :
    List α → Journal → List β → Journal → Prop
  | nil {journal : Journal} : Threads step [] journal [] journal
  | cons {item : α} {items : List α} {start between stop : Journal} {out : Option β}
    {results : List β} (first : step item start out between)
    (rest : Threads step items between results stop) :
    Threads step (item :: items) start (out.toList ++ results) stop

section Threads

variable {step : α → Journal → Option β → Journal → Prop} {items : List α} {results : List β}
  {start stop : Journal}

theorem threads_of_collect {f : α → RunM (Option β)}
    (ran : (collect f items).run start = .ok results stop) :
    Threads (fun item before out after => (f item).run before = .ok out after) items start results
      stop := by
  induction items generalizing start results with
  | nil =>
      cases ran
      exact .nil
  | cons item rest ih =>
      obtain ⟨out, between, first, others⟩ := bind_eq_ok ran
      cases out with
      | none => exact .cons first (ih others)
      | some result =>
          obtain ⟨later, last, remaining, ended⟩ := bind_eq_ok others
          cases ended
          exact .cons first (ih remaining)

theorem Threads.mono {next : α → Journal → Option β → Journal → Prop}
    (threads : Threads step items start results stop)
    (each : ∀ item before out after, step item before out after → next item before out after) :
    Threads next items start results stop := by
  induction threads with
  | nil => exact .nil
  | cons first rest ih => exact .cons (each _ _ _ _ first) ih

/-- The results of one sort. -/
theorem Threads.filterMap {next : α → Journal → Option γ → Journal → Prop} {sort : β → Option γ}
    (threads : Threads step items start results stop)
    (each : ∀ item before out after, step item before out after →
      next item before (out.bind sort) after) :
    Threads next items start (results.filterMap sort) stop := by
  induction threads with
  | nil => exact .nil
  | @cons item items start between stop out results first rest ih =>
      have sorted : (out.toList ++ results).filterMap sort =
          (out.bind sort).toList ++ results.filterMap sort := by
        cases out with
        | none => rfl
        | some result => cases found : sort result <;> simp [found]
      rw [sorted]
      exact .cons (each item start out between first) ih

/-- What depends on the item alone, of each result. -/
theorem Threads.map_eq {p : α → Bool} {f : β → γ} {g : α → γ}
    (threads : Threads step items start results stop)
    (each : ∀ item before out after, step item before out after →
      out.map f = if p item then some (g item) else none) :
    results.map f = (items.filter p).map g := by
  induction threads with
  | nil => rfl
  | @cons item items start between stop out results first rest ih =>
      have known := each item start out between first
      rw [List.map_append, ih, ← Option.toList_map, known]
      cases kept : p item <;> simp [kept]

end Threads

/-- From one journal both runs come to the same journal with results that belong together, or both
end with the same fault. -/
def InStep (related : α → β → Prop) (run : RunM α) (other : RunM β) : Prop :=
  ∀ before,
    match run.run before, other.run before with
    | .ok result after, .ok value later => after = later ∧ related result value
    | .error fault after, .error failure later => after = later ∧ fault = failure
    | _, _ => False

variable {related : α → β → Prop} {further : γ → δ → Prop}

theorem InStep.of_ok {run : RunM α} {other : RunM β} (inStep : InStep related run other)
    {before after : Journal} {result : α} (done : run.run before = .ok result after) :
    ∃ value, other.run before = .ok value after ∧ related result value := by
  have outcome := inStep before
  rw [done] at outcome
  cases beside : other.run before <;> rw [beside] at outcome
  case ok value later =>
    obtain ⟨rfl, both⟩ := outcome
    exact ⟨value, rfl, both⟩
  case error => exact outcome.elim

theorem inStep_pure {result : α} {value : β} (both : related result value) :
    InStep related (pure result) (pure value) :=
  fun _ => ⟨rfl, both⟩

theorem inStep_map {f : α → β} (each : ∀ result, related result (f result)) (run : RunM α) :
    InStep related run (f <$> run) := by
  intro before
  rw [map_eq_pure_bind, EStateM.run_bind]
  cases run.run before with
  | ok result after => exact ⟨rfl, each result⟩
  | error fault after => exact ⟨rfl, rfl⟩

/-- Two readings of one run go in step. -/
theorem Gives.inStep_map {run : RunM α} {f : α → β} {g : α → γ} {post : α → Prop}
    {related : β → γ → Prop} (gives : run.Gives post)
    (each : ∀ result, post result → related (f result) (g result)) :
    InStep related (f <$> run) (g <$> run) := by
  intro before
  rw [map_eq_pure_bind, map_eq_pure_bind, EStateM.run_bind, EStateM.run_bind]
  cases ran : run.run before with
  | ok result after => exact ⟨rfl, each result (gives before result after ran)⟩
  | error fault after => exact ⟨rfl, rfl⟩

theorem InStep.bind {run : RunM α} {other : RunM β} {rest : α → RunM γ} {remaining : β → RunM δ}
    (first : InStep related run other)
    (second : ∀ result value, related result value →
      InStep further (rest result) (remaining value)) :
    InStep further (run >>= rest) (other >>= remaining) := by
  intro before
  have outcome := first before
  rw [EStateM.run_bind, EStateM.run_bind]
  cases ran : run.run before <;> cases beside : other.run before <;> rw [ran, beside] at outcome
  case ok.ok result after value later =>
    obtain ⟨rfl, both⟩ := outcome
    exact second result value both after
  case error.error fault after failure later => exact outcome
  all_goals exact outcome.elim

/-- Runs in step whose results are a function of each other. -/
theorem InStep.eq_map {f : α → β} {run : RunM α} {other : RunM β}
    (inStep : InStep (fun result value => value = f result) run other) : other = f <$> run := by
  funext before
  change other.run before = (f <$> run).run before
  have outcome := inStep before
  rw [map_eq_pure_bind, EStateM.run_bind]
  cases ran : run.run before <;> cases beside : other.run before <;> rw [ran, beside] at outcome
  case ok.ok result after value later =>
    obtain ⟨rfl, rfl⟩ := outcome
    rfl
  case error.error fault after failure later =>
    obtain ⟨rfl, rfl⟩ := outcome
    rfl
  all_goals exact outcome.elim

end RunM

end SharpToJava
