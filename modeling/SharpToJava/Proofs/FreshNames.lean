import SharpToJava.Compiler
import SharpToJava.Proofs.Lists
import SharpToJava.Proofs.Run.Steps
import SharpToJava.Session

/-!
Fresh names never clash. A name is a stem, an underscore and a number, and both can be read off it
again: the number has no underscore in it, so the last one is where the stem ends. Each stem has a
counter of its own that only goes up, whatever is asked for in between.
-/

namespace SharpToJava

/-- The name with this stem and number. -/
def Text.numbered (stem : String) (number : Nat) : String := stem ++ "_" ++ toString number

/-- A stem may have underscores and digits in it; the name still tells where it ends. -/
theorem Text.numbered_inj {stem other : String} {number count : Nat}
    (same : numbered stem number = numbered other count) : stem = other ∧ number = count := by
  have noUnderscore : ∀ value : Nat, ∀ c ∈ (Nat.toDigits 10 value).reverse, (c == '_') = false := by
    intro value c member
    apply beq_false_of_ne
    intro underscore
    exact Nat.underscore_not_in_toDigits (underscore ▸ List.mem_reverse.mp member)
  have backwards : ∀ (text : String) (value : Nat), (numbered text value).toList.reverse =
      (Nat.toDigits 10 value).reverse ++ '_' :: text.toList.reverse := by
    intro text value
    simp [numbered]
  have lists := congrArg (fun text => text.toList.reverse) same
  simp only [backwards] at lists
  obtain ⟨numbers, stems⟩ := append_inj_of_cut (noUnderscore number) (noUnderscore count)
    (by simp) (by simp) lists
  constructor
  · exact String.toList_inj.mp (List.reverse_injective (List.cons.inj stems).2)
  · have read := congrArg (Nat.ofDigitChars 10 · 0) (List.reverse_injective numbers)
    simpa using read

namespace RunM

namespace Request

def stem : Request → String
  | discard => "_dummy"
  | temp tag => tag

/-- Only a helper variable with the stem of discarded values could be taken for one. -/
theorem eq_of_stem_eq {first second : Request} (apart : first ≠ temp "_dummy")
    (apartToo : second ≠ temp "_dummy") (same : first.stem = second.stem) : first = second := by
  cases first with
  | discard =>
      cases second with
      | discard => rfl
      | temp tag => exact absurd (congrArg temp same.symm) apartToo
  | temp tag =>
      cases second with
      | discard => exact absurd (congrArg temp same) apart
      | temp other => exact congrArg temp same

/-- The number that the next name on this request will have. -/
def next (journal : Journal) : Request → Nat
  | discard => journal.discards
  | temp tag => journal.tempCount tag + 1

theorem next_nextTemp (journal : Journal) (tag : String) (request : Request) :
    next { journal with temps := Journal.countTemp journal.temps tag } request =
      next journal request + if request = temp tag then 1 else 0 := by
  cases request with
  | discard => rfl
  | temp asked =>
      have counted := journal.tempCount_countTemp tag asked
      simp only [next, counted, temp.injEq]
      omega

end Request

/-- What a call does about names: it answers a request with the next number for it, and of all
counters it moves the one of that request. -/
structure Names (call : Call) (before : Journal) (answer : Option String) (after : Journal) :
    Prop where
  answered : ∀ request, call = .name request →
    answer = some (Text.numbered request.stem (request.next before))
  counted : ∀ request, request.next after =
    request.next before + if call = .name request then 1 else 0

theorem names_call (profile : Profile) (call : Call) (before : Journal) :
    ∃ answer after, (RunM.call profile call).run before = .ok answer after ∧
      Names call before answer after := by
  cases call with
  | name request =>
      cases request with
      | discard =>
          refine ⟨_, _, rfl, ?_, ?_⟩
          · intro request same
            cases same
            rfl
          · intro request
            cases request <;> rfl
      | temp tag =>
          refine ⟨_, _, rfl, ?_, ?_⟩
          · intro request same
            cases same
            rfl
          · intro request
            simpa [eq_comm] using Request.next_nextTemp before tag request
  | note line =>
      refine ⟨_, _, rfl, nofun, ?_⟩
      intro request
      cases request <;> rfl
  | mapType use type =>
      refine ⟨_, _, rfl, nofun, ?_⟩
      intro request
      cases request <;> rfl

/-- The answers to one request. -/
def namesFor (request : Request) (calls : List Call) (answers : List (Option String)) :
    List String :=
  (calls.zip answers).filterMap fun (call, answer) => if call = .name request then answer else none

theorem namesFor_cons (request : Request) (call : Call) (calls : List Call)
    (answer : Option String) (answers : List (Option String)) :
    namesFor request (call :: calls) (answer :: answers) =
      (if call = .name request then answer.toList else []) ++ namesFor request calls answers := by
  rw [namesFor, List.zip_cons_cons, List.filterMap_cons]
  by_cases asked : call = .name request
  · cases answer <;> simp [asked, namesFor]
  · simp [asked, namesFor]

/-- The answers to all requests for names. -/
def freshNames (calls : List Call) (answers : List (Option String)) : List String :=
  (calls.zip answers).filterMap fun (call, answer) =>
    match call with
    | .name _ => answer
    | _ => none

theorem exists_request_of_mem_freshNames {calls : List Call} {answers : List (Option String)}
    {name : String} (member : name ∈ freshNames calls answers) :
    ∃ request, .name request ∈ calls ∧ name ∈ namesFor request calls answers := by
  obtain ⟨⟨call, answer⟩, listed, found⟩ := List.mem_filterMap.mp member
  cases call with
  | name request =>
      refine ⟨request, (List.of_mem_zip listed).1, ?_⟩
      exact List.mem_filterMap.mpr ⟨_, listed, by simpa using found⟩
  | note line => cases found
  | mapType use type => cases found

/-- What calls do about names, one after the other. -/
structure Named (calls : List Call) (before : Journal) (answers : List (Option String)) : Prop where
  length : answers.length = calls.length
  numbered : ∀ request, namesFor request calls answers =
    (List.range' (request.next before) (calls.count (.name request))).map
      (Text.numbered request.stem)
  distinct : .name (.temp "_dummy") ∉ calls → (freshNames calls answers).Nodup

theorem named_nil (before : Journal) : Named [] before [] where
  length := rfl
  numbered _ := rfl
  distinct _ := List.nodup_nil

theorem Named.cons {call : Call} {calls : List Call} {before between : Journal}
    {answer : Option String} {answers : List (Option String)}
    (first : Names call before answer between) (rest : Named calls between answers) :
    Named (call :: calls) before (answer :: answers) where
  length := congrArg (· + 1) rest.length
  numbered request := by
    rw [namesFor_cons, rest.numbered, first.counted, List.count_cons]
    by_cases asked : call = .name request
    · simp [asked, first.answered request asked, List.range'_succ]
    · simp [asked]
  distinct apart := by
    have apartLater : .name (.temp "_dummy") ∉ calls := fun member =>
      apart (List.mem_cons_of_mem _ member)
    have others := rest.distinct apartLater
    cases call with
    | note line => exact others
    | mapType use type => exact others
    | name request =>
        rw [first.answered request rfl]
        apply List.nodup_cons.mpr
        constructor
        · intro member
          -- a later name with the same stem is for the same request, so its number is higher
          obtain ⟨other, asked, listed⟩ := exists_request_of_mem_freshNames member
          rw [rest.numbered] at listed
          obtain ⟨number, range, same⟩ := List.mem_map.mp listed
          obtain ⟨stems, rfl⟩ := Text.numbered_inj same
          have requests : other = request := Request.eq_of_stem_eq
            (fun equal => apartLater (equal ▸ asked))
            (fun equal => apart (equal ▸ List.mem_cons_self)) stems
          subst requests
          have counted := first.counted other
          rw [if_pos rfl] at counted
          have bound := (List.mem_range'_1.mp range).1
          omega
        · exact others

theorem named_calls (profile : Profile) (calls : List Call) (before : Journal) :
    ∃ answers after, (calls.mapM (call profile)).run before = .ok answers after ∧
      Named calls before answers := by
  induction calls generalizing before with
  | nil => exact ⟨[], before, rfl, named_nil before⟩
  | cons first rest ih =>
      obtain ⟨answer, between, ran, names⟩ := names_call profile first before
      obtain ⟨answers, after, others, named⟩ := ih between
      refine ⟨answer :: answers, after, ?_, .cons names named⟩
      rw [List.mapM_cons, EStateM.run_bind, ran]
      simp only
      rw [EStateM.run_bind, others]
      rfl

end RunM

/-- Fresh names are all different, whatever a run is asked for in between, as long as no helper
variable takes the stem of the discarded values. The names of discarded values are numbered one
after the other from the number of those before, and so are the helper variables of each tag. -/
theorem fresh_names_distinct (profile : Profile) (before : Journal) (calls : List RunM.Call)
    (apart : .name (.temp "_dummy") ∉ calls) :
    ∃ answers after, (calls.mapM (RunM.call profile)).run before = .ok answers after ∧
      answers.length = calls.length ∧
      (RunM.freshNames calls answers).Nodup ∧
      RunM.namesFor .discard calls answers =
        (List.range' before.discards (calls.count (.name .discard))).map
          (fun number => "_dummy_" ++ toString number) ∧
      ∀ tag, RunM.namesFor (.temp tag) calls answers =
        (List.range' (before.tempCount tag + 1) (calls.count (.name (.temp tag)))).map
          (fun number => tag ++ "_" ++ toString number) := by
  obtain ⟨answers, after, ran, named⟩ := RunM.named_calls profile calls before
  refine ⟨answers, after, ran, named.length, named.distinct apart, ?_, ?_⟩
  · exact named.numbered .discard
  · intro tag
    exact named.numbered (.temp tag)

/-- The tags look like parts of names themselves, and a note stands in between. -/
theorem fresh_names_distinct_underscoredTags :
    let calls : List RunM.Call := [.name (.temp "a_1"), .name .discard, .name (.temp "a"),
      .note "halfway", .name (.temp "_dummy_0"), .name .discard, .name (.temp "a"),
      .name (.temp "a_1")]
    ∃ answers after,
      (calls.mapM (RunM.call (Profile.java true))).run Journal.java = .ok answers after ∧
      RunM.freshNames calls answers =
        ["a_1_1", "_dummy_0", "a_1", "_dummy_0_1", "_dummy_1", "a_2", "a_1_2"] ∧
      (RunM.freshNames calls answers).Nodup ∧
      RunM.namesFor .discard calls answers = ["_dummy_0", "_dummy_1"] ∧
      RunM.namesFor (.temp "a") calls answers = ["a_1", "a_2"] := by
  intro calls
  obtain ⟨answers, after, ran, -, distinct, discards, temps⟩ :=
    fresh_names_distinct (Profile.java true) Journal.java calls (by decide)
  refine ⟨answers, after, ran, ?_, distinct, discards, temps "a"⟩
  cases ran
  decide

end SharpToJava
