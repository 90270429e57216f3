import SharpToJava.FileStore
import SharpToJava.Proofs.Dump.Grammar

/-!
What compiling from file to file leaves behind. Either the output file holds the whole text of the
result, or the store is as it was; no other file changes in any case. The conditions speak of the
store before the compilation, so that the output may overwrite the input.
-/

namespace SharpToJava

namespace Dump

variable {text : String} {root : Node}

/-- The text is a document of the grammar that the tree mirrors. -/
def Describes (text : String) (root : Node) : Prop :=
  ∃ json, Json.read? limits text = some json ∧ IsNode json ∧ Mirrors json (.node root)

theorem node_eq_ok_iff_mirrors {json : Json} :
    node json = .ok root ↔ IsNode json ∧ Mirrors json (.node root) := by
  constructor
  · exact node_sound json root
  · intro inGrammar
    obtain ⟨isNode, mirrors⟩ := inGrammar
    exact child_eq_ok_node.mp (child_of_mirrors json (.node isNode) _ mirrors)

theorem parse_eq_ok_iff_describes : parse text = .ok root ↔ Describes text root := by
  unfold parse Describes
  cases Json.read? limits text with
  | none => simp [Checked.fail]
  | some json => simp [node_eq_ok_iff_mirrors]

theorem not_describes_of_parse_error {issues : List Issue} (refused : parse text = .error issues)
    (root : Node) : ¬Describes text root := by
  intro describes
  have accepted := parse_eq_ok_iff_describes.mpr describes
  rw [refused] at accepted
  cases accepted

end Dump

namespace FileStore

variable {store : FileStore} {input output : String} {target : Target} {enforce : Bool}

theorem write_self (store : FileStore) (path text : String) :
    store.write path text path = some text :=
  if_pos rfl

theorem write_other (store : FileStore) {path other : String} (text : String)
    (differs : other ≠ path) : store.write path text other = store other :=
  if_neg differs

/-- The file holds the dump of a tree, and the tree compiles to this result. -/
def Compiles (store : FileStore) (input : String) (target : Target) (enforce : Bool)
    (result : Output) : Prop :=
  ∃ text root, store input = some text ∧ Dump.Describes text root ∧
    SharpToJava.compile root (some target) enforce = .ok result

/-- What stands in the way of a result, at the first of three points: there is no file, it does not
hold a dump, or the tree of the dump does not compile. -/
inductive Refuses (store : FileStore) (input : String) (target : Target) (enforce : Bool) :
    Failure → Prop where
  | missing (absent : store input = none) : Refuses store input target enforce .fileNotFound
  | invalid {text : String} {issues : List Issue} (present : store input = some text)
      (noDump : ∀ root, ¬Dump.Describes text root) (reported : Dump.parse text = .error issues) :
      Refuses store input target enforce (.invalidDump issues)
  | raised {text : String} {root : Node} {fault : Fault} (present : store input = some text)
      (isDump : Dump.Describes text root)
      (failed : SharpToJava.compile root (some target) enforce = .error fault) :
      Refuses store input target enforce (.fault fault)

theorem compile_of_compiles {result : Output} (output : String)
    (compiles : store.Compiles input target enforce result) :
    store.compile input output (some target) enforce =
      (.ok result, store.write output result.text) := by
  obtain ⟨text, root, present, isDump, done⟩ := compiles
  have accepted := Dump.parse_eq_ok_iff_describes.mpr isDump
  simp [compile, present, accepted, done]

theorem compile_of_refuses {failure : Failure} (output : String)
    (refuses : store.Refuses input target enforce failure) :
    store.compile input output (some target) enforce = (.error failure, store) := by
  cases refuses with
  | missing absent => simp [compile, absent]
  | invalid present noDump reported => simp [compile, present, reported]
  | raised present isDump failed =>
      have accepted := Dump.parse_eq_ok_iff_describes.mpr isDump
      simp [compile, present, accepted, failed]

/-- One of the two always applies. -/
theorem compiles_or_refuses (store : FileStore) (input : String) (target : Target)
    (enforce : Bool) :
    (∃ result, store.Compiles input target enforce result) ∨
      ∃ failure, store.Refuses input target enforce failure := by
  cases present : store input with
  | none => exact .inr ⟨_, .missing present⟩
  | some text =>
      cases accepted : Dump.parse text with
      | error issues =>
          exact .inr ⟨_, .invalid present (Dump.not_describes_of_parse_error accepted) accepted⟩
      | ok root =>
          have isDump := Dump.parse_eq_ok_iff_describes.mp accepted
          cases done : SharpToJava.compile root (some target) enforce with
          | ok result => exact .inl ⟨result, text, root, present, isDump, done⟩
          | error fault => exact .inr ⟨_, .raised present isDump done⟩

/-- No file but the output changes. -/
theorem compile_other (store : FileStore) (input : String) {output path : String}
    (target : Option Target) (enforce : Bool) (differs : path ≠ output) :
    (store.compile input output target enforce).2 path = store path := by
  cases target with
  | none => rfl
  | some target =>
      rcases store.compiles_or_refuses input target enforce with
        ⟨result, compiles⟩ | ⟨failure, refuses⟩
      · rw [compile_of_compiles output compiles]
        exact store.write_other result.text differs
      · rw [compile_of_refuses output refuses]

theorem compile_eq_ok_iff {result : Output} :
    (store.compile input output (some target) enforce).1 = .ok result ↔
      store.Compiles input target enforce result := by
  constructor
  · intro done
    rcases store.compiles_or_refuses input target enforce with
      ⟨own, compiles⟩ | ⟨failure, refuses⟩
    · rw [compile_of_compiles output compiles] at done
      cases done
      exact compiles
    · rw [compile_of_refuses output refuses] at done
      cases done
  · intro compiles
    rw [compile_of_compiles output compiles]

theorem compile_eq_error_iff {failure : Failure} :
    (store.compile input output (some target) enforce).1 = .error failure ↔
      store.Refuses input target enforce failure := by
  constructor
  · intro failed
    rcases store.compiles_or_refuses input target enforce with
      ⟨result, compiles⟩ | ⟨own, refuses⟩
    · rw [compile_of_compiles output compiles] at failed
      cases failed
    · rw [compile_of_refuses output refuses] at failed
      cases failed
      exact refuses
  · intro refuses
    rw [compile_of_refuses output refuses]

end FileStore

open FileStore

/-- A compilation from file to file changes the output at most. Where the value names no target the
result is failed and empty and nothing changes, whether or not there is an input. Else it fails for
what stands in the way of a result and changes nothing, or it gives the result of the dump that was
in the input before, and then the output holds the text of that result. -/
theorem compile_all_or_nothing (store : FileStore) (input output : String) (value : Json)
    (enforce : Bool) {result : Except Failure Output} {after : FileStore}
    (compiled : store.compile input output (Target.ofJson? value) enforce = (result, after)) :
    (∀ path, path ≠ output → after path = store path) ∧
    (Target.ofJson? value = none →
      result = .ok { text := "", failed := true, debug := [], unit := none } ∧ after = store) ∧
    ∀ target, Target.ofJson? value = some target →
      (∀ failure, result = .error failure ↔ store.Refuses input target enforce failure) ∧
      (∀ final, result = .ok final ↔ store.Compiles input target enforce final) ∧
      (∀ failure, result = .error failure → after = store) ∧
      ∀ final, result = .ok final → after output = some final.text := by
  obtain ⟨rfl, rfl⟩ := Prod.ext_iff.mp compiled
  refine ⟨fun path differs => store.compile_other input _ enforce differs, ?_, ?_⟩
  · intro noTarget
    rw [noTarget]
    exact ⟨rfl, rfl⟩
  · intro target chosen
    rw [chosen]
    refine ⟨fun _ => compile_eq_error_iff, fun _ => compile_eq_ok_iff, ?_, ?_⟩
    · intro failure failed
      rw [compile_of_refuses output (compile_eq_error_iff.mp failed)]
    · intro final done
      rw [compile_of_compiles output (compile_eq_ok_iff.mp done)]
      exact store.write_self output final.text

/-- A dump of one class that is compiled in place: its own file ends up with the text. -/
theorem compile_all_or_nothing_inPlace :
    let dump := "\x7b\"kind\": \"CompilationUnit\", \"children\": [" ++
      "\x7b\"kind\": \"ClassDeclaration\", \"children\": [" ++
      "\x7b\"token\": \"IdentifierToken\", \"text\": \"Box\"\x7d]\x7d]\x7d"
    let store : FileStore := fun path => if path = "unit" then some dump else none
    ∃ result after,
      store.compile "unit" "unit" (Target.ofJson? (.string " Java ")) true = (.ok result, after) ∧
      result.text = "\n\nclass Box \x7b\n\n\x7d\n" ∧ after "unit" = some result.text ∧
      after "other" = none ∧ store.Compiles "unit" .java true result := by
  intro dump store
  have java : Target.ofJson? (.string " Java ") = some .java := by decide +kernel
  have text : (store.compile "unit" "unit" (some .java) true).1.toOption.map Output.text =
      some "\n\nclass Box \x7b\n\n\x7d\n" := by decide +kernel
  rw [← java] at text
  obtain ⟨result, ends, text⟩ := Option.map_eq_some_iff.mp text
  cases compiled : store.compile "unit" "unit" (Target.ofJson? (.string " Java ")) true with
  | mk outcome after =>
      rw [compiled] at ends
      cases outcome with
      | error failure => cases ends
      | ok final =>
          cases ends
          obtain ⟨others, -, chosen⟩ := compile_all_or_nothing _ _ _ _ _ compiled
          obtain ⟨-, gives, -, written⟩ := chosen .java java
          exact ⟨result, after, rfl, text, written result rfl, others "other" (by decide),
            (gives result).mp rfl⟩

end SharpToJava
