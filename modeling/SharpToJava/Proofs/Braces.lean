import SharpToJava.Proofs.Totality
import SharpToJava.Proofs.Tree.Brackets
import SharpToJava.Proofs.TypeMap.Characters

/-!
Braces of the output. The rules write their braces in pairs, and where a node is descended the
braces of its tokens are copied. So if the brace tokens of each node are nested, and no other text
of the tree brings in a brace, the braces of the Java text are nested.
-/

namespace SharpToJava

theorem TypeMap.java_spares_braces : TypeMap.java.Spares Brackets.braces.contains := by
  refine .of_entries (fun c => ?_) (fun c => ?_) (by decide) (fun use => by cases use <;> rfl)
  · exact Brackets.contains_eq_false (by decide) (by decide)
  · exact Brackets.contains_eq_false (by decide) (by decide)

/-- Braces are nested. -/
def Promise.nested : Promise TypeMap.java where
  holds text := Brackets.braces.Nested text.toList
  fails _ := True
  plain text plain := by
    refine .of_free ⟨?_, ?_⟩ <;>
    · intro member
      exact absurd (List.all_eq_true.mp plain _ member) (by decide)
  append before after := by
    rw [String.toList_append]
    exact before.append after
  newline := by decide
  tab := by decide
  braced inside := by
    rw [String.toList_append, String.toList_append]
    exact inside.wrap
  mapped use _ nested := nested.of_filter_eq (TypeMap.java_spares_braces.map use _)
  lowered nested := by
    refine nested.of_filter_eq (Text.filter_lowerFirst 0x7B 0x7D (by decide) (by decide)
      (by decide) (by decide +kernel) ?_ _)
    intro c brace
    rcases Brackets.contains_iff.mp brace with rfl | rfl <;> decide

namespace Promise

/-- A row of children whose other texts are nested has the braces of its brace tokens. -/
theorem nested_spells {children : List Child} {text : String}
    (spelled : Promise.nested.Spells children text) (level : Nat) :
    Brackets.braces.after? text.toList level = Brackets.braces.after?
      ((children.filterMap Child.token?).filterMap TokenBrackets.braces.char?) level := by
  -- a text that is nested by itself leaves the level as it was, so only brace tokens move it
  induction spelled generalizing level with
  | nil => rfl
  | @opening token rest lead trail text kind before after others ih =>
      have brace : TokenBrackets.braces.char? token = some Brackets.braces.opening := if_pos kind
      have spelledOut : ("\x7b" : String).toList = [Brackets.braces.opening] := rfl
      simp only [String.toList_append, spelledOut, List.singleton_append,
        Brackets.Nested.after?_append before, Brackets.Nested.after?_append after,
        Brackets.after?_opening, ih, List.filterMap_cons, Child.token?, brace]
  | @closing token rest lead trail text kind before after others ih =>
      have brace : TokenBrackets.braces.char? token = some Brackets.braces.closing := by
        rw [TokenBrackets.char?, kind]
        rfl
      have spelledOut : ("\x7d" : String).toList = [Brackets.braces.closing] := rfl
      simp only [String.toList_append, spelledOut, List.singleton_append,
        Brackets.Nested.after?_append before, List.filterMap_cons, Child.token?, brace]
      cases level with
      | zero => rw [Brackets.after?_closing_zero, Brackets.after?_closing_zero]
      | succ level =>
          rw [Brackets.after?_closing_succ, Brackets.after?_closing_succ,
            Brackets.Nested.after?_append after, ih]
  | @word token rest written text notOpening notClosing holds others ih =>
      have noBrace : TokenBrackets.braces.char? token = none :=
        TokenBrackets.char?_eq_none notOpening notClosing
      simp only [String.toList_append, Brackets.Nested.after?_append holds, ih,
        List.filterMap_cons, Child.token?, noBrace]
  | @node node rest written text holds others ih =>
      simp only [String.toList_append, Brackets.Nested.after?_append holds, ih,
        List.filterMap_cons, Child.token?]

end Promise

namespace Node

variable {node : Node}

theorem BracketClean.nested_of_spells (clean : node.BracketClean TokenBrackets.braces)
    {text : String} (spelled : Promise.nested.Spells node.children text) :
    Promise.nested.holds text := by
  refine Brackets.nested_iff.mpr ?_
  rw [Promise.nested_spells spelled]
  exact Brackets.nested_iff.mp clean.nested

/-- At every node of a clean tree the rules keep braces nested. -/
theorem nested_admits {root : Node} (clean : root.Every (BracketClean TokenBrackets.braces)) :
    root.Every Promise.nested.Admits := by
  intro node below
  have inside : node.Every (BracketClean TokenBrackets.braces) := clean.of_mem below
  refine ⟨⟨?_, fun has => .of_free (free_operator inside.here has),
    fun kind => .of_free (free_literalText inside kind),
    fun shows => .of_free (free_firstText inside shows), nested_tokenText inside,
    fun _ _ => trivial⟩, fun text => inside.here.nested_of_spells⟩
  intro token member kind
  exact .of_free (inside.here.others token member (by rw [TokenBrackets.char?, kind]; rfl))

end Node

/-- The braces of the Java text of a clean tree are nested. -/
theorem run_java_braces_nested (compiler : Compiler) (java : compiler.target = some .java)
    (clean : compiler.root.Every (Node.BracketClean TokenBrackets.braces)) (enforce : Bool)
    (output : String) (after : Compiler) (ran : compiler.run enforce = (.ok output, after)) :
    Brackets.braces.Nested output.toList := by
  have kept := Compiler.run_java_keeps java enforce (Node.nested_admits clean)
  rw [ran] at kept
  exact kept

/-- A class with a method whose one statement has no rule and brings braces of its own. -/
def Compiler.ofBracedStatement : Compiler where
  target := some .java
  root := .mk { kind := .unknown } [.node (.mk { kind := .classDecl } [
    .token { kind := .identifier, text := "A" },
    .token { kind := .openBrace, text := "\x7b" },
    .node (.mk { kind := .methodDecl } [
      .node (.mk { kind := .predefinedType } [.token { kind := .identifier, text := "void" }]),
      .token { kind := .identifier, text := "M" },
      .node (.mk { kind := .block } [
        .token { kind := .openBrace, text := "\x7b" },
        .node (.mk { kind := .unknown, rawName := some "TryStatement" } [
          .token { kind := .openBrace, text := "\x7b" },
          .token { kind := .closeBrace, text := "\x7d" }]),
        .token { kind := .closeBrace, text := "\x7d" }])]),
    .token { kind := .closeBrace, text := "\x7d" }])]

theorem run_java_braces_nested_statement :
    ∃ output after, Compiler.ofBracedStatement.run true = (.ok output, after) ∧
      Brackets.braces.Nested output.toList := by
  obtain ⟨output, ran⟩ : ∃ output, (Compiler.ofBracedStatement.run true).1 = .ok output :=
    Compiler.exists_run_java_ok rfl (by decide)
  have whole : Compiler.ofBracedStatement.run true =
      (.ok output, (Compiler.ofBracedStatement.run true).2) := Prod.ext ran rfl
  exact ⟨output, _, whole, run_java_braces_nested _ rfl (by decide) true output _ whole⟩

end SharpToJava
