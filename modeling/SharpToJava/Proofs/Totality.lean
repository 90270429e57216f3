import SharpToJava.Dump.Reader
import SharpToJava.Proofs.Decl.Promise

/-!
A run for Java can fail in one way only: at a member access that has no child to name its member.
Whatever else a tree lacks, there is a rule that goes on without it.
-/

namespace SharpToJava

/-- Nothing is promised of a text; a fault has a reason in the tree. -/
def Promise.faultsOf (types : TypeMap) (root : Node) : Promise types where
  holds _ := True
  fails fault := fault = .memberWithoutName ∧
    ∃ node ∈ root.nodes, node.kind = .memberAccess ∧ node.childNodes = []
  plain _ _ := trivial
  append _ _ := trivial
  newline := trivial
  tab := trivial
  braced _ := trivial
  mapped _ _ _ := trivial
  lowered _ := trivial

theorem Promise.faultsOf_admits (types : TypeMap) (root : Node) :
    root.Every (Promise.faultsOf types root).Admits := by
  intro node member
  refine ⟨⟨?_, ?_, ?_, ?_, trivial, ?_⟩, fun _ _ => trivial⟩
  · exact fun _ _ _ => trivial
  · exact fun _ => trivial
  · exact fun _ => trivial
  · exact fun _ => trivial
  · exact fun kind childless => ⟨rfl, node, member, kind, childless⟩

namespace Compiler

variable {compiler : Compiler} {enforce : Bool} {fault : Fault}

/-- The fault of a run for Java names what the tree lacks. -/
theorem of_run_java_error (java : compiler.target = some .java)
    (failed : (compiler.run enforce).1 = .error fault) :
    fault = .memberWithoutName ∧
      ∃ node ∈ compiler.root.nodes, node.kind = .memberAccess ∧ node.childNodes = [] := by
  have kept := run_java_keeps java enforce (Promise.faultsOf_admits TypeMap.java compiler.root)
  rw [failed] at kept
  exact kept

/-- If every member access has a child, a run for Java gives an output. -/
theorem exists_run_java_ok (java : compiler.target = some .java)
    (named : compiler.root.Every fun node => node.kind = .memberAccess → node.childNodes ≠ []) :
    ∃ output, (compiler.run enforce).1 = .ok output := by
  cases ran : (compiler.run enforce).1 with
  | ok output => exact ⟨output, rfl⟩
  | error fault =>
      obtain ⟨-, node, member, kind, childless⟩ := of_run_java_error java ran
      exact absurd childless (named node member kind)

end Compiler

/-- Only a run for Java fails, and with the fault of that run. -/
theorem run_java_of_compile_error {root : Node} {target : Option Target} {enforce : Bool}
    {fault : Fault} (failed : compile root target enforce = .error fault) :
    (Compiler.run { target := some .java, root } enforce).1 = .error fault := by
  cases target with
  | none => cases failed
  | some target =>
      cases target with
      | kotlin => cases failed
      | java =>
          unfold compile at failed
          simp only at failed
          split at failed
          · cases failed
          · cases failed
            rename_i ran
            rw [ran]

/-- A run for Java gives an output for every tree whose member accesses have children. A run that
fails, and the compilation of a dump that fails, for whatever target, does so for a member access
without any. -/
theorem run_java_total (compiler : Compiler) (java : compiler.target = some .java)
    (enforce : Bool) :
    (compiler.root.Every (fun node => node.kind = .memberAccess → node.childNodes ≠ []) →
      ∃ output, (compiler.run enforce).1 = .ok output) ∧
    (∀ fault, (compiler.run enforce).1 = .error fault →
      fault = .memberWithoutName ∧
        ∃ node ∈ compiler.root.nodes, node.kind = .memberAccess ∧ node.childNodes = []) ∧
    ∀ dump root target fault, Dump.node dump = .ok root →
      compile root target enforce = .error fault →
        fault = .memberWithoutName ∧
          ∃ node ∈ root.nodes, node.kind = .memberAccess ∧ node.childNodes = [] := by
  refine ⟨Compiler.exists_run_java_ok java, fun fault => Compiler.of_run_java_error java, ?_⟩
  intro dump root target fault _ failed
  exact Compiler.of_run_java_error rfl (run_java_of_compile_error failed)

/-- A class whose one field has the value `a.b`, with no word of it spelled out. -/
theorem run_java_total_bare_class :
    ∃ output, (Compiler.run
      { target := some .java
        root := .mk { kind := .unknown } [.node (.mk { kind := .classDecl } [
          .node (.mk { kind := .fieldDecl } [.node (.mk { kind := .variableDecl } [
            .node (.mk { kind := .variableDeclarator } [.node (.mk { kind := .equalsValueClause }
              [.node (.mk { kind := .memberAccess }
                [.node (.mk { kind := .identifierName } [])])])])])])])] }
      true).1 = .ok output :=
  (run_java_total _ rfl true).1 (by decide)

end SharpToJava
