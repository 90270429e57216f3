import SharpToJava.Compiler
import SharpToJava.Proofs.Phrase.Lines
import SharpToJava.Proofs.Totality

/-!
Statements under a guard. Java reads the next statement after `if (..)`, `else` or `for (..)` as
what the guard is for. A statement that is not a block is written below its guard as it would be
anywhere else, without braces, so the guard is for the whole of it only if it stays on one line.
-/

namespace SharpToJava

/-- There is no new line but one that ends the text. -/
def Text.IsOneLine (text : String) : Prop := '\n' ∉ text.toList.dropLast

instance : DecidablePred Text.IsOneLine := fun text =>
  inferInstanceAs (Decidable ('\n' ∉ text.toList.dropLast))

namespace Node

/-- The statement that a branch or a loop is for. -/
def governed? (node : Node) : Option Node :=
  match node.kind with
  | .ifStatement => node.pick? .branch
  | .elseClause => node.pick? .elseStatement
  | .forStatement => node.forStatement?
  | _ => none

theorem mem_childNodes_of_governed? {node statement : Node}
    (governed : node.governed? = some statement) : statement ∈ node.childNodes := by
  unfold governed? at governed
  split at governed
  · exact mem_of_pick? governed
  · exact mem_of_pick? governed
  · exact mem_childNodes_of_forStatement? governed
  · cases governed

end Node

namespace Place

/-- Whether an expression statement or the declaration of a variable takes several statements. -/
def expands (place : Place) (profile : Profile) : Bool :=
  match place.kind with
  | .expressionStatement => (place.slotPhrase .expression).breaksLine profile
  | .localDeclStatement =>
    (place.node.pick? .declaration).any fun declaration =>
      (place.enter declaration).declarationPhrase.breaksLine profile
  | _ => false

variable {place : Place} {profile : Profile}

theorem phrase_invocation (kind : place.node.kind = .invocation) :
    place.phrase =
      .call (place.slotPhrase .expression) ((place.arguments .callArguments).map phrase) := by
  rw [phrase]
  simp only [kind, mapSlot_eq_map, mapArguments_eq_map, slotPhrase]
  cases place.node.pick? .expression <;> rfl

theorem phrase_memberAccess {name : Node} (kind : place.node.kind = .memberAccess)
    (named : place.node.pick? .memberName = some name) :
    place.phrase = Phrase.member (place.slotPhrase .expression) name := by
  rw [phrase]
  simp only [kind, named, mapSlot_eq_map, slotPhrase]
  cases place.node.pick? .expression <;> rfl

theorem phrase_identifierName (kind : place.node.kind = .identifierName)
    (read : place.node.identifier ≠ "_") : place.phrase = .text place.node.identifier := by
  rw [phrase]
  simp only [kind, if_neg read]

theorem slotPhrase_of_pick? {slot : Slot} {child : Node} (filled : place.node.pick? slot = some child) :
    place.slotPhrase slot = (place.enter child).phrase := by
  rw [slotPhrase, filled]

/-- A statement that is an idiomatic call expands. -/
theorem expands_of_idiom {call : Node} (kind : place.node.kind = .expressionStatement)
    (called : place.node.pick? .expression = some call) (invokes : call.kind = .invocation)
    (idiom : (((place.enter call).slotPhrase .expression).idiom? profile
      ((place.enter call).arguments .callArguments).length).isSome = true) :
    place.expands profile = true := by
  have shape : (place.enter call).phrase = _ := phrase_invocation invokes
  have sameKind : place.kind = .expressionStatement := kind
  rw [expands, sameKind, slotPhrase_of_pick? called, shape, Phrase.breaksLine, List.length_map, idiom,
    Bool.true_or, Bool.true_or]

end Place

namespace Layout

variable {profile : Profile}

theorem yields_statement_lines {content : Phrase} (within : content.Within Wording.oneLine)
    (brings : profile.types.Brings (· ≠ '\n')) :
    (Layout.statement content).Yields profile (fun _ => True)
      fun added => Text.IsOneLine added ↔ content.breaksLine profile = false := by
  have lead : Layout.indent.Yields profile (fun _ => True) (fun added => '\n' ∉ added.toList) :=
    yields_indent newline_not_mem_indentation
  have written := yields_phrase (within.render_lines brings)
  have ended : (Layout.text ";\n").Yields profile (fun _ => True) (· = ";\n") := yields_text _
  refine (lead.cons (written.cons (ended.cons yields_empty))).weaken ?_
  rintro _ ⟨tabs, _, rfl, noBreak, text, _, rfl, renders, _, _, rfl, rfl, rfl⟩
  have spelled : (tabs ++ (text ++ (";\n" ++ ""))).toList =
      (tabs.toList ++ text.toList ++ [';']) ++ ['\n'] := by
    simp [String.toList_append]
  rw [Text.IsOneLine, spelled, List.dropLast_concat]
  simp [noBreak, renders.lines]

end Layout

namespace Place

variable {profile : Profile}

/-- An expression statement or a declaration is written on one line unless it expands. -/
theorem yields_lines {place : Place}
    (simple : place.kind = .expressionStatement ∨ place.kind = .localDeclStatement)
    (every : place.Every Wording.oneLine.Accepts) (brings : profile.types.Brings (· ≠ '\n')) :
    place.layout.Yields profile (fun _ => True)
      fun added => Text.IsOneLine added ↔ place.expands profile = false := by
  rcases simple with kind | kind
  · rw [layout, expands, kind]
    exact Layout.yields_statement_lines (slotPhrase_within every _) brings
  · rw [layout, expands, kind]
    simp only
    cases filled : place.node.pick? .declaration with
    | none =>
        refine Layout.yields_empty.weaken fun added blank => ?_
        subst blank
        exact iff_of_true (by decide) rfl
    | some declaration =>
        exact Layout.yields_statement_lines
          (declarationPhrase_within (every.enter_pick? filled)) brings

end Place

namespace Layout

variable {profile : Profile}

mutual
/-- Writing only adds to a fragment. -/
theorem exists_added {fragment after : Fragment} {before later : Journal} : ∀ {layout : Layout},
    (layout.write profile fragment).run before = .ok after later →
      ∃ added, after.text = fragment.text ++ added
  | .phrase content, ran => by
    rw [write] at ran
    obtain ⟨text, _, _, rest⟩ := RunM.bind_eq_ok ran
    cases rest
    exact ⟨text, Fragment.text_append _ _⟩
  | .indent, ran => by
    rw [write] at ran
    cases ran
    exact ⟨_, Fragment.text_append _ _⟩
  | .shift levels, ran => by
    rw [write] at ran
    cases ran
    exact ⟨"", by simp⟩
  | .join parts, ran => by
    rw [write] at ran
    exact exists_added_all ran
  | .byLineStart choose, ran => by
    rw [write] at ran
    exact exists_added ran

theorem exists_added_all {fragment after : Fragment} {before later : Journal} :
    ∀ {layouts : List Layout},
      (writeAll profile layouts fragment).run before = .ok after later →
        ∃ added, after.text = fragment.text ++ added
  | [], ran => by
    rw [writeAll] at ran
    cases ran
    exact ⟨"", by simp⟩
  | layout :: rest, ran => by
    rw [writeAll] at ran
    obtain ⟨between, _, first, others⟩ := RunM.bind_eq_ok ran
    obtain ⟨head, grown⟩ := exists_added first
    obtain ⟨tail, grownAgain⟩ := exists_added_all others
    exact ⟨head ++ tail, by rw [grownAgain, grown, String.append_assoc]⟩
end

end Layout

namespace Place

variable {owner : Place} {statement : Node}

theorem bodyLayout_of_ne_block {place : Place} (kind : place.kind ≠ .block) :
    place.bodyLayout = .join [Layout.newline, Layout.deeper place.layout] := by
  rw [bodyLayout, if_neg kind]

/-- A branch or a loop writes its guard, ends the line, writes the statement one level deeper and
goes on with what is left of the branch. -/
theorem writeStatement_governed (profile : Profile)
    (governed : owner.node.governed? = some statement)
    (noBlock : statement.kind ≠ .block) (noBranch : statement.kind ≠ .ifStatement) :
    ∃ (guard : List Layout) (word : String) (rest : List Layout), ∀ fragment,
      owner.writeStatement profile fragment = (do
        let opened ← Layout.writeAll profile guard fragment
        let closed ← (owner.enter statement).writeStatement profile
          ((opened.append (word ++ "\n")).shift 1)
        Layout.writeAll profile rest (closed.shift (-1))) := by
  -- in each case both sides write the same layouts in a row, cut at the statement on the right
  have kindOf : ∀ {kind : NodeKind}, owner.node.kind = kind → owner.kind = kind := fun same => same
  have below : (owner.enter statement).bodyLayout = _ := bodyLayout_of_ne_block noBlock
  unfold Node.governed? at governed
  split at governed
  case h_1 kind =>
    refine ⟨[if owner.isInside .elseClause then Layout.empty else .indent,
      .phrase (.join [.text "if (", owner.slotPhrase .condition, .text ")"])], "",
      [Layout.ofOption (owner.mapSlot .elseBranch fun other _ => other.elseLayout)],
      fun fragment => ?_⟩
    have shape : owner.layout = owner.ifLayout := by rw [layout, kindOf kind]
    rw [writeStatement, shape, ifLayout, mapSlot_eq_map owner .branch, governed]
    simp only [Option.map_some, Option.getD_some, below, writeStatement, Layout.write,
      Layout.writeAll, Layout.deeper, Layout.newline, Layout.text, Phrase.render_text, bind_assoc,
      pure_bind, bind_pure, String.empty_append]
  case h_2 kind =>
    refine ⟨[.indent], "else", [], fun fragment => ?_⟩
    have shape : owner.layout =
        .join [.indent, Layout.text "else\n", Layout.deeper (owner.enter statement).layout] := by
      rw [layout, kindOf kind]
      simp only
      rw [elseLayout]
      simp only [mapSlot_eq_map, mapNodes_eq_map, governed, Option.map_some]
      split
      case h_1 branch => exact absurd branch noBranch
      case h_2 block => exact absurd block noBlock
      case h_3 => rfl
    rw [writeStatement, shape]
    simp only [writeStatement, Layout.write, Layout.writeAll, Layout.deeper, Layout.text,
      Phrase.render_text, pure_bind, bind_pure]
    rfl
  case h_3 kind =>
    refine ⟨[.indent, .phrase owner.forHeaderPhrase], "", [], fun fragment => ?_⟩
    have shape : owner.layout = .join [.indent, .phrase owner.forHeaderPhrase,
        (owner.enter statement).bodyLayout] := by
      rw [layout, kindOf kind]
      simp only
      rw [mapForStatement_eq_map, governed]
      rfl
    rw [writeStatement, shape]
    simp only [below, writeStatement, Layout.write, Layout.writeAll, Layout.deeper, Layout.newline,
      Layout.text, Phrase.render_text, bind_assoc, pure_bind, bind_pure, String.empty_append]
  case h_4 => cases governed

end Place

/-- In a run of a branch or a loop, the statement that it is for is written on a line of its own
below the guard. It stays on that line, so that all of it is under the guard, just if it does not
expand into several statements. -/
theorem governed_statement_one_line (enforce : Bool) (owner : Place) (statement : Node)
    (governed : owner.node.governed? = some statement)
    (simple : statement.kind = .expressionStatement ∨ statement.kind = .localDeclStatement)
    (clean : ∀ node ∈ owner.node :: owner.above, node.OnOneLine)
    (fragment after : Fragment) (before later : Journal)
    (ran : (owner.writeStatement (Profile.java enforce) fragment).run before = .ok after later) :
    ∃ opened closed between beyond guard emitted rest,
      ((owner.enter statement).writeStatement (Profile.java enforce) opened).run between =
        .ok closed beyond ∧
      opened.text = fragment.text ++ guard ++ "\n" ∧
      closed.text = opened.text ++ emitted ∧
      after.text = closed.text ++ rest ∧
      (Text.IsOneLine emitted ↔
        (owner.enter statement).expands (Profile.java enforce) = false) := by
  have noBlock : statement.kind ≠ .block := by rcases simple with kind | kind <;> simp [kind]
  have noBranch : statement.kind ≠ .ifStatement := by rcases simple with kind | kind <;> simp [kind]
  have inside : (owner.enter statement).Every Wording.oneLine.Accepts :=
    (Place.every_accepts_oneLine clean).enter_child (Node.mem_childNodes_of_governed? governed)
  obtain ⟨guard, word, rest, steps⟩ :=
    Place.writeStatement_governed (Profile.java enforce) governed noBlock noBranch
  rw [steps] at ran
  obtain ⟨started, _, guarded, afterGuard⟩ := RunM.bind_eq_ok ran
  obtain ⟨closed, beyond, body, remaining⟩ := RunM.bind_eq_ok afterGuard
  obtain ⟨header, grown⟩ := Layout.exists_added_all guarded
  obtain ⟨tail, ended⟩ := Layout.exists_added_all remaining
  have written : (owner.enter statement).layout.Yields (Profile.java enforce) _ _ :=
    Place.yields_lines simple inside TypeMap.java_brings_no_newline
  obtain ⟨-, emitted, added, lines⟩ := (written _).of_ok body
  refine ⟨_, closed, _, beyond, header ++ word, emitted, tail, body, ?_, added, ?_, lines⟩
  · rw [Fragment.text_shift, Fragment.text_append, grown]
    simp only [String.append_assoc]
  · rw [ended, Fragment.text_shift]

/-- `File.WriteAllText(p, t);` -/
def Node.wholeFileWrite : Node :=
  .mk { kind := .expressionStatement } [.node (.mk { kind := .invocation } [
    .node (.mk { kind := .memberAccess } [
      .node (.mk { kind := .identifierName } [.token { kind := .identifier, text := "File" }]),
      .node (.mk { kind := .identifierName }
        [.token { kind := .identifier, text := "WriteAllText" }])]),
    .node (.mk { kind := .argumentList } [
      .node (.mk { kind := .argument } [.node (.mk { kind := .identifierName }
        [.token { kind := .identifier, text := "p" }])]),
      .node (.mk { kind := .argument } [.node (.mk { kind := .identifierName }
        [.token { kind := .identifier, text := "t" }])])])])]

/-- `if (a) File.WriteAllText(p, t);` -/
def Place.guardedWrite : Place where
  node := .mk { kind := .ifStatement }
    [.node (.mk { kind := .identifierName } [.token { kind := .identifier, text := "a" }]),
     .node Node.wholeFileWrite]

theorem Place.guardedWrite_expands :
    (guardedWrite.enter Node.wholeFileWrite).expands (Profile.java true) = true := by
  refine expands_of_idiom rfl rfl rfl ?_
  rw [slotPhrase_of_pick? rfl, phrase_memberAccess rfl rfl, slotPhrase_of_pick? rfl,
    phrase_identifierName rfl (by decide)]
  decide

theorem Place.exists_run_guardedWrite (before : Journal) :
    ∃ after later,
      (guardedWrite.writeStatement (Profile.java true) { depth := 1 }).run before =
        .ok after later := by
  let promise := Promise.faultsOf (Profile.java true).types guardedWrite.node
  have admitted : guardedWrite.Every promise.Admits :=
    ⟨Promise.faultsOf_admits _ _, by simp [guardedWrite]⟩
  have named : guardedWrite.node.Every fun node => node.kind = .memberAccess → node.childNodes ≠ [] :=
    by decide
  refine (layout_covers guardedWrite admitted { depth := 1 }).exists_ok ?_ before
  rintro fault ⟨-, node, member, kind, childless⟩
  exact named node member kind childless

theorem governed_statement_one_line_write :
    ∃ opened closed between beyond emitted,
      ((Place.guardedWrite.enter Node.wholeFileWrite).writeStatement (Profile.java true)
        opened).run between = .ok closed beyond ∧
      closed.text = opened.text ++ emitted ∧ ¬Text.IsOneLine emitted := by
  obtain ⟨after, later, ran⟩ := Place.exists_run_guardedWrite Journal.java
  obtain ⟨opened, closed, between, beyond, _, emitted, _, body, _, added, _, lines⟩ :=
    governed_statement_one_line true Place.guardedWrite Node.wholeFileWrite rfl (.inl rfl) (by decide)
      { depth := 1 } after Journal.java later ran
  refine ⟨opened, closed, between, beyond, emitted, body, added, fun oneLine => ?_⟩
  rw [lines, Place.guardedWrite_expands] at oneLine
  cases oneLine

end SharpToJava
