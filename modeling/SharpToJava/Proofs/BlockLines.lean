import SharpToJava.Proofs.Layout.Position

/-!
A block is its statements, one below the other. All statements of a block are written into one
fragment, but each leaves it at the depth and at the start of a line as it found it, so what it
writes is what it writes alone.
-/

namespace SharpToJava

namespace Fragment

theorem absorb_eq_behind {fragment other : Fragment} (same : other.depth = fragment.depth) :
    fragment.absorb other = other.behind fragment := by
  simp [absorb, behind, same]

theorem text_foldl_absorb (fragment : Fragment) (others : List Fragment) :
    (others.foldl absorb fragment).text = fragment.text ++ String.join (others.map text) := by
  induction others generalizing fragment with
  | nil => simp
  | cons other rest ih =>
      rw [List.foldl_cons, ih, text_absorb, String.append_assoc]
      simp

theorem depth_foldl_absorb (fragment : Fragment) (others : List Fragment) :
    (others.foldl absorb fragment).depth = fragment.depth := by
  induction others generalizing fragment with
  | nil => rfl
  | cons other rest ih => exact ih _

end Fragment

namespace Layout

variable {profile : Profile}

/-- Layouts that come back to the depth and the start of a line are written as if apart. -/
theorem writeAll_eq_apart {layouts : List Layout}
    (back : ∀ layout ∈ layouts, layout.Levels profile 0)
    (keeps : ∀ layout ∈ layouts, layout.KeepsLine profile) {fragment : Fragment}
    (fresh : fragment.atLineStart = true) :
    writeAll profile layouts fragment =
      (·.foldl Fragment.absorb fragment) <$>
        layouts.mapM (·.write profile { depth := fragment.depth }) := by
  induction layouts generalizing fragment with
  | nil => simp [writeAll]
  | cons layout rest ih =>
      obtain ⟨backFirst, backRest⟩ := List.forall_mem_cons.mp back
      obtain ⟨keepsFirst, keepsRest⟩ := List.forall_mem_cons.mp keeps
      have alone : layout.write profile fragment =
          (·.behind fragment) <$> layout.write profile { depth := fragment.depth } := by
        rw [← write_behind fresh, ← fragment.eq_empty_behind]
      have left : (layout.write profile { depth := fragment.depth }).Gives fun after =>
          after.depth = fragment.depth ∧ after.atLineStart = true := by
        intro before after later done
        have depth := backFirst _ before after later done
        exact ⟨by rwa [Int.add_zero] at depth, keepsFirst _ rfl before after later done⟩
      rw [writeAll, alone, bind_map_left, List.mapM_cons, map_bind]
      refine left.bind_congr fun after outcome => ?_
      obtain ⟨depth, ended⟩ := outcome
      have freshAgain : (fragment.absorb after).atLineStart = true := by
        rw [Fragment.absorb_eq_behind depth, Fragment.atLineStart_behind fresh, ended]
      rw [← Fragment.absorb_eq_behind depth, ih backRest keepsRest freshAgain]
      simp [Fragment.absorb]

/-- A block whose statements keep to lines is its statements, one below the other. -/
theorem render_block_eq {statements : List Layout}
    (back : ∀ layout ∈ statements, layout.Levels profile 0)
    (keeps : ∀ layout ∈ statements, layout.KeepsLine profile) (depth : Int) :
    (Layout.block true statements).render profile depth = do
      let written ← statements.mapM (·.write profile { depth := depth + 1 })
      return " \x7b\n" ++ String.join (written.map Fragment.text) ++ indentation depth ++
        "\x7d" := by
  have fresh : ((({ depth } : Fragment).append " \x7b\n").shift 1).atLineStart = true := by
    rw [Fragment.atLineStart_shift]
    exact Fragment.atLineStart_append (by decide)
  have below := writeAll_eq_apart back keeps fresh
  simp only [render, block, deeper, write, writeAll, text, Phrase.render_text, pure_bind, if_true,
    bind_assoc, below]
  have outside : depth + 1 + -1 = depth := Int.add_neg_cancel_right depth 1
  simp only [Fragment.depth_shift, Fragment.depth_append, Fragment.indent, Fragment.text_append,
    Fragment.text_shift, bind_pure_comp, Functor.map_map, Fragment.text_foldl_absorb,
    Fragment.text_empty, String.empty_append, Fragment.depth_foldl_absorb, outside]

end Layout

/-- What the statements of a block write, each alone in a fragment of the given depth. The journal
passes from one to the next. -/
def Place.statementTexts (place : Place) (profile : Profile) (depth : Int) : RunM (List String) :=
  place.node.childNodes.mapM fun statement =>
    Fragment.text <$> (place.enter statement).writeStatement profile { depth }

/-- The text of a block is that of its statements one after the other, each written alone one level
deeper than the block, and each statement writes whole lines. -/
theorem block_eq_statements (place : Place) (kind : place.kind = .block)
    (whole : place.node.Every Node.HoldsWholeLines) (paired : place.node.Every Node.BracesPaired)
    (profile : Profile) (depth : Int) :
    place.block profile depth = (do
      let texts ← place.statementTexts profile (depth + 1)
      return " \x7b\n" ++ String.join texts ++ indentation depth ++ "\x7d") ∧
    ∀ before texts after, (place.statementTexts profile (depth + 1)).run before = .ok texts after →
      ∀ text ∈ texts, text = "" ∨ Fragment.endsLine text = true := by
  have back : ∀ statement ∈ place.node.childNodes,
      (place.enter statement).layout.Levels profile 0 := fun statement member =>
    (place.enter statement).layout_levels (paired.of_child member)
  have keeps : ∀ statement ∈ place.node.childNodes,
      (place.enter statement).layout.KeepsLine profile := fun statement member =>
    (place.enter statement).layout_keepsLine
      (whole.here _ (Node.mem_heldStatements_of_block kind member))
      (fun _ => by rw [Place.isInside_enter]; exact beq_iff_eq.mpr kind) (whole.of_child member)
  constructor
  · rw [Place.block, Layout.render_block_eq (by simpa using back) (by simpa using keeps),
      Place.statementTexts, RunM.mapM_map, List.mapM_map, bind_map_left]
    rfl
  · refine RunM.gives_mapM fun statement member => ?_
    exact (keeps statement member { depth := depth + 1 } rfl).map fun written =>
      Fragment.text_eq_empty_or_endsLine

/-- `if (a) break; else if (b) continue;`, and then `{ int c; }` behind a word that has no
rule. -/
def Place.branchBesideUnknown : Place where
  node := .mk { kind := .block } [
    .node (.mk { kind := .ifStatement } [
      .node (.mk { kind := .identifierName } [.token { kind := .identifier, text := "a" }]),
      .node (.mk { kind := .breakStatement } []),
      .node (.mk { kind := .elseClause } [.node (.mk { kind := .ifStatement } [
        .node (.mk { kind := .identifierName } [.token { kind := .identifier, text := "b" }]),
        .node (.mk { kind := .continueStatement } [])])])]),
    .node (.mk { kind := .unknown } [
      .token { kind := .unknown, text := "fixed" },
      .token { kind := .openBrace, text := "\x7b" },
      .node (.mk { kind := .variableDecl } [
        .node (.mk { kind := .predefinedType }
          [.token { kind := .predefinedTypeKeyword, text := "int" }]),
        .node (.mk { kind := .variableDeclarator }
          [.token { kind := .identifier, text := "c" }])]),
      .token { kind := .semicolon, text := ";" },
      .token { kind := .closeBrace, text := "\x7d" }])]

/-- What its two statements write. -/
def Place.branchTexts : List String :=
  ["\t\tif (a)\n\t\t\tbreak;\n\t\telse if (b)\n\t\t\tcontinue;\n",
    "\t\t \x7b\nInteger c;\n\t\t\x7d\n"]

theorem block_eq_statements_branchBesideUnknown :
    ∃ after,
      (Place.branchBesideUnknown.statementTexts (Profile.java true) 2).run Journal.java =
        .ok Place.branchTexts after ∧
      (∀ text ∈ Place.branchTexts, text = "" ∨ Fragment.endsLine text = true) ∧
      (Place.branchBesideUnknown.block (Profile.java true) 1).run Journal.java =
        .ok (" \x7b\n\t\tif (a)\n\t\t\tbreak;\n\t\telse if (b)\n\t\t\tcontinue;\n" ++
          "\t\t \x7b\nInteger c;\n\t\t\x7d\n\t\x7d") after := by
  have whole : Place.branchBesideUnknown.node.Every Node.HoldsWholeLines := by decide
  have paired : Place.branchBesideUnknown.node.Every Node.BracesPaired := by decide
  obtain ⟨written, lines⟩ := block_eq_statements _ rfl whole paired (Profile.java true) 1
  have found : (Place.branchBesideUnknown.statementTexts (Profile.java true) 2).result?
      Journal.java = some Place.branchTexts := by decide +kernel
  have joined : " \x7b\n" ++ String.join Place.branchTexts ++ indentation 1 ++ "\x7d" =
      " \x7b\n\t\tif (a)\n\t\t\tbreak;\n\t\telse if (b)\n\t\t\tcontinue;\n" ++
        "\t\t \x7b\nInteger c;\n\t\t\x7d\n\t\x7d" := by decide +kernel
  obtain ⟨after, ran⟩ := RunM.exists_of_result? found
  refine ⟨after, ran, lines _ _ _ ran, ?_⟩
  rw [written, ← joined, EStateM.run_bind, show (1 : Int) + 1 = 2 from rfl, ran]
  rfl

/-- `if (a) break;` and then `for (int i; ; ) continue;` where its `else` should be. -/
def Place.loopForElse : Place where
  node := .mk { kind := .block } [
    .node (.mk { kind := .ifStatement } [
      .node (.mk { kind := .identifierName, role := some "condition" }
        [.token { kind := .identifier, text := "a" }]),
      .node (.mk { kind := .breakStatement, role := some "statement" } []),
      .node (.mk { kind := .forStatement, role := some "else" } [
        .token { kind := .openParen, text := "(" },
        .node (.mk { kind := .variableDecl } [
          .node (.mk { kind := .predefinedType, role := some "type" }
            [.token { kind := .predefinedTypeKeyword, text := "int" }]),
          .node (.mk { kind := .variableDeclarator }
            [.token { kind := .identifier, text := "i" }])]),
        .token { kind := .semicolon, text := ";" },
        .token { kind := .semicolon, text := ";" },
        .token { kind := .closeParen, text := ")" },
        .node (.mk { kind := .continueStatement } [])])]),
    .node (.mk { kind := .breakStatement } [])]

/-- The declaration in the loop is not a statement, but it is written as one, without an end. -/
theorem statementTexts_loopForElse :
    Place.loopForElse.kind = .block ∧
    (Place.loopForElse.node.Every fun node =>
      ∀ statement ∈ node.statements, statement.kind.isLinePart = false) ∧
    Place.loopForElse.node.Every Node.BracesPaired ∧
    ∃ texts after,
      (Place.loopForElse.statementTexts (Profile.java true) (0 + 1)).run Journal.java =
        .ok texts after ∧
      ∃ text ∈ texts, text ≠ "" ∧ Fragment.endsLine text = false := by
  refine ⟨rfl, by decide, by decide, ?_⟩
  have openEnded : (match
      (Place.loopForElse.statementTexts (Profile.java true) (0 + 1)).run Journal.java with
      | .ok texts _ => texts.any fun text => text ≠ "" && !Fragment.endsLine text
      | .error _ _ => false) = true := by decide +kernel
  split at openEnded
  case h_1 texts after ran => exact ⟨texts, after, ran, by simpa using openEnded⟩
  case h_2 => cases openEnded

end SharpToJava
