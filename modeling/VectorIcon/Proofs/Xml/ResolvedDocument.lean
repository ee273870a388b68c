import VectorIcon.Proofs.Xml.Resolved
import VectorIcon.Xml.Reader

/-!
Every tag of a document that is read is resolved. Each step of the reader keeps what has been read
so far resolved, also inside of an entity.
-/

namespace VectorIcon.Xml

section

variable {builder : Builder} (resolved : builder.IsResolved)

include resolved

theorem readTagRest_isResolved (entities : Entities) (room fuel : Nat) (cursor : Cursor) :
    Yields (fun (_, _, left) => left.IsResolved)
      (readTagRest entities room fuel cursor builder) := by
  induction fuel generalizing cursor builder with
  | zero => exact .ok resolved
  | succ fuel ih =>
      rw [readTagRest]
      split
      · exact .ok resolved
      · dsimp only
        split
        · exact .error
        · split
          · refine .skip fun behind => .bind (resolved.finishTag true _) ?_
            exact fun left kept => .ok kept
          · split
            · refine .bind (resolved.finishTag false _) ?_
              exact fun left kept => .ok kept
            · split
              · exact .error
              · refine .skip ?_
                rintro ⟨written, behind⟩
                refine .bind (resolved.addAttribute entities room written) ?_
                exact fun left kept => ih kept behind

theorem readStartTag_isResolved (entities : Entities) (room fuel : Nat) (cursor : Cursor) :
    Yields (fun (_, _, left) => left.IsResolved)
      (readStartTag entities room fuel cursor builder) := by
  unfold readStartTag
  refine .skip ?_
  rintro ⟨name, behind⟩
  refine .bind (resolved.startTag name _) ?_
  exact fun left kept => readTagRest_isResolved kept entities room fuel behind

theorem readClosingTag_isResolved (cursor : Cursor) :
    Yields (fun (_, left) => left.IsResolved) (readClosingTag cursor builder) := by
  unfold readClosingTag
  refine .skip ?_
  rintro ⟨name, behind⟩
  refine .skip fun behind => .bind (resolved.closeTag name _) ?_
  exact fun left kept => .ok kept

end

namespace Cursor

theorem readComment_isResolved (cursor : Cursor) :
    Yields (fun (node, _) => node.IsResolved) cursor.readComment := by
  unfold readComment
  refine .skip ?_
  rintro ⟨content, behind⟩
  refine .skip fun behind => ?_
  dsimp only
  split
  · exact .error
  · exact .ok trivial

theorem readInstruction_isResolved (cursor : Cursor) :
    Yields (fun (node, _) => node.IsResolved) cursor.readInstruction := by
  unfold readInstruction
  dsimp only
  split
  · exact .error
  · refine .skip ?_
    rintro ⟨target, behind⟩
    refine .skip ?_
    rintro ⟨content, behind⟩
    exact .skip fun behind => .ok trivial

end Cursor

/-- What is read in place of an entity keeps the builder resolved. -/
def KeepsResolved (inner : Option (Cursor → Builder → Except Fault Builder)) : Prop :=
  ∀ read, inner = some read → ∀ value builder, builder.IsResolved →
    Yields Builder.IsResolved (read value builder)

section

variable {inner : Option (Cursor → Builder → Except Fault Builder)} (inside : KeepsResolved inner)

include inside

theorem addChunks_isResolved (room : Nat) (chunks : List Chunk) {builder : Builder}
    (resolved : builder.IsResolved) :
    Yields Builder.IsResolved (addChunks room inner builder chunks) := by
  induction chunks generalizing builder with
  | nil => exact .ok resolved
  | cons chunk rest ih =>
      cases chunk with
      | literal run => exact ih (resolved.appendText _)
      | character c position => exact ih (resolved.appendText _)
      | entity value behind =>
          rw [addChunks.eq_def]
          refine .skip fun counted => ?_
          cases inner with
          | none => exact .error
          | some read =>
              have started : Builder.IsResolved { builder with tag := none, references := counted } :=
                ⟨resolved.declared, resolved.ancestors, resolved.nodes⟩
              refine .bind (inside read rfl value _ started) ?_
              exact fun left kept => ih ⟨kept.declared, kept.ancestors, kept.nodes⟩
      | fault fault => exact .error

theorem readLevels_isResolved (entities : Entities) (room fuel level : Nat) (cursor : Cursor)
    {builder : Builder} (resolved : builder.IsResolved) :
    Yields (fun (_, left) => left.IsResolved)
      (readLevels entities room inner fuel level cursor builder) := by
  induction fuel generalizing level cursor builder with
  | zero => exact .ok resolved
  | succ fuel ih =>
      cases level with
      | zero => exact .ok resolved
      | succ level =>
          rw [readLevels]
          split
          · exact .ok resolved
          · exact .error
          · refine .bind cursor.readComment_isResolved ?_
            exact fun (_, behind) added => ih _ behind (resolved.append added)
          · refine .bind cursor.readInstruction_isResolved ?_
            exact fun (_, behind) added => ih _ behind (resolved.append added)
          · refine .skip ?_
            exact fun (content, behind) => ih _ behind (resolved.appendText _)
          · refine .skip fun (content, behind) => ?_
            refine .bind (addChunks_isResolved inside room _ resolved) ?_
            exact fun left kept => ih _ behind kept
          · refine .bind (readClosingTag_isResolved resolved cursor) ?_
            exact fun (behind, _) kept => ih _ behind kept
          · refine .bind (readStartTag_isResolved resolved entities room fuel cursor) ?_
            exact fun (_, behind, _) kept => ih _ behind kept

end

section

variable {builder : Builder} (resolved : builder.IsResolved)

include resolved

theorem readContent_isResolved (entities : Entities) (room : Nat) (cursor : Cursor) :
    Yields (fun (_, left) => left.IsResolved) (readContent entities room cursor builder) := by
  induction room generalizing cursor builder with
  | zero =>
      have inside : KeepsResolved none := by
        intro read none
        cases none
      exact readLevels_isResolved inside _ _ _ _ _ resolved
  | succ room ih =>
      refine readLevels_isResolved ?_ _ _ _ _ _ resolved
      rintro _ ⟨⟩ value builder started
      exact .bind (ih started value) fun (_, left) kept => .ok kept

theorem readRoot_isResolved (entities : Entities) (cursor : Cursor) :
    Yields (fun (_, left) => left.IsResolved) (readRoot entities cursor builder) := by
  unfold readRoot
  split
  · refine .bind (readStartTag_isResolved resolved entities _ _ cursor) ?_
    rintro ⟨tagEnd, behind, left⟩ kept
    dsimp only
    split
    · exact readContent_isResolved kept entities _ behind
    · exact .ok kept
  · exact .ok resolved

namespace Cursor

theorem readMisc_isResolved (fuel : Nat) (cursor : Cursor) :
    Yields (fun (_, left) => left.IsResolved) (readMisc fuel cursor builder) := by
  induction fuel generalizing cursor builder with
  | zero => exact .ok resolved
  | succ fuel ih =>
      rw [readMisc]
      dsimp only
      split
      · refine .bind (readComment_isResolved _) ?_
        exact fun (_, behind) added => ih (resolved.append added) behind
      · split
        · refine .bind (readInstruction_isResolved _) ?_
          exact fun (_, behind) added => ih (resolved.append added) behind
        · exact .ok resolved

theorem skipMisc_isResolved (cursor : Cursor) :
    Yields (fun (_, left) => left.IsResolved) (cursor.skipMisc builder) :=
  readMisc_isResolved resolved _ cursor

theorem readDeclarations_isResolved (start : Cursor) (fuel : Nat) (cursor : Cursor)
    (entities : Entities) :
    Yields (fun (_, _, left) => left.IsResolved)
      (readDeclarations start fuel cursor entities builder) := by
  induction fuel generalizing cursor entities builder with
  | zero => exact .ok resolved
  | succ fuel ih =>
      rw [readDeclarations]
      dsimp only
      split
      · exact .ok resolved
      · split
        · refine .skip ?_
          exact fun (more, behind) => ih resolved behind more
        · split
          · refine .bind (readComment_isResolved _) ?_
            exact fun (_, behind) added => ih (resolved.append added) behind entities
          · split
            · refine .bind (readInstruction_isResolved _) ?_
              exact fun (_, behind) added => ih (resolved.append added) behind entities
            · split
              · split
                · exact .error
                · split
                  · exact .ok resolved
                  · exact .error
              · split
                · split
                  · exact .error
                  · exact ih resolved _ entities
                · exact .error

theorem readDoctype_isResolved (start : Cursor) :
    Yields (fun (_, _, left) => left.IsResolved) (start.readDoctype builder) := by
  unfold readDoctype
  refine .skip fun cursor => .skip fun (_, cursor) => .skip fun external => ?_
  dsimp only
  split
  · exact .error
  · split
    · exact .ok resolved
    · split
      · exact readDeclarations_isResolved resolved _ _ _ _
      · exact .error

end Cursor

theorem readRoot_finish_areResolved (entities : Entities) (cursor : Cursor) :
    Yields AreResolved (do
      let (cursor, builder) ← readRoot entities cursor builder
      let (cursor, builder) ← cursor.skipMisc builder
      if !cursor.atEnd then cursor.fail .unknownToken
      builder.finish) := by
  refine .bind (readRoot_isResolved resolved entities cursor) fun (behind, left) kept => ?_
  refine .bind (behind.skipMisc_isResolved kept) fun (behind, left) kept => ?_
  dsimp only
  split
  · exact .error
  · exact kept.finish

end

theorem readDocument_areResolved (text : String) : Yields AreResolved (readDocument text) := by
  unfold readDocument
  dsimp only
  split
  -- With a declaration in front or without one, the same follows.
  all_goals
    refine .skip fun cursor => ?_
    refine .bind (cursor.skipMisc_isResolved Builder.empty_isResolved) ?_
    rintro ⟨cursor, builder⟩ resolved
    dsimp only
    split
    · refine .bind (cursor.readDoctype_isResolved resolved) fun (inner, entities, left) kept => ?_
      refine .bind (inner.skipMisc_isResolved kept) fun (behind, left) kept => ?_
      exact readRoot_finish_areResolved kept entities behind
    · exact readRoot_finish_areResolved resolved [] cursor

end VectorIcon.Xml
