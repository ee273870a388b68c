import VectorIcon.Proofs.Session.History

/-! A session that has been run shows what its history says. -/

namespace VectorIcon.Session

/-- A session is where a history leaves it, apart from the console and the copied mark. -/
structure Follows (layout : Layout) (session : Session) (history : List Operation) : Prop where
  layout : session.layout = layout
  input : (⟨session.sourceName, session.input⟩ : Source) = inputOf history
  name : session.componentName = nameOf history
  document : session.document = documentOf history
  frame : session.frame = workingFrameOf history

theorem follows_initial (layout : Layout) : Follows layout (initial layout) [] :=
  ⟨rfl, rfl, rfl, rfl, rfl⟩

theorem parse_parts (session : Session) :
    session.parse.2.layout = session.layout ∧ session.parse.2.input = session.input ∧
      session.parse.2.sourceName = session.sourceName ∧
      session.parse.2.componentName = session.componentName ∧
      session.parse.2.document =
        (Document.parse ⟨session.sourceName, session.input⟩).toOption ∧
      session.parse.2.frame =
        (Document.parse ⟨session.sourceName, session.input⟩).toOption.map Document.frame := by
  simp only [parse, unload]
  cases Document.parse ⟨session.sourceName, session.input⟩ with
  | ok document => exact ⟨rfl, rfl, rfl, rfl, rfl, rfl⟩
  | error error => exact ⟨rfl, rfl, rfl, rfl, rfl, rfl⟩

theorem after_unseen (session : Session) {operation : Operation}
    (unseen : operation.isUnseen = true) :
    (after session operation).layout = session.layout ∧
      (after session operation).input = session.input ∧
      (after session operation).sourceName = session.sourceName ∧
      (after session operation).componentName = session.componentName ∧
      (after session operation).document = session.document ∧
      (after session operation).frame = session.frame := by
  cases operation with
  | selectFile file =>
      have other : ¬file.mimeType = svgMimeType := by simpa [Operation.isUnseen] using unseen
      simp only [after, perform, selectFile, if_neg other]
      exact ⟨rfl, rfl, rfl, rfl, rfl, rfl⟩
  | copy clipboard =>
      simp only [after, perform, copy]
      split
      · exact ⟨rfl, rfl, rfl, rfl, rfl, rfl⟩
      · split <;> exact ⟨rfl, rfl, rfl, rfl, rfl, rfl⟩
  | acknowledgeCopy => exact ⟨rfl, rfl, rfl, rfl, rfl, rfl⟩
  | openConsole => exact ⟨rfl, rfl, rfl, rfl, rfl, rfl⟩
  | closeConsole => exact ⟨rfl, rfl, rfl, rfl, rfl, rfl⟩
  | dismissError => exact ⟨rfl, rfl, rfl, rfl, rfl, rfl⟩
  | _ => exact absurd unseen (by simp [Operation.isUnseen])

namespace Follows

variable {layout : Layout} {session : Session} {past : List Operation} {operation : Operation}

theorem unseen (follows : Follows layout session past) (unseen : operation.isUnseen = true) :
    Follows layout (after session operation) (past ++ [operation]) := by
  obtain ⟨sameLayout, sameInput, sameSource, sameName, sameDocument, sameFrame⟩ :=
    after_unseen session unseen
  obtain ⟨input, name, document, frame⟩ := concat_unseen past unseen
  refine ⟨sameLayout.trans follows.layout, ?_, ?_, ?_, ?_⟩
  · rw [sameInput, sameSource, input, follows.input]
  · rw [sameName, name, follows.name]
  · rw [sameDocument, document, follows.document]
  · rw [sameFrame, frame, follows.frame]

theorem parse (follows : Follows layout session past) {read : Session}
    (kept : read.layout = session.layout ∧ read.componentName = session.componentName)
    (input : (⟨read.sourceName, read.input⟩ : Source) = inputOf (past ++ [operation]))
    (attempt : operation.isAttempt = true) (unnamed : operation.name? = none) :
    Follows layout read.parse.2 (past ++ [operation]) := by
  have clear : operation.isClear = false := by cases operation <;> trivial
  obtain ⟨sameLayout, sameInput, sameSource, sameName, document, frame⟩ := parse_parts read
  refine ⟨?_, ?_, ?_, ?_, ?_⟩
  · rw [sameLayout, kept.1, follows.layout]
  · rw [sameInput, sameSource, input]
  · simp only [sameName, kept.2, follows.name, nameOf_concat, clear, unnamed, Option.getD_none,
      Bool.false_eq_true, if_false]
  · rw [document, input, documentOf_concat_of_attempt attempt]
  · rw [frame, input, workingFrameOf_concat_of_attempt attempt]

theorem selectFile (follows : Follows layout session past) (file : SelectedFile) :
    Follows layout (session.selectFile file).2 (past ++ [.selectFile file]) := by
  by_cases svg : file.mimeType = svgMimeType
  · have attempt : (Operation.selectFile file).isAttempt = true := decide_eq_true svg
    have input : inputOf (past ++ [.selectFile file]) =
        ⟨file.name, Text.Utf8.decode file.contents⟩ := by
      simp [inputOf_concat, Operation.isClear, Operation.source?, svg]
    rw [Session.selectFile, if_pos svg]
    exact follows.parse ⟨rfl, rfl⟩ input.symm attempt rfl
  · have unseen : (Operation.selectFile file).isUnseen = true := decide_eq_true svg
    exact follows.unseen unseen

theorem setInput (follows : Follows layout session past) (text : String) :
    Follows layout (session.setInput text) (past ++ [.setInput text]) := by
  let operation : Operation := .setInput text
  have framed (document : Document) := frameOf_concat past operation document rfl rfl
  refine ⟨follows.layout, (inputOf_concat past operation).symm, ?_, ?_, ?_⟩
  · exact follows.name.trans (nameOf_concat past operation).symm
  · exact follows.document.trans (documentOf_concat_same rfl rfl).symm
  · exact follows.frame.trans (workingFrameOf_concat_same rfl rfl framed).symm

theorem setComponentName (follows : Follows layout session past) (name : String) :
    Follows layout (session.setComponentName name) (past ++ [.setComponentName name]) := by
  let operation : Operation := .setComponentName name
  have framed (document : Document) := frameOf_concat past operation document rfl rfl
  have named : nameOf (past ++ [operation]) = cleanName name := by
    rw [nameOf_concat, Operation.name?_setComponentName]
    rfl
  refine ⟨follows.layout, ?_, named.symm, ?_, ?_⟩
  · exact follows.input.trans (inputOf_concat past operation).symm
  · exact follows.document.trans (documentOf_concat_same rfl rfl).symm
  · exact follows.frame.trans (workingFrameOf_concat_same rfl rfl framed).symm

theorem editFrame (follows : Follows layout session past) (field : Frame.Field) (raw : String) :
    Follows layout (session.editFrame field raw) (past ++ [.editFrame field raw]) := by
  let operation : Operation := .editFrame field raw
  refine ⟨follows.layout, ?_, ?_, ?_, ?_⟩
  · exact follows.input.trans (inputOf_concat past operation).symm
  · exact follows.name.trans (nameOf_concat past operation).symm
  · exact follows.document.trans (documentOf_concat_same rfl rfl).symm
  · rw [workingFrameOf_concat rfl rfl]
    simp only [edit_frameOf, Session.editFrame, follows.frame, workingFrameOf, Option.map_map,
      Function.comp_def]

theorem resetFrame (follows : Follows layout session past) :
    Follows layout session.resetFrame (past ++ [.resetFrame]) := by
  have frame : workingFrameOf (past ++ [.resetFrame]) = _ := workingFrameOf_concat rfl rfl
  have same : documentOf (past ++ [.resetFrame]) = documentOf past :=
    documentOf_concat_same rfl rfl
  have input := follows.input.trans (inputOf_concat past .resetFrame).symm
  have name := follows.name.trans (nameOf_concat past .resetFrame).symm
  have document := follows.document.trans same.symm
  simp only [reset_frameOf] at frame
  unfold Session.resetFrame
  split
  · rename_i none
    have empty : documentOf past = Option.none := follows.document.symm.trans none
    refine ⟨follows.layout, input, name, document, ?_⟩
    rw [frame, follows.frame, workingFrameOf, empty]
    rfl
  · rename_i read loaded
    have known : documentOf past = some read := follows.document.symm.trans loaded
    refine ⟨follows.layout, input, name, document, ?_⟩
    rw [frame, known]
    rfl

theorem clear (follows : Follows layout session past) :
    Follows layout session.clear (past ++ [.clear]) := by
  have document : documentOf (past ++ [.clear]) = none := by
    simp only [documentOf_concat, Operation.isClear, if_true]
  refine ⟨follows.layout, (inputOf_concat past .clear).symm, (nameOf_concat past .clear).symm,
    document.symm, ?_⟩
  rw [workingFrameOf, document]
  rfl

theorem step (follows : Follows layout session past) (operation : Operation) :
    Follows layout (after session operation) (past ++ [operation]) := by
  cases operation with
  | setInput text => exact follows.setInput text
  | parse =>
      have input := follows.input.trans (inputOf_concat past .parse).symm
      exact follows.parse ⟨rfl, rfl⟩ input rfl rfl
  | selectFile file => exact follows.selectFile file
  | setComponentName name => exact follows.setComponentName name
  | editFrame field raw => exact follows.editFrame field raw
  | resetFrame => exact follows.resetFrame
  | clear => exact follows.clear
  | copy clipboard => exact follows.unseen rfl
  | acknowledgeCopy => exact follows.unseen rfl
  | openConsole => exact follows.unseen rfl
  | closeConsole => exact follows.unseen rfl
  | dismissError => exact follows.unseen rfl

theorem run (follows : Follows layout session past) (history : List Operation) :
    Follows layout (session.run history) (past ++ history) := by
  induction history generalizing session past with
  | nil =>
      rw [List.append_nil]
      exact follows
  | cons operation history ih =>
      rw [List.append_cons]
      exact ih (follows.step operation)

end Follows

theorem Follows.shown {layout : Layout} {session : Session} {history : List Operation}
    (follows : Follows layout session history) : session.shown = expected layout history := by
  simp only [Session.shown, expected, code, preview, follows.document, follows.frame,
    follows.name, follows.layout, workingFrameOf]
  cases documentOf history with
  | none => rfl
  | some document => rfl

theorem run_shown (layout : Layout) (history : List Operation) :
    ((initial layout).run history).shown = expected layout history :=
  ((follows_initial layout).run history).shown

theorem toOption_parse (source : Source) :
    (Document.parse source).toOption = (Document.parseText source.text).toOption := by
  simp only [Document.parseText, Document.parse]
  split
  · rfl
  · split <;> rfl

theorem code_of_untyped {history : List Operation} {source : Source}
    (attempted : attempted? history = some source)
    (untyped : ∀ field, last? (Operation.typed? field) (edits history) = none) :
    ((initial Layout.standard).run history).code =
      (convert source.text (nameOf history)).toOption := by
  have code := congrArg Shown.code (run_shown Layout.standard history)
  refine code.trans ?_
  simp only [expected, documentOf, attempted, Option.bind_some, frameOf_of_untyped untyped,
    toOption_parse, convert]
  cases Document.parseText source.text with
  | error error => rfl
  | ok document => rfl

/-- Operation by operation or from the history alone: a session shows the same. -/
theorem session_determined (layout : Layout) (history : List Operation) :
    ((initial layout).run history).shown = expected layout history ∧
      ∀ source, attempted? history = some source →
        (∀ field, last? (Operation.typed? field) (edits history) = none) →
        layout = Layout.standard →
          ((initial layout).run history).code =
            (convert source.text (nameOf history)).toOption := by
  refine ⟨run_shown layout history, ?_⟩
  rintro source attempted untyped rfl
  exact code_of_untyped attempted untyped

def editedHistory : List Operation :=
  [.setInput "<svg viewBox='1 2 3 4'><g/></svg>", .parse, .editFrame .height "9",
    .setComponentName "a b", .resetFrame]

def typedHistory : List Operation :=
  editedHistory ++ [.editFrame .minX "7", .editFrame .width " ", .editFrame .minX "12px",
    .openConsole]

theorem session_determined_named :
    ((initial Layout.standard).run editedHistory).code =
        (convert "<svg viewBox='1 2 3 4'><g/></svg>" "ab").toOption ∧
      ((initial Layout.standard).run typedHistory).frame.map Frame.text = some "12 2 0 4" := by
  have framed (history : List Operation) : ((initial Layout.standard).run history).frame =
      (expected Layout.standard history).frame :=
    congrArg Shown.frame (session_determined Layout.standard history).1
  have typed : (expected Layout.standard typedHistory).frame.map Frame.text = some "12 2 0 4" := by
    decide +kernel
  constructor
  · obtain ⟨_, code⟩ := session_determined Layout.standard editedHistory
    exact code ⟨Document.inputName, "<svg viewBox='1 2 3 4'><g/></svg>"⟩ rfl (fun _ => rfl) rfl
  · rw [framed, typed]

end VectorIcon.Session
