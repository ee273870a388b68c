import VectorIcon.Conversion
import VectorIcon.Session.Operation

/-!
What a history of operations says about a session, without running it: the input is the last text
put in, the name the last one given, the document that of the last attempt to read, and each field
of the frame the last text typed into it. Clearing ends all of these, and a reset ends the typing.
-/

namespace VectorIcon.Session

namespace Operation

def isClear : Operation → Bool
  | clear => true
  | _ => false

def isReset : Operation → Bool
  | resetFrame => true
  | _ => false

def isAttempt : Operation → Bool
  | parse => true
  | selectFile file => file.mimeType = svgMimeType
  | _ => false

def source? : Operation → Option Source
  | setInput text => some ⟨Document.inputName, text⟩
  | selectFile file =>
      if file.mimeType = svgMimeType then some ⟨file.name, Text.Utf8.decode file.contents⟩ else none
  | _ => none

def name? : Operation → Option String
  | setComponentName name =>
      let kept := name.toList.filter fun c => c.isAlphanum || c == '_'
      some (if kept = [] then "CustomIcon" else String.ofList kept)
  | _ => none

def typed? (field : Frame.Field) : Operation → Option Number
  | editFrame edited raw =>
      if edited = field then
        some (if Text.trim raw.toList = [] then .zero else Number.readLeading raw.toList)
      else none
  | _ => none

theorem name?_setComponentName (name : String) :
    (setComponentName name).name? = some (cleanName name) := by
  simp only [name?, cleanName, List.isEmpty_iff]
  rfl

theorem typed?_editFrame (edited field : Frame.Field) (raw : String) :
    (editFrame edited raw).typed? field =
      if edited = field then some (Frame.fieldValue raw.toList) else none := by
  simp only [typed?, Frame.fieldValue, List.isEmpty_iff]

def isUnseen : Operation → Bool
  | selectFile file => file.mimeType ≠ svgMimeType
  | copy _ => true
  | acknowledgeCopy => true
  | openConsole => true
  | closeConsole => true
  | dismissError => true
  | _ => false

end Operation

def since (kind : Operation → Bool) (history : List Operation) : List Operation :=
  (history.reverse.takeWhile fun operation => !kind operation).reverse

/-- The operations up to the last one of a kind, that one included; none when there is none. -/
def upTo (kind : Operation → Bool) (history : List Operation) : List Operation :=
  (history.reverse.dropWhile fun operation => !kind operation).reverse

def last? {α : Type} (given : Operation → Option α) (history : List Operation) : Option α :=
  history.reverse.findSome? given

def inputOf (history : List Operation) : Source :=
  (last? Operation.source? (since Operation.isClear history)).getD ⟨Document.inputName, ""⟩

def nameOf (history : List Operation) : String :=
  (last? Operation.name? (since Operation.isClear history)).getD defaultName

/-- The input that the last attempt saw, unless the session was cleared behind it. -/
def attempted? (history : List Operation) : Option Source :=
  let seen := upTo Operation.isAttempt (since Operation.isClear history)
  if seen.isEmpty then none else some (inputOf seen)

def documentOf (history : List Operation) : Option Document :=
  (attempted? history).bind fun source => (Document.parse source).toOption

def edits (history : List Operation) : List Operation :=
  since Operation.isReset (since Operation.isAttempt history)

/-- The frame of a document with the last text typed into each field. -/
def frameOf (document : Document) (history : List Operation) : Frame :=
  let value (field : Frame.Field) :=
    (last? (Operation.typed? field) (edits history)).getD (document.frame.get field)
  ⟨value .minX, value .minY, value .width, value .height⟩

def workingFrameOf (history : List Operation) : Option Frame :=
  (documentOf history).map fun document => frameOf document history

structure Shown where
  document : Option Document
  frame : Option Frame
  code : Option String
  preview : Option Preview

def shown (session : Session) : Shown :=
  ⟨session.document, session.frame, session.code, session.preview⟩

/-- What a session shows that has been through a history. -/
def expected (layout : Layout) (history : List Operation) : Shown :=
  match documentOf history with
  | none => ⟨none, none, none, none⟩
  | some document =>
      let frame := frameOf document history
      let component := Component.ofElements document.elements (nameOf history) frame
      ⟨some document, some frame, some (component.source layout),
        some (Preview.ofElements document.elements frame)⟩

section

variable (history : List Operation) (operation : Operation)

theorem since_concat (kind : Operation → Bool) :
    since kind (history ++ [operation]) =
      if kind operation then [] else since kind history ++ [operation] := by
  cases found : kind operation <;> simp [since, found]

theorem upTo_concat (kind : Operation → Bool) :
    upTo kind (history ++ [operation]) =
      if kind operation then history ++ [operation] else upTo kind history := by
  cases found : kind operation <;> simp [upTo, found]

theorem last?_concat {α : Type} (given : Operation → Option α) :
    last? given (history ++ [operation]) = (given operation).or (last? given history) := by
  cases found : given operation <;> simp [last?, found]

theorem inputOf_concat :
    inputOf (history ++ [operation]) =
      if operation.isClear then ⟨Document.inputName, ""⟩
      else operation.source?.getD (inputOf history) := by
  rw [inputOf, since_concat]
  split
  · rfl
  · rw [last?_concat, inputOf]
    cases operation.source? <;> rfl

theorem nameOf_concat :
    nameOf (history ++ [operation]) =
      if operation.isClear then defaultName else operation.name?.getD (nameOf history) := by
  rw [nameOf, since_concat]
  split
  · rfl
  · rw [last?_concat, nameOf]
    cases operation.name? <;> rfl

theorem edits_concat :
    edits (history ++ [operation]) =
      if operation.isAttempt || operation.isReset then [] else edits history ++ [operation] := by
  rw [edits, since_concat]
  cases attempt : operation.isAttempt
  · simp [since_concat, edits]
  · simp [since]

theorem since_since (kind : Operation → Bool) :
    since kind (since kind history) = since kind history := by
  let later : Operation → Bool := fun operation => !kind operation
  have every : ∀ operation ∈ history.reverse.takeWhile later, later operation = true :=
    List.all_eq_true.mp List.all_takeWhile
  have whole : (history.reverse.takeWhile later ++ []).takeWhile later =
      history.reverse.takeWhile later ++ [].takeWhile later := List.takeWhile_append_of_pos every
  simpa [since, later] using whole

theorem attempted?_concat :
    attempted? (history ++ [operation]) =
      if operation.isClear then none
      else if operation.isAttempt then some (inputOf (history ++ [operation]))
      else attempted? history := by
  cases clear : operation.isClear
  · cases attempt : operation.isAttempt
    · simp [attempted?, since_concat, upTo_concat, clear, attempt]
    · have same : inputOf (since Operation.isClear history) = inputOf history := by
        rw [inputOf, since_since, inputOf]
      simp [attempted?, since_concat, upTo_concat, inputOf_concat, clear, attempt, same]
  · simp [attempted?, since_concat, upTo, clear]

theorem documentOf_concat :
    documentOf (history ++ [operation]) =
      if operation.isClear then none
      else if operation.isAttempt then
        (Document.parse (inputOf (history ++ [operation]))).toOption
      else documentOf history := by
  rw [documentOf, attempted?_concat]
  split
  · rfl
  · split <;> rfl

theorem frameOf_of_untyped {history : List Operation}
    (untyped : ∀ field, last? (Operation.typed? field) (edits history) = none)
    (document : Document) : frameOf document history = document.frame := by
  simp only [frameOf, untyped]
  rfl

theorem frameOf_concat (document : Document) (attempt : operation.isAttempt = false)
    (reset : operation.isReset = false) :
    frameOf document (history ++ [operation]) =
      match operation with
      | .editFrame field raw => (frameOf document history).edit field raw
      | _ => frameOf document history := by
  have later : edits (history ++ [operation]) = edits history ++ [operation] := by
    simp [edits_concat, attempt, reset]
  simp only [frameOf, later, last?_concat]
  cases operation with
  | editFrame field raw =>
      simp only [Operation.typed?_editFrame]
      cases field <;> rfl
  | _ => rfl

theorem edit_frameOf (document : Document) (field : Frame.Field) (raw : String) :
    frameOf document (history ++ [.editFrame field raw]) =
      (frameOf document history).edit field raw :=
  frameOf_concat history (.editFrame field raw) document rfl rfl

theorem reset_frameOf (document : Document) :
    frameOf document (history ++ [.resetFrame]) = document.frame :=
  frameOf_of_untyped (fun _ => by simp [edits_concat, Operation.isReset, last?]) document

end

section

variable {history : List Operation} {operation : Operation}

theorem documentOf_concat_of_attempt (attempt : operation.isAttempt = true) :
    documentOf (history ++ [operation]) =
      (Document.parse (inputOf (history ++ [operation]))).toOption := by
  have clear : operation.isClear = false := by cases operation <;> trivial
  simp only [documentOf_concat, clear, attempt, if_true, Bool.false_eq_true, if_false]

theorem workingFrameOf_concat_of_attempt (attempt : operation.isAttempt = true) :
    workingFrameOf (history ++ [operation]) =
      (Document.parse (inputOf (history ++ [operation]))).toOption.map Document.frame := by
  have untyped (field : Frame.Field) :
      last? (Operation.typed? field) (edits (history ++ [operation])) = none := by
    simp [edits_concat, attempt, last?]
  simp only [workingFrameOf, documentOf_concat_of_attempt attempt, frameOf_of_untyped untyped]

theorem documentOf_concat_same (clear : operation.isClear = false)
    (attempt : operation.isAttempt = false) :
    documentOf (history ++ [operation]) = documentOf history := by
  simp only [documentOf_concat, clear, attempt, Bool.false_eq_true, if_false]

theorem workingFrameOf_concat (clear : operation.isClear = false)
    (attempt : operation.isAttempt = false) :
    workingFrameOf (history ++ [operation]) =
      (documentOf history).map fun document => frameOf document (history ++ [operation]) := by
  rw [workingFrameOf, documentOf_concat_same clear attempt]

theorem workingFrameOf_concat_same (clear : operation.isClear = false)
    (attempt : operation.isAttempt = false)
    (same : ∀ document, frameOf document (history ++ [operation]) = frameOf document history) :
    workingFrameOf (history ++ [operation]) = workingFrameOf history := by
  rw [workingFrameOf_concat clear attempt, workingFrameOf]
  simp only [same]

theorem concat_unseen (history : List Operation) (unseen : operation.isUnseen = true) :
    inputOf (history ++ [operation]) = inputOf history ∧
      nameOf (history ++ [operation]) = nameOf history ∧
      documentOf (history ++ [operation]) = documentOf history ∧
      workingFrameOf (history ++ [operation]) = workingFrameOf history := by
  have clear : operation.isClear = false := by cases operation <;> trivial
  have reset : operation.isReset = false := by cases operation <;> trivial
  have unnamed : operation.name? = none := by cases operation <;> trivial
  have attempt : operation.isAttempt = false := by
    cases operation <;> simp_all [Operation.isUnseen, Operation.isAttempt]
  have unput : operation.source? = none := by
    cases operation <;> simp_all [Operation.isUnseen, Operation.source?]
  refine ⟨?_, ?_, documentOf_concat_same clear attempt,
    workingFrameOf_concat_same clear attempt fun document => ?_⟩
  · simp [inputOf_concat, clear, unput]
  · simp [nameOf_concat, clear, unnamed]
  · rw [frameOf_concat history operation document attempt reset]
    cases operation <;> trivial

end

end VectorIcon.Session
