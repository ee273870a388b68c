import VectorIcon.Proofs.Document.Equality
import VectorIcon.Proofs.Session.Determined

/-!
What a failure leaves behind. A file of another type and a refused copy change the console and
nothing else. A text that cannot be read takes the document and its frame away, and the error shows
all of it under the name of the file that it came from.
-/

namespace VectorIcon

theorem Document.source_of_parse_error {source attached : Source} {fault : Xml.Fault}
    (failed : parse source = .error (.markup fault attached)) : attached = source := by
  unfold parse at failed
  split at failed
  · cases failed
  · split at failed
    · cases failed
      rfl
    · rename_i nodes _
      unfold ofNodes at failed
      split at failed
      · cases failed
      · dsimp only at failed
        split at failed
        · cases failed
        · cases failed

namespace Session

/-- Sessions with the operations that were done on them. The console may be changed at will on the
way, which no history shows. -/
inductive LedTo (layout : Layout) : List Operation → Session → Prop
  | initial : LedTo layout [] (initial layout)
  | after {history : List Operation} {session : Session} (led : LedTo layout history session)
      (operation : Operation) : LedTo layout (history ++ [operation]) (after session operation)
  | onConsole {history : List Operation} {session : Session} (led : LedTo layout history session)
      (change : Console → Console) : LedTo layout history (session.onConsole change)

theorem LedTo.run {layout : Layout} {past : List Operation} {session : Session}
    (led : LedTo layout past session) (history : List Operation) :
    LedTo layout (past ++ history) (session.run history) := by
  induction history generalizing session past with
  | nil =>
      rw [List.append_nil]
      exact led
  | cons operation history ih =>
      rw [List.append_cons]
      exact ih (led.after operation)

def Operation.origin? : Operation → Option String
  | setInput _ => some Document.inputName
  | clear => some Document.inputName
  | selectFile file => if file.mimeType = svgMimeType then some file.name else none
  | _ => none

def originOf (history : List Operation) : String :=
  (last? Operation.origin? history).getD Document.inputName

theorem originOf_concat (history : List Operation) (operation : Operation) :
    originOf (history ++ [operation]) = operation.origin?.getD (originOf history) := by
  rw [originOf, last?_concat, originOf]
  cases operation.origin? <;> rfl

theorem sourceName_after (session : Session) (operation : Operation) :
    (after session operation).sourceName = operation.origin?.getD session.sourceName := by
  cases operation with
  | parse => exact session.parse_parts.2.2.1
  | selectFile file =>
      simp only [after, perform, selectFile, Operation.origin?]
      split
      · exact (parse_parts _).2.2.1
      · rfl
  | copy clipboard => exact (session.after_unseen rfl).2.2.1
  | resetFrame =>
      simp only [after, perform, resetFrame]
      split <;> rfl
  | _ => rfl

/-- The last text put in, or the last clearing, decides on the name. -/
theorem LedTo.sourceName {layout : Layout} {history : List Operation} {session : Session}
    (led : LedTo layout history session) : session.sourceName = originOf history := by
  induction led with
  | initial => rfl
  | after _ operation ih => rw [sourceName_after, originOf_concat, ih]
  | onConsole _ change ih => exact ih

theorem parse_answer (session : Session) :
    session.parse.1 = Document.parse ⟨session.sourceName, session.input⟩ := by
  simp only [parse, unload]
  cases Document.parse ⟨session.sourceName, session.input⟩ <;> rfl

def failedWith (session : Session) (error : ConvertError) : Session :=
  { session with console := ⟨some error, true⟩ }

def unreadWith (session : Session) (error : ConvertError) : Session :=
  { session with document := none, frame := none, console := ⟨some error, true⟩ }

theorem failedWith_shown (session : Session) (error : ConvertError) :
    (session.failedWith error).shown = session.shown := rfl

theorem parse_left {session : Session} {error : ConvertError}
    (failed : session.parse.1 = .error error) : session.parse.2 = session.unreadWith error := by
  rw [parse_answer] at failed
  simp only [parse, unload, failed]
  rfl

theorem source_of_parse_markup {session : Session} {fault : Xml.Fault} {attached : Source}
    (failed : session.parse.1 = .error (.markup fault attached)) :
    attached = ⟨session.sourceName, session.input⟩ := by
  rw [parse_answer] at failed
  exact Document.source_of_parse_error failed

def withFile (session : Session) (file : SelectedFile) : Session :=
  { session with input := Text.Utf8.decode file.contents, sourceName := file.name }

theorem selectFile_svg (session : Session) {file : SelectedFile}
    (svg : file.mimeType = svgMimeType) :
    session.selectFile file = (session.withFile file).parse := by
  rw [selectFile, if_pos svg]
  rfl

theorem selectFile_other (session : Session) {file : SelectedFile}
    (other : file.mimeType ≠ svgMimeType) :
    session.selectFile file = (.error (.unsupportedFileType file.mimeType),
      session.failedWith (.unsupportedFileType file.mimeType)) := by
  rw [selectFile, if_neg other]
  rfl

theorem copy_refused {session : Session} {clipboard : Clipboard} {code message : String}
    (written : session.code = some code) (refused : clipboard.write code = .error message) :
    session.copy clipboard = ⟨.error (.clipboardWrite message),
      session.failedWith (.clipboardWrite message), clipboard⟩ := by
  simp only [copy, written, refused]
  rfl

theorem exists_refused_of_copy {session : Session} {clipboard : Clipboard} {error : ConvertError}
    (failed : (session.copy clipboard).answer = .error error) :
    ∃ code message, session.code = some code ∧ clipboard.write code = .error message := by
  unfold copy at failed
  split at failed
  · cases failed
  · rename_i code written
    split at failed
    · cases failed
    · rename_i message refused
      exact ⟨code, message, written, refused⟩

/-- What a failure leaves, at any time in the history of a session. -/
theorem failure_left {layout : Layout} {history : List Operation} {session : Session}
    (led : LedTo layout history session) :
    (∀ file, file.mimeType ≠ svgMimeType →
      let error := .unsupportedFileType file.mimeType
      session.selectFile file = (.error error, session.failedWith error) ∧
        (session.failedWith error).shown = session.shown) ∧
    (∀ clipboard error, (session.copy clipboard).answer = .error error ↔
      ∃ code message, session.code = some code ∧ clipboard.write code = .error message ∧
        error = .clipboardWrite message) ∧
    (∀ clipboard error, (session.copy clipboard).answer = .error error →
      (session.copy clipboard).session = session.failedWith error ∧
        (session.failedWith error).shown = session.shown) ∧
    (∀ error, session.parse.1 = .error error →
      session.parse.2 = session.unreadWith error ∧
        ∀ fault source, error = .markup fault source →
          source = ⟨originOf history, session.input⟩) ∧
    (∀ file, file.mimeType = svgMimeType →
      ∀ error, (session.selectFile file).1 = .error error →
        (session.selectFile file).2 = (session.withFile file).unreadWith error ∧
          ∀ fault source, error = .markup fault source →
            source = ⟨originOf (history ++ [.selectFile file]),
              (session.withFile file).input⟩) := by
  refine ⟨?_, ?_, ?_, ?_, ?_⟩
  · intro file other
    exact ⟨session.selectFile_other other, failedWith_shown session _⟩
  · intro clipboard error
    constructor
    · intro failed
      obtain ⟨code, message, written, refused⟩ := exists_refused_of_copy failed
      rw [copy_refused written refused, Except.error.injEq] at failed
      exact ⟨code, message, written, refused, failed.symm⟩
    · rintro ⟨code, message, written, refused, rfl⟩
      rw [copy_refused written refused]
  · intro clipboard error failed
    obtain ⟨code, message, written, refused⟩ := exists_refused_of_copy failed
    rw [copy_refused written refused] at failed ⊢
    cases failed
    exact ⟨rfl, failedWith_shown session _⟩
  · intro error failed
    refine ⟨parse_left failed, ?_⟩
    rintro fault source rfl
    rw [source_of_parse_markup failed, led.sourceName]
  · intro file svg error failed
    rw [selectFile_svg session svg] at failed ⊢
    refine ⟨parse_left failed, ?_⟩
    rintro fault source rfl
    have named : originOf (history ++ [.selectFile file]) = file.name := by
      simp [originOf_concat, Operation.origin?, svg]
    rw [source_of_parse_markup failed, named]
    rfl

theorem failure_left_refused :
    let history : List Operation :=
      [.selectFile ⟨"a.svg", svgMimeType, "<svg><g/></svg>".toUTF8.toList⟩,
        .selectFile ⟨"b.txt", "text/plain", []⟩]
    let session := (initial Layout.standard).run history
    let file : SelectedFile := ⟨"c.svg", svgMimeType, [60]⟩
    let clipboard := Clipboard.refusing "denied"
    LedTo Layout.standard history session ∧ session.code.isSome = true ∧
      (session.copy clipboard).session = session.failedWith (.clipboardWrite "denied") ∧
      ∃ fault, (session.selectFile file).1 = .error (.markup fault ⟨"c.svg", "<"⟩) ∧
        (session.selectFile file).2 =
          (session.withFile file).unreadWith (.markup fault ⟨"c.svg", "<"⟩) := by
  intro history session file clipboard
  have led : LedTo Layout.standard history session := LedTo.initial.run history
  have loaded : session.code.isSome = true := by decide +kernel
  have unread : ∃ fault, (session.selectFile file).1 = .error (.markup fault ⟨"c.svg", "<"⟩) :=
    ⟨⟨.invalidName, ⟨1, 2⟩⟩, by decide +kernel⟩
  obtain ⟨_, refused, copied, _, selected⟩ := failure_left led
  obtain ⟨code, written⟩ := Option.isSome_iff_exists.mp loaded
  have denied : (session.copy clipboard).answer = .error (.clipboardWrite "denied") :=
    (refused clipboard _).mpr ⟨code, "denied", written, rfl, rfl⟩
  obtain ⟨fault, failed⟩ := unread
  exact ⟨led, loaded, (copied clipboard _ denied).1, fault, failed, (selected file rfl _ failed).1⟩

end Session

end VectorIcon
