import VectorIcon.Proofs.Document.Drawable
import VectorIcon.Proofs.Session.History

/-!
What holds of a session at any time. Its document, the frame, the code and the preview come and go
together, a failure is in the open console, and the state says which of the two is there.
-/

namespace VectorIcon.Session

/-- The sessions that can come about. Whoever uses a session has a hand on its console too, and may
change it at will. -/
inductive Reachable : Session → Prop
  | initial (layout : Layout) : Reachable (initial layout)
  | after {session : Session} (reached : Reachable session) (operation : Operation) :
      Reachable (after session operation)
  | onConsole {session : Session} (reached : Reachable session) (change : Console → Console) :
      Reachable (session.onConsole change)

theorem Reachable.run {session : Session} (reached : Reachable session)
    (history : List Operation) : Reachable (session.run history) := by
  induction history generalizing session with
  | nil => exact reached
  | cons operation history ih => exact ih (reached.after operation)

structure IsComponentName (name : String) : Prop where
  nonempty : name ≠ ""
  accepted : ∀ c ∈ name.toList, isNameChar c = true

theorem isComponentName_default : IsComponentName defaultName :=
  ⟨by decide, List.all_eq_true.mp (by decide)⟩

theorem isComponentName_cleanName (name : String) : IsComponentName (cleanName name) := by
  unfold cleanName
  by_cases none : (name.toList.filter isNameChar).isEmpty = true
  · simp only [none, if_true]
    exact isComponentName_default
  · simp only [none, Bool.false_eq_true, if_false]
    constructor
    · intro empty
      have kept := congrArg String.toList empty
      rw [String.toList_ofList] at kept
      rw [kept] at none
      exact none rfl
    · intro c member
      rw [String.toList_ofList] at member
      exact (List.mem_filter.mp member).2

structure IsCoherent (session : Session) : Prop where
  framed : session.document.isSome = session.frame.isSome
  drawable : ∀ document, session.document = some document → document.IsDrawable
  named : IsComponentName session.componentName

theorem isCoherent_initial (layout : Layout) : IsCoherent (initial layout) := by
  refine ⟨rfl, ?_, isComponentName_default⟩
  intro document loaded
  cases loaded

namespace IsCoherent

variable {session other : Session}

theorem exists_frame (coherent : session.IsCoherent) {document : Document}
    (loaded : session.document = some document) : ∃ frame, session.frame = some frame := by
  apply Option.isSome_iff_exists.mp
  rw [← coherent.framed, loaded]
  rfl

theorem code_isSome (coherent : session.IsCoherent) :
    session.code.isSome = session.document.isSome := by
  unfold code
  cases loaded : session.document with
  | none => rfl
  | some document =>
      obtain ⟨frame, shown⟩ := coherent.exists_frame loaded
      rw [shown]
      rfl

theorem preview_isSome (coherent : session.IsCoherent) :
    session.preview.isSome = session.document.isSome := by
  unfold preview
  cases loaded : session.document with
  | none => rfl
  | some document =>
      obtain ⟨frame, shown⟩ := coherent.exists_frame loaded
      rw [shown]
      rfl

theorem congr (coherent : session.IsCoherent) (document : other.document = session.document)
    (frame : other.frame = session.frame) (name : other.componentName = session.componentName) :
    other.IsCoherent := by
  refine ⟨?_, ?_, ?_⟩
  · rw [document, frame, coherent.framed]
  · rw [document]
    exact coherent.drawable
  · rw [name]
    exact coherent.named

theorem parse (coherent : session.IsCoherent) : session.parse.2.IsCoherent := by
  simp only [Session.parse, unload]
  cases read : Document.parse ⟨session.sourceName, session.input⟩ with
  | error error =>
      refine ⟨rfl, ?_, coherent.named⟩
      intro document loaded
      cases loaded
  | ok document =>
      refine ⟨rfl, ?_, coherent.named⟩
      rintro _ ⟨⟩
      exact Document.isDrawable_of_parse read

theorem selectFile (coherent : session.IsCoherent) (file : SelectedFile) :
    (session.selectFile file).2.IsCoherent := by
  unfold Session.selectFile
  split
  · have filled : IsCoherent
        { session with input := Text.Utf8.decode file.contents, sourceName := file.name } :=
      coherent.congr rfl rfl rfl
    exact filled.parse
  · exact coherent.congr rfl rfl rfl

theorem setComponentName (coherent : session.IsCoherent) (name : String) :
    (session.setComponentName name).IsCoherent :=
  ⟨coherent.framed, coherent.drawable, isComponentName_cleanName name⟩

theorem editFrame (coherent : session.IsCoherent) (field : Frame.Field) (raw : String) :
    (session.editFrame field raw).IsCoherent := by
  refine ⟨?_, coherent.drawable, coherent.named⟩
  rw [Session.editFrame, Option.isSome_map]
  exact coherent.framed

theorem resetFrame (coherent : session.IsCoherent) : session.resetFrame.IsCoherent := by
  unfold Session.resetFrame
  split
  · exact coherent
  · rename_i document loaded
    refine ⟨?_, coherent.drawable, coherent.named⟩
    rw [loaded]
    rfl

theorem copy (coherent : session.IsCoherent) (clipboard : Clipboard) :
    (session.copy clipboard).session.IsCoherent := by
  unfold Session.copy
  split
  · exact coherent
  · split
    · exact coherent.congr rfl rfl rfl
    · exact coherent.congr rfl rfl rfl

theorem after (coherent : session.IsCoherent) (operation : Operation) :
    (after session operation).IsCoherent := by
  cases operation with
  | setInput text => exact coherent.congr rfl rfl rfl
  | parse => exact coherent.parse
  | selectFile file => exact coherent.selectFile file
  | setComponentName name => exact coherent.setComponentName name
  | editFrame field raw => exact coherent.editFrame field raw
  | resetFrame => exact coherent.resetFrame
  | clear => exact (isCoherent_initial session.layout).congr rfl rfl rfl
  | copy clipboard => exact coherent.copy clipboard
  | acknowledgeCopy => exact coherent.congr rfl rfl rfl
  | openConsole => exact coherent.congr rfl rfl rfl
  | closeConsole => exact coherent.congr rfl rfl rfl
  | dismissError => exact coherent.congr rfl rfl rfl

end IsCoherent

theorem Reachable.isCoherent {session : Session} (reached : Reachable session) :
    session.IsCoherent := by
  induction reached with
  | initial layout => exact isCoherent_initial layout
  | after _ operation ih => exact ih.after operation
  | onConsole _ change ih => exact ih.congr rfl rfl rfl

section

variable (session : Session)

theorem state_eq_parsed_iff : session.state = .parsed ↔ session.document.isSome = true := by
  unfold state
  split
  · rename_i loaded
    simp [loaded]
  · rename_i unloaded
    split <;> simp [unloaded]

theorem state_eq_error_iff :
    session.state = .error ↔ session.document = none ∧ session.console.error.isSome = true := by
  unfold state Console.isPending
  cases session.document with
  | some document => simp
  | none => cases session.console.error <;> simp

theorem state_eq_empty_iff :
    session.state = .empty ↔ session.document = none ∧ session.console.error = none := by
  unfold state Console.isPending
  cases session.document with
  | some document => simp
  | none => cases session.console.error <;> simp

end

def Answer.error? : Answer → Option ConvertError
  | .read (.error error) => some error
  | .copied (.error error) => some error
  | _ => none

section

variable {session : Session} {error : ConvertError}

theorem parse_failed (failed : session.parse.1 = .error error) :
    session.parse.2.document = none ∧ session.parse.2.console = ⟨some error, true⟩ := by
  simp only [parse, unload] at failed ⊢
  cases read : Document.parse ⟨session.sourceName, session.input⟩ with
  | ok document => simp [read] at failed
  | error cause =>
      simp only [read, Except.error.injEq] at failed ⊢
      subst cause
      exact ⟨rfl, rfl⟩

theorem selectFile_failed {file : SelectedFile}
    (failed : (session.selectFile file).1 = .error error) :
    (session.selectFile file).2.console = ⟨some error, true⟩ ∧
      (file.mimeType = svgMimeType → (session.selectFile file).2.document = none) := by
  unfold selectFile at failed ⊢
  by_cases svg : file.mimeType = svgMimeType
  · simp only [svg, if_true] at failed ⊢
    obtain ⟨unloaded, console⟩ := parse_failed failed
    exact ⟨console, fun _ => unloaded⟩
  · simp only [svg, if_false, Except.error.injEq] at failed ⊢
    subst error
    exact ⟨rfl, fun same => same.elim⟩

theorem copy_failed {clipboard : Clipboard}
    (failed : (session.copy clipboard).answer = .error error) :
    (session.copy clipboard).session.console = ⟨some error, true⟩ := by
  unfold copy at failed ⊢
  split at failed
  · cases failed
  · split at failed
    · cases failed
    · cases failed
      simp_all [report, Console.report]

theorem perform_failed {operation : Operation}
    (failed : (session.perform operation).1.error? = some error) :
    (after session operation).console = ⟨some error, true⟩ ∧
      (operation.isAttempt = true → (after session operation).document = none) := by
  cases operation with
  | parse =>
      have cause : session.parse.1 = .error error := by
        cases found : session.parse.1 <;> simp_all [perform, Answer.error?]
      obtain ⟨unloaded, console⟩ := parse_failed cause
      exact ⟨console, fun _ => unloaded⟩
  | selectFile file =>
      have cause : (session.selectFile file).1 = .error error := by
        cases found : (session.selectFile file).1 <;> simp_all [perform, Answer.error?]
      obtain ⟨console, unloaded⟩ := selectFile_failed cause
      exact ⟨console, fun attempt => unloaded (of_decide_eq_true attempt)⟩
  | copy clipboard =>
      have cause : (session.copy clipboard).answer = .error error := by
        cases found : (session.copy clipboard).answer <;> simp_all [perform, Answer.error?]
      exact ⟨copy_failed cause, fun attempt => absurd attempt (by simp [Operation.isAttempt])⟩
  | _ => simp [perform, Answer.error?] at failed

end

/-- Whatever was done to a session, its parts agree, and the next failure will be in its console. -/
theorem reachable_coherent {session : Session} (reached : Reachable session) :
    (session.document.isSome = session.frame.isSome ∧
      session.frame.isSome = session.code.isSome ∧
      session.code.isSome = session.preview.isSome) ∧
    (∀ document, session.document = some document →
      document.elements ≠ [] ∧ document.viewBox ≠ "") ∧
    (session.componentName ≠ "" ∧ ∀ c ∈ session.componentName.toList, isNameChar c = true) ∧
    ((session.state = .parsed ↔ session.document.isSome = true) ∧
      (session.state = .error ↔
        session.document = none ∧ session.console.error.isSome = true) ∧
      (session.state = .empty ↔ session.document = none ∧ session.console.error = none)) ∧
    ∀ operation error, (session.perform operation).1.error? = some error →
      (after session operation).console = ⟨some error, true⟩ ∧
        (operation.isAttempt = true → (after session operation).state = .error) := by
  have coherent := reached.isCoherent
  refine ⟨⟨coherent.framed, ?_, ?_⟩, ?_, ⟨coherent.named.nonempty, coherent.named.accepted⟩,
    ⟨session.state_eq_parsed_iff, session.state_eq_error_iff, session.state_eq_empty_iff⟩, ?_⟩
  · rw [coherent.code_isSome, coherent.framed]
  · rw [coherent.code_isSome, coherent.preview_isSome]
  · intro document loaded
    have drawable := coherent.drawable document loaded
    exact ⟨drawable.elements, drawable.viewBox⟩
  · intro operation error failed
    obtain ⟨console, unloaded⟩ := perform_failed failed
    refine ⟨console, fun attempt => ?_⟩
    rw [state_eq_error_iff, console]
    exact ⟨unloaded attempt, rfl⟩

theorem reachable_coherent_reread :
    let session := (initial Layout.standard).run
      [.setInput "<svg><g/></svg>", .parse, .setInput ""]
    Reachable session ∧ session.preview.isSome = true ∧
      (session.perform .parse).1.error? = some .emptyInput ∧
      (after session .parse).console = ⟨some .emptyInput, true⟩ ∧
      (after session .parse).state = .error := by
  intro session
  have reached : Reachable session := (Reachable.initial Layout.standard).run _
  have loaded : session.document.isSome = true := by decide +kernel
  have failed : (session.perform .parse).1.error? = some .emptyInput := rfl
  obtain ⟨⟨framed, coded, shown⟩, _, _, _, failing⟩ := reachable_coherent reached
  obtain ⟨console, state⟩ := failing .parse .emptyInput failed
  exact ⟨reached, by rw [← shown, ← coded, ← framed, loaded], failed, console, state rfl⟩

end VectorIcon.Session
