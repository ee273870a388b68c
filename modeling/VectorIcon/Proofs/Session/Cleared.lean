import VectorIcon.Proofs.Session.Coherent
import VectorIcon.Proofs.Session.Determined

/-!
A cleared session against a new one. Two sessions that differ at most in whether the console is
open answer every action alike and stay so, and they become one and the same session with the
first action that reports an error, or opens or closes the console.
-/

namespace VectorIcon.Session

inductive Action where
  | operation (operation : Operation)
  | report (error : ConvertError)

def act (session : Session) : Action → Answer × Session
  | .operation operation => session.perform operation
  | .report error => (.done, session.report error)

def follow (session : Session) (actions : List Action) : Session :=
  actions.foldl (fun session action => (session.act action).2) session

/-- All that can be seen of a session but whether its console is open. The name of the source is
seen in errors only. -/
structure View where
  state : State
  input : String
  sourceName : String
  componentName : String
  document : Option Document
  frame : Option Frame
  error : Option ConvertError
  message : Option String
  code : Option String
  preview : Option Preview
  copied : Bool

def view (session : Session) : View :=
  ⟨session.state, session.input, session.sourceName, session.componentName, session.document,
    session.frame, session.console.error, session.console.message, session.code, session.preview,
    session.copied⟩

def observed (session : Session) : List Action → List (Answer × View)
  | [] => []
  | action :: rest =>
      let (answer, session) := session.act action
      (answer, session.view) :: observed session rest

def Operation.opensOrCloses : Operation → Bool
  | openConsole => true
  | closeConsole => true
  | _ => false

/-- Whether an action reports an error, or opens or closes the console. -/
def settles (session : Session) : Action → Bool
  | .report _ => true
  | .operation operation =>
      operation.opensOrCloses || (session.perform operation).1.error?.isSome

def withOpen (session : Session) (isOpen : Bool) : Session :=
  session.onConsole fun console => { console with isOpen := isOpen }

def Alike (first second : Session) : Prop :=
  ∃ isOpen, second = first.withOpen isOpen

theorem alike_clear_initial (session : Session) : Alike session.clear (initial session.layout) :=
  ⟨false, rfl⟩

namespace Alike

variable {first second : Session}

theorem view_eq (alike : Alike first second) : first.view = second.view := by
  obtain ⟨isOpen, rfl⟩ := alike
  rfl

theorem eq_of_isOpen_eq (alike : Alike first second)
    (same : first.console.isOpen = second.console.isOpen) : first = second := by
  obtain ⟨isOpen, rfl⟩ := alike
  have kept : first.console.isOpen = isOpen := same
  subst isOpen
  rfl

theorem parse (alike : Alike first second) :
    first.parse.1 = second.parse.1 ∧ Alike first.parse.2 second.parse.2 := by
  obtain ⟨isOpen, rfl⟩ := alike
  simp only [Session.parse, unload, withOpen, onConsole]
  cases Document.parse ⟨first.sourceName, first.input⟩ with
  | ok document => exact ⟨rfl, isOpen, rfl⟩
  | error error => exact ⟨rfl, true, rfl⟩

theorem selectFile (alike : Alike first second) (file : SelectedFile) :
    (first.selectFile file).1 = (second.selectFile file).1 ∧
      Alike (first.selectFile file).2 (second.selectFile file).2 := by
  obtain ⟨isOpen, rfl⟩ := alike
  unfold Session.selectFile
  split
  · exact parse ⟨isOpen, rfl⟩
  · exact ⟨rfl, true, rfl⟩

theorem copy (alike : Alike first second) (clipboard : Clipboard) :
    (first.copy clipboard).answer = (second.copy clipboard).answer ∧
      Alike (first.copy clipboard).session (second.copy clipboard).session := by
  obtain ⟨isOpen, rfl⟩ := alike
  have code : (first.withOpen isOpen).code = first.code := rfl
  unfold Session.copy
  rw [code]
  cases first.code with
  | none => exact ⟨rfl, isOpen, rfl⟩
  | some code =>
      dsimp only
      cases clipboard.write code with
      | ok written => exact ⟨rfl, isOpen, rfl⟩
      | error message => exact ⟨rfl, true, rfl⟩

theorem resetFrame (alike : Alike first second) : Alike first.resetFrame second.resetFrame := by
  obtain ⟨isOpen, rfl⟩ := alike
  have document : (first.withOpen isOpen).document = first.document := rfl
  unfold Session.resetFrame
  rw [document]
  cases first.document with
  | none => exact ⟨isOpen, rfl⟩
  | some document => exact ⟨isOpen, rfl⟩

theorem perform (alike : Alike first second) (operation : Operation) :
    (first.perform operation).1 = (second.perform operation).1 ∧
      Alike (first.perform operation).2 (second.perform operation).2 := by
  cases operation with
  | parse =>
      obtain ⟨result, left⟩ := alike.parse
      exact ⟨congrArg Answer.read result, left⟩
  | selectFile file =>
      obtain ⟨result, left⟩ := alike.selectFile file
      exact ⟨congrArg Answer.read result, left⟩
  | copy clipboard =>
      obtain ⟨result, left⟩ := alike.copy clipboard
      exact ⟨congrArg Answer.copied result, left⟩
  | resetFrame =>
      have document : first.document = second.document := congrArg View.document alike.view_eq
      refine ⟨?_, alike.resetFrame⟩
      simp only [Session.perform, document]
  | openConsole =>
      obtain ⟨isOpen, rfl⟩ := alike
      exact ⟨rfl, true, rfl⟩
  | closeConsole =>
      obtain ⟨isOpen, rfl⟩ := alike
      exact ⟨rfl, false, rfl⟩
  | _ =>
      obtain ⟨isOpen, rfl⟩ := alike
      exact ⟨rfl, isOpen, rfl⟩

theorem act (alike : Alike first second) (action : Action) :
    (first.act action).1 = (second.act action).1 ∧
      Alike (first.act action).2 (second.act action).2 := by
  cases action with
  | operation operation => exact alike.perform operation
  | report error =>
      obtain ⟨isOpen, rfl⟩ := alike
      exact ⟨rfl, true, rfl⟩

theorem follow (alike : Alike first second) (actions : List Action) :
    Alike (first.follow actions) (second.follow actions) := by
  induction actions generalizing first second with
  | nil => exact alike
  | cons action rest ih => exact ih (alike.act action).2

theorem observed_eq (alike : Alike first second) (actions : List Action) :
    observed first actions = observed second actions := by
  induction actions generalizing first second with
  | nil => rfl
  | cons action rest ih =>
      obtain ⟨answer, left⟩ := alike.act action
      simp only [observed]
      rw [answer, left.view_eq, ih left]

theorem act_eq_of_settles (alike : Alike first second) {action : Action}
    (settled : second.settles action = true) : (first.act action).2 = (second.act action).2 := by
  obtain ⟨answer, left⟩ := alike.act action
  apply left.eq_of_isOpen_eq
  cases action with
  | report error => rfl
  | operation operation =>
      rcases Bool.or_eq_true_iff.mp settled with moved | failed
      · cases operation with
        | openConsole => rfl
        | closeConsole => rfl
        | _ => cases moved
      · obtain ⟨error, failed⟩ := Option.isSome_iff_exists.mp failed
        have firstConsole := (perform_failed ((congrArg Answer.error? answer).trans failed)).1
        have secondConsole := (perform_failed failed).1
        exact congrArg Console.isOpen (firstConsole.trans secondConsole.symm)

end Alike

theorem follow_append (session : Session) (earlier later : List Action) :
    session.follow (earlier ++ later) = (session.follow earlier).follow later :=
  List.foldl_append

theorem layout_perform (session : Session) (operation : Operation) :
    (session.perform operation).2.layout = session.layout := by
  cases operation with
  | parse => exact session.parse_parts.1
  | selectFile file =>
      simp only [perform, selectFile]
      split
      · exact (parse_parts _).1
      · rfl
  | copy clipboard => exact (after_unseen session rfl).1
  | resetFrame =>
      simp only [perform, resetFrame]
      split <;> rfl
  | _ => rfl

theorem layout_follow (session : Session) (actions : List Action) :
    (session.follow actions).layout = session.layout := by
  induction actions generalizing session with
  | nil => rfl
  | cons action rest ih =>
      refine (ih (session.act action).2).trans ?_
      cases action with
      | operation operation => exact session.layout_perform operation
      | report error => rfl

theorem alike_clear_follow (layout : Layout) (past : List Action) :
    Alike ((initial layout).follow past).clear (initial layout) := by
  have alike := alike_clear_initial ((initial layout).follow past)
  rwa [layout_follow] at alike

/-- Nothing of what was done before a session was cleared is seen in it, now or later. -/
theorem cleared_observed (layout : Layout) (past later : List Action) :
    let cleared := ((initial layout).follow past).clear
    let fresh := initial layout
    cleared.view = fresh.view ∧ observed cleared later = observed fresh later ∧
      ∀ earlier action rest, later = earlier ++ action :: rest →
        (fresh.follow earlier).settles action = true →
          cleared.follow later = fresh.follow later := by
  intro cleared fresh
  have alike : Alike cleared fresh := alike_clear_follow layout past
  refine ⟨alike.view_eq, alike.observed_eq later, ?_⟩
  rintro earlier action rest rfl settled
  rw [follow_append, follow_append]
  exact congrArg (follow · rest) ((alike.follow earlier).act_eq_of_settles settled)

theorem cleared_observed_reopened :
    let past : List Action :=
      [.operation (.selectFile ⟨"a.svg", svgMimeType, [60]⟩),
        .operation (.setComponentName "Star")]
    let cleared := ((initial Layout.standard).follow past).clear
    let fresh := initial Layout.standard
    let later : List Action := [.operation (.setInput " "), .operation .parse]
    cleared.console.isOpen = true ∧ fresh.console.isOpen = false ∧
      (fresh.follow [.operation (.setInput " ")]).settles (.operation .parse) = true ∧
      cleared.follow later = fresh.follow later := by
  intro past cleared fresh later
  have opened : cleared.console.isOpen = true := by decide +kernel
  have settled :
      (fresh.follow [.operation (.setInput " ")]).settles (.operation .parse) = true := by
    decide +kernel
  obtain ⟨_, _, same⟩ := cleared_observed Layout.standard past later
  exact ⟨opened, rfl, settled,
    same [.operation (.setInput " ")] (.operation .parse) [] rfl settled⟩

end VectorIcon.Session
