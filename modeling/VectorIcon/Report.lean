import VectorIcon.Diagnostic
import VectorIcon.Session
import VectorIcon.Text.Record

/-!
What tools report about a session and its console. A part that is not there is left out of the
text.
-/

namespace VectorIcon

structure SessionReport where
  state : Session.State
  componentName : String
  viewBox : Option String
  documentViewBox : Option String
  elementCount : Option Nat
  error : Option String
  consoleOpen : Bool
  copied : Bool

structure ErrorReport where
  isOpen : Bool
  isPending : Bool
  message : Option String

/-- What a drawing of the preview shows, and how similar it is to one of the input. A picture that
could not be drawn has an error. -/
structure PreviewReport where
  viewBox : String
  elementCount : Nat
  markup : String
  similarity : Option String
  inputError : Option String
  previewError : Option String

def optionalField {α : Type} (name : String) (value : α → Text.FieldValue) :
    Option α → Text.Record
  | some part => [(name, value part)]
  | none => []

namespace SessionReport

def ofSession (session : Session) : SessionReport where
  state := session.state
  componentName := session.componentName
  viewBox := session.frame.map Frame.text
  documentViewBox := session.document.map Document.viewBox
  elementCount := session.document.map Document.nodeCount
  error := session.console.error.map ConvertError.report
  consoleOpen := session.console.isOpen
  copied := session.copied

def record (report : SessionReport) : Text.Record :=
  [("state", .text report.state.text), ("component_name", .text report.componentName)] ++
    optionalField "view_box" .text report.viewBox ++
    optionalField "original_view_box" .text report.documentViewBox ++
    optionalField "element_count" .count report.elementCount ++
    optionalField "error" .text report.error ++
    [("console_open", .flag report.consoleOpen), ("copied", .flag report.copied)]

def text (report : SessionReport) : String :=
  report.record.text

end SessionReport

namespace ErrorReport

def ofConsole (console : Console) : ErrorReport :=
  ⟨console.isOpen, console.isPending, console.error.map ConvertError.report⟩

def text (report : ErrorReport) : String :=
  Text.Record.text
    ([("open", .flag report.isOpen), ("unacknowledged", .flag report.isPending)] ++
      optionalField "message" .text report.message)

end ErrorReport

def PreviewReport.text (report : PreviewReport) : String :=
  Text.Record.text
    ([("view_box", .text report.viewBox), ("element_count", .count report.elementCount),
        ("markup", .text report.markup), ("ssim", .number report.similarity)] ++
      optionalField "original_error" .text report.inputError ++
      optionalField "preview_error" .text report.previewError)

end VectorIcon
