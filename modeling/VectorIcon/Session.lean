import VectorIcon.Component
import VectorIcon.Component.Layout
import VectorIcon.Document
import VectorIcon.Preview
import VectorIcon.Session.Clipboard
import VectorIcon.Session.Console
import VectorIcon.Text.Utf8

/-!
An editing session: the input text, the document read from it, the working frame, the component
name, and a console that keeps the last error.
-/

namespace VectorIcon

structure SelectedFile where
  name : String
  mimeType : String
  contents : List UInt8

def svgMimeType : String :=
  "image/svg+xml"

structure Session where
  input : String
  sourceName : String
  componentName : String
  document : Option Document
  /-- The working frame, which starts as that of the document. -/
  frame : Option Frame
  console : Console
  copied : Bool
  layout : Layout

namespace Session

def defaultName : String :=
  "CustomIcon"

def initial (layout : Layout) : Session :=
  ⟨"", Document.inputName, defaultName, none, none, Console.initial, false, layout⟩

inductive State where
  | empty
  | parsed
  | error
  deriving DecidableEq

def State.text : State → String
  | .empty => "empty"
  | .parsed => "parsed"
  | .error => "error"

def state (session : Session) : State :=
  if session.document.isSome then .parsed
  else if session.console.isPending then .error
  else .empty

def code (session : Session) : Option String := do
  let document ← session.document
  let frame ← session.frame
  return (Component.ofElements document.elements session.componentName frame).source
    session.layout

def preview (session : Session) : Option Preview := do
  let document ← session.document
  let frame ← session.frame
  return Preview.ofElements document.elements frame

def report (session : Session) (error : ConvertError) : Session :=
  { session with console := session.console.report error }

def setInput (session : Session) (text : String) : Session :=
  { session with input := text, sourceName := Document.inputName }

def unload (session : Session) : Session :=
  { session with document := none, frame := none, console := session.console.dismiss }

/-- Reads the input. A failure leaves no document, a success no error. -/
def parse (session : Session) : Except ConvertError Document × Session :=
  let session := session.unload
  match Document.parse ⟨session.sourceName, session.input⟩ with
  | .ok document =>
      (.ok document, { session with document := some document, frame := some document.frame })
  | .error error => (.error error, session.report error)

/-- Reads the text of an SVG file; a file of another type is reported and changes nothing else. -/
def selectFile (session : Session) (file : SelectedFile) :
    Except ConvertError Document × Session :=
  if file.mimeType = svgMimeType then
    { session with input := Text.Utf8.decode file.contents, sourceName := file.name }.parse
  else
    let error := ConvertError.unsupportedFileType file.mimeType
    (.error error, session.report error)

def isNameChar (c : Char) : Bool :=
  c.isAlphanum || c == '_'

def cleanName (name : String) : String :=
  let kept := name.toList.filter isNameChar
  if kept.isEmpty then defaultName else String.ofList kept

def setComponentName (session : Session) (name : String) : Session :=
  { session with componentName := cleanName name }

def editFrame (session : Session) (field : Frame.Field) (raw : String) : Session :=
  { session with frame := session.frame.map fun frame => frame.edit field raw }

def resetFrame (session : Session) : Session :=
  match session.document with
  | none => session
  | some document => { session with frame := some document.frame }

/-- Forgets everything but the layout and whether the console is open. -/
def clear (session : Session) : Session :=
  { initial session.layout with console := session.console.dismiss }

structure Copying where
  answer : Except ConvertError Bool
  session : Session
  clipboard : Clipboard

def copy (session : Session) (clipboard : Clipboard) : Copying :=
  match session.code with
  | none => ⟨.ok false, session, clipboard⟩
  | some code =>
      match clipboard.write code with
      | .ok written => ⟨.ok true, { session with copied := true }, written⟩
      | .error message =>
          let error := ConvertError.clipboardWrite message
          ⟨.error error, session.report error, clipboard⟩

def acknowledgeCopy (session : Session) : Session :=
  { session with copied := false }

def onConsole (session : Session) (change : Console → Console) : Session :=
  { session with console := change session.console }

end Session

end VectorIcon
