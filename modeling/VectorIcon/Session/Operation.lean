import VectorIcon.Session

/-!
The operations of a session as data, so that a history is a list. `perform` does one operation,
`run` all of a history and `answers` collects what the user is told on the way.
-/

namespace VectorIcon.Session

inductive Operation where
  | setInput (text : String)
  | parse
  | selectFile (file : SelectedFile)
  | setComponentName (name : String)
  | editFrame (field : Frame.Field) (raw : String)
  | resetFrame
  | clear
  | copy (clipboard : Clipboard)
  | acknowledgeCopy
  | openConsole
  | closeConsole
  | dismissError

inductive Answer where
  | done
  | read (result : Except ConvertError Document)
  | named (name : String)
  | framed (frame : Option Frame)
  | copied (result : Except ConvertError Bool)

def perform (session : Session) : Operation → Answer × Session
  | .setInput text => (.done, session.setInput text)
  | .parse =>
      let (result, session) := session.parse
      (.read result, session)
  | .selectFile file =>
      let (result, session) := session.selectFile file
      (.read result, session)
  | .setComponentName name =>
      let session := session.setComponentName name
      (.named session.componentName, session)
  | .editFrame field raw =>
      let session := session.editFrame field raw
      (.framed session.frame, session)
  | .resetFrame => (.framed (session.document.map Document.frame), session.resetFrame)
  | .clear => (.done, session.clear)
  | .copy clipboard =>
      let copying := session.copy clipboard
      (.copied copying.answer, copying.session)
  | .acknowledgeCopy => (.done, session.acknowledgeCopy)
  | .openConsole => (.done, session.onConsole Console.reveal)
  | .closeConsole => (.done, session.onConsole Console.close)
  | .dismissError => (.done, session.onConsole Console.dismiss)

def after (session : Session) (operation : Operation) : Session :=
  (session.perform operation).2

def run (session : Session) (history : List Operation) : Session :=
  history.foldl after session

def answers (session : Session) : List Operation → List Answer
  | [] => []
  | operation :: rest =>
      let (answer, session) := session.perform operation
      answer :: answers session rest

end VectorIcon.Session
