import VectorIcon.Path
import VectorIcon.Tool.Argument
import VectorIcon.Tool.Host

/-!
The tool server: one session and one clipboard that calls work on, one after the other. A refused
call changes nothing.
-/

namespace VectorIcon

structure Server where
  session : Session
  clipboard : Clipboard

inductive Reply where
  | session (report : SessionReport)
  | copy (report : SessionReport) (code : Option String)
  | code (code : String)
  | preview (report : PreviewReport) (image : Option Image)
  | errors (report : ErrorReport)

def Reply.texts : Reply → List String
  | .session report => [report.text]
  | .copy report copied => report.text :: copied.toList
  | .code source => [source]
  | .preview report _ => [report.text]
  | .errors report => [report.text]

namespace Server

def initial : Server :=
  ⟨Session.initial Layout.standard, Clipboard.memory⟩

def reporting (server : Server) (session : Session) : Except Refusal Reply × Server :=
  (.ok (.session (SessionReport.ofSession session)), { server with session := session })

def refusing (server : Server) (refusal : Refusal) : Except Refusal Reply × Server :=
  (.error refusal, server)

def loadFile (host : Host) (server : Server) (path : String) (mimeType : Option String) :
    Except Refusal Reply × Server :=
  match host.read path with
  | .error reason => server.refusing (.unreadable path reason)
  | .ok contents =>
      let name := (Path.fileName? path).getD path
      let file : SelectedFile := ⟨name, mimeType.getD (Path.guessMimeType path), contents⟩
      server.reporting (server.session.selectFile file).2

/-- Copies the code and shows it, but only code that was copied by this call. -/
def copy (server : Server) : Except Refusal Reply × Server :=
  let copying := server.session.copy server.clipboard
  let report := SessionReport.ofSession copying.session
  let code := if report.copied then copying.clipboard.contents else none
  (.ok (.copy report code), ⟨copying.session.acknowledgeCopy, copying.clipboard⟩)

def answer (host : Host) (server : Server) : Request → Except Refusal Reply × Server
  | .convert svg => server.reporting (server.session.setInput svg).parse.2
  | .loadFile path mimeType => loadFile host server path mimeType
  | .setName name => server.reporting (server.session.setComponentName name)
  | .setField name value =>
      match Frame.Field.ofName? name with
      | none => server.refusing (.unknownField name)
      | some field => server.reporting (server.session.editFrame field value)
  | .resetFrame => server.reporting server.session.resetFrame
  | .code =>
      match server.session.code with
      | none => server.refusing .nothingConverted
      | some code => (.ok (.code code), server)
  | .copy => server.copy
  | .preview width =>
      match server.session.preview with
      | none => server.refusing .nothingConverted
      | some preview =>
          let (report, image) :=
            host.raster.compare (Raster.width width) server.session.input preview
          (.ok (.preview report image), server)
  | .errors => (.ok (.errors (ErrorReport.ofConsole server.session.console)), server)
  | .dismiss close =>
      let dismissed := server.session.onConsole Console.dismiss
      server.reporting (if close.getD false then dismissed.onConsole Console.close else dismissed)
  | .clear => server.reporting server.session.clear

structure Call where
  tool : String
  arguments : Option Arguments

def call (host : Host) (server : Server) (call : Call) : Except Refusal Reply × Server :=
  match Request.ofCall call.tool call.arguments with
  | .error refusal => server.refusing refusal
  | .ok request => server.answer host request

def callAll (host : Host) (server : Server) : List Call → List (Except Refusal Reply)
  | [] => []
  | next :: rest =>
      let (reply, server) := server.call host next
      reply :: callAll host server rest

end Server

end VectorIcon
