import VectorIcon.Session.Operation
import VectorIcon.Tool.Server

/-!
What a call comes to. It is refused, it shows something, it copies the code, or it has the session
perform operations and reports on them; nothing else happens to the server.
-/

namespace VectorIcon

theorem exists_of_bind_eq_ok {ε α β : Type} {first : Except ε α} {next : α → Except ε β}
    {result : β} (done : (first >>= next) = .ok result) :
    ∃ value, first = .ok value ∧ next value = .ok result := by
  cases first with
  | error failure => cases done
  | ok value => exact ⟨value, rfl, done⟩

namespace Request

def tool : Request → Tool
  | .convert _ => .convert
  | .loadFile _ _ => .loadFile
  | .setName _ => .setName
  | .setField _ _ => .setField
  | .resetFrame => .resetFrame
  | .code => .code
  | .copy => .copy
  | .preview _ => .preview
  | .errors => .errors
  | .dismiss _ => .dismiss
  | .clear => .clear

theorem tool_of_ofArguments {tool : Tool} {arguments : Arguments} {request : Request}
    (read : ofArguments tool arguments = .ok request) : request.tool = tool := by
  obtain ⟨_, _, read⟩ := exists_of_bind_eq_ok read
  cases tool with
  | loadFile =>
      obtain ⟨path, _, read⟩ := exists_of_bind_eq_ok read
      obtain ⟨mimeType, _, read⟩ := exists_of_bind_eq_ok read
      cases read
      rfl
  | setField =>
      obtain ⟨field, _, read⟩ := exists_of_bind_eq_ok read
      obtain ⟨value, _, read⟩ := exists_of_bind_eq_ok read
      cases read
      rfl
  | convert | setName | preview | dismiss =>
      obtain ⟨_, _, read⟩ := exists_of_bind_eq_ok read
      cases read
      rfl
  | resetFrame | code | copy | errors | clear =>
      cases read
      rfl

theorem tool_of_ofCall {name : String} {arguments : Option Arguments} {request : Request}
    (read : ofCall name arguments = .ok request) : Tool.ofName? name = some request.tool := by
  cases arguments with
  | none => cases read
  | some arguments =>
      simp only [ofCall] at read
      cases known : Tool.ofName? name with
      | none =>
          rw [known] at read
          cases read
      | some tool =>
          rw [known] at read
          rw [tool_of_ofArguments read]

end Request

def Reply.report? : Reply → Option SessionReport
  | .session report => some report
  | .copy report _ => some report
  | _ => none

def Session.Operation.isCopy : Operation → Bool
  | copy _ => true
  | _ => false

namespace Server

inductive Outcome (server : Server) : Option Tool → Except Refusal Reply × Server → Prop
  | refused (tool : Option Tool) (refusal : Refusal) :
      Outcome server tool (.error refusal, server)
  | shown {tool : Tool} (reply : Reply) (silent : reply.report? = none) :
      Outcome server tool (.ok reply, server)
  | copied : Outcome server (some .copy) server.copy
  | performed {tool : Tool} (operations : List Session.Operation) (other : tool ≠ .copy)
      (changing : tool.isReadOnly = false)
      (uncopied : ∀ operation ∈ operations, operation.isCopy = false) :
      Outcome server tool (server.reporting (server.session.run operations))

theorem outcome_of_answer (host : Host) (server : Server) (request : Request) :
    Outcome server request.tool (server.answer host request) := by
  have once {tool : Tool} (operation : Session.Operation) (other : tool ≠ .copy)
      (changing : tool.isReadOnly = false) (uncopied : operation.isCopy = false) :
      Outcome server tool (server.reporting (server.session.after operation)) :=
    .performed [operation] other changing (List.forall_mem_singleton.mpr uncopied)
  cases request with
  | convert svg =>
      exact .performed [.setInput svg, .parse] nofun rfl (by simp [Session.Operation.isCopy])
  | loadFile path mimeType =>
      simp only [answer, loadFile]
      split
      · exact .refused _ _
      · exact once (.selectFile _) nofun rfl rfl
  | setName name => exact once (.setComponentName name) nofun rfl rfl
  | setField name value =>
      simp only [answer]
      split
      · exact .refused _ _
      · exact once (.editFrame _ value) nofun rfl rfl
  | resetFrame => exact once .resetFrame nofun rfl rfl
  | code =>
      simp only [answer]
      split
      · exact .refused _ _
      · exact .shown _ rfl
  | copy => exact .copied
  | preview width =>
      simp only [answer]
      split
      · exact .refused _ _
      · exact .shown _ rfl
  | errors => exact .shown _ rfl
  | dismiss close =>
      simp only [answer]
      split
      · exact .performed [.dismissError, .closeConsole] nofun rfl
          (by simp [Session.Operation.isCopy])
      · exact once .dismissError nofun rfl rfl
  | clear => exact once .clear nofun rfl rfl

theorem outcome (host : Host) (server : Server) (call : Call) :
    Outcome server (Tool.ofName? call.tool) (server.call host call) := by
  unfold Server.call
  cases read : Request.ofCall call.tool call.arguments with
  | error refusal => exact .refused _ refusal
  | ok request =>
      rw [Request.tool_of_ofCall read]
      exact outcome_of_answer host server request

end Server

end VectorIcon
