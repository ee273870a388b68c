import VectorIcon.Proofs.Tool.Outcome

/-!
Calls that leave no trace. A call to a read-only tool and a call that is refused leave the server
as it was, so leaving any of them out changes nothing for the calls that remain.
-/

namespace VectorIcon

namespace Server

def Call.isReadOnly (call : Call) : Bool :=
  (Tool.ofName? call.tool).any Tool.isReadOnly

def exchanges (host : Host) (server : Server) :
    List Call → List (Server × Except Refusal Reply)
  | [] => []
  | next :: rest =>
      let (reply, after) := server.call host next
      (server, reply) :: exchanges host after rest

/-- The entries of a list at the places that are kept. -/
def keepAt {α : Type} (kept : Nat → Bool) : List α → List α
  | [] => []
  | entry :: rest =>
      if kept 0 then entry :: keepAt (fun place => kept (place + 1)) rest
      else keepAt (fun place => kept (place + 1)) rest

theorem map_keepAt {α β : Type} (change : α → β) (kept : Nat → Bool) (entries : List α) :
    (keepAt kept entries).map change = keepAt kept (entries.map change) := by
  induction entries generalizing kept with
  | nil => rfl
  | cons entry rest ih =>
      simp only [keepAt, List.map_cons]
      split
      · rw [List.map_cons, ih]
      · rw [ih]

theorem callAll_eq_exchanges (host : Host) (server : Server) (calls : List Call) :
    callAll host server calls = (exchanges host server calls).map Prod.snd := by
  induction calls generalizing server with
  | nil => rfl
  | cons next rest ih =>
      simp only [callAll, exchanges, List.map_cons]
      rw [ih]

namespace Outcome

variable {server : Server} {tool : Option Tool} {result : Except Refusal Reply × Server}

theorem unchanged_of_isReadOnly (outcome : Outcome server tool result)
    (readOnly : tool.any Tool.isReadOnly = true) : result.2 = server := by
  cases outcome with
  | refused | shown => rfl
  | copied => cases readOnly
  | performed operations other changing uncopied =>
      rw [Option.any_some, changing] at readOnly
      cases readOnly

theorem unchanged_of_refused (outcome : Outcome server tool result) {refusal : Refusal}
    (refused : result.1 = .error refusal) : result.2 = server := by
  cases outcome with
  | refused | shown => rfl
  | copied | performed => cases refused

end Outcome

theorem exchanges_keepAt (host : Host) (server : Server) (calls : List Call)
    (kept : Nat → Bool)
    (idle : ∀ place call reply, calls[place]? = some call →
      (callAll host server calls)[place]? = some reply → kept place = false →
        call.isReadOnly = true ∨ ∃ refusal, reply = .error refusal) :
    exchanges host server (keepAt kept calls) = keepAt kept (exchanges host server calls) := by
  induction calls generalizing server kept with
  | nil => rfl
  | cons next rest ih =>
      have left := ih (server.call host next).2 (fun place => kept (place + 1))
        fun place call reply => idle (place + 1) call reply
      simp only [keepAt, exchanges]
      cases first : kept 0 with
      | true =>
          simp only [if_true, exchanges]
          rw [left]
      | false =>
          have unchanged : (server.call host next).2 = server := by
            rcases idle 0 next _ rfl rfl first with readOnly | ⟨refusal, refused⟩
            · exact (outcome host server next).unchanged_of_isReadOnly readOnly
            · exact (outcome host server next).unchanged_of_refused refused
          simp only [Bool.false_eq_true, if_false]
          rw [← left, unchanged]

/-- Without some calls that only read or are refused, each other call finds the same server and
gets the same answer. -/
theorem callAll_keepAt (host : Host) (server : Server) (calls : List Call)
    (kept : Nat → Bool)
    (idle : ∀ place call reply, calls[place]? = some call →
      (callAll host server calls)[place]? = some reply → kept place = false →
        call.isReadOnly = true ∨ ∃ refusal, reply = .error refusal) :
    exchanges host server (keepAt kept calls) =
        keepAt kept (exchanges host server calls) ∧
      callAll host server (keepAt kept calls) = keepAt kept (callAll host server calls) := by
  have same := exchanges_keepAt host server calls kept idle
  refine ⟨same, ?_⟩
  rw [callAll_eq_exchanges, same, map_keepAt, ← callAll_eq_exchanges]

def dotMarkup : String :=
  "<svg xmlns=\"http://www.w3.org/2000/svg\" viewBox=\"0 0 4 4\"><g/></svg>"

/-- There is one file, and everything is drawn as the same picture. -/
def oneFile : Host where
  read path :=
    if path = "/icons/dot.svg" then .ok dotMarkup.toUTF8.toList
    else .error "No such file or directory (os error 2)"
  raster :=
    { draw := fun _ _ => .ok [137, 80, 78, 71]
      similarity := fun _ _ => some "1"
      sideBySide := fun _ _ => some [137, 80, 78, 71] }

theorem callAll_keepAt_mixed :
    let depth : Call :=
      ⟨"set_viewbox_field", some [("field", .text "depth"), ("value", .text "1")]⟩
    let load : Call := ⟨"load_svg_file", some [("path", .text "/icons/dot.svg")]⟩
    let errors : Call := ⟨"get_errors", some []⟩
    let missing : Call := ⟨"load_svg_file", some [("path", .text "/icons/ring.svg")]⟩
    let preview : Call := ⟨"render_preview", some []⟩
    let copy : Call := ⟨"copy_component_code", some []⟩
    let unknown : Call := ⟨"paint", none⟩
    (callAll oneFile Server.initial [load, copy]).map
        (fun reply => reply.toOption.map fun reply => reply.texts.length) = [some 1, some 2] ∧
      callAll oneFile Server.initial [load, copy] =
        keepAt (fun place => place == 1 || place == 5)
          (callAll oneFile Server.initial
            [depth, load, errors, missing, preview, copy, unknown]) := by
  intro depth load errors missing preview copy unknown
  refine ⟨by decide +kernel, ?_⟩
  refine (callAll_keepAt oneFile Server.initial
    [depth, load, errors, missing, preview, copy, unknown]
    (fun place => place == 1 || place == 5) ?_).2
  rintro (_ | _ | _ | _ | _ | _ | _ | place) call reply ⟨⟩ ⟨⟩ left
  · exact .inr ⟨_, rfl⟩
  · cases left
  · exact .inl rfl
  · exact .inr ⟨_, rfl⟩
  · exact .inl rfl
  · cases left
  · exact .inr ⟨_, rfl⟩

end Server

end VectorIcon
