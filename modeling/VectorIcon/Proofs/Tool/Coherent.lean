import VectorIcon.Proofs.Preview.Keys
import VectorIcon.Proofs.Session.Coherent
import VectorIcon.Proofs.Tool.Interference

/-!
Reports over a run of calls. Between two calls the session is never marked as copied and the
clipboard takes every text, so a report shows a document with all its parts or with none, and
shows code only if the same call copied it.
-/

namespace VectorIcon

structure SessionReport.IsCoherent (report : SessionReport) : Prop where
  parsed : report.state = .parsed ↔ report.viewBox.isSome = true ∧
    report.documentViewBox.isSome = true ∧ report.elementCount.isSome = true
  failed : report.state = .error ↔ (report.viewBox = none ∧ report.documentViewBox = none ∧
    report.elementCount = none) ∧ report.error.isSome = true

theorem Session.IsCoherent.frame_eq_none {session : Session} (coherent : session.IsCoherent)
    (unloaded : session.document = none) : session.frame = none := by
  rw [← Option.isNone_iff_eq_none, ← Option.isSome_eq_false_iff, ← coherent.framed, unloaded]
  rfl

theorem SessionReport.isCoherent_ofSession {session : Session} (coherent : session.IsCoherent) :
    (ofSession session).IsCoherent := by
  constructor
  · rw [ofSession, Session.state_eq_parsed_iff]
    simp only [Option.isSome_map, ← coherent.framed, and_self]
  · rw [ofSession, Session.state_eq_error_iff]
    simp only [Option.isSome_map, Option.map_eq_none_iff]
    constructor
    · rintro ⟨unloaded, pending⟩
      exact ⟨⟨coherent.frame_eq_none unloaded, unloaded, unloaded⟩, pending⟩
    · rintro ⟨⟨_, unloaded, _⟩, pending⟩
      exact ⟨unloaded, pending⟩

theorem forestCount_pos {elements : List Element} (nonempty : elements ≠ []) :
    1 ≤ forestCount elements := by
  cases elements with
  | nil => exact absurd rfl nonempty
  | cons element rest =>
      simp only [forestCount]
      obtain ⟨tag, properties, children⟩ := element
      simp only [Element.nodeCount]
      omega

theorem Session.elementCount_preview {session : Session} {preview : Preview}
    (shown : session.preview = some preview) :
    session.document.map Document.nodeCount = some preview.elementCount := by
  unfold Session.preview at shown
  cases loaded : session.document with
  | none =>
      rw [loaded] at shown
      cases shown
  | some document =>
      cases framed : session.frame with
      | none =>
          rw [loaded, framed] at shown
          cases shown
      | some frame =>
          rw [loaded, framed] at shown
          cases shown
          rw [Preview.elementCount_ofElements]
          rfl

theorem Session.copy_of_accepting {session : Session} {clipboard : Clipboard}
    (accepting : ∀ text, clipboard.refusal text = none) :
    session.copy clipboard =
      ⟨.ok session.code.isSome, { session with copied := session.copied || session.code.isSome },
        { clipboard with contents := session.code.or clipboard.contents }⟩ := by
  unfold copy
  cases session.code with
  | none => simp
  | some code => simp [Clipboard.write, accepting]

theorem Tool.ofName?_name (tool : Tool) : ofName? tool.name = some tool := by
  cases tool <;> decide

theorem Tool.ofName?_eq_some_iff {name : String} {tool : Tool} :
    ofName? name = some tool ↔ name = tool.name := by
  constructor
  · intro known
    unfold ofName? at known
    have found := List.find?_some known
    exact (eq_of_beq found).symm
  · rintro rfl
    exact ofName?_name tool

theorem Session.copied_parse {session : Session} (unmarked : session.copied = false) :
    session.parse.2.copied = false := by
  simp only [parse, unload]
  split <;> exact unmarked

theorem Session.copied_after {session : Session} {operation : Operation}
    (other : operation.isCopy = false) (unmarked : session.copied = false) :
    (session.after operation).copied = false := by
  cases operation with
  | copy clipboard => cases other
  | parse => exact copied_parse unmarked
  | selectFile file =>
      simp only [after, perform, selectFile]
      split
      · exact copied_parse unmarked
      · exact unmarked
  | resetFrame =>
      simp only [after, perform, resetFrame]
      split <;> exact unmarked
  | clear | acknowledgeCopy => rfl
  | _ => exact unmarked

theorem Session.copied_run {session : Session} {operations : List Operation}
    (others : ∀ operation ∈ operations, operation.isCopy = false)
    (unmarked : session.copied = false) : (session.run operations).copied = false := by
  induction operations generalizing session with
  | nil => exact unmarked
  | cons operation operations ih =>
      obtain ⟨other, others⟩ := List.forall_mem_cons.mp others
      exact ih others (copied_after other unmarked)

namespace Server

def run (host : Host) (server : Server) (calls : List Call) : Server :=
  calls.foldl (fun server call => (server.call host call).2) server

theorem callAll_at (host : Host) (server : Server) (earlier later : List Call) (call : Call) :
    (callAll host server (earlier ++ call :: later))[earlier.length]? =
      some ((server.run host earlier).call host call).1 := by
  induction earlier generalizing server with
  | nil => rfl
  | cons next earlier ih => exact ih (server.call host next).2

/-- What holds of a server between two calls. -/
structure IsReady (server : Server) : Prop where
  reached : Session.Reachable server.session
  unmarked : server.session.copied = false
  accepting : ∀ text, server.clipboard.refusal text = none

theorem isReady_initial : IsReady initial :=
  ⟨.initial Layout.standard, rfl, fun _ => rfl⟩

namespace IsReady

variable {host : Host} {server : Server}

theorem outcome (ready : server.IsReady) {tool : Option Tool}
    {result : Except Refusal Reply × Server} (outcome : Outcome server tool result) :
    result.2.IsReady := by
  obtain ⟨reached, unmarked, accepting⟩ := ready
  cases outcome with
  | refused | shown => exact ⟨reached, unmarked, accepting⟩
  | copied =>
      refine ⟨(reached.after (.copy server.clipboard)).after .acknowledgeCopy, rfl, ?_⟩
      simp only [Server.copy, Session.copy_of_accepting accepting]
      exact accepting
  | performed operations other changing uncopied =>
      exact ⟨reached.run operations, Session.copied_run uncopied unmarked, accepting⟩

theorem call (ready : server.IsReady) (call : Call) : (server.call host call).2.IsReady :=
  ready.outcome (Server.outcome host server call)

theorem run (ready : server.IsReady) (calls : List Call) : (server.run host calls).IsReady := by
  induction calls generalizing server with
  | nil => exact ready
  | cons next rest ih => exact ih (ready.call next)

/-- The code that a copy shows is that of the session, never an earlier one of the clipboard. -/
theorem copy_reply (ready : server.IsReady) :
    server.copy.1 = .ok (.copy
      { SessionReport.ofSession server.session with copied := server.session.code.isSome }
      server.session.code) := by
  simp only [Server.copy, Session.copy_of_accepting ready.accepting, ready.unmarked,
    SessionReport.ofSession, Bool.false_or]
  cases server.session.code with
  | none => rfl
  | some code => rfl

end IsReady

section

variable {host : Host} {server : Server} {tool : Option Tool}
  {result : Except Refusal Reply × Server} {report : SessionReport}

theorem session_copy_acknowledged (ready : server.IsReady) :
    server.copy.2.session = server.session := by
  have unmarked := ready.unmarked
  simp only [Server.copy, Session.copy_of_accepting ready.accepting, Session.acknowledgeCopy]
  rw [← unmarked]

namespace Outcome

theorem report_eq (outcome : Outcome server tool result) (ready : server.IsReady) {reply : Reply}
    (answered : result.1 = .ok reply) (reported : reply.report? = some report) :
    report = { SessionReport.ofSession result.2.session with
      copied := decide (tool = some .copy) && server.session.code.isSome } := by
  have unmarked := (ready.outcome outcome).unmarked
  cases outcome with
  | refused => cases answered
  | shown reply silent =>
      cases answered
      rw [silent] at reported
      cases reported
  | copied =>
      rw [ready.copy_reply] at answered
      cases answered
      cases reported
      rw [session_copy_acknowledged ready]
      rfl
  | performed operations other changing uncopied =>
      cases answered
      cases reported
      rw [decide_eq_false (by simpa using other), Bool.false_and, ← unmarked]
      rfl

theorem copy_eq (outcome : Outcome server tool result) (ready : server.IsReady)
    {code : Option String} (answered : result.1 = .ok (.copy report code)) :
    code = server.session.code ∧ report.copied = server.session.code.isSome ∧
      result.2.session = server.session := by
  cases outcome with
  | refused | performed => cases answered
  | shown reply silent =>
      cases answered
      cases silent
  | copied =>
      rw [ready.copy_reply] at answered
      cases answered
      exact ⟨rfl, rfl, session_copy_acknowledged ready⟩

end Outcome

theorem preview_of_document (ready : server.IsReady) {document : Document}
    (loaded : server.session.document = some document) (width : Option Nat) :
    ∃ shown image, (server.answer host (.preview width)).1 = .ok (.preview shown image) ∧
      shown.elementCount = document.nodeCount := by
  have visible := ready.reached.isCoherent.preview_isSome
  rw [loaded] at visible
  obtain ⟨preview, found⟩ := Option.isSome_iff_exists.mp visible
  let compared := host.raster.compare (Raster.width width) server.session.input preview
  refine ⟨compared.1, compared.2, ?_, ?_⟩
  · simp only [answer, found, compared]
  · have counted := Session.elementCount_preview found
    rw [loaded] at counted
    exact (Option.some.inj counted).symm

theorem answer_code {code : String} (shown : server.session.code = some code) :
    (server.answer host .code).1 = .ok (.code code) := by
  simp only [answer, shown]

end

/-- Whatever was called before: the report of a call fits together, a preview right behind it
counts as many elements, and only a copy of a document is marked and shows code, that of the
document as it stands. -/
theorem reports_coherent (host : Host) (earlier later : List Call) (call : Call) :
    let server := initial.run host earlier
    let after := (server.call host call).2
    (callAll host initial (earlier ++ call :: later))[earlier.length]? =
        some (server.call host call).1 ∧
      (∀ reply report, (server.call host call).1 = .ok reply → reply.report? = some report →
        report.IsCoherent ∧
        (report.state = .parsed → ∃ count, report.elementCount = some count ∧ 1 ≤ count ∧
          ∀ width, ∃ shown image,
            (after.answer host (.preview width)).1 = .ok (.preview shown image) ∧
              shown.elementCount = count) ∧
        (report.copied = true ↔
          call.tool = Tool.copy.name ∧ server.session.document.isSome = true)) ∧
      ∀ report code, (server.call host call).1 = .ok (.copy report code) →
        (Reply.copy report code).texts[1]?.isSome = report.copied ∧
        ∀ block, (Reply.copy report code).texts[1]? = some block →
          (server.answer host .code).1 = .ok (.code block) ∧
            (after.answer host .code).1 = .ok (.code block) := by
  intro server after
  have ready : server.IsReady := isReady_initial.run earlier
  have left : after.IsReady := ready.call call
  refine ⟨callAll_at host initial earlier later call, ?_, ?_⟩
  · intro reply report answered reported
    have about := (outcome host server call).report_eq ready answered reported
    have coherent : (SessionReport.ofSession after.session).IsCoherent :=
      SessionReport.isCoherent_ofSession left.reached.isCoherent
    subst about
    refine ⟨⟨coherent.parsed, coherent.failed⟩, ?_, ?_⟩
    · intro parsed
      obtain ⟨document, loaded⟩ :=
        Option.isSome_iff_exists.mp ((Session.state_eq_parsed_iff _).mp parsed)
      have drawable := left.reached.isCoherent.drawable document loaded
      refine ⟨document.nodeCount, ?_, forestCount_pos drawable.elements,
        preview_of_document left loaded⟩
      exact congrArg (Option.map Document.nodeCount) loaded
    · simp only [Bool.and_eq_true, decide_eq_true_eq, ready.reached.isCoherent.code_isSome,
        Tool.ofName?_eq_some_iff]
  · intro report code answered
    obtain ⟨rfl, copied, same⟩ := (outcome host server call).copy_eq ready answered
    have shown : (Reply.copy report server.session.code).texts[1]? = server.session.code := by
      cases code : server.session.code <;> rfl
    rw [shown]
    refine ⟨copied.symm, fun block found => ⟨answer_code found, answer_code ?_⟩⟩
    rw [same]
    exact found

theorem reports_coherent_copied :
    let load : Call := ⟨"load_svg_file", some [("path", .text "/icons/dot.svg")]⟩
    let copy : Call := ⟨"copy_component_code", some []⟩
    let server := initial.run oneFile [load]
    ∃ report code, (server.call oneFile copy).1 = .ok (.copy report code) ∧
      report.state = .parsed ∧ report.copied = true ∧ report.elementCount.isSome = true ∧
      code.isSome = true := by
  intro load copy server
  let report := SessionReport.ofSession (server.session.copy server.clipboard).session
  have loaded : server.session.document.isSome = true := by decide +kernel
  have parsed : report.state = .parsed := by decide +kernel
  have answered : ∃ code, (server.call oneFile copy).1 = .ok (.copy report code) :=
    ⟨_, rfl⟩
  obtain ⟨code, answered⟩ := answered
  obtain ⟨_, reports, copies⟩ := reports_coherent oneFile [load] [] copy
  obtain ⟨coherent, _, marked⟩ := reports _ report answered rfl
  obtain ⟨shown, _⟩ := copies report code answered
  have copied : report.copied = true := marked.mpr ⟨rfl, loaded⟩
  refine ⟨report, code, answered, parsed, copied, (coherent.parsed.mp parsed).2.2, ?_⟩
  rw [copied] at shown
  cases code with
  | none => cases shown
  | some block => rfl

end Server

end VectorIcon
