import VectorIcon.Comparison
import VectorIcon.Component.Layout
import VectorIcon.Component.Reader
import VectorIcon.Document

/-!
The check that a document survives: its component is written, read back and compared with it.
-/

namespace VectorIcon

def compareComponent (document : Document) (frame : Frame) (component : Component) : Comparison :=
  if component.viewBox = frame.text then compareTrees document.elements component.elements
  else .viewBoxMismatch frame.text component.viewBox

def checkRoundTrip (svg name : String) : Comparison :=
  match Document.parseText svg with
  | .error error => .unreadable ("Failed to parse SVG: " ++ error.message)
  | .ok document =>
      let written := Component.ofElements document.elements name document.frame
      match Component.read (written.source Layout.standard) with
      | .error error => .unreadable ("Failed to read generated component: " ++ error.message)
      | .ok component => compareComponent document document.frame component

end VectorIcon
