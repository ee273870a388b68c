/-!
Clipboards. Writing gives the clipboard behind it or the message of a refusal.
-/

namespace VectorIcon

/-- Where copied text goes. A text may be refused with a message; else it replaces the last one. -/
structure Clipboard where
  contents : Option String
  refusal : String → Option String

namespace Clipboard

def memory : Clipboard :=
  ⟨none, fun _ => none⟩

def refusing (message : String) : Clipboard :=
  ⟨none, fun _ => some message⟩

def write (clipboard : Clipboard) (text : String) : Except String Clipboard :=
  match clipboard.refusal text with
  | some message => .error message
  | none => .ok { clipboard with contents := some text }

end Clipboard

end VectorIcon
