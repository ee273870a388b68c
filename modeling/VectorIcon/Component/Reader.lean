import VectorIcon.Component
import VectorIcon.Component.Grammar
import VectorIcon.Error
import VectorIcon.Number.Literal

/-!
Reading a component source. Behind the grammar stand three checks: the export names the component
that is declared, each key is the place of its element among its siblings, and each closing tag
names the element that it closes.
-/

namespace VectorIcon.Component

abbrev Checked (α : Type) := Except (Issue × Span) α

def checkKey (index : Nat) (key : Written) : Checked Unit :=
  if Number.ofDigits 10 Number.digitValue key.text.toList = index then .ok ()
  else .error (.key index key.text, key.span)

def checkClosing (tag : String) : Option Written → Checked Unit
  | none => .ok ()
  | some closing =>
      if closing.text = tag then .ok () else .error (.closingTag closing.text tag, closing.span)

mutual
def checkElement (index : Nat) : WrittenElement → Checked Element
  | ⟨tag, key, properties, children, closing⟩ =>
      match checkKey index key with
      | .error issue => .error issue
      | .ok () =>
          match checkForest 0 children with
          | .error issue => .error issue
          | .ok children =>
              match checkClosing tag closing with
              | .error issue => .error issue
              | .ok () => .ok ⟨tag, OrderedMap.ofList properties, children⟩

def checkForest (index : Nat) : List WrittenElement → Checked (List Element)
  | [] => .ok []
  | written :: rest =>
      match checkElement index written with
      | .error issue => .error issue
      | .ok element =>
          match checkForest (index + 1) rest with
          | .error issue => .error issue
          | .ok elements => .ok (element :: elements)
end

def checkExport (declared exported : Written) : Checked Unit :=
  if exported.text = declared.text then .ok ()
  else .error (.exportName exported.text declared.text, exported.span)

def WrittenComponent.check (written : WrittenComponent) : Checked Component :=
  match checkExport written.declared written.exported with
  | .error issue => .error issue
  | .ok () =>
      match checkForest 0 written.icon.elements with
      | .error issue => .error issue
      | .ok elements => .ok ⟨written.declared.text, written.icon.viewBox, elements⟩

/-- The grammar alone: no part is compared with another. -/
def parseWritten (text : List Char) : Checked WrittenComponent :=
  match Parser.component (text.length + 1) (Cursor.ofText text) with
  | (some (written, _), _) => .ok written
  | (none, tried) => .error (.expected tried.rules, ⟨tried.offset, 0⟩)

def sourceName : String := "<component>"

def read (text : String) : Except ConvertError Component :=
  match parseWritten text.toList with
  | .error (issue, span) => .error (.componentSyntax issue span ⟨sourceName, text⟩)
  | .ok written =>
      match written.check with
      | .error (issue, span) => .error (.componentSyntax issue span ⟨sourceName, text⟩)
      | .ok component => .ok component

end VectorIcon.Component
