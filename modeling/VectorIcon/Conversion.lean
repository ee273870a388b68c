import VectorIcon.Component.Layout
import VectorIcon.Document

/-!
From SVG markup to the source of a component in one step, in the document's own frame.
-/

namespace VectorIcon

def convert (svg name : String) : Except ConvertError String := do
  let document ← Document.parseText svg
  return (Component.ofElements document.elements name document.frame).source Layout.standard

end VectorIcon
