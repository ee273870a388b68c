import VectorIcon.Element
import VectorIcon.Frame

/-!
Icon components: a name, the view box of the wrapper and the elements inside it.
-/

namespace VectorIcon

structure Component where
  name : String
  viewBox : String
  elements : List Element

def Component.ofElements (elements : List Element) (name : String) (frame : Frame) : Component :=
  ⟨name, frame.text, elements⟩

end VectorIcon
