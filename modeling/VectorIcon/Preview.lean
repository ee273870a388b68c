import VectorIcon.Element
import VectorIcon.Frame

/-!
The live preview: the elements of a document with their keys, inside a wrapper that has the
working frame.
-/

namespace VectorIcon

structure PreviewElement where
  tag : String
  key : Nat
  properties : Properties
  children : List PreviewElement

structure Preview where
  viewBox : String
  children : List PreviewElement

namespace Preview

mutual
def elementWithKey (key : Nat) : Element → PreviewElement
  | ⟨tag, properties, children⟩ => ⟨tag, key, properties, forestWithKeys 0 children⟩

def forestWithKeys (key : Nat) : List Element → List PreviewElement
  | [] => []
  | element :: rest => elementWithKey key element :: forestWithKeys (key + 1) rest
end

def ofElements (elements : List Element) (frame : Frame) : Preview :=
  ⟨frame.text, forestWithKeys 0 elements⟩

mutual
def elementCountOf : PreviewElement → Nat
  | ⟨_, _, _, children⟩ => 1 + elementCountIn children

def elementCountIn : List PreviewElement → Nat
  | [] => 0
  | element :: rest => elementCountOf element + elementCountIn rest
end

def elementCount (preview : Preview) : Nat :=
  elementCountIn preview.children

end Preview

end VectorIcon
