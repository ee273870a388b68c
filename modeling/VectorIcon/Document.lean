import VectorIcon.Element
import VectorIcon.Error
import VectorIcon.Frame
import VectorIcon.Text.Lowercase
import VectorIcon.Xml.Reader

/-!
SVG documents: the elements below the first `svg` element and the frame text. Tags are in lower
case, attributes are normalized, and namespace declarations count as properties of the element
that they are new on.
-/

namespace VectorIcon

structure Document where
  elements : List Element
  viewBox : String

namespace Document

mutual
/-- The first `svg` element in document order, in or below a node. -/
def svgIn : Xml.Node → Option (Xml.Tag × List Xml.Node)
  | .element tag children =>
      if tag.name.localName = "svg" then some (tag, children) else svgAmong children
  | _ => none

def svgAmong : List Xml.Node → Option (Xml.Tag × List Xml.Node)
  | [] => none
  | node :: rest =>
      match svgIn node with
      | some found => some found
      | none => svgAmong rest
end

/-- A name with the qualifier that stands for its namespace, if there is one. -/
def qualifiedName (bindings : List Xml.Binding) (uri : Option String) (localName : String) :
    String :=
  match uri.bind (Xml.Binding.qualifierOf? bindings) with
  | some qualifier => qualifier ++ ":" ++ localName
  | none => localName

def declarationName (qualifier : Option String) : String :=
  match qualifier with
  | some qualifier => "xmlns:" ++ qualifier
  | none => "xmlns"

/-- The bindings of a tag that the element around it does not have. -/
def declarations (outer : List Xml.Binding) (tag : Xml.Tag) : List (String × PropertyValue) :=
  (tag.bindings.filter fun binding => !outer.contains binding).map fun binding =>
    (declarationName binding.qualifier, .text binding.uri)

def attributes (tag : Xml.Tag) : List (String × PropertyValue) :=
  tag.attributes.map fun written =>
    Attribute.normalize (qualifiedName tag.bindings written.uri written.name.localName)
      written.value

def properties (outer : List Xml.Binding) (tag : Xml.Tag) : Properties :=
  OrderedMap.ofList (declarations outer tag ++ attributes tag)

def tagName (tag : Xml.Tag) : String :=
  String.ofList (Text.lowercase (qualifiedName tag.bindings tag.uri tag.name.localName).toList)

mutual
def elementOf (outer : List Xml.Binding) : Xml.Node → Option Element
  | .element tag children =>
      some ⟨tagName tag, properties outer tag, elementsOf tag.bindings children⟩
  | _ => none

def elementsOf (outer : List Xml.Binding) : List Xml.Node → List Element
  | [] => []
  | node :: rest =>
      match elementOf outer node with
      | some element => element :: elementsOf outer rest
      | none => elementsOf outer rest
end

def frameText (tag : Xml.Tag) : String :=
  Frame.resolve (tag.attribute? "viewBox") (tag.attribute? "width") (tag.attribute? "height")

def ofNodes (nodes : List Xml.Node) : Except ConvertError Document :=
  match svgAmong nodes with
  | none => .error .missingRoot
  | some (tag, children) =>
      let elements := elementsOf tag.bindings children
      if elements.isEmpty then .error .noDrawableElements
      else .ok ⟨elements, frameText tag⟩

def parse (source : Source) : Except ConvertError Document :=
  if (Text.trim source.text.toList).isEmpty then .error .emptyInput
  else match Xml.readDocument source.text with
    | .error fault => .error (.markup fault source)
    | .ok nodes => ofNodes nodes

def inputName : String := "<input>"

def parseText (text : String) : Except ConvertError Document :=
  parse ⟨inputName, text⟩

def nodeCount (document : Document) : Nat :=
  forestCount document.elements

def frame (document : Document) : Frame :=
  Frame.ofText document.viewBox

end Document

end VectorIcon
