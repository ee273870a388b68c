import VectorIcon.Preview
import VectorIcon.Text.Escape

/-!
The preview as a standalone SVG document. Properties go by their attribute names and styles become
CSS text. Qualifiers that no standard namespace covers are declared on the root with placeholder
names.
-/

namespace VectorIcon

def svgNamespace : String :=
  "http://www.w3.org/2000/svg"

def xlinkNamespace : String :=
  "http://www.w3.org/1999/xlink"

namespace Preview

def wrapperClass : String :=
  "MuiSvgIcon-root"

/-- A namespace binding that the root always carries; it is not written again. -/
def declaredOnRoot : String × PropertyValue → Bool
  | (name, .text uri) =>
      name == "xmlns" && uri == svgNamespace ||
        (name == "xmlns:xlink" || name == "xmlnsXlink") && uri == xlinkNamespace
  | (_, .style _) => false

def valueText : PropertyValue → List Char
  | .text text => text.toList
  | .style style => style.cssText

def attributeText (name : List Char) (value : List Char) : List Char :=
  ' ' :: (name ++ "=\"".toList ++ Text.escape value ++ ['"'])

def propertyText (entry : String × PropertyValue) : List Char :=
  attributeText (Attribute.markupName entry.1).toList (valueText entry.2)

def attributesText (properties : Properties) : List Char :=
  (properties.entries.filter fun entry => !declaredOnRoot entry).flatMap propertyText

mutual
def elementMarkup : PreviewElement → List Char
  | ⟨tag, _, properties, children⟩ =>
      let opening := '<' :: (tag.toList ++ attributesText properties)
      if children.isEmpty then opening ++ "/>".toList
      else opening ++ '>' :: (forestMarkup children ++ "</".toList ++ tag.toList ++ ['>'])

def forestMarkup : List PreviewElement → List Char
  | [] => []
  | element :: rest => elementMarkup element ++ forestMarkup rest
end

def qualifier? (name : List Char) : Option (List Char) :=
  (Text.splitFirst ':' name).map Prod.fst

mutual
def qualifiersOf : PreviewElement → List (List Char)
  | ⟨tag, _, properties, children⟩ =>
      (tag.toList :: properties.keys.map fun name =>
        (Attribute.markupName name).toList).filterMap qualifier? ++ qualifiersIn children

def qualifiersIn : List PreviewElement → List (List Char)
  | [] => []
  | element :: rest => qualifiersOf element ++ qualifiersIn rest
end

def standardQualifiers : List (List Char) :=
  ["xml".toList, "xlink".toList, "xmlns".toList]

/-- The qualifiers that need a declaration, each once. -/
def placeholders (preview : Preview) : List (List Char) :=
  ((qualifiersIn preview.children).filter fun qualifier =>
    !standardQualifiers.contains qualifier).eraseDups

def placeholderText (qualifier : List Char) : List Char :=
  " xmlns:".toList ++ qualifier ++ "=\"urn:svgicon:".toList ++ qualifier ++ ['"']

def rootText (preview : Preview) : List Char :=
  "<svg class=\"".toList ++ wrapperClass.toList ++
    "\" focusable=\"false\" aria-hidden=\"true\" viewBox=\"".toList ++
    Text.escape preview.viewBox.toList ++ "\" xmlns=\"".toList ++ svgNamespace.toList ++
    "\" xmlns:xlink=\"".toList ++ xlinkNamespace.toList ++ '"' ::
    (preview.placeholders.flatMap placeholderText ++ ['>'])

def markup (preview : Preview) : String :=
  String.ofList (preview.rootText ++ forestMarkup preview.children ++ "</svg>".toList)

end Preview

end VectorIcon
