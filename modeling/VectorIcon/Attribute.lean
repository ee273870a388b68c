import VectorIcon.Style

/-!
Attributes of markup and properties of components. `Attribute.normalize` turns an attribute into a
property, and `Attribute.markupName` gives the attribute name that a property is written under.
-/

namespace VectorIcon

inductive PropertyValue where
  | text (text : String)
  | style (style : Style)
  deriving DecidableEq

abbrev Properties := OrderedMap PropertyValue

namespace Attribute

def propertyName (name : String) : String :=
  String.ofList (camelCase name.toList)

def normalize (name value : String) : String × PropertyValue :=
  if name = "style" then (name, .style (Style.parse value))
  else (propertyName name, .text value)

def camelCaseNames : List String :=
  ["allowReorder", "attributeName", "attributeType", "autoReverse", "baseFrequency",
    "baseProfile", "calcMode", "clipPathUnits", "contentScriptType", "contentStyleType",
    "diffuseConstant", "edgeMode", "externalResourcesRequired", "filterRes", "filterUnits",
    "glyphRef", "gradientTransform", "gradientUnits", "kernelMatrix", "kernelUnitLength",
    "keyPoints", "keySplines", "keyTimes", "lengthAdjust", "limitingConeAngle",
    "markerHeight", "markerUnits", "markerWidth", "maskContentUnits", "maskUnits",
    "numOctaves", "pathLength", "patternContentUnits", "patternTransform", "patternUnits",
    "pointsAtX", "pointsAtY", "pointsAtZ", "preserveAlpha", "preserveAspectRatio",
    "primitiveUnits", "refX", "refY", "repeatCount", "repeatDur", "requiredExtensions",
    "requiredFeatures", "specularConstant", "specularExponent", "spreadMethod",
    "startOffset", "stdDeviation", "stitchTiles", "surfaceScale", "systemLanguage",
    "tableValues", "targetX", "targetY", "textLength", "viewBox", "viewTarget",
    "xChannelSelector", "yChannelSelector", "zoomAndPan"]

def aliases : List (String × String) :=
  [("className", "class"), ("htmlFor", "for"), ("xmlnsXlink", "xmlns:xlink")]

/-- A qualifier run together with an uppercase name stands for the qualified lowercase name. -/
def unfoldQualifier (qualifier name : List Char) : Option (List Char) :=
  match Text.dropLeading qualifier name with
  | some rest => if startsUpper rest then some (qualifier ++ ':' :: rest.map Char.toLower) else none
  | none => none

def derivedName (name : List Char) : List Char :=
  match unfoldQualifier "xlink".toList name with
  | some qualified => qualified
  | none =>
      match unfoldQualifier "xml".toList name with
      | some qualified => qualified
      | none => hyphenate name

def markupName (property : String) : String :=
  match aliases.lookup property with
  | some name => name
  | none =>
      if ':' ∈ property.toList || property ∈ camelCaseNames then property
      else String.ofList (derivedName property.toList)

end Attribute

end VectorIcon
