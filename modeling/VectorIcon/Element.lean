import VectorIcon.Attribute

/-!
Element trees: a tag, properties and children, in document order.
-/

namespace VectorIcon

structure Element where
  tag : String
  properties : Properties
  children : List Element
  deriving Inhabited

mutual
def Element.nodeCount : Element → Nat
  | ⟨_, _, children⟩ => 1 + forestCount children

def forestCount : List Element → Nat
  | [] => 0
  | element :: rest => element.nodeCount + forestCount rest
end

def Element.hasChildren (element : Element) : Bool :=
  !element.children.isEmpty

/-- A property in an outline; of a style only the number of declarations is shown. -/
def outlineProperty : String × PropertyValue → String
  | (name, .text text) => " " ++ name ++ "=\"" ++ text ++ "\""
  | (name, .style style) => " " ++ name ++ "=[" ++ toString style.size ++ " decl]"

mutual
def Element.outline : Element → String
  | ⟨tag, properties, children⟩ =>
      let opening := "<" ++ tag ++ String.join (properties.entries.map outlineProperty)
      if children.isEmpty then opening ++ "/>"
      else opening ++ ">" ++ forestOutline children ++ "</" ++ tag ++ ">"

def forestOutline : List Element → String
  | [] => ""
  | element :: rest => element.outline ++ forestOutline rest
end

end VectorIcon
