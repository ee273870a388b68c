import VectorIcon.Component

/-!
The source of an icon component. Elements are laid out as lines that know their depth; a layout
turns depth into leading spaces and nothing else. Spaces are counted in words of 64 bits.
-/

namespace VectorIcon

structure Line where
  depth : Nat
  text : List Char

structure Layout where
  /-- Spaces for each level of nesting. -/
  indentWidth : UInt64
  /-- The level of the elements directly inside the wrapper. -/
  baseDepth : UInt64
  deriving DecidableEq

namespace Layout

def standard : Layout :=
  ⟨2, 3⟩

def spaces (layout : Layout) (depth : Nat) : Nat :=
  (layout.indentWidth * (layout.baseDepth + UInt64.ofNat depth)).toNat

def renderLine (layout : Layout) (line : Line) : List Char :=
  List.replicate (layout.spaces line.depth) ' ' ++ line.text

def render (layout : Layout) (lines : List Line) : List Char :=
  List.intercalate ['\n'] (lines.map layout.renderLine)

/-- The most bytes that a text can have. -/
def capacity : Nat :=
  Nat.pow 2 63 - 1

def hasRoom (layout : Layout) (lines : List Line) : Bool :=
  lines.all fun line => layout.spaces line.depth ≤ capacity

end Layout

namespace Component

def wrapperTag : List Char :=
  "SvgIcon".toList

def wrapperModule : List Char :=
  "@mui/material".toList

def openBrace : Char := '\x7b'

def closeBrace : Char := '\x7d'

def braced (text : List Char) : List Char :=
  openBrace :: (text ++ [closeBrace])

def styleEntry (entry : String × String) : List Char :=
  entry.1.toList ++ ": '".toList ++ entry.2.toList ++ ['\'']

def styleObject (style : Style) : List Char :=
  ' ' :: (List.intercalate ", ".toList (style.entries.map styleEntry) ++ [' '])

/-- Values are written as they are, without escapes. -/
def property (entry : String × PropertyValue) : List Char :=
  entry.1.toList ++ '=' ::
    (match entry.2 with
      | .text text => '"' :: (text.toList ++ ['"'])
      | .style style => braced (braced (styleObject style)))

def properties (properties : Properties) : List Char :=
  List.intercalate [' '] (properties.entries.map property)

def opening (tag : String) (key : Nat) (given : Properties) : List Char :=
  '<' :: (tag.toList ++ " key=".toList ++ braced (Nat.toDigits 10 key) ++ ' ' :: properties given)

def closing (tag : String) : List Char :=
  "</".toList ++ tag.toList ++ ['>']

mutual
def elementLines (depth key : Nat) : Element → List Line
  | ⟨tag, given, []⟩ => [⟨depth, opening tag key given ++ " />".toList⟩]
  | ⟨tag, given, child :: children⟩ =>
      ⟨depth, opening tag key given ++ ['>']⟩ ::
        (elementLines (depth + 1) 0 child ++ forestLines (depth + 1) 1 children ++
          [⟨depth, closing tag⟩])

/-- The lines of siblings; each has its place among them as its key. -/
def forestLines (depth key : Nat) : List Element → List Line
  | [] => []
  | element :: rest => elementLines depth key element ++ forestLines depth (key + 1) rest
end

def elementsText (layout : Layout) (elements : List Element) : List Char :=
  layout.render (forestLines 0 0 elements)

/-- The lines of the elements, if there is room for them. -/
def elementsText? (layout : Layout) (elements : List Element) : Option (List Char) :=
  if layout.hasRoom (forestLines 0 0 elements) then some (elementsText layout elements) else none

def header (name viewBox : List Char) : List Char :=
  "import React from 'react';\nimport ".toList ++ braced (' ' :: (wrapperTag ++ [' '])) ++
    " from '".toList ++ wrapperModule ++ "';\n\nconst ".toList ++ name ++
    " = (props) => ".toList ++ openBrace :: "\n  return (\n    <".toList ++ wrapperTag ++ ' ' ::
    braced "...props".toList ++ " viewBox=\"".toList ++ viewBox ++ "\">\n".toList

def footer (name : List Char) : List Char :=
  "\n    </".toList ++ wrapperTag ++ ">\n  );\n".toList ++ closeBrace ::
    ";\n\nexport default ".toList ++ name ++ [';']

def source (component : Component) (layout : Layout) : String :=
  String.ofList
    (header component.name.toList component.viewBox.toList ++
      elementsText layout component.elements ++ footer component.name.toList)

def source? (component : Component) (layout : Layout) : Option String :=
  (elementsText? layout component.elements).map fun _ => component.source layout

end Component

end VectorIcon
