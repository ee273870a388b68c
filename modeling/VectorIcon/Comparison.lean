import VectorIcon.Element
import VectorIcon.Text.Quoted

/-!
Comparison of element trees. The first difference in document order is found with the path that
leads to it.
-/

namespace VectorIcon

structure Step where
  tag : String
  index : Nat

inductive Mismatch where
  | tag (expected actual : String)
  | propertyNames (expected actual : List String)
  | propertyValue (name : String) (expected : PropertyValue) (actual : Option PropertyValue)
  | properties
  | childCount (expected actual : Nat)

structure Difference where
  path : List Step
  mismatch : Mismatch

def firstValueMismatch (other : Properties) : List (String × PropertyValue) → Option Mismatch
  | [] => none
  | (name, value) :: rest =>
      if other.get? name = some value then firstValueMismatch other rest
      else some (.propertyValue name value (other.get? name))

def propertiesMismatch (expected actual : Properties) : Option Mismatch :=
  if expected = actual then none
  else if expected.keys ≠ actual.keys then some (.propertyNames expected.keys actual.keys)
  else some ((firstValueMismatch actual expected.entries).getD .properties)

mutual
def elementDifference (path : List Step) (index : Nat) : Element → Element → Option Difference
  | ⟨tag, properties, children⟩, actual =>
      let here := path ++ [⟨tag, index⟩]
      if tag ≠ actual.tag then some ⟨here, .tag tag actual.tag⟩
      else match propertiesMismatch properties actual.properties with
        | some mismatch => some ⟨here, mismatch⟩
        | none => forestDifference here 0 children actual.children

/-- The first difference between siblings from `index` on; a pair comes before its successors
and a surplus on one side comes last. -/
def forestDifference (path : List Step) (index : Nat) :
    List Element → List Element → Option Difference
  | [], [] => none
  | [], _ :: others => some ⟨path, .childCount index (index + others.length + 1)⟩
  | _ :: rest, [] => some ⟨path, .childCount (index + rest.length + 1) index⟩
  | element :: rest, other :: others =>
      match elementDifference path index element other with
      | some difference => some difference
      | none => forestDifference path (index + 1) rest others
end

def firstDifference (expected actual : List Element) : Option Difference :=
  forestDifference [] 0 expected actual

namespace Difference

def stepText (step : Step) : String :=
  "/" ++ step.tag ++ "[" ++ toString step.index ++ "]"

def pathText (path : List Step) : String :=
  if path.isEmpty then "/" else String.join (path.map stepText)

def quoted (text : String) : String :=
  String.ofList (Text.quoted text.toList)

def namesText (names : List String) : String :=
  "[" ++ String.intercalate ", " (names.map quoted) ++ "]"

def valueText : Option PropertyValue → String
  | none => "(missing)"
  | some (.text text) => quoted text
  | some (.style style) =>
      "\x7b " ++ String.intercalate ", "
        (style.entries.map fun (name, value) => name ++ ": " ++ quoted value) ++ " \x7d"

def mismatchText : Mismatch → String
  | .tag expected actual => "tag '" ++ expected ++ "' became '" ++ actual ++ "'"
  | .propertyNames expected actual =>
      "properties " ++ namesText expected ++ " became " ++ namesText actual
  | .propertyValue name expected actual =>
      "property '" ++ name ++ "' " ++ valueText (some expected) ++ " became " ++ valueText actual
  | .properties => "properties differ"
  | .childCount expected actual =>
      "expected " ++ toString expected ++ " children, found " ++ toString actual

def text (difference : Difference) : String :=
  pathText difference.path ++ ": " ++ mismatchText difference.mismatch

end Difference

inductive Comparison where
  | equal
  | treeMismatch (details : String)
  | viewBoxMismatch (expected actual : String)
  | unreadable (details : String)
  deriving DecidableEq

def compareTrees (expected actual : List Element) : Comparison :=
  match firstDifference expected actual with
  | none => .equal
  | some difference => .treeMismatch difference.text

end VectorIcon
