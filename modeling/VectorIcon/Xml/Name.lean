import VectorIcon.Text.Blank
import VectorIcon.Xml.Cursor

/-!
Qualified names: a local name, with or without a qualifier and a colon in front.
-/

namespace VectorIcon.Xml

structure QualifiedName where
  /-- Empty for a name without a qualifier. -/
  qualifier : String
  localName : String
  deriving DecidableEq

namespace QualifiedName

def text (name : QualifiedName) : String :=
  if name.qualifier = "" then name.localName else name.qualifier ++ ":" ++ name.localName

def startsName (name : List Char) : Bool :=
  match name with
  | [] => false
  | c :: _ => isNameStart c

/-- The parts of a name; either part starts as a name does, and there is one colon at most. -/
def ofText? (text : List Char) : Option QualifiedName :=
  let (qualifier, localName) := (Text.splitFirst ':' text).getD ([], text)
  if (qualifier.isEmpty || startsName qualifier) && startsName localName && !localName.contains ':'
  then some ⟨String.ofList qualifier, String.ofList localName⟩
  else none

end QualifiedName

def Cursor.readQualifiedName (cursor : Cursor) : Except Fault (QualifiedName × Cursor) :=
  let (text, behind) := cursor.takeWhile isNameChar
  match QualifiedName.ofText? text with
  | some name => .ok (name, behind)
  | none => cursor.fail .invalidName

end VectorIcon.Xml
