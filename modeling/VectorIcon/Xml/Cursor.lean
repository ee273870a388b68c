import VectorIcon.Xml.Character
import VectorIcon.Xml.Fault

/-!
A place in an XML text and the reads that every construct is made of. A read gives what it took
and the cursor behind it, or a fault.
-/

namespace VectorIcon.Xml

structure Cursor where
  rest : List Char
  position : Position

namespace Cursor

def ofText (text : List Char) : Cursor :=
  ⟨text, Position.first⟩

def fail {α : Type} (cursor : Cursor) (cause : Cause) : Except Fault α :=
  .error ⟨cause, cursor.position⟩

def atEnd (cursor : Cursor) : Bool :=
  cursor.rest.isEmpty

def startsWith (cursor : Cursor) (text : String) : Bool :=
  text.toList.isPrefixOf cursor.rest

def startsWithSpace (cursor : Cursor) : Bool :=
  match cursor.rest with
  | [] => false
  | c :: _ => isSpace c

def advance (cursor : Cursor) (count : Nat) : Cursor :=
  ⟨cursor.rest.drop count, cursor.position.after (cursor.rest.take count)⟩

def takeWhile (cursor : Cursor) (accept : Char → Bool) : List Char × Cursor :=
  let taken := cursor.rest.takeWhile accept
  (taken, ⟨cursor.rest.dropWhile accept, cursor.position.after taken⟩)

def skipSpaces (cursor : Cursor) : Cursor :=
  (cursor.takeWhile isSpace).2

def takeCharsFrom (stop : List Char → Bool) (position : Position) (taken : List Char) :
    List Char → Except Fault (List Char × Cursor)
  | [] => .ok (taken.reverse, ⟨[], position⟩)
  | c :: rest =>
      if !isXmlChar c then .error ⟨.invalidChar c, position⟩
      else if stop (c :: rest) then .ok (taken.reverse, ⟨c :: rest, position⟩)
      else takeCharsFrom stop (position.next c) (c :: taken) rest

def takeChars (cursor : Cursor) (stop : List Char → Bool) : Except Fault (List Char × Cursor) :=
  takeCharsFrom stop cursor.position [] cursor.rest

def expectChar (cursor : Cursor) (expected : Char) : Except Fault Cursor :=
  match cursor.rest with
  | [] => .error (Fault.ofText .endOfText)
  | c :: _ =>
      if c = expected then .ok (cursor.advance 1)
      else cursor.fail (.expectedChar expected (leadByte c))

def expectText (cursor : Cursor) (expected : String) : Except Fault Cursor :=
  if cursor.startsWith expected then .ok (cursor.advance expected.length)
  else cursor.fail (.expectedText expected)

def expectSpaces (cursor : Cursor) : Except Fault Cursor :=
  match cursor.rest with
  | [] => .error (Fault.ofText .endOfText)
  | c :: _ =>
      if isSpace c then .ok cursor.skipSpaces
      else cursor.fail (.expectedKind "a whitespace" (leadByte c))

def readQuote (cursor : Cursor) : Except Fault (Char × Cursor) :=
  match cursor.rest with
  | [] => .error (Fault.ofText .endOfText)
  | c :: _ =>
      if c = '"' || c = '\'' then .ok (c, cursor.advance 1)
      else cursor.fail (.expectedKind "a quote" (leadByte c))

/-- A quoted text without markup inside; its characters are not looked at. -/
def readQuoted (cursor : Cursor) : Except Fault (Cursor × Cursor) := do
  let (quote, start) ← cursor.readQuote
  let (value, behind) := start.takeWhile (· != quote)
  let behind ← behind.expectChar quote
  return (⟨value, start.position⟩, behind)

def skipName (cursor : Cursor) : Except Fault (List Char × Cursor) :=
  match cursor.rest with
  | [] => .ok ([], cursor)
  | c :: _ =>
      if isNameStart c then .ok (cursor.takeWhile isNameChar)
      else cursor.fail .invalidName

def readName (cursor : Cursor) : Except Fault (List Char × Cursor) := do
  let (name, behind) ← cursor.skipName
  if name.isEmpty then cursor.fail .invalidName
  return (name, behind)

end Cursor

end VectorIcon.Xml
