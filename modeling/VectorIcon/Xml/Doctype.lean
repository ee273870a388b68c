import VectorIcon.Xml.Builder

/-!
What stands before the root element: the XML declaration, comments, processing instructions and
the document type with its entity declarations.
-/

namespace VectorIcon.Xml

namespace Cursor

def expectEquals (cursor : Cursor) : Except Fault Cursor := do
  let behind ← cursor.skipSpaces.expectChar '='
  return behind.skipSpaces

/-- The value of an attribute ends at its quote; markup may not begin in it. -/
def endsValue (quote : Char) : List Char → Bool
  | [] => true
  | c :: _ => c == quote || c == '<'

def readAttribute (cursor : Cursor) : Except Fault (WrittenAttribute × Cursor) := do
  let (name, behind) ← cursor.readQualifiedName
  let behind ← behind.expectEquals
  let (quote, start) ← behind.readQuote
  let (value, behind) ← start.takeChars (endsValue quote)
  let behind ← behind.expectChar quote
  return (⟨name, ⟨value, start.position⟩, cursor.position⟩, behind)

def hasDashes : List Char → Bool
  | [] => false
  | ['-'] => true
  | '-' :: '-' :: _ => true
  | _ :: rest => hasDashes rest

def readComment (cursor : Cursor) : Except Fault (Node × Cursor) := do
  let (content, behind) ← (cursor.advance 4).takeChars ("-->".toList.isPrefixOf ·)
  let behind ← behind.expectText "-->"
  if hasDashes content then cursor.fail .invalidComment
  return (.comment (String.ofList content), behind)

def readInstruction (cursor : Cursor) : Except Fault (Node × Cursor) := do
  if cursor.startsWith "<?xml " then cursor.fail .misplacedDeclaration
  let (target, behind) ← (cursor.advance 2).readName
  let (content, behind) ← behind.skipSpaces.takeChars ("?>".toList.isPrefixOf ·)
  let behind ← behind.expectText "?>"
  return (.instruction (String.ofList target) (String.ofList content), behind)

def skipDeclarationSpaces (cursor : Cursor) : Except Fault Cursor :=
  if cursor.startsWithSpace then .ok cursor.skipSpaces
  else match cursor.rest with
    | [] => .ok cursor
    | c :: _ =>
        if cursor.startsWith "?>" then .ok cursor
        else cursor.fail (.expectedKind "a whitespace" (leadByte c))

def skipDeclarationPart (cursor : Cursor) (name : String) : Except Fault Cursor :=
  if cursor.startsWith name then do
    let (_, behind) ← cursor.readAttribute
    return behind
  else .ok cursor

def readDeclaration (cursor : Cursor) : Except Fault Cursor := do
  let cursor ← (cursor.advance 5).skipDeclarationSpaces
  if !cursor.startsWith "version" then cursor.fail (.expectedText "version")
  let cursor ← cursor.skipDeclarationPart "version"
  let cursor ← cursor.skipDeclarationSpaces
  let behind ← cursor.skipDeclarationPart "encoding"
  let cursor ← if cursor.startsWith "encoding" then behind.skipDeclarationSpaces else pure behind
  let cursor ← cursor.skipDeclarationPart "standalone"
  cursor.skipSpaces.expectText "?>"

def readMisc : Nat → Cursor → Builder → Except Fault (Cursor × Builder)
  | 0, cursor, builder => .ok (cursor, builder)
  | fuel + 1, cursor, builder => do
      let cursor := cursor.skipSpaces
      if cursor.startsWith "<!--" then
        let (node, behind) ← cursor.readComment
        readMisc fuel behind (builder.append node)
      else if cursor.startsWith "<?" then
        let (node, behind) ← cursor.readInstruction
        readMisc fuel behind (builder.append node)
      else return (cursor, builder)

def skipMisc (cursor : Cursor) (builder : Builder) : Except Fault (Cursor × Builder) :=
  readMisc (cursor.rest.length + 1) cursor builder

def skipExternalId (cursor : Cursor) : Except Fault (Option Cursor) := do
  if cursor.startsWith "SYSTEM" then
    let (_, behind) ← (← (cursor.advance 6).expectSpaces).readQuoted
    return some behind
  else if cursor.startsWith "PUBLIC" then
    let (_, behind) ← (← (cursor.advance 6).expectSpaces).readQuoted
    let (_, behind) ← (← behind.expectSpaces).readQuoted
    return some behind
  else return none

def skipNotation (cursor : Cursor) : Except Fault Cursor := do
  if cursor.startsWith "NDATA" then
    let (_, behind) ← (← (cursor.advance 5).expectSpaces).skipName
    return behind
  else return cursor

def readEntityDefinition (cursor : Cursor) (general : Bool) :
    Except Fault (Option Cursor × Cursor) :=
  match cursor.rest with
  | [] => .error (Fault.ofText .endOfText)
  | c :: _ =>
      if c = '"' || c = '\'' then do
        let (value, behind) ← cursor.readQuoted
        return (some value, behind)
      else if c = 'S' || c = 'P' then do
        match ← cursor.skipExternalId with
        | none => cursor.fail .invalidExternalId
        | some behind =>
            if general then return (none, ← behind.skipSpaces.skipNotation)
            else return (none, behind)
      else cursor.fail (.expectedKind "a quote, SYSTEM or PUBLIC" (leadByte c))

/-- An entity declaration; a parameter entity is kept under its name too. -/
def readEntityDeclaration (cursor : Cursor) (entities : Entities) :
    Except Fault (Entities × Cursor) := do
  let cursor ← (cursor.advance 8).expectSpaces
  let general := !cursor.startsWith "%"
  let cursor ← if general then pure cursor else (cursor.advance 1).expectSpaces
  let (name, cursor) ← cursor.readName
  let cursor ← cursor.expectSpaces
  let (definition, cursor) ← cursor.readEntityDefinition general
  let behind ← cursor.skipSpaces.expectChar '>'
  match definition with
  | some value => return (entities ++ [(String.ofList name, value)], behind)
  | none => return (entities, behind)

def startsOtherDeclaration (cursor : Cursor) : Bool :=
  cursor.startsWith "<!ELEMENT" || cursor.startsWith "<!ATTLIST" || cursor.startsWith "<!NOTATION"

def readDeclarations (start : Cursor) : Nat → Cursor → Entities → Builder →
    Except Fault (Cursor × Entities × Builder)
  | 0, cursor, entities, builder => .ok (cursor, entities, builder)
  | fuel + 1, cursor, entities, builder => do
      if cursor.atEnd then return (cursor, entities, builder)
      let cursor := cursor.skipSpaces
      if cursor.startsWith "<!ENTITY" then
        let (entities, behind) ← cursor.readEntityDeclaration entities
        readDeclarations start fuel behind entities builder
      else if cursor.startsWith "<!--" then
        let (node, behind) ← cursor.readComment
        readDeclarations start fuel behind entities (builder.append node)
      else if cursor.startsWith "<?" then
        let (node, behind) ← cursor.readInstruction
        readDeclarations start fuel behind entities (builder.append node)
      else if cursor.startsWith "]" then
        let cursor := (cursor.advance 1).skipSpaces
        match cursor.rest with
        | [] => throw (Fault.ofText .endOfText)
        | c :: _ =>
            if c = '>' then return (cursor.advance 1, entities, builder)
            else cursor.fail (.expectedKind "'>'" (leadByte c))
      else if cursor.startsOtherDeclaration then
        let (_, behind) := cursor.takeWhile (· != '>')
        if behind.atEnd then start.fail .unknownToken
        readDeclarations start fuel (behind.advance 1) entities builder
      else cursor.fail .unknownToken

def readDoctype (start : Cursor) (builder : Builder) :
    Except Fault (Cursor × Entities × Builder) := do
  let cursor ← (start.advance 9).expectSpaces
  let (_, cursor) ← cursor.skipName
  let cursor := cursor.skipSpaces
  let cursor := ((← cursor.skipExternalId).getD cursor).skipSpaces
  match cursor.rest with
  | [] => throw (Fault.ofText .endOfText)
  | c :: rest =>
      if c = '>' then return (cursor.advance 1, [], builder)
      else if c = '[' then
        readDeclarations start (rest.length + 1) (cursor.advance 1) [] builder
      else cursor.fail (.expectedKind "'[' or '>'" (leadByte c))

end Cursor

end VectorIcon.Xml
