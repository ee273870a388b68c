import VectorIcon.Xml.Doctype

/-!
The XML reader. Content is a sequence of constructs; a start tag goes one level down and a closing
tag one level up, and the text of an entity is read as content of its own in the same tree.
-/

namespace VectorIcon.Xml

inductive TagEnd where
  | opened
  | closed
  /-- The text ends inside the tag. -/
  | cut
  deriving DecidableEq

def readTagRest (entities : Entities) (room : Nat) : Nat → Cursor → Builder →
    Except Fault (TagEnd × Cursor × Builder)
  | 0, cursor, builder => .ok (.cut, cursor, builder)
  | fuel + 1, cursor, builder =>
      if cursor.atEnd then .ok (.cut, cursor, builder)
      else
        let spaced := cursor.startsWithSpace
        let cursor := cursor.skipSpaces
        match cursor.rest with
        | [] => .error (Fault.ofText .endOfText)
        | c :: _ =>
            if c = '/' then do
              let behind ← (cursor.advance 1).expectChar '>'
              return (.closed, behind, ← builder.finishTag true cursor.position)
            else if c = '>' then do
              return (.opened, cursor.advance 1, ← builder.finishTag false cursor.position)
            else if !spaced then cursor.fail (.expectedKind "a whitespace" (leadByte c))
            else do
              let (written, behind) ← cursor.readAttribute
              let builder ← builder.addAttribute entities room written
              readTagRest entities room fuel behind builder

/-- A start tag; the fuel is enough when it counts the characters of the tag. -/
def readStartTag (entities : Entities) (room fuel : Nat) (cursor : Cursor) (builder : Builder) :
    Except Fault (TagEnd × Cursor × Builder) := do
  let start := cursor.advance 1
  let (name, behind) ← start.readQualifiedName
  let builder ← builder.startTag name start.position
  readTagRest entities room fuel behind builder

def readClosingTag (cursor : Cursor) (builder : Builder) : Except Fault (Cursor × Builder) := do
  let (name, behind) ← (cursor.advance 2).readQualifiedName
  let behind ← behind.skipSpaces.expectChar '>'
  return (behind, ← builder.closeTag name cursor.position)

def readSection (cursor : Cursor) : Except Fault (List Char × Cursor) := do
  let (content, behind) ← (cursor.advance 9).takeChars ("]]>".toList.isPrefixOf ·)
  return (content, ← behind.expectText "]]>")

def hasSectionEnd : List Char → Bool
  | [] => false
  | c :: rest => "]]>".toList.isPrefixOf (c :: rest) || hasSectionEnd rest

def startsMarkup : List Char → Bool
  | [] => false
  | c :: _ => c == '<'

def readText (cursor : Cursor) : Except Fault (Cursor × Cursor) := do
  let (content, behind) ← cursor.takeChars startsMarkup
  if hasSectionEnd content then behind.fail .invalidCharacterData
  return (⟨content, cursor.position⟩, behind)

def addChunks (room : Nat) (inner : Option (Cursor → Builder → Except Fault Builder))
    (builder : Builder) : List Chunk → Except Fault Builder
  | [] => .ok builder
  | .literal run :: rest => addChunks room inner (builder.appendText (normalizeLines run)) rest
  | .character c _ :: rest => addChunks room inner (builder.appendText [c]) rest
  | .entity value behind :: rest => do
      let counted ← countReference room builder.references behind
      match inner with
      | none => throw ⟨.entityLoop, behind⟩
      | some read =>
          let inside ← read value { builder with tag := none, references := counted }
          addChunks room inner
            { inside with tag := builder.tag, references := countBehind room inside.references }
            rest
  | .fault fault :: _ => .error fault

inductive Construct where
  | nothing
  | comment
  | cdata
  | instruction
  | closing
  | start
  | text
  | unknown
  deriving DecidableEq

def Construct.ofText : List Char → Construct
  | [] => .nothing
  | ['<'] => .unknown
  | '<' :: '!' :: rest =>
      if "--".toList.isPrefixOf rest then .comment
      else if "[CDATA[".toList.isPrefixOf rest then .cdata
      else .unknown
  | '<' :: '?' :: _ => .instruction
  | '<' :: '/' :: _ => .closing
  | '<' :: _ => .start
  | _ => .text

/-- Reads content until as many levels are closed as were open, or to the end of the text. -/
def readLevels (entities : Entities) (room : Nat)
    (inner : Option (Cursor → Builder → Except Fault Builder)) :
    Nat → Nat → Cursor → Builder → Except Fault (Cursor × Builder)
  | 0, _, cursor, builder => .ok (cursor, builder)
  | _, 0, cursor, builder => .ok (cursor, builder)
  | fuel + 1, level + 1, cursor, builder =>
      match Construct.ofText cursor.rest with
      | .nothing => .ok (cursor, builder)
      | .unknown => cursor.fail .unknownToken
      | .comment => do
          let (node, behind) ← cursor.readComment
          readLevels entities room inner fuel (level + 1) behind (builder.append node)
      | .instruction => do
          let (node, behind) ← cursor.readInstruction
          readLevels entities room inner fuel (level + 1) behind (builder.append node)
      | .cdata => do
          let (content, behind) ← readSection cursor
          readLevels entities room inner fuel (level + 1) behind
            (builder.appendText (normalizeLines content))
      | .text => do
          let (content, behind) ← readText cursor
          let builder ← addChunks room inner builder (chunks entities content)
          readLevels entities room inner fuel (level + 1) behind builder
      | .closing => do
          let (behind, builder) ← readClosingTag cursor builder
          readLevels entities room inner fuel level behind builder
      | .start => do
          let (tagEnd, behind, builder) ← readStartTag entities room fuel cursor builder
          let level := if tagEnd = .opened then level + 2 else level + 1
          readLevels entities room inner fuel level behind builder

def readContent (entities : Entities) : Nat → Cursor → Builder → Except Fault (Cursor × Builder)
  | 0, cursor, builder => readLevels entities 0 none (cursor.rest.length + 1) 1 cursor builder
  | room + 1, cursor, builder =>
      readLevels entities (room + 1)
        (some fun value builder => do
          let (_, builder) ← readContent entities room value builder
          return builder)
        (cursor.rest.length + 1) 1 cursor builder

def readRoot (entities : Entities) (cursor : Cursor) (builder : Builder) :
    Except Fault (Cursor × Builder) := do
  if startsMarkup cursor.rest then
    let (tagEnd, behind, builder) ←
      readStartTag entities maximumDepth cursor.rest.length cursor builder
    if tagEnd = .opened then readContent entities maximumDepth behind builder
    else return (behind, builder)
  else return (cursor, builder)

def byteOrderMark : Char := Char.ofNat 0xfeff

def skipByteOrderMark (cursor : Cursor) : Cursor :=
  if cursor.rest.head? = some byteOrderMark then cursor.advance 1 else cursor

def readDocument (text : String) : Except Fault (List Node) := do
  let cursor := skipByteOrderMark (Cursor.ofText text.toList)
  let cursor ← if cursor.startsWith "<?xml " then cursor.readDeclaration else pure cursor
  let (cursor, builder) ← cursor.skipMisc Builder.empty
  let (cursor, entities, builder) ←
    if cursor.startsWith "<!DOCTYPE" then do
      let (cursor, entities, builder) ← cursor.readDoctype builder
      let (cursor, builder) ← cursor.skipMisc builder
      pure (cursor, entities, builder)
    else pure (cursor, [], builder)
  let (cursor, builder) ← readRoot entities cursor builder
  let (cursor, builder) ← cursor.skipMisc builder
  if !cursor.atEnd then cursor.fail .unknownToken
  builder.finish

end VectorIcon.Xml
