import VectorIcon.Number.Literal
import VectorIcon.Xml.Name

/-!
References and entities. A text falls into chunks: runs without a reference, characters that
references name, and entities with the text that they stand for. Entities may refer to one another;
the depth and the number of references are bounded.
-/

namespace VectorIcon.Xml

/-- Entities by name, in the order of their declaration; the first of a name holds. -/
abbrev Entities := List (String × Cursor)

inductive Reference where
  | character (c : Char)
  | entity (name : String)

def isHexDigit (c : Char) : Bool :=
  c.isDigit || ('a' ≤ c && c ≤ 'f') || ('A' ≤ c && c ≤ 'F')

def hexValue (c : Char) : Nat :=
  if c.isDigit then c.toNat - '0'.toNat
  else if 'a' ≤ c then c.toNat - 'a'.toNat + 10
  else c.toNat - 'A'.toNat + 10

def characterOf (code : Nat) : Char :=
  if code.isValidChar then Char.ofNat code else Char.ofNat 0xfffd

def predefined (name : List Char) : Option Char :=
  if name = "quot".toList then some '"'
  else if name = "amp".toList then some '&'
  else if name = "apos".toList then some '\''
  else if name = "lt".toList then some '<'
  else if name = "gt".toList then some '>'
  else none

namespace Cursor

def readCharacterCode (cursor : Cursor) : Nat × Bool × Cursor :=
  if cursor.startsWith "x" then
    let (digits, behind) := (cursor.advance 1).takeWhile isHexDigit
    (Number.ofDigits 16 hexValue digits, digits.isEmpty, behind)
  else
    let (digits, behind) := cursor.takeWhile Char.isDigit
    (Number.ofDigits 10 Number.digitValue digits, digits.isEmpty, behind)

def readReferenceBody? (cursor : Cursor) : Option (Reference × Cursor) :=
  if cursor.startsWith "#" then
    let (code, empty, behind) := (cursor.advance 1).readCharacterCode
    if empty || Nat.pow 2 32 ≤ code || !isXmlChar (characterOf code) then none
    else some (.character (characterOf code), behind)
  else match cursor.readName with
    | .error _ => none
    | .ok (name, behind) =>
        match predefined name with
        | some c => some (.character c, behind)
        | none => some (.entity (String.ofList name), behind)

def readReference? (cursor : Cursor) : Option (Reference × Cursor) :=
  (cursor.readReferenceBody?).bind fun (reference, behind) =>
    if behind.startsWith ";" then some (reference, behind.advance 1) else none

end Cursor

inductive Chunk where
  | literal (run : List Char)
  | character (c : Char) (start : Position)
  | entity (value : Cursor) (behind : Position)
  | fault (fault : Fault)

def referenceChunk (entities : Entities) (start : Cursor) (behind : Position) :
    Reference → Chunk
  | .character c => .character c start.position
  | .entity name =>
      match entities.lookup name with
      | some value => .entity value behind
      | none => .fault ⟨.unknownEntity name, start.position⟩

def chunksFrom (entities : Entities) : Nat → Cursor → List Chunk
  | 0, _ => []
  | fuel + 1, cursor =>
      match cursor.rest with
      | [] => []
      | '&' :: _ =>
          match (cursor.advance 1).readReference? with
          | none => [.fault ⟨.malformedReference, cursor.position⟩]
          | some (reference, behind) =>
              referenceChunk entities cursor behind.position reference ::
                chunksFrom entities fuel behind
      | _ :: _ =>
          let (run, behind) := cursor.takeWhile (· != '&')
          .literal run :: chunksFrom entities fuel behind

def chunks (entities : Entities) (cursor : Cursor) : List Chunk :=
  chunksFrom entities cursor.rest.length cursor

def maximumDepth : Nat := 10

def maximumReferences : Nat := 255

def isNested (room : Nat) : Bool :=
  room < maximumDepth

/-- Counts a reference; only those inside an entity do count. -/
def countReference (room references : Nat) (behind : Position) : Except Fault Nat :=
  if !isNested room then .ok references
  else if maximumReferences ≤ references then .error ⟨.entityLoop, behind⟩
  else .ok (references + 1)

/-- The count behind an entity: it starts again when no entity is open. -/
def countBehind (room references : Nat) : Nat :=
  if isNested room then references else 0

/-- A carriage return right before a line feed is dropped. -/
def dropReturns : List Char → List Char
  | [] => []
  | c :: rest =>
      if c == '\r' && rest.head? == some '\n' then dropReturns rest else c :: dropReturns rest

def blankOf (c : Char) : Char :=
  if c == '\n' || c == '\r' || c == '\t' then ' ' else c

def normalizeRun (run : List Char) : List Char :=
  (dropReturns run).map blankOf

def normalizeLines (run : List Char) : List Char :=
  (dropReturns run).map fun c => if c == '\r' then '\n' else c

def expandValue (room : Nat) (inner : Option (Nat → Cursor → Except Fault (List Char × Nat)))
    (references : Nat) : List Chunk → Except Fault (List Char × Nat)
  | [] => .ok ([], references)
  | .literal run :: rest => do
      let (more, references) ← expandValue room inner references rest
      return (normalizeRun run ++ more, references)
  | .character c start :: rest => do
      if isNested room && c == '<' then throw ⟨.unescapedDelimiter, start⟩
      let (more, references) ← expandValue room inner references rest
      return ((if isNested room then blankOf c else c) :: more, references)
  | .entity value behind :: rest => do
      let counted ← countReference room references behind
      match inner with
      | none => throw ⟨.entityLoop, behind⟩
      | some expand =>
          let (text, counted) ← expand counted value
          let (more, counted) ← expandValue room inner (countBehind room counted) rest
          return (text ++ more, counted)
  | .fault fault :: _ => .error fault

def valueText (entities : Entities) : Nat → Nat → Cursor → Except Fault (List Char × Nat)
  | 0, references, cursor => expandValue 0 none references (chunks entities cursor)
  | room + 1, references, cursor =>
      expandValue (room + 1) (some (valueText entities room)) references (chunks entities cursor)

end VectorIcon.Xml
