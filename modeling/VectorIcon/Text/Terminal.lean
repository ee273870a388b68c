import VectorIcon.Text.Utf8

/-!
Plain text out of text for a terminal. Control sequences are taken out as a terminal reads them,
to their ends and over what they hold, and so are the control characters other than the line feed
and the delete character.
-/

namespace VectorIcon.Text.Terminal

/-- What the characters read so far belong to. A device string has parameters, then other marks,
then a letter with the data behind it; one that is not well formed is skipped. -/
inductive Mode where
  | plain
  | escape
  | escapeTail
  | sequence
  | command
  | device
  | deviceParameter
  | deviceTail
  | deviceData
  | skipped
  deriving DecidableEq

def isControl (c : Char) : Bool :=
  c.toNat < 0x20 || (0x80 ≤ c.toNat && c.toNat ≤ 0x9f)

def isBetween (low high : Nat) (c : Char) : Bool :=
  low ≤ c.toNat && c.toNat ≤ high

def afterEscape (c : Char) : Mode :=
  if c = '[' then .sequence
  else if c = ']' then .command
  else if c = 'P' then .device
  else if c = 'X' || c = '^' || c = '_' then .skipped
  else if isBetween 0x20 0x2f c then .escapeTail
  else if isBetween 0x30 0x7e c then .plain
  else .escape

/-- The mode behind a character of a device string that is before its data. A parameter may follow
no mark, and a private one, from `<` to `?`, comes first. -/
def afterDevice (mode : Mode) (c : Char) : Mode :=
  if isBetween 0x20 0x2f c then .deviceTail
  else if isBetween 0x40 0x7e c then .deviceData
  else if isBetween 0x30 0x3f c then
    if mode = .deviceTail || (mode = .deviceParameter && isBetween 0x3c 0x3f c) then .skipped
    else .deviceParameter
  else mode

def next (mode : Mode) (c : Char) : Mode :=
  if c = '\x1b' then .escape
  else if c = '\x18' || c = '\x1a' then .plain
  else match mode with
    | .plain => .plain
    | .escape => afterEscape c
    | .escapeTail => if isBetween 0x30 0x7e c then .plain else .escapeTail
    | .sequence => if isBetween 0x40 0x7e c then .plain else .sequence
    | .command => if c = '\x07' then .plain else .command
    | .device | .deviceParameter | .deviceTail => afterDevice mode c
    | .deviceData => .deviceData
    | .skipped => .skipped

def isKept (mode : Mode) (c : Char) : Bool :=
  match mode with
  | .plain => c == '\n' || !isControl c
  | .escape | .escapeTail | .sequence => c == '\n'
  | _ => false

def terminator : UInt8 := 0x9c

/-- What is left of a character that holds the terminator. The bytes behind it begin no character:
each reads as a control or as the replacement character. -/
def leftover? (c : Char) : Option (List Char) :=
  match (String.utf8EncodeChar c).dropWhile (· != terminator) with
  | [] => none
  | _ :: bytes => some ((bytes.filter (0xa0 ≤ ·)).map fun _ => Utf8.replacement)

def plainFrom (mode : Mode) : List Char → List Char
  | [] => []
  | c :: rest =>
      match if mode = .deviceData then leftover? c else none with
      | some text => text ++ plainFrom .plain rest
      | none =>
          let following := plainFrom (next mode c) rest
          if isKept mode c then c :: following else following

def plain (text : List Char) : List Char :=
  plainFrom .plain text

end VectorIcon.Text.Terminal
