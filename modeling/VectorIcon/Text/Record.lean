/-!
Flat records as JSON text, without blanks. Quotation marks, backslashes and control characters of
texts are escaped; all else stands for itself.
-/

namespace VectorIcon.Text

inductive FieldValue where
  | text (text : String)
  | count (count : Nat)
  | flag (flag : Bool)
  /-- A number as it is written, if there is one. -/
  | number (written : Option String)

abbrev Record := List (String × FieldValue)

namespace Record

def blockSize : Nat :=
  16

def codeEscape (c : Char) : List Char :=
  let digits := Nat.toDigits 16 c.toNat
  "\\u".toList ++ List.replicate (4 - digits.length) '0' ++ digits

def escapeChar (c : Char) : List Char :=
  if c = '"' then "\\\"".toList
  else if c = '\\' then "\\\\".toList
  else if c = '\n' then "\\n".toList
  else if c = '\r' then "\\r".toList
  else if c = '\t' then "\\t".toList
  else if c = '\x08' then "\\b".toList
  else if c = '\x0c' then "\\f".toList
  else if c.toNat < 0x20 || c = '\x7f' then codeEscape c
  else [c]

def isPlain (c : Char) : Bool :=
  0x20 ≤ c.toNat && c.toNat < 0x80 && c != '"' && c != '\\'

/-- A whole block of plain characters stands for itself, even with a delete character in it. -/
def blockText (block : List Char) : List Char :=
  if block.length = blockSize && block.all isPlain then block else block.flatMap escapeChar

/-- Escapes a text block by block. A block is done when it has its size in bytes; `block` holds
the characters and `size` counts the bytes of the one that is not done. -/
def escapeFrom (block : List Char) (size : Nat) : List Char → List Char
  | [] => block.flatMap escapeChar
  | c :: rest =>
      let grown := block ++ [c]
      if blockSize ≤ size + c.utf8Size then blockText grown ++ escapeFrom [] 0 rest
      else escapeFrom grown (size + c.utf8Size) rest

def quoted (text : String) : List Char :=
  '"' :: (escapeFrom [] 0 text.toList ++ ['"'])

def valueText : FieldValue → List Char
  | .text text => quoted text
  | .count count => Nat.toDigits 10 count
  | .flag flag => (if flag then "true" else "false").toList
  | .number written => (written.getD "null").toList

def fieldText (field : String × FieldValue) : List Char :=
  quoted field.1 ++ ':' :: valueText field.2

def text (record : Record) : String :=
  String.ofList ('\x7b' :: (List.intercalate [','] (record.map fieldText) ++ ['\x7d']))

end Record

end VectorIcon.Text
