/-!
Character classes of XML: white space, the characters a document may hold, and those of names.
-/

namespace VectorIcon.Xml

def isSpace (c : Char) : Bool :=
  c == ' ' || c == '\t' || c == '\n' || c == '\r'

def isXmlChar (c : Char) : Bool :=
  if c.toNat < 0x20 then c == '\t' || c == '\n' || c == '\r'
  else c.toNat != 0xfffe && c.toNat != 0xffff

def isWideNameStart (code : Nat) : Bool :=
  (0xc0 ≤ code && code ≤ 0xd6) || (0xd8 ≤ code && code ≤ 0xf6) || (0xf8 ≤ code && code ≤ 0x2ff) ||
    (0x370 ≤ code && code ≤ 0x37d) || (0x37f ≤ code && code ≤ 0x1fff) ||
    (0x200c ≤ code && code ≤ 0x200d) || (0x2070 ≤ code && code ≤ 0x218f) ||
    (0x2c00 ≤ code && code ≤ 0x2fef) || (0x3001 ≤ code && code ≤ 0xd7ff) ||
    (0xf900 ≤ code && code ≤ 0xfdcf) || (0xfdf0 ≤ code && code ≤ 0xfffd) ||
    (0x10000 ≤ code && code ≤ 0xeffff)

def isNameStart (c : Char) : Bool :=
  if c.toNat < 0x80 then c.isAlpha || c == '_' || c == ':' else isWideNameStart c.toNat

def isNameChar (c : Char) : Bool :=
  if c.toNat < 0x80 then c.isAlphanum || c == '_' || c == ':' || c == '-' || c == '.'
  else isWideNameStart c.toNat || c.toNat == 0xb7 || (0x300 ≤ c.toNat && c.toNat ≤ 0x36f) ||
    (0x203f ≤ c.toNat && c.toNat ≤ 0x2040)

/-- The first byte of a character's UTF-8 form, shown as the character of that number. -/
def leadByte (c : Char) : Char :=
  let code := c.toNat
  if code < 0x80 then c
  else if code < 0x800 then Char.ofNat (0xc0 + code / 0x40)
  else if code < 0x10000 then Char.ofNat (0xe0 + code / 0x1000)
  else Char.ofNat (0xf0 + code / 0x40000)

end VectorIcon.Xml
