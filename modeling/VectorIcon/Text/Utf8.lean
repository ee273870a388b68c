/-!
UTF-8 text in files. Reading never fails: every longest run of bytes that begins a character
but cannot become one reads as one replacement character.
-/

namespace VectorIcon.Text.Utf8

/-- A character whose first bytes are read: how many are missing, the bounds of the next one and
the value so far. -/
structure Pending where
  owed : Nat
  low : Nat
  high : Nat
  value : Nat
  deriving DecidableEq

def replacement : Char :=
  '\uFFFD'

/-- What a byte does where a character may begin. The bounds of the second byte leave out longer
spellings of short characters, surrogates and values past the last character. -/
def start (byte : Nat) : List Char × Option Pending :=
  if byte < 0x80 then ([Char.ofNat byte], none)
  else if byte < 0xC2 then ([replacement], none)
  else if byte < 0xE0 then ([], some ⟨1, 0x80, 0xBF, byte - 0xC0⟩)
  else if byte = 0xE0 then ([], some ⟨2, 0xA0, 0xBF, 0⟩)
  else if byte = 0xED then ([], some ⟨2, 0x80, 0x9F, 0xD⟩)
  else if byte < 0xF0 then ([], some ⟨2, 0x80, 0xBF, byte - 0xE0⟩)
  else if byte = 0xF0 then ([], some ⟨3, 0x90, 0xBF, 0⟩)
  else if byte < 0xF4 then ([], some ⟨3, 0x80, 0xBF, byte - 0xF0⟩)
  else if byte = 0xF4 then ([], some ⟨3, 0x80, 0x8F, 4⟩)
  else ([replacement], none)

/-- What the next byte adds to the text. A byte out of bounds ends the broken character and is
read as a beginning. -/
def step : Option Pending → Nat → List Char × Option Pending
  | none, byte => start byte
  | some pending, byte =>
      if pending.low ≤ byte ∧ byte ≤ pending.high then
        let value := pending.value * 64 + byte % 64
        if pending.owed ≤ 1 then ([Char.ofNat value], none)
        else ([], some ⟨pending.owed - 1, 0x80, 0xBF, value⟩)
      else
        let (text, next) := start byte
        (replacement :: text, next)

def decodeFrom : Option Pending → List UInt8 → List Char
  | none, [] => []
  | some _, [] => [replacement]
  | pending, byte :: rest =>
      let (text, next) := step pending byte.toNat
      text ++ decodeFrom next rest

def decode (bytes : List UInt8) : String :=
  String.ofList (decodeFrom none bytes)

end VectorIcon.Text.Utf8
