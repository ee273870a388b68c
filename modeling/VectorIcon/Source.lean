/-!
Source texts and places in them. Rows and columns count from one and in characters; offsets and
lengths count bytes of the UTF-8 form.
-/

namespace VectorIcon

structure Position where
  row : Nat
  column : Nat
  deriving DecidableEq

structure Span where
  start : Nat
  length : Nat
  deriving DecidableEq

namespace Position

def first : Position :=
  ⟨1, 1⟩

/-- The place behind a character; only a line feed ends a row. -/
def next (position : Position) (c : Char) : Position :=
  if c = '\n' then ⟨position.row + 1, 1⟩ else ⟨position.row, position.column + 1⟩

def after (position : Position) (text : List Char) : Position :=
  text.foldl next position

end Position

namespace Text

def byteLength (text : List Char) : Nat :=
  text.foldr (fun c length => c.utf8Size + length) 0

def dropBytes : Nat → List Char → List Char
  | 0, text => text
  | _ + 1, [] => []
  | count + 1, c :: rest => dropBytes (count + 1 - c.utf8Size) rest

def takeBytes : Nat → List Char → List Char
  | 0, _ => []
  | _ + 1, [] => []
  | count + 1, c :: rest => c :: takeBytes (count + 1 - c.utf8Size) rest

def rows : List Char → List (List Char)
  | [] => []
  | c :: rest =>
      if c = '\n' then [c] :: rows rest
      else match rows rest with
        | [] => [[c]]
        | row :: more => (c :: row) :: more

/-- The bytes before a column of a row; a column behind the row is at its end, and a row that is
not there at the end of the text. -/
def offsetIn : List (List Char) → Nat → Nat → Nat
  | [], _, _ => 0
  | line :: rest, row, column =>
      if row = 1 then byteLength (line.take (column - 1))
      else byteLength line + offsetIn rest (row - 1) column

end Text

structure Source where
  name : String
  text : String
  deriving DecidableEq

namespace Source

def offsetOf (source : Source) (row column : Nat) : Nat :=
  Text.offsetIn (Text.rows source.text.toList) row column

/-- The one character at a place, or nothing at the end of the text. -/
def spanAt (source : Source) (row column : Nat) : Span :=
  let start := source.offsetOf row column
  match Text.dropBytes start source.text.toList with
  | [] => ⟨start, 0⟩
  | c :: _ => ⟨start, c.utf8Size⟩

end Source

end VectorIcon
