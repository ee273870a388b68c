import VectorIcon.Number.Text

/-!
The coordinate frame of an icon: two offsets and two sizes. `ofText` reads a frame text, `edit`
types into one field, and `resolve` chooses the frame text of a document.
-/

namespace VectorIcon

structure Frame where
  minX : Number
  minY : Number
  width : Number
  height : Number
  deriving DecidableEq

namespace Frame

inductive Field where
  | minX
  | minY
  | width
  | height
  deriving DecidableEq

def Field.all : List Field := [.minX, .minY, .width, .height]

def Field.name : Field → String
  | .minX => "minX"
  | .minY => "minY"
  | .width => "width"
  | .height => "height"

def Field.ofName? (name : String) : Option Field :=
  if name = "minX" || name = "min-x" || name = "min_x" then some .minX
  else if name = "minY" || name = "min-y" || name = "min_y" then some .minY
  else if name = "width" then some .width
  else if name = "height" then some .height
  else none

def Field.unknownMessage (name : String) : String :=
  "unknown viewBox field '" ++ name ++ "': expected minX, minY, width or height"

def get (frame : Frame) : Field → Number
  | .minX => frame.minX
  | .minY => frame.minY
  | .width => frame.width
  | .height => frame.height

def set (frame : Frame) (field : Field) (value : Number) : Frame :=
  match field with
  | .minX => { frame with minX := value }
  | .minY => { frame with minY := value }
  | .width => { frame with width := value }
  | .height => { frame with height := value }

def fieldValue (raw : List Char) : Number :=
  if (Text.trim raw).isEmpty then Number.zero else Number.readLeading raw

def edit (frame : Frame) (field : Field) (raw : String) : Frame :=
  frame.set field (fieldValue raw.toList)

def isFinite (frame : Frame) : Bool :=
  Field.all.all fun field => (frame.get field).isFinite

def tokens (text : List Char) : List (List Char) :=
  (Text.split (fun c => Text.isBlank c || c == ',') text).filter (!·.isEmpty)

/-- A frame of the numbers in order; a missing number is NaN and further ones are ignored. -/
def ofNumbers (numbers : List Number) : Frame :=
  let number (index : Nat) := numbers.getD index .nan
  ⟨number 0, number 1, number 2, number 3⟩

def ofText (text : String) : Frame :=
  ofNumbers ((tokens text.toList).map Number.readWhole)

def text (frame : Frame) : String :=
  String.ofList (List.intercalate [' '] (Field.all.map fun field => (frame.get field).text))

def defaultText : String := "0 0 24 24"

def nonempty? (value : Option String) : Option String :=
  value.filter (· ≠ "")

/-- A `viewBox` text wins as it is written; else both sizes together give a frame at the origin;
else the default holds. -/
def resolve (viewBox width height : Option String) : String :=
  match nonempty? viewBox with
  | some written => written
  | none =>
      match nonempty? width, nonempty? height with
      | some width, some height =>
          String.ofList ("0 0 ".toList ++ (Number.readLeading width.toList).text ++
            ' ' :: (Number.readLeading height.toList).text)
      | _, _ => defaultText

end Frame

end VectorIcon
