import VectorIcon.Source
import VectorIcon.Text.Width

/-!
The part of a source around a span, drawn in a box: the row of the span between its neighbours,
with a mark below the span. Rows are numbered by every kind of line break, but only a line feed
starts a new line in the box.
-/

namespace VectorIcon.Diagnostic

def isLineBreak (c : Char) : Bool :=
  c == '\n' || c == '\r'

/-- The rows of a text, each with the break that ends it; carriage return and line feed together
are one break. -/
def brokenRows : List Char → List (List Char)
  | [] => []
  | '\r' :: '\n' :: rest => ['\r', '\n'] :: brokenRows rest
  | c :: rest =>
      if isLineBreak c then [c] :: brokenRows rest
      else match brokenRows rest with
        | [] => [[c]]
        | row :: more => (c :: row) :: more

def withoutBreak (row : List Char) : List Char :=
  row.filter fun c => !isLineBreak c

/-- The row at an offset, counted from zero, and the bytes before the offset in it. The end of the
text is in the last row unless a break ends that row. -/
def locate : List (List Char) → Nat → Nat × Nat
  | [], _ => (0, 0)
  | row :: rest, offset =>
      let size := Text.byteLength row
      if offset < size || !row.any isLineBreak then
        (0, min offset (Text.byteLength (withoutBreak row)))
      else
        let (index, column) := locate rest (offset - size)
        (index + 1, column)

/-- A line in the box. Its size counts the break that ends it. -/
structure Line where
  number : Nat
  start : Nat
  text : List Char
  size : Nat

def Line.stop (line : Line) : Nat :=
  line.start + line.size

/-- The number of a line: a last line that ends in a lone carriage return has the number before. -/
def lineNumber (base : Nat) (row : List Char) : Nat :=
  if row.getLast? = some '\r' then base else base + 1

def lineText (row : List Char) : List Char :=
  match row.reverse with
  | '\n' :: '\r' :: rest => rest.reverse
  | '\n' :: rest => rest.reverse
  | _ => row

def linesOf (base start : Nat) : List (List Char) → List Line
  | [] => []
  | row :: rest =>
      let size := Text.byteLength row
      ⟨lineNumber base row, start, lineText row, size⟩ :: linesOf (base + 1) (start + size) rest

structure Snippet where
  sourceName : String
  row : Nat
  column : Nat
  span : Span
  lines : List Line

/-- One row before the span and one behind it; two behind a span that is itself a line break. -/
def Snippet.ofSpan (source : Source) (span : Span) : Snippet :=
  let text := source.text.toList
  let rows := brokenRows text
  let (row, column) := locate rows span.start
  let behind := match Text.dropBytes span.start text with
    | c :: _ => if isLineBreak c then 2 else 1
    | [] => 1
  let before := row - 1
  let start := ((rows.take before).map Text.byteLength).foldr (· + ·) 0
  let shown := (rows.drop before).take (row - before + 1 + behind)
  ⟨source.name, row + 1, column + 1, span, linesOf before start (Text.rows shown.flatten)⟩

/-- Where drawing stands in a line. The characters of a colour sequence take no columns. -/
structure Pen where
  column : Nat
  inSequence : Bool

namespace Pen

def start : Pen :=
  ⟨0, false⟩

def widthOf (pen : Pen) (c : Char) : Nat :=
  if pen.inSequence || c = '\x1b' then 0
  else if c = '\t' then 4 - pen.column % 4
  else Text.charWidth .fifteen c

def next (pen : Pen) (c : Char) : Pen :=
  let inSequence := if pen.inSequence then c ≠ 'm' else c = '\x1b'
  ⟨pen.column + pen.widthOf c, inSequence⟩

def draw (pen : Pen) : List Char → List Char
  | [] => []
  | c :: rest =>
      let drawn := if c = '\t' then List.replicate (pen.widthOf c) ' ' else [c]
      drawn ++ draw (pen.next c) rest

end Pen

def Line.columnAt (line : Line) (offset : Nat) : Nat :=
  let column := ((Text.takeBytes offset line.text).foldl Pen.next Pen.start).column
  if Text.byteLength line.text < offset then column + 1 else column

def blanks (count : Nat) : List Char :=
  List.replicate count ' '

def markLines (gutter : List Char) (line : Line) (span : Span) : List (List Char) :=
  let first := line.columnAt (span.start - line.start)
  let last := max (line.columnAt (span.start + span.length - line.start)) (first + 1)
  let middle := (first + last) / 2
  [gutter ++ blanks first ++ List.replicate (middle - first) '─' ++ '┬' ::
      List.replicate (last - middle - 1) '─',
    gutter ++ blanks middle ++ "╰── here".toList]

def Line.isMarked (line : Line) (span : Span) : Bool :=
  0 < span.length && line.start ≤ span.start && span.start < line.stop

def numeral (n : Nat) : List Char :=
  Nat.toDigits 10 n

def Snippet.lineLines (numberWidth : Nat) (span : Span) (line : Line) : List (List Char) :=
  let number := numeral line.number
  let numbered := ' ' :: (blanks (numberWidth - number.length) ++ number ++ " │ ".toList)
  let gutter := ' ' :: (blanks numberWidth ++ " · ".toList)
  (numbered ++ Pen.start.draw line.text) ::
    if line.isMarked span then markLines gutter line span else []

def Snippet.drawn (snippet : Snippet) : List (List Char) :=
  let lastNumber := (snippet.lines.getLast?.map Line.number).getD 0
  let numberWidth := (numeral lastNumber).length
  let margin := blanks (numberWidth + 2)
  let place := snippet.sourceName.toList ++ ':' :: (numeral snippet.row ++ ':' ::
    numeral snippet.column)
  (margin ++ "╭─[".toList ++ place ++ [']']) ::
    (snippet.lines.flatMap (Snippet.lineLines numberWidth snippet.span) ++
      [margin ++ "╰────".toList])

end VectorIcon.Diagnostic
