import VectorIcon.Text.Alphanumeric
import VectorIcon.Text.LineBreak
import VectorIcon.Text.Width

/-!
Wrapping of long lines. A line is cut into words where a line break is allowed, and the words fill
lines of a width one after the other. The blanks at a break are dropped. Escape sequences for a
terminal stay in the text but take no width and do not matter to where lines break.
-/

namespace VectorIcon.Text

/-- What the characters read so far belong to: text that shows, or an escape sequence. -/
inductive EscapeMode where
  | none
  | escape
  | sequence
  | command
  | commandEscape
  deriving DecidableEq

namespace EscapeMode

def next (mode : EscapeMode) (c : Char) : EscapeMode :=
  match mode with
  | .none => if c = '\x1b' then .escape else .none
  | .escape => if c = '[' then .sequence else if c = ']' then .command else .none
  | .sequence => if '\x40' ≤ c && c ≤ '\x7e' then .none else .sequence
  | .command | .commandEscape =>
      if c = '\x07' || (c = '\\' && mode = .commandEscape) then .none
      else if c = '\x1b' then .commandEscape
      else .command

def marks (mode : EscapeMode) : List Char → List (Char × Bool)
  | [] => []
  | c :: rest => (c, mode = .none && c ≠ '\x1b') :: marks (mode.next c) rest

end EscapeMode

def marked (text : List Char) : List (Char × Bool) :=
  EscapeMode.marks .none text

def textWidth (text : List Char) : Nat :=
  ((marked text).map fun (c, shows) => if shows then charWidth .eighteen c else 0).foldr (· + ·) 0

def isHyphen (c : Char) : Bool :=
  c = '-' || c = '\u00ad'

structure Word where
  text : List Char
  blanks : List Char

namespace Word

def width (word : Word) : Nat :=
  textWidth word.text

def ofPiece (piece : List Char) : Word :=
  let text := (piece.reverse.dropWhile (· == ' ')).reverse
  ⟨text, piece.drop text.length⟩

/-- Pieces that end where a break is allowed. What does not show goes with the character behind
it; `piece` and `hidden` hold the characters read, last one first. -/
def piecesFrom (context : BreakContext) (piece hidden : List Char) :
    List (Char × Bool) → List (List Char)
  | [] =>
      let last := hidden ++ piece
      if last.isEmpty then [] else [last.reverse]
  | (c, shows) :: rest =>
      if shows then
        let kind := BreakClass.ofChar c
        let following := context.next kind
        if context.breaksBefore kind && !piece.head?.any isHyphen then
          piece.reverse :: piecesFrom following (c :: hidden) [] rest
        else piecesFrom following (c :: (hidden ++ piece)) [] rest
      else piecesFrom context piece (c :: hidden) rest

def joinLastTwo : List (List Char) → List (List Char)
  | [] => []
  | [piece] => [piece]
  | [piece, last] => [piece ++ last]
  | piece :: next :: more => piece :: joinLastTwo (next :: more)

def pieces (line : List Char) : List (List Char) :=
  let characters := marked line
  let all := piecesFrom .start [] [] characters
  let last := (characters.filter (·.2)).getLast?
  if last.any fun (c, _) => isHyphen c then joinLastTwo all else all

/-- Cuts behind the hyphens that stand between letters or digits; `part` holds the characters
since the last cut, last one first. -/
def hyphenParts (part : List Char) : List Char → List (List Char)
  | [] => [part.reverse]
  | [c] => [(c :: part).reverse]
  | c :: next :: rest =>
      if c = '-' && part.head?.any isAlphanumeric && isAlphanumeric next then
        (c :: part).reverse :: hyphenParts [] (next :: rest)
      else hyphenParts (c :: part) (next :: rest)

def fittingParts (limit : Nat) (part : List Char) (width : Nat) :
    List (Char × Bool) → List (List Char)
  | [] => [part.reverse]
  | (c, shows) :: rest =>
      let step := if shows then charWidth .eighteen c else 0
      if shows && 0 < width && limit < width + step then
        part.reverse :: fittingParts limit [c] step rest
      else fittingParts limit (c :: part) (width + step) rest

def cut (parts : List Char → List (List Char)) (word : Word) : List Word :=
  let texts := parts word.text
  texts.dropLast.map (⟨·, []⟩) ++ [⟨texts.getLastD [], word.blanks⟩]

def ofLine (limit : Nat) (line : List Char) : List Word :=
  let words := ((pieces line).map ofPiece).flatMap (cut (hyphenParts []))
  words.flatMap fun word =>
    if limit < word.width then word.cut (fun text => fittingParts limit [] 0 (marked text))
    else [word]

def joined : List Word → List Char
  | [] => []
  | [word] => word.text
  | word :: rest => word.text ++ word.blanks ++ joined rest

/-- Fills lines: a word that does not fit begins a new one. `line` holds the words of the line
begun, last one first. -/
def fill (limit : Nat) (line : List Word) (width : Nat) : List Word → List (List Word)
  | [] => [line.reverse]
  | word :: rest =>
      let columns := word.width
      if limit < width + columns && !line.isEmpty then
        line.reverse :: fill limit [word] (columns + word.blanks.length) rest
      else fill limit (word :: line) (width + columns + word.blanks.length) rest

end Word

def wrap (limit : Nat) (line : List Char) : List (List Char) :=
  (Word.fill limit [] 0 (Word.ofLine limit line)).map Word.joined

end VectorIcon.Text
