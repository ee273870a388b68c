import VectorIcon.Component.Issue
import VectorIcon.Source

/-!
Parsers for the component grammar. A parser gives a value and the cursor behind it, or nothing,
and in either case the grammar rules that were tried in vain at the furthest place it reached.
-/

namespace VectorIcon.Component

structure Cursor where
  rest : List Char
  /-- Bytes before the rest. -/
  offset : Nat

namespace Cursor

def ofText (text : List Char) : Cursor :=
  ⟨text, 0⟩

def advance (cursor : Cursor) (count : Nat) : Cursor :=
  ⟨cursor.rest.drop count, cursor.offset + Text.byteLength (cursor.rest.take count)⟩

def spanTo (start behind : Cursor) : Span :=
  ⟨start.offset, behind.offset - start.offset⟩

end Cursor

/-- Rules tried in vain at one place; without rules the place means nothing. -/
structure Attempts where
  offset : Nat
  rules : List Rule

namespace Attempts

def empty : Attempts :=
  ⟨0, []⟩

/-- Of two places the further one counts, and the attempts at the same place add up. -/
def merge (earlier later : Attempts) : Attempts :=
  if later.rules.isEmpty then earlier
  else if earlier.rules.isEmpty || earlier.offset < later.offset then later
  else if later.offset < earlier.offset then earlier
  else ⟨earlier.offset, earlier.rules ++ later.rules⟩

/-- The attempts of a rule that fails from `start`. The rule itself replaces what was tried inside
it at that same place, unless that was one rule alone. -/
def ofFailure (tried : Attempts) (start : Nat) (name : Rule) : Attempts :=
  if tried.rules.isEmpty || (tried.offset == start && tried.rules.length != 1) then ⟨start, [name]⟩
  else tried

end Attempts

def Parser (α : Type) : Type :=
  Cursor → Option (α × Cursor) × Attempts

namespace Parser

variable {α β : Type}

def succeed (value : α) : Parser α :=
  fun cursor => (some (value, cursor), .empty)

def fail : Parser α :=
  fun _ => (none, .empty)

def andThen (first : Parser α) (next : α → Parser β) : Parser β :=
  fun cursor =>
    match first cursor with
    | (none, tried) => (none, tried)
    | (some (value, behind), tried) =>
        let (result, more) := next value behind
        (result, tried.merge more)

instance : Monad Parser where
  pure := succeed
  bind := andThen

def orElse (first second : Parser α) : Parser α :=
  fun cursor =>
    match first cursor with
    | (some result, tried) => (some result, tried)
    | (none, tried) =>
        let (result, more) := second cursor
        (result, tried.merge more)

def rule (name : Rule) (body : Parser α) : Parser α :=
  fun cursor =>
    match body cursor with
    | (some result, tried) => (some result, tried)
    | (none, tried) => (none, tried.ofFailure cursor.offset name)

def located (body : Parser α) : Parser (α × Span) :=
  fun cursor =>
    match body cursor with
    | (some (value, behind), tried) => (some ((value, cursor.spanTo behind), behind), tried)
    | (none, tried) => (none, tried)

def literal (text : String) : Parser Unit :=
  fun cursor =>
    if text.toList.isPrefixOf cursor.rest then (some ((), cursor.advance text.length), .empty)
    else (none, .empty)

def takeWhile (accept : Char → Bool) : Parser (List Char) :=
  fun cursor =>
    let taken := cursor.rest.takeWhile accept
    (some (taken, ⟨cursor.rest.dropWhile accept, cursor.offset + Text.byteLength taken⟩), .empty)

def takeSome (accept : Char → Bool) : Parser (List Char) := do
  let taken ← takeWhile accept
  if taken.isEmpty then fail
  return taken

def endOfInput : Parser Unit :=
  fun cursor => (if cursor.rest.isEmpty then some ((), cursor) else none, .empty)

def isWhite (c : Char) : Bool :=
  c == ' ' || c == '\t' || c == '\r' || c == '\n'

def spaced (body : Parser α) : Parser α := do
  let _ ← takeWhile isWhite
  body

def token (text : String) : Parser Unit :=
  spaced (literal text)

def tokens : List String → Parser Unit
  | [] => succeed ()
  | text :: rest => do
      token text
      tokens rest

/-- As many spaced repetitions as there are; the bound has to exceed their number. -/
def repeated (body : Parser α) : Nat → Parser (List α)
  | 0 => succeed []
  | bound + 1 =>
      orElse
        (do
          let value ← spaced body
          let more ← repeated body bound
          return value :: more)
        (succeed [])

end Parser

end VectorIcon.Component
