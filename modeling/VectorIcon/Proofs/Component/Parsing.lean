import VectorIcon.Component.Parser
import VectorIcon.Proofs.Text.Runs

/-!
What the parsers of the component grammar give, apart from the attempts that they report. Each
combinator has one equation for a cursor whose rest is a text in front of another.
-/

namespace VectorIcon.Component.Parser

variable {α β : Type}

def run (parser : Parser α) (cursor : Cursor) : Option (α × Cursor) :=
  (parser cursor).1

@[simp] theorem run_pure (value : α) (cursor : Cursor) :
    run (pure value) cursor = some (value, cursor) := rfl

@[simp] theorem run_succeed (value : α) (cursor : Cursor) :
    run (succeed value) cursor = some (value, cursor) := rfl

@[simp] theorem run_fail (cursor : Cursor) : run (fail : Parser α) cursor = none := rfl

@[simp] theorem run_bind (first : Parser α) (next : α → Parser β) (cursor : Cursor) :
    run (first >>= next) cursor =
      (run first cursor).bind fun result => run (next result.1) result.2 := by
  change (andThen first next cursor).1 = _
  unfold andThen run
  split
  · rename_i failed
    simp [failed]
  · rename_i taken
    simp [taken]

@[simp] theorem run_orElse (first second : Parser α) (cursor : Cursor) :
    run (orElse first second) cursor = (run first cursor).or (run second cursor) := by
  unfold run orElse
  split
  · rename_i taken
    simp [taken]
  · rename_i failed
    simp [failed]

@[simp] theorem run_rule (name : Rule) (body : Parser α) (cursor : Cursor) :
    run (rule name body) cursor = run body cursor := by
  unfold run rule
  split
  · rename_i taken
    simp [taken]
  · rename_i failed
    simp [failed]

@[simp] theorem run_located (body : Parser α) (cursor : Cursor) :
    run (located body) cursor =
      (run body cursor).map fun result => ((result.1, cursor.spanTo result.2), result.2) := by
  unfold run located
  split
  · rename_i taken
    simp [taken]
  · rename_i failed
    simp [failed]

theorem run_takeWhile {accept : Char → Bool} {text : List Char} (rest : List Char)
    (accepted : text.all accept = true) (stop : Text.stops accept rest = true) (offset : Nat) :
    run (takeWhile accept) ⟨text ++ rest, offset⟩ =
      some (text, ⟨rest, offset + Text.byteLength text⟩) := by
  simp [run, takeWhile, Text.takeWhile_run accepted stop, Text.dropWhile_run accepted stop]

theorem run_takeSome {accept : Char → Bool} {text : List Char} (rest : List Char)
    (nonempty : text ≠ []) (accepted : text.all accept = true)
    (stop : Text.stops accept rest = true) (offset : Nat) :
    run (takeSome accept) ⟨text ++ rest, offset⟩ =
      some (text, ⟨rest, offset + Text.byteLength text⟩) := by
  simp [takeSome, run_takeWhile rest accepted stop, nonempty]

theorem run_takeSome_none {accept : Char → Bool} {rest : List Char}
    (stop : Text.stops accept rest = true) (offset : Nat) :
    run (takeSome accept) ⟨rest, offset⟩ = none := by
  have taken : run (takeWhile accept) ⟨rest, offset⟩ = some ([], ⟨rest, offset⟩) :=
    run_takeWhile rest (List.all_nil) stop offset
  simp [takeSome, taken]

theorem run_literal (text : String) (rest : List Char) (offset : Nat) :
    run (literal text) ⟨text.toList ++ rest, offset⟩ =
      some ((), ⟨rest, offset + Text.byteLength text.toList⟩) := by
  simp [run, literal, Cursor.advance, ← String.length_toList]

theorem run_literal_none (text : String) {rest : List Char}
    (other : text.toList.isPrefixOf rest = false) (offset : Nat) :
    run (literal text) ⟨rest, offset⟩ = none := by
  simp [run, literal, other]

theorem run_spaced (body : Parser α) (gap : List Char) {rest : List Char}
    (white : gap.all isWhite = true) (solid : Text.stops isWhite rest = true) (offset : Nat) :
    run (spaced body) ⟨gap ++ rest, offset⟩ =
      run body ⟨rest, offset + Text.byteLength gap⟩ := by
  simp [spaced, run_takeWhile rest white solid]

theorem run_spaced_solid (body : Parser α) {rest : List Char}
    (solid : Text.stops isWhite rest = true) (offset : Nat) :
    run (spaced body) ⟨rest, offset⟩ = run body ⟨rest, offset⟩ := by
  simpa using run_spaced body [] rfl solid offset

structure Spread where
  gap : List Char
  token : String

def Spread.text (part : Spread) : List Char :=
  part.gap ++ part.token.toList

def Spread.valid (part : Spread) : Bool :=
  part.gap.all isWhite && !part.token.toList.isEmpty && Text.stops isWhite part.token.toList

theorem Spread.stops_token {part : Spread} (valid : part.valid = true) (rest : List Char) :
    Text.stops isWhite (part.token.toList ++ rest) = true := by
  simp only [Spread.valid, Bool.and_eq_true] at valid
  obtain ⟨⟨_, nonempty⟩, solid⟩ := valid
  cases found : part.token.toList with
  | nil => simp [found] at nonempty
  | cons c more => simpa [found] using solid

theorem run_token (part : Spread) (valid : part.valid = true) (rest : List Char) (offset : Nat) :
    run (token part.token) ⟨part.text ++ rest, offset⟩ =
      some ((), ⟨rest, offset + Text.byteLength part.text⟩) := by
  have white : part.gap.all isWhite = true := by
    simp only [Spread.valid, Bool.and_eq_true] at valid
    exact valid.1.1
  rw [Spread.text, List.append_assoc, token, run_spaced _ _ white (Spread.stops_token valid rest),
    run_literal, Text.byteLength_append, Nat.add_assoc]

theorem run_tokens (parts : List Spread) (valid : parts.all Spread.valid = true)
    (rest : List Char) (offset : Nat) :
    run (tokens (parts.map Spread.token)) ⟨parts.flatMap Spread.text ++ rest, offset⟩ =
      some ((), ⟨rest, offset + Text.byteLength (parts.flatMap Spread.text)⟩) := by
  induction parts generalizing offset with
  | nil => simp [tokens]
  | cons part parts ih =>
      simp only [List.all_cons, Bool.and_eq_true] at valid
      simp only [List.map_cons, tokens, run_bind, List.flatMap_cons, List.append_assoc,
        run_token part valid.1, Option.bind_some, ih valid.2, Text.byteLength_append, Nat.add_assoc]

theorem run_repeated_none {body : Parser α} {cursor : Cursor}
    (refused : run (spaced body) cursor = none) (bound : Nat) :
    run (repeated body bound) cursor = some ([], cursor) := by
  cases bound with
  | zero => simp [repeated]
  | succ bound => simp [repeated, refused]

theorem run_repeated_cons {body : Parser α} {cursor behind : Cursor} {value : α} {bound : Nat}
    {more : List α} {last : Cursor} (first : run (spaced body) cursor = some (value, behind))
    (others : run (repeated body bound) behind = some (more, last)) :
    run (repeated body (bound + 1)) cursor = some (value :: more, last) := by
  simp [repeated, first, others]

end VectorIcon.Component.Parser
