import Mathlib.Data.List.Induction
import VectorIcon.Proofs.Text.Runs
import VectorIcon.Source

/-!
Places in a text and offsets. The row and the column behind a beginning of a text lead back to its
length in bytes, and whatever the row and the column are, they lead to a place between characters.
-/

namespace VectorIcon

namespace Text

theorem byteLength_eq_utf8ByteSize (text : List Char) :
    byteLength text = (String.ofList text).utf8ByteSize := by
  induction text with
  | nil => rfl
  | cons c text ih =>
      have split : String.ofList (c :: text) = String.singleton c ++ String.ofList text := by
        rw [String.singleton_eq_ofList, ← String.ofList_append]
        rfl
      rw [byteLength_cons, ih, split, String.utf8ByteSize_append, String.utf8ByteSize_singleton]

theorem byteLength_toList (text : String) : byteLength text.toList = text.utf8ByteSize := by
  rw [byteLength_eq_utf8ByteSize, String.ofList_toList]

theorem dropBytes_append (before after : List Char) :
    dropBytes (byteLength before) (before ++ after) = after := by
  induction before with
  | nil => cases after <;> rfl
  | cons c before ih =>
      have positive := c.utf8Size_pos
      obtain ⟨count, counted⟩ : ∃ count, byteLength (c :: before) = count + 1 :=
        ⟨byteLength (c :: before) - 1, by rw [byteLength_cons]; omega⟩
      have left : count + 1 - c.utf8Size = byteLength before := by
        rw [byteLength_cons] at counted
        omega
      rw [counted, List.cons_append, dropBytes, left, ih]

theorem flatten_rows (text : List Char) : (rows text).flatten = text := by
  induction text with
  | nil => rfl
  | cons c text ih =>
      rw [rows]
      by_cases feed : c = '\n'
      · simp [feed, ih]
      · rw [if_neg feed]
        cases split : rows text with
        | nil =>
            rw [split] at ih
            simp [← ih]
        | cons line more =>
            rw [split] at ih
            simp [← ih]

theorem exists_offsetIn (lines : List (List Char)) (row column : Nat) :
    ∃ before after, lines.flatten = before ++ after ∧
      offsetIn lines row column = byteLength before := by
  induction lines generalizing row with
  | nil => exact ⟨[], [], rfl, rfl⟩
  | cons line lines ih =>
      rw [offsetIn, List.flatten_cons]
      by_cases first : row = 1
      · refine ⟨line.take (column - 1), line.drop (column - 1) ++ lines.flatten, ?_, ?_⟩
        · rw [← List.append_assoc, List.take_append_drop]
        · rw [if_pos first]
      · obtain ⟨before, after, split, offset⟩ := ih (row - 1)
        refine ⟨line ++ before, after, ?_, ?_⟩
        · rw [split, List.append_assoc]
        · rw [if_neg first, offset, byteLength_append]

def lastRow (text : List Char) : List Char :=
  (text.reverse.takeWhile (· != '\n')).reverse

theorem lastRow_concat (text : List Char) (c : Char) :
    lastRow (text ++ [c]) = if c = '\n' then [] else lastRow text ++ [c] := by
  by_cases feed : c = '\n' <;> simp [lastRow, feed]

theorem lastRow_cons (c : Char) (text : List Char) :
    lastRow (c :: text) = if c = '\n' ∨ '\n' ∈ text then lastRow text else c :: text := by
  induction text using List.reverseRecOn with
  | nil => by_cases feed : c = '\n' <;> simp [lastRow, feed]
  | append_singleton text last ih =>
      rw [← List.cons_append, lastRow_concat, lastRow_concat, ih]
      by_cases feed : last = '\n'
      · simp [feed]
      · have other : '\n' ≠ last := fun same => feed same.symm
        simp only [feed, other, List.mem_append, List.mem_singleton, or_false, if_false]
        split <;> rfl

theorem lastRow_of_not_mem {text : List Char} (unended : '\n' ∉ text) : lastRow text = text := by
  cases text with
  | nil => rfl
  | cons c text =>
      simp only [List.mem_cons, not_or] at unended
      rw [lastRow_cons, if_neg]
      rintro (feed | inside)
      · exact unended.1 feed.symm
      · exact unended.2 inside

end Text

/-- The place behind a text that begins at the first place: the rows that have ended in it, and the
characters of the row that has not. -/
def Position.behind (text : List Char) : Position :=
  ⟨1 + text.count '\n', 1 + (Text.lastRow text).length⟩

theorem Position.after_first (text : List Char) : first.after text = behind text := by
  induction text using List.reverseRecOn with
  | nil => rfl
  | append_singleton text c ih =>
      have step : first.after (text ++ [c]) = (first.after text).next c := by
        simp [after, List.foldl_append]
      rw [step, ih, behind, behind, Text.lastRow_concat, next]
      by_cases feed : c = '\n'
      · simp [feed, Nat.add_assoc]
      · simp [feed, Nat.add_assoc]

namespace Text

theorem offsetIn_rows_cons {c : Char} (plain : c ≠ '\n') (text : List Char) {row column : Nat}
    (behind : row = 1 → 2 ≤ column) :
    offsetIn (rows (c :: text)) row column =
      c.utf8Size + offsetIn (rows text) row (if row = 1 then column - 1 else column) := by
  rw [rows, if_neg plain]
  by_cases first : row = 1
  · obtain ⟨place, rfl⟩ : ∃ place, column = place + 2 := ⟨column - 2, by have := behind first; omega⟩
    cases rows text with
    | nil => simp [offsetIn, first]
    | cons line more => simp [offsetIn, first]
  · cases rows text with
    | nil => simp [offsetIn, first]
    | cons line more => simp [offsetIn, first, Nat.add_assoc]

theorem offsetIn_behind (before after : List Char) :
    offsetIn (rows (before ++ after)) (Position.behind before).row
      (Position.behind before).column = byteLength before := by
  induction before with
  | nil =>
      rw [List.nil_append]
      cases rows after with
      | nil => rfl
      | cons line more => rfl
  | cons c before ih =>
      simp only [Position.behind] at ih ⊢
      rw [List.cons_append, byteLength_cons, ← ih, lastRow_cons]
      by_cases feed : c = '\n'
      · simp [feed, rows, offsetIn, Nat.add_comm]
      · have counted : (c :: before).count '\n' = before.count '\n' := by simp [feed]
        rw [counted]
        by_cases ended : '\n' ∈ before
        · -- The character stands in a row above the last one.
          have positive : 0 < before.count '\n' := List.count_pos_iff.mpr ended
          have below : ¬1 + before.count '\n' = 1 := by omega
          rw [if_pos (Or.inr ended), offsetIn_rows_cons feed _ (fun first => absurd first below),
            if_neg below]
        · have only : before.count '\n' = 0 := List.count_eq_zero.mpr ended
          rw [if_neg (by simp [feed, ended]), lastRow_of_not_mem ended, only,
            offsetIn_rows_cons feed _ (fun _ => by rw [List.length_cons]; omega), if_pos rfl]
          rfl

end Text

namespace Source

variable (source : Source)

theorem spanAt_of_split {row column : Nat} {before after : List Char}
    (split : source.text.toList = before ++ after)
    (offset : source.offsetOf row column = Text.byteLength before) :
    source.spanAt row column =
      ⟨Text.byteLength before, (after.head?.map Char.utf8Size).getD 0⟩ := by
  rw [spanAt, offset, split, Text.dropBytes_append]
  cases after with
  | nil => rfl
  | cons c after => rfl

theorem isValid_of_split {before after : List Char}
    (split : source.text.toList = before ++ after) :
    String.Pos.Raw.IsValid source.text ⟨Text.byteLength before⟩ := by
  rw [String.Pos.Raw.isValid_iff_exists_append]
  refine ⟨String.ofList before, String.ofList after, ?_, ?_⟩
  · rw [← String.ofList_append, ← split, String.ofList_toList]
  · rw [Text.byteLength_eq_utf8ByteSize]
    rfl

theorem isValid_behind_span {before after : List Char}
    (split : source.text.toList = before ++ after) :
    String.Pos.Raw.IsValid source.text
      ⟨Text.byteLength before + (after.head?.map Char.utf8Size).getD 0⟩ := by
  cases after with
  | nil => exact source.isValid_of_split split
  | cons c after =>
      have later : source.text.toList = (before ++ [c]) ++ after := by simp [split]
      simpa using source.isValid_of_split later

theorem bytes_of_splits {text before after : String} {place : text.Pos}
    (splits : place.Splits before after) :
    (after.toList.head?.map Char.utf8Size).getD 0 =
      if ended : place = text.endPos then 0 else (place.get ended).utf8Size := by
  by_cases ended : place = text.endPos
  · subst ended
    have nothing : after = "" := splits.eq_endPos_iff.mp rfl
    simp [nothing]
  · obtain ⟨rest, split⟩ := splits.exists_eq_singleton_append ended
    simp [split, ended]

/-- Rows and columns lead to places: behind a beginning of the text, to the span of the character
that follows it, and in any case to a span inside of the text. -/
theorem span_at_place (source : Source) :
    (∀ place : source.text.Pos,
      let before := (source.text.sliceTo place).copy.toList
      let row := 1 + before.count '\n'
      let column := 1 + (before.reverse.takeWhile (· != '\n')).length
      Position.first.after before = ⟨row, column⟩ ∧
        source.offsetOf row column = place.offset.byteIdx ∧
        source.spanAt row column = ⟨place.offset.byteIdx,
          if ended : place = source.text.endPos then 0 else (place.get ended).utf8Size⟩) ∧
    ∀ row column,
      let span := source.spanAt row column
      span.start = source.offsetOf row column ∧
        String.Pos.Raw.IsValid source.text ⟨span.start⟩ ∧
        String.Pos.Raw.IsValid source.text ⟨span.start + span.length⟩ ∧
        span.start + span.length ≤ source.text.utf8ByteSize := by
  constructor
  · intro place before row column
    have splits := place.splits
    have split : source.text.toList = before ++ (source.text.sliceFrom place).copy.toList := by
      rw [← String.toList_append, ← splits.eq_append]
    have size : Text.byteLength before = place.offset.byteIdx := by
      rw [Text.byteLength_toList, splits.offset_eq_rawEndPos]
      rfl
    have position : Position.behind before = ⟨row, column⟩ := by
      simp [Position.behind, Text.lastRow, row, column]
    have offset : source.offsetOf row column = Text.byteLength before := by
      have behind := Text.offsetIn_behind before (source.text.sliceFrom place).copy.toList
      rwa [position, ← split] at behind
    refine ⟨?_, ?_, ?_⟩
    · rw [Position.after_first, position]
    · rw [offset, size]
    · rw [source.spanAt_of_split split offset, size, bytes_of_splits splits]
  · intro row column span
    obtain ⟨before, after, split, offset⟩ :=
      Text.exists_offsetIn (Text.rows source.text.toList) row column
    rw [Text.flatten_rows] at split
    have found : span = ⟨Text.byteLength before, (after.head?.map Char.utf8Size).getD 0⟩ :=
      source.spanAt_of_split split offset
    rw [found]
    have behind := source.isValid_behind_span split
    exact ⟨offset.symm, source.isValid_of_split split, behind, behind.le_rawEndPos⟩

end Source

end VectorIcon
