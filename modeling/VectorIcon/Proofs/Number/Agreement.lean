import VectorIcon.Frame
import VectorIcon.Proofs.Number.Whole

/-!
The two readers of numbers agree. A text that is a number as a whole, other than one behind the
mark of a radix, is the number that the text begins with, and it stays that number with any text
behind it that cannot go on with a literal: blanks and units cannot.
-/

namespace VectorIcon

theorem Frame.get_ofText {written : String} {field : Field} {text : List Char}
    (token : (tokens written.toList)[Field.all.idxOf field]? = some text) :
    (ofText written).get field = Number.readWhole text := by
  have number (index : Nat) (found : (tokens written.toList)[index]? = some text) :
      ((tokens written.toList).map Number.readWhole).getD index .nan = Number.readWhole text := by
    rw [List.getD_eq_getElem?_getD, List.getElem?_map, found]
    rfl
  cases field <;> exact number _ token

namespace Number

theorem readLeading_trimStart (text : List Char) :
    readLeading (Text.trimStart text) = readLeading text := by
  simp only [readLeading, Text.trimStart_trimStart]

theorem readLeading_infinite {sign : List Char} (signed : IsSignText sign) (rest : List Char) :
    readLeading (sign ++ infinityWord ++ rest) = .infinite (isNegative sign) := by
  have front : Text.stops Text.isBlank (sign ++ (infinityWord ++ rest)) = true := by
    rcases signed with rfl | ⟨c, accepted, rfl⟩
    · rfl
    · simp [isBlank_of_isLiteralChar (by simp [isLiteralChar, accepted] : isLiteralChar c = true)]
  rw [List.append_assoc]
  simp only [readLeading, Text.trimStart, Text.dropWhile_of_stops front,
    scanInfinity_written signed]

theorem stops_gap {gap suffix : List Char} (blank : gap.all Text.isBlank = true)
    (stop : Text.stops isLiteralChar suffix = true) :
    Text.stops isLiteralChar (gap ++ suffix) = true := by
  cases gap with
  | nil => exact stop
  | cons c gap =>
      simp only [List.all_cons, Bool.and_eq_true] at blank
      have other : isLiteralChar c = false := by
        by_contra accepted
        have solid := isBlank_of_isLiteralChar (Bool.eq_true_of_not_eq_false accepted)
        rw [blank.1] at solid
        cases solid
      simp [other]

theorem readLeading_of_denotes {reads : Nat → List Char → Number → Prop} {text suffix : List Char}
    {number : Number} (denotes : Denotes reads (Text.trim text) number)
    (present : Text.trim text ≠ [])
    (plain : ∀ entry ∈ radixMarks, ¬['0', entry.1] <+: Text.trim text)
    (stop : Text.stops isLiteralChar suffix = true) : readLeading (text ++ suffix) = number := by
  obtain ⟨gap, blank, split⟩ := Text.trimStart_eq text
  have start : Text.trimStart text ≠ [] := by
    rw [split]
    exact List.append_ne_nil_of_left_ne_nil present gap
  have stopped := stops_gap blank stop
  rw [← readLeading_trimStart, Text.trimStart_append start, split, List.append_assoc]
  cases denotes with
  | blank empty => exact absurd empty present
  | infinite signed word => rw [word, readLeading_infinite signed]
  | integer named spelled read =>
      exact absurd ⟨_, by rw [spelled]; rfl⟩ (plain _ named)
  | @decimal literal _ written spelled near =>
      have ended : Text.stops continues (gap ++ suffix) = true :=
        stops_of_imp stopped fun c continued => by simp [isLiteralChar, continued]
      rw [spelled, readLeading_written written ended]
      exact (isNearest_value literal).unique near

/-- A text that the strict reader takes for a number means the same to the lenient one, also with
a unit behind it. So a token of a frame text can be typed into the field that it stands for. -/
theorem readLeading_eq_readWhole {text : List Char} (present : Text.trim text ≠ [])
    (plain : ∀ entry ∈ radixMarks, ¬['0', entry.1] <+: Text.trim text)
    (numeric : readWhole text ≠ .nan) :
    readLeading text = readWhole text ∧
    ∀ suffix, Text.stops isLiteralChar suffix = true →
      readLeading (text ++ suffix) = readWhole text ∧
      ∀ (frame : Frame) (field : Frame.Field),
        frame.edit field (String.ofList (text ++ suffix)) = frame.set field (readWhole text) ∧
        ∀ written : String,
          (Frame.tokens written.toList)[Frame.Field.all.idxOf field]? = some text →
            frame.edit field (String.ofList (text ++ suffix)) =
              frame.set field ((Frame.ofText written).get field) := by
  have agree (suffix : List Char) (stop : Text.stops isLiteralChar suffix = true) :
      readLeading (text ++ suffix) = readWhole text :=
    readLeading_of_denotes (denotes_readWhole numeric) present plain stop
  refine ⟨by simpa using agree [] rfl, fun suffix stop => ⟨agree suffix stop, ?_⟩⟩
  intro frame field
  have edited : frame.edit field (String.ofList (text ++ suffix)) =
      frame.set field (readWhole text) := by
    have solid : (Text.trim (text ++ suffix)).isEmpty = false :=
      List.isEmpty_eq_false_iff.mpr (Text.trim_append_ne_nil present suffix)
    rw [Frame.edit, String.toList_ofList, Frame.fieldValue, solid, agree suffix stop]
    rfl
  refine ⟨edited, fun written token => ?_⟩
  rw [Frame.get_ofText token, edited]

theorem readLeading_eq_readWhole_unit :
    readWhole "\t-1.5e3\u00a0".toList ≠ .nan ∧
      readLeading "\t-1.5e3\u00a0px".toList = readWhole "\t-1.5e3\u00a0".toList := by
  have present : Text.trim "\t-1.5e3\u00a0".toList ≠ [] := by decide
  have numeric : readWhole "\t-1.5e3\u00a0".toList ≠ .nan := by decide +kernel
  have agree := readLeading_eq_readWhole present (by decide) numeric
  exact ⟨numeric, (agree.2 "px".toList (by decide)).1⟩

end Number

end VectorIcon
