import VectorIcon.Proofs.Number.ReadBack
import VectorIcon.Proofs.Text.Split

/-!
Frames come back from their text. A printed number has no separator in it, so the text of a frame
falls apart into the texts of its numbers, and each of them reads as the number it shows.
-/

namespace VectorIcon

namespace Number

theorem text_ne_nil (number : Number) : number.text ≠ [] := by
  cases number with
  | nan => decide
  | infinite negative => cases negative <;> decide
  | finite negative rank =>
      rw [← text_finiteLiteral]
      exact literal_text_ne_nil (isWritten_finiteLiteral negative rank)

theorem isBlank_of_isPrintedChar {c : Char} (printed : isPrintedChar c = true) :
    Text.isBlank c = false :=
  Text.forall_ascii (fun c => isPrintedChar c = true → Text.isBlank c = false) (by decide)
    (ascii_of_isPrintedChar printed) printed

theorem isBlank_of_mem_text {number : Number} {c : Char} (member : c ∈ number.text) :
    Text.isBlank c = false :=
  isBlank_of_isPrintedChar (List.all_eq_true.mp number.text_printed c member)

theorem comma_not_mem_text (number : Number) : ',' ∉ number.text := by
  intro member
  exact absurd (List.all_eq_true.mp number.text_printed ',' member) (by decide)

end Number

namespace Frame

def isSeparator (c : Char) : Bool :=
  Text.isBlank c || c == ','

theorem isSeparator_of_mem_text {number : Number} {c : Char} (member : c ∈ number.text) :
    isSeparator c = false := by
  have other : c ≠ ',' := by
    rintro rfl
    exact number.comma_not_mem_text member
  rw [isSeparator, Number.isBlank_of_mem_text member, beq_eq_false_iff_ne.mpr other, Bool.or_self]

theorem tokens_texts {numbers : List Number} (nonempty : numbers ≠ []) :
    tokens (List.intercalate [' '] (numbers.map Number.text)) = numbers.map Number.text := by
  have blank : isSeparator ' ' = true := by decide
  have joined : ∀ text ∈ numbers.map Number.text, ∀ c ∈ text, isSeparator c = false := by
    intro text member c present
    obtain ⟨number, -, rfl⟩ := List.mem_map.mp member
    exact isSeparator_of_mem_text present
  have pieces : Text.split isSeparator (List.intercalate [' '] (numbers.map Number.text)) =
      numbers.map Number.text :=
    Text.split_intercalate blank (by simpa using nonempty) joined
  have kept : (numbers.map Number.text).filter (!·.isEmpty) = numbers.map Number.text := by
    refine List.filter_eq_self.mpr fun text member => ?_
    obtain ⟨number, -, rfl⟩ := List.mem_map.mp member
    simpa using number.text_ne_nil
  exact (congrArg (List.filter (!·.isEmpty)) pieces).trans kept

def withoutZeroSigns (frame : Frame) : Frame :=
  ⟨frame.minX.withoutZeroSign, frame.minY.withoutZeroSign, frame.width.withoutZeroSign,
    frame.height.withoutZeroSign⟩

theorem get_withoutZeroSigns (frame : Frame) (field : Field) :
    frame.withoutZeroSigns.get field = (frame.get field).withoutZeroSign := by
  cases field <;> rfl

theorem text_withoutZeroSigns (frame : Frame) : frame.withoutZeroSigns.text = frame.text := by
  simp only [text, get_withoutZeroSigns, Number.text_withoutZeroSign]

theorem ofText_text (frame : Frame) : ofText frame.text = frame.withoutZeroSigns := by
  have written : frame.text.toList =
      List.intercalate [' '] ((Field.all.map frame.get).map Number.text) := by
    rw [text, String.toList_ofList, List.map_map]
    rfl
  have present : Field.all.map frame.get ≠ [] := by simp [Field.all]
  have read : ((Field.all.map frame.get).map Number.text).map Number.readWhole =
      Field.all.map frame.withoutZeroSigns.get := by
    rw [List.map_map, List.map_map]
    refine List.map_congr_left fun field _ => ?_
    rw [get_withoutZeroSigns]
    exact Number.readWhole_text _
  rw [ofText, written, tokens_texts present, read]
  rfl

theorem text_ofText_text (frame : Frame) : (ofText frame.text).text = frame.text := by
  rw [ofText_text, text_withoutZeroSigns]

theorem fieldValue_text (number : Number) :
    fieldValue number.text = number.withoutZeroSign := by
  have trimmed : Text.trim number.text = number.text :=
    Text.trim_of_solid fun _ => Number.isBlank_of_mem_text
  have present : number.text.isEmpty = false := by simpa using number.text_ne_nil
  rw [fieldValue, trimmed, present, Number.readLeading_text]
  rfl

theorem edit_text (frame : Frame) (field : Field) (number : Number) :
    frame.edit field (String.ofList number.text) = frame.set field number.withoutZeroSign := by
  rw [edit, String.toList_ofList, fieldValue_text]

theorem nonempty?_some {value : String} (nonempty : value ≠ "") :
    nonempty? (some value) = some value := by
  simp [nonempty?, nonempty]

theorem resolve_sizes {width height : String} (wide : width ≠ "") (tall : height ≠ "") :
    resolve none (some width) (some height) =
      text ⟨.zero, .zero, Number.readLeading width.toList, Number.readLeading height.toList⟩ := by
  have zero : Number.zero.text = ['0'] := by decide
  have absent : nonempty? none = none := rfl
  simp only [resolve, absent, nonempty?_some wide, nonempty?_some tall]
  rw [← String.toList_inj, toList_text, String.toList_ofList, zero]
  rfl

/-- What is read from the text of a frame, and what the text of a field leaves in it when it is
typed there, is the number that is shown. So printing settles after one reading, and sizes alone
give a frame of their own numbers. -/
theorem text_values_agree :
    (∀ (frame : Frame) (field : Field),
      (ofText frame.text).get field = (frame.get field).withoutZeroSign) ∧
    (∀ (frame : Frame) (field : Field),
      frame.edit field (String.ofList (frame.get field).text) =
        frame.set field (frame.get field).withoutZeroSign) ∧
    (∀ written : String, (ofText written).text = (ofText (ofText written).text).text) ∧
    (∀ width height : String, width ≠ "" → height ≠ "" →
      ofText (resolve none (some width) (some height)) =
        ⟨.zero, .zero, (Number.readLeading width.toList).withoutZeroSign,
          (Number.readLeading height.toList).withoutZeroSign⟩) := by
  refine ⟨?_, ?_, ?_, ?_⟩
  · intro frame field
    rw [ofText_text, get_withoutZeroSigns]
  · intro frame field
    exact edit_text frame field (frame.get field)
  · intro written
    exact (text_ofText_text (ofText written)).symm
  · intro width height wide tall
    rw [resolve_sizes wide tall, ofText_text]
    rfl

theorem text_values_agree_sizes :
    ("-0px" ≠ "" ∧ "-Infinity" ≠ "") ∧
    Number.readLeading "-0px".toList = .finite true ⟨0, by decide⟩ ∧
    ofText (resolve none (some "-0px") (some "-Infinity")) =
      ⟨.zero, .zero, .zero, .infinite true⟩ := by
  refine ⟨⟨by decide, by decide⟩, by decide, ?_⟩
  rw [text_values_agree.2.2.2 "-0px" "-Infinity" (by decide) (by decide)]
  decide

end Frame

end VectorIcon
