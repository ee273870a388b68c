import VectorIcon.Proofs.Text.Runs
import VectorIcon.Proofs.Xml.Markup
import VectorIcon.Xml.Doctype

/-! The reads of the XML reader on texts that begin with what they look for. -/

namespace VectorIcon

@[simp] theorem Position.after_nil (position : Position) : position.after [] = position := rfl

@[simp] theorem Position.after_cons (position : Position) (c : Char) (text : List Char) :
    position.after (c :: text) = (position.next c).after text := rfl

@[simp] theorem Position.after_append (position : Position) (text more : List Char) :
    position.after (text ++ more) = (position.after text).after more :=
  List.foldl_append

namespace Xml

theorem QualifiedName.startsName_of_ofText? {text : List Char} {name : QualifiedName}
    (parsed : QualifiedName.ofText? text = some name) : QualifiedName.startsName text = true := by
  cases text with
  | nil => simp [QualifiedName.ofText?, Text.splitFirst, QualifiedName.startsName] at parsed
  | cons c rest =>
      by_cases colon : c = ':'
      · subst colon
        rfl
      · cases split : Text.splitFirst ':' rest with
        | none =>
            simp only [QualifiedName.ofText?, Text.splitFirst, if_neg colon, split, Option.map_none,
              Option.getD_none, Option.ite_none_right_eq_some, Bool.and_eq_true] at parsed
            exact parsed.1.1.2
        | some parts =>
            simp only [QualifiedName.ofText?, Text.splitFirst, if_neg colon, split, Option.map_some,
              Option.getD_some, List.isEmpty_cons, Bool.false_or, Option.ite_none_right_eq_some,
              Bool.and_eq_true] at parsed
            exact parsed.1.1.1

theorem ne_of_isNameStart {c mark : Char} (starts : isNameStart c = true)
    (other : isNameStart mark = false) : c ≠ mark := by
  rintro rfl
  rw [starts] at other
  exact absurd other (by decide)

theorem isSpace_of_isNameStart {c : Char} (starts : isNameStart c = true) : isSpace c = false := by
  simp only [isSpace, Bool.or_eq_false_iff, beq_eq_false_iff_ne]
  exact ⟨⟨⟨ne_of_isNameStart starts (by decide), ne_of_isNameStart starts (by decide)⟩,
    ne_of_isNameStart starts (by decide)⟩, ne_of_isNameStart starts (by decide)⟩

theorem QualifiedName.IsWritten.exists_cons {name : QualifiedName} (written : name.IsWritten) :
    ∃ c more, name.text.toList = c :: more ∧ isNameStart c = true := by
  have starts := QualifiedName.startsName_of_ofText? written.parsed
  cases spelled : name.text.toList with
  | nil => simp [spelled, QualifiedName.startsName] at starts
  | cons c more => exact ⟨c, more, rfl, by simpa [spelled, QualifiedName.startsName] using starts⟩

namespace Cursor

theorem takeWhile_run {accept : Char → Bool} {run rest : List Char}
    (accepted : run.all accept = true) (stop : Text.stops accept rest = true)
    (position : Position) :
    (⟨run ++ rest, position⟩ : Cursor).takeWhile accept =
      (run, ⟨rest, position.after run⟩) := by
  simp [takeWhile, Text.takeWhile_run accepted stop, Text.dropWhile_run accepted stop]

theorem skipSpaces_run {spaces rest : List Char} (accepted : spaces.all isSpace = true)
    (stop : Text.stops isSpace rest = true) (position : Position) :
    (⟨spaces ++ rest, position⟩ : Cursor).skipSpaces = ⟨rest, position.after spaces⟩ := by
  rw [skipSpaces, takeWhile_run accepted stop]

theorem skipSpaces_solid {rest : List Char} (stop : Text.stops isSpace rest = true)
    (position : Position) : (⟨rest, position⟩ : Cursor).skipSpaces = ⟨rest, position⟩ :=
  skipSpaces_run (List.all_nil) stop position

theorem expectChar_cons (c : Char) (rest : List Char) (position : Position) :
    (⟨c :: rest, position⟩ : Cursor).expectChar c = .ok ⟨rest, position.next c⟩ := by
  simp [expectChar, advance]

theorem takeCharsFrom_run {quote : Char} {run : List Char}
    (accepted : ∀ c ∈ run, isXmlChar c = true ∧ endsValue quote [c] = false)
    (known : isXmlChar quote = true) (rest taken : List Char) (position : Position) :
    takeCharsFrom (endsValue quote) position taken (run ++ quote :: rest) =
      .ok (taken.reverse ++ run, ⟨quote :: rest, position.after run⟩) := by
  induction run generalizing taken position with
  | nil => simp [takeCharsFrom, known, endsValue]
  | cons c run ih =>
      obtain ⟨valid, inside⟩ := accepted c (by simp)
      have goesOn : endsValue quote (c :: (run ++ quote :: rest)) = false := inside
      have later := ih (fun d member => accepted d (by simp [member])) (c :: taken)
        (position.next c)
      simp only [List.cons_append, takeCharsFrom, valid, goesOn, Bool.not_true, Bool.false_eq_true,
        if_false, later]
      simp

theorem readQualifiedName_written {name : QualifiedName} (written : name.IsWritten)
    {rest : List Char} (stop : Text.stops isNameChar rest = true) (position : Position) :
    (⟨name.text.toList ++ rest, position⟩ : Cursor).readQualifiedName =
      .ok (name, ⟨rest, position.after name.text.toList⟩) := by
  simp only [readQualifiedName, takeWhile_run written.accepted stop, written.parsed]

theorem readName_written {name rest : List Char} (starts : QualifiedName.startsName name = true)
    (accepted : name.all isNameChar = true) (stop : Text.stops isNameChar rest = true)
    (position : Position) :
    (⟨name ++ rest, position⟩ : Cursor).readName =
      .ok (name, ⟨rest, position.after name⟩) := by
  cases name with
  | nil => simp [QualifiedName.startsName] at starts
  | cons c more =>
      have start : isNameStart c = true := starts
      have taken := takeWhile_run accepted stop position
      simp only [List.cons_append] at taken ⊢
      simp only [readName, skipName, start, if_true, taken]
      rfl

theorem readAttribute_written {name : QualifiedName} (written : name.IsWritten)
    {value : List Char}
    (accepted : ∀ c ∈ value, isXmlChar c = true ∧ endsValue '"' [c] = false)
    (rest : List Char) (position : Position) :
    (⟨name.text.toList ++ '=' :: '"' :: (value ++ '"' :: rest), position⟩ : Cursor).readAttribute =
      .ok (⟨name, ⟨value, position.after (name.text.toList ++ ['=', '"'])⟩, position⟩,
        ⟨rest, position.after (name.text.toList ++ '=' :: '"' :: (value ++ ['"']))⟩) := by
  have named := readQualifiedName_written written
    (show Text.stops isNameChar ('=' :: '"' :: (value ++ '"' :: rest)) = true from rfl) position
  have taken := takeCharsFrom_run accepted (by decide) rest []
  have before (position : Position) : (⟨'=' :: '"' :: (value ++ '"' :: rest), position⟩ :
      Cursor).skipSpaces = ⟨'=' :: '"' :: (value ++ '"' :: rest), position⟩ :=
    skipSpaces_solid rfl position
  have behind (position : Position) : (⟨'"' :: (value ++ '"' :: rest), position⟩ :
      Cursor).skipSpaces = ⟨'"' :: (value ++ '"' :: rest), position⟩ :=
    skipSpaces_solid rfl position
  simp only [readAttribute, named, expectEquals, before, expectChar_cons, behind, readQuote,
    bind, Except.bind, pure, Except.pure]
  simp [advance, takeChars, taken, expectChar_cons]

end Cursor

end Xml

end VectorIcon
