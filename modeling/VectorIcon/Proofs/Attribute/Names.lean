import VectorIcon.Attribute
import VectorIcon.Proofs.Style.ReadBack
import VectorIcon.Proofs.Xml.Reading

/-!
Property names that come back from their attribute names. Only the aliases and the qualifiers that
run into a name stand apart; of the other names camel case gives back each, so no two of them have
the same attribute name.
-/

namespace VectorIcon

def isTagChar (c : Char) : Bool :=
  c.isLower || c.isDigit || c == '_' || c == '.' || c == '-'

def isPropertyChar (c : Char) : Bool :=
  c.isAlphanum || c == '_' || c == '.' || c == '-'

def isSmallName (accept : Char → Bool) : List Char → Bool
  | [] => false
  | c :: rest => (c.isLower || c == '_') && rest.all accept

theorem isPropertyChar_of_isTagChar {c : Char} (accepted : isTagChar c = true) :
    isPropertyChar c = true := by
  simp only [isTagChar, Bool.or_eq_true] at accepted
  rcases accepted with (((lower | digit) | line) | point) | hyphen
  · simp [isPropertyChar, Text.isAlphanum_eq, lower]
  · simp [isPropertyChar, Text.isAlphanum_eq, digit]
  · simp [isPropertyChar, line]
  · simp [isPropertyChar, point]
  · simp [isPropertyChar, hyphen]

theorem ascii_of_isPropertyChar {c : Char} (accepted : isPropertyChar c = true) :
    c.toNat < 128 := by
  simp only [isPropertyChar, Bool.or_eq_true, beq_iff_eq] at accepted
  rcases accepted with ((letter | rfl) | rfl) | rfl
  · exact Text.ascii_of_isAlphanum letter
  · decide
  · decide
  · decide

theorem isNameChar_of_isPropertyChar {c : Char} (accepted : isPropertyChar c = true) :
    Xml.isNameChar c = true ∧ c ≠ ':' :=
  Text.forall_ascii (fun c => isPropertyChar c = true → Xml.isNameChar c = true ∧ c ≠ ':')
    (by decide) (ascii_of_isPropertyChar accepted) accepted

theorem isPropertyChar_of_isLower {c : Char} (lower : c.isLower = true) :
    isPropertyChar c = true := by
  simp [isPropertyChar, Text.isAlphanum_eq, lower]

section

variable {accept other : Char → Bool} {text : List Char} (small : isSmallName accept text = true)

include small

theorem isSmallName_imp (step : ∀ c, accept c = true → other c = true) :
    isSmallName other text = true := by
  cases text with
  | nil => exact small
  | cons c rest =>
      simp only [isSmallName, Bool.and_eq_true, List.all_eq_true] at small ⊢
      exact ⟨small.1, fun d member => step d (small.2 d member)⟩

theorem all_of_isSmallName (lower : ∀ c, c.isLower = true → accept c = true)
    (line : accept '_' = true) : text.all accept = true := by
  cases text with
  | nil => rfl
  | cons c rest =>
      simp only [isSmallName, Bool.and_eq_true, Bool.or_eq_true, beq_iff_eq] at small
      obtain ⟨start | rfl, rest⟩ := small
      · simp [lower c start, rest]
      · simp [line, rest]

end

section

variable {text : List Char} (small : isSmallName isPropertyChar text = true)

include small

theorem all_isPropertyChar : text.all isPropertyChar = true :=
  all_of_isSmallName small (fun _ => isPropertyChar_of_isLower) (by decide)

theorem colon_not_mem_of_isSmallName : ':' ∉ text := by
  intro member
  have accepted := List.all_eq_true.mp (all_isPropertyChar small) ':' member
  exact (isNameChar_of_isPropertyChar accepted).2 rfl

theorem startsName_of_isSmallName : Xml.QualifiedName.startsName text = true := by
  cases text with
  | nil => exact small
  | cons c rest =>
      simp only [isSmallName, Bool.and_eq_true, Bool.or_eq_true, beq_iff_eq] at small
      rcases small.1 with lower | rfl
      · have ascii := Text.ascii_of_isLower lower
        simp [Xml.QualifiedName.startsName, Xml.isNameStart, Text.isAlpha_eq, lower, ascii]
      · rfl

theorem all_hyphenate : (hyphenate text).all isPropertyChar = true := by
  refine List.all_eq_true.mpr fun c member => ?_
  rcases mem_of_mem_hyphenate member with rfl | lower | inside
  · decide
  · exact isPropertyChar_of_isLower lower
  · exact List.all_eq_true.mp (all_isPropertyChar small) c inside

theorem isSmallName_hyphenate : isSmallName isPropertyChar (hyphenate text) = true := by
  have every := all_hyphenate small
  cases text with
  | nil => exact small
  | cons c rest =>
      simp only [isSmallName, Bool.and_eq_true] at small
      have plain : c.isUpper = false := by
        rcases Bool.or_eq_true_iff.mp small.1 with lower | line
        · exact Text.isUpper_of_isLower lower
        · rw [beq_iff_eq.mp line]
          rfl
      rw [hyphenate_cons_of_not_isUpper plain] at every ⊢
      simp only [List.all_cons, Bool.and_eq_true] at every
      simp only [isSmallName, small.1, every.2, Bool.and_self]

end

theorem isWritten_of_isSmallName {name : String}
    (small : isSmallName isPropertyChar name.toList = true) :
    Xml.QualifiedName.IsWritten ⟨"", name⟩ := by
  have colon := colon_not_mem_of_isSmallName small
  refine ⟨?_, ?_⟩
  · refine List.all_eq_true.mpr fun c member => ?_
    exact (isNameChar_of_isPropertyChar
      (List.all_eq_true.mp (all_isPropertyChar small) c member)).1
  · have whole := Text.splitFirst_eq_none colon
    show Xml.QualifiedName.ofText? name.toList = some ⟨"", name⟩
    simp [Xml.QualifiedName.ofText?, whole, startsName_of_isSmallName small, colon]

namespace Attribute

def aliasedNames : List String :=
  ["className", "htmlFor", "xmlnsXlink"]

def reservedNames : List String :=
  ["xmlns", "className", "htmlFor", "xmlnsXlink"]

structure IsPlainName (name : String) : Prop where
  small : isSmallName isPropertyChar name.toList = true
  unhyphenated : isUnhyphenated name.toList = true
  unreserved : name ∉ reservedNames
  unqualified : ∀ qualifier ∈ ["xml", "xlink"],
    isBeforeUpper qualifier.toList name.toList = false

instance (name : String) : Decidable (IsPlainName name) :=
  decidable_of_iff (isSmallName isPropertyChar name.toList = true ∧
      isUnhyphenated name.toList = true ∧ name ∉ reservedNames ∧
      ∀ qualifier ∈ ["xml", "xlink"], isBeforeUpper qualifier.toList name.toList = false)
    ⟨fun ⟨small, unhyphenated, unreserved, unqualified⟩ =>
      ⟨small, unhyphenated, unreserved, unqualified⟩,
      fun plain => ⟨plain.1, plain.2, plain.3, plain.4⟩⟩

theorem isPlainName_style : IsPlainName "style" := by decide

theorem lookup_aliases {property : String} (unaliased : property ∉ aliasedNames) :
    aliases.lookup property = none := by
  simp only [aliasedNames, List.mem_cons, List.not_mem_nil, or_false, not_or] at unaliased
  obtain ⟨className, htmlFor, xlink⟩ := unaliased
  simp [aliases, className, htmlFor, xlink]

theorem unfoldQualifier_eq_none {qualifier name : List Char}
    (apart : isBeforeUpper qualifier name = false) : unfoldQualifier qualifier name = none := by
  unfold unfoldQualifier
  split
  · rename_i rest found
    rw [startsUpper_of_dropLeading apart found]
    rfl
  · rfl

theorem derivedName_eq_hyphenate {text : List Char} (unqualified : ∀ qualifier ∈ ["xml", "xlink"],
    isBeforeUpper qualifier.toList text = false) : derivedName text = hyphenate text := by
  have first := unfoldQualifier_eq_none (unqualified "xlink" (by simp))
  have second := unfoldQualifier_eq_none (unqualified "xml" (by simp))
  rw [derivedName, first, second]

variable {name : String} (plain : IsPlainName name)

include plain

theorem markupName_plain :
    markupName name = name ∨ markupName name = String.ofList (hyphenate name.toList) := by
  have own := lookup_aliases fun member => plain.unreserved (List.mem_cons_of_mem "xmlns" member)
  unfold markupName
  rw [own, derivedName_eq_hyphenate plain.unqualified]
  dsimp only
  split
  · exact Or.inl rfl
  · exact Or.inr rfl

theorem propertyName_markupName : propertyName (markupName name) = name := by
  rcases markupName_plain plain with same | hyphenated
  · rw [same, propertyName, camelCase_eq_self plain.unhyphenated, String.ofList_toList]
  · rw [hyphenated, propertyName, String.toList_ofList, camelCase_hyphenate plain.unhyphenated,
      String.ofList_toList]

theorem isSmallName_markupName : isSmallName isPropertyChar (markupName name).toList = true := by
  rcases markupName_plain plain with same | hyphenated
  · rw [same]
    exact plain.small
  · rw [hyphenated, String.toList_ofList]
    exact isSmallName_hyphenate plain.small

theorem eq_of_markupName_eq {written : String} (same : markupName name = written) :
    name = propertyName written := by
  rw [← same, propertyName_markupName plain]

theorem markupName_ne_xmlns : markupName name ≠ "xmlns" := by
  intro same
  have back : name = "xmlns" := eq_of_markupName_eq plain same
  exact plain.unreserved (by simp [back, reservedNames])

theorem markupName_eq_style_iff : markupName name = "style" ↔ name = "style" := by
  constructor
  · intro same
    exact eq_of_markupName_eq plain same
  · rintro rfl
    rfl

theorem markupName_injective {other : String} (otherPlain : IsPlainName other)
    (same : markupName name = markupName other) : name = other := by
  rw [← propertyName_markupName plain, same, propertyName_markupName otherPlain]

omit plain

theorem hyphenate_eq_self {text : List Char} (absent : '-' ∉ hyphenate text) :
    hyphenate text = text := by
  induction text with
  | nil => rfl
  | cons c rest ih =>
      by_cases upper : c.isUpper = true
      · simp [hyphenate_cons_of_isUpper upper] at absent
      · rw [hyphenate_cons_of_not_isUpper (by simpa using upper)] at absent ⊢
        simp only [List.mem_cons, not_or] at absent
        rw [ih absent.2]

theorem exists_of_unfoldQualifier {qualifier text written : List Char}
    (unfolded : unfoldQualifier qualifier text = some written) :
    ∃ rest, written = qualifier ++ ':' :: rest := by
  unfold unfoldQualifier at unfolded
  split at unfolded
  · simp only [Option.ite_none_right_eq_some, Option.some.injEq] at unfolded
    exact ⟨_, unfolded.2.symm⟩
  · cases unfolded

theorem derivedName_cases (text : List Char) :
    (∃ rest, derivedName text = "xlink".toList ++ ':' :: rest) ∨
      (∃ rest, derivedName text = "xml".toList ++ ':' :: rest) ∨
      derivedName text = hyphenate text := by
  unfold derivedName
  split
  · rename_i qualified unfolded
    exact .inl (exists_of_unfoldQualifier unfolded)
  · split
    · rename_i qualified unfolded
      exact .inr (.inl (exists_of_unfoldQualifier unfolded))
    · exact .inr (.inr rfl)

theorem markupName_cases (name : String) :
    (name, markupName name) ∈ aliases ∨ markupName name = name ∨
      ':' ∉ name.toList ∧ markupName name = String.ofList (derivedName name.toList) := by
  unfold markupName
  split
  · rename_i written found
    obtain ⟨before, after, split, _⟩ := List.lookup_eq_some_iff.mp found
    exact .inl (by simp [split])
  · split
    · exact .inr (.inl rfl)
    · rename_i other
      refine .inr (.inr ⟨?_, rfl⟩)
      simp only [Bool.or_eq_true, decide_eq_true_eq, not_or] at other
      exact other.1

/-- An attribute name without a hyphen and without a standard qualifier is that of an alias or of
the property of the same name. -/
theorem eq_of_markupName {name written : String} (same : markupName name = written)
    (unhyphenated : '-' ∉ written.toList) (link : ¬"xlink:".toList <+: written.toList)
    (xml : ¬"xml:".toList <+: written.toList) :
    (name, written) ∈ aliases ∨ name = written := by
  subst same
  rcases markupName_cases name with known | plain | ⟨_, derived⟩
  · exact .inl known
  · exact .inr plain.symm
  · rw [derived, String.toList_ofList] at unhyphenated link xml
    rcases derivedName_cases name.toList with ⟨rest, spelled⟩ | ⟨rest, spelled⟩ | spelled
    · rw [spelled] at link
      exact absurd ⟨rest, by simp⟩ link
    · rw [spelled] at xml
      exact absurd ⟨rest, by simp⟩ xml
    · rw [spelled] at unhyphenated
      rw [derived, spelled, hyphenate_eq_self unhyphenated, String.ofList_toList]
      exact .inr rfl

theorem markupName_eq_xmlns_iff {name : String} : markupName name = "xmlns" ↔ name = "xmlns" := by
  constructor
  · intro same
    rcases eq_of_markupName same (by decide) (by decide) (by decide) with known | plain
    · simp [aliases] at known
    · exact plain
  · rintro rfl
    decide +kernel

theorem markupName_eq_xlink_iff {name : String} :
    markupName name = "xmlns:xlink" ↔ name = "xmlns:xlink" ∨ name = "xmlnsXlink" := by
  constructor
  · intro same
    rcases eq_of_markupName same (by decide) (by decide) (by decide) with known | plain
    · exact .inr (by simpa [aliases] using known)
    · exact .inl plain
  · rintro (rfl | rfl) <;> decide +kernel

end Attribute

end VectorIcon
