import VectorIcon.Proofs.Comparison
import VectorIcon.Proofs.Element.Place
import VectorIcon.Proofs.OrderedMap.Lookup

/-!
Trees compare as equal only if they are, and else at the first place where they are not. The path to
it leads to two elements with another tag or other properties, or to siblings of another number.
-/

namespace VectorIcon

def Mismatch.Describes (element other : Element) : Mismatch → Prop
  | .tag expected actual => expected = element.tag ∧ actual = other.tag ∧ expected ≠ actual
  | .propertyNames expected actual =>
      expected = element.properties.keys ∧ actual = other.properties.keys ∧ expected ≠ actual
  | .propertyValue name expected actual =>
      element.properties.get? name = some expected ∧ other.properties.get? name = actual ∧
        actual ≠ some expected
  | .properties => False
  | .childCount _ _ => False

theorem Mismatch.Describes.not_isLike {element other : Element} {mismatch : Mismatch}
    (describes : mismatch.Describes element other) : ¬element.IsLike other := by
  rintro ⟨tag, properties⟩
  cases mismatch with
  | tag expected actual =>
      obtain ⟨rfl, rfl, differ⟩ := describes
      exact differ tag
  | propertyNames expected actual =>
      obtain ⟨rfl, rfl, differ⟩ := describes
      exact differ (by rw [properties])
  | propertyValue name expected actual =>
      obtain ⟨own, rfl, differ⟩ := describes
      exact differ (by rw [← properties, own])
  | properties => exact describes
  | childCount expected actual => exact describes

section

variable {expected actual : Properties} {mismatch : Mismatch}

theorem firstValueMismatch_eq_some {entries : List (String × PropertyValue)}
    (found : firstValueMismatch actual entries = some mismatch) :
    ∃ entry ∈ entries, actual.get? entry.1 ≠ some entry.2 ∧
      mismatch = .propertyValue entry.1 entry.2 (actual.get? entry.1) := by
  induction entries with
  | nil => cases found
  | cons entry rest ih =>
      obtain ⟨name, value⟩ := entry
      rw [firstValueMismatch] at found
      by_cases same : actual.get? name = some value
      · rw [if_pos same] at found
        obtain ⟨entry, member, differ, rfl⟩ := ih found
        exact ⟨entry, List.mem_cons_of_mem _ member, differ, rfl⟩
      · rw [if_neg same, Option.some.injEq] at found
        exact ⟨(name, value), List.mem_cons_self, same, found.symm⟩

theorem firstValueMismatch_eq_none {entries : List (String × PropertyValue)}
    (found : firstValueMismatch actual entries = none) :
    ∀ entry ∈ entries, actual.get? entry.1 = some entry.2 := by
  induction entries with
  | nil => simp
  | cons entry rest ih =>
      obtain ⟨name, value⟩ := entry
      rw [firstValueMismatch] at found
      by_cases same : actual.get? name = some value
      · rw [if_pos same] at found
        exact List.forall_mem_cons.mpr ⟨same, ih found⟩
      · rw [if_neg same] at found
        cases found

theorem propertiesMismatch_eq_none_iff : propertiesMismatch expected actual = none ↔
    expected = actual := by
  unfold propertiesMismatch
  split
  · rename_i same
    simp [same]
  · rename_i differ
    split <;> simp [differ]

theorem describes_of_propertiesMismatch {element other : Element}
    (found : propertiesMismatch element.properties other.properties = some mismatch) :
    mismatch.Describes element other := by
  unfold propertiesMismatch at found
  by_cases same : element.properties = other.properties
  · rw [if_pos same] at found
    cases found
  · rw [if_neg same] at found
    by_cases keys : element.properties.keys = other.properties.keys
    · rw [if_neg (not_not_intro keys), Option.some.injEq] at found
      cases value : firstValueMismatch other.properties element.properties.entries with
      | none => exact absurd (OrderedMap.eq_of_get? keys (firstValueMismatch_eq_none value)) same
      | some first =>
          rw [value, Option.getD_some] at found
          obtain ⟨entry, member, differ, rfl⟩ := firstValueMismatch_eq_some value
          subst mismatch
          exact ⟨OrderedMap.get?_eq_some_iff.mpr member, rfl, differ⟩
    · rw [if_pos keys, Option.some.injEq] at found
      subst mismatch
      exact ⟨rfl, rfl, keys⟩

end

mutual
theorem eq_of_elementDifference : ∀ {path : List Step} {index : Nat} {element other : Element},
    elementDifference path index element other = none → element = other
  | path, index, ⟨tag, properties, children⟩, ⟨otherTag, otherProperties, otherChildren⟩, found => by
      simp only [elementDifference] at found
      split at found
      · cases found
      · rename_i tags
        split at found
        · cases found
        · rename_i alike
          rw [Decidable.of_not_not tags, propertiesMismatch_eq_none_iff.mp alike,
            eq_of_forestDifference found]

theorem eq_of_forestDifference : ∀ {path : List Step} {index : Nat} {forest others : List Element},
    forestDifference path index forest others = none → forest = others
  | _, _, [], [], _ => rfl
  | _, _, [], _ :: _, found => by simp [forestDifference] at found
  | _, _, _ :: _, [], found => by simp [forestDifference] at found
  | path, index, element :: rest, other :: others, found => by
      simp only [forestDifference] at found
      split at found
      · cases found
      · rename_i alike
        rw [eq_of_elementDifference alike, eq_of_forestDifference found]
end

theorem firstDifference_eq_none_iff {expected actual : List Element} :
    firstDifference expected actual = none ↔ expected = actual := by
  constructor
  · exact eq_of_forestDifference
  · rintro rfl
    exact firstDifference_self expected

def placeOf (path : List Step) : List Nat :=
  path.map Step.index

/-- Each step has the index of an element among its siblings, and its tag. -/
def IsPathIn (forest : List Element) : List Step → Prop
  | [] => True
  | step :: path =>
      ∃ element, forest[step.index]? = some element ∧ element.tag = step.tag ∧
        IsPathIn element.children path

/-- A difference between two forests that nothing comes before: its path leads to two elements that
are not alike, or to siblings of which one side has more and the other all that they share. -/
inductive IsFirst (expected actual : List Element) : Difference → Prop
  | atElements {path : List Step} {mismatch : Mismatch} {element other : Element}
      (named : IsPathIn expected path) (found : elementAt expected (placeOf path) = some element)
      (otherFound : elementAt actual (placeOf path) = some other)
      (differ : ¬element.IsLike other) (describes : mismatch.Describes element other)
      (alike : AlikeBefore expected actual (placeOf path)) : IsFirst expected actual ⟨path, mismatch⟩
  | atSiblings {path : List Step} {siblings others : List Element}
      (named : IsPathIn expected path) (found : siblingsAt expected (placeOf path) = some siblings)
      (otherFound : siblingsAt actual (placeOf path) = some others)
      (lengths : siblings.length ≠ others.length)
      (common : siblings.take (min siblings.length others.length) =
        others.take (min siblings.length others.length))
      (alike : AlikeBefore expected actual
        (placeOf path ++ [min siblings.length others.length])) :
      IsFirst expected actual ⟨path, .childCount siblings.length others.length⟩

theorem IsPathIn.down {element : Element} {path : List Step} (named : IsPathIn element.children path)
    (before rest : List Element) :
    IsPathIn (before ++ element :: rest) (⟨element.tag, before.length⟩ :: path) :=
  ⟨element, by simp, rfl, named⟩

theorem IsFirst.down {element other : Element} (alike : element.IsLike other)
    {difference : Difference} (below : IsFirst element.children other.children difference)
    (before rest others : List Element) :
    IsFirst (before ++ element :: rest) (before ++ other :: others)
      ⟨⟨element.tag, before.length⟩ :: difference.path, difference.mismatch⟩ := by
  cases below with
  | @atElements path mismatch first second named found otherFound differ describes earlier =>
      cases path with
      | nil => cases found
      | cons step path =>
          refine .atElements (named.down before rest) ?_ ?_ differ describes
            (earlier.down before rest others alike)
          · exact (elementAt_behind before rest element _ _).trans found
          · exact (elementAt_behind before others other _ _).trans otherFound
  | atSiblings named found otherFound lengths common earlier =>
      refine .atSiblings (named.down before rest) ?_ ?_ lengths common
        (earlier.down before rest others alike)
      · exact (siblingsAt_behind before rest element _).trans found
      · exact (siblingsAt_behind before others other _).trans otherFound

theorem IsFirst.here {element other : Element} {mismatch : Mismatch}
    (describes : mismatch.Describes element other) (before rest others : List Element) :
    IsFirst (before ++ element :: rest) (before ++ other :: others)
      ⟨[⟨element.tag, before.length⟩], mismatch⟩ :=
  .atElements ⟨element, by simp, rfl, trivial⟩ (elementAt_self before rest element)
    (elementAt_self before others other) describes.not_isLike describes
    (alikeBefore_common before (element :: rest) (other :: others))

theorem IsFirst.surplus (before forest others : List Element) (differ : forest.length ≠ others.length)
    (ended : min forest.length others.length = 0) :
    IsFirst (before ++ forest) (before ++ others)
      ⟨[], .childCount (before ++ forest).length (before ++ others).length⟩ := by
  have common : min (before ++ forest).length (before ++ others).length = before.length := by
    simp only [List.length_append]
    omega
  have lengths : (before ++ forest).length ≠ (before ++ others).length := by
    simp only [List.length_append]
    omega
  refine .atSiblings trivial rfl rfl lengths ?_ ?_
  · rw [common, List.take_left, List.take_left]
  · rw [common]
    exact alikeBefore_common before forest others

-- Both go along the search; `before` are the siblings that have been found equal.
mutual
theorem isFirst_of_elementDifference : ∀ (path : List Step) (before rest others : List Element)
    (element other : Element) {difference : Difference},
    elementDifference path before.length element other = some difference →
      ∃ below, difference.path = path ++ below ∧
        IsFirst (before ++ element :: rest) (before ++ other :: others) ⟨below, difference.mismatch⟩
  | path, before, rest, others, ⟨tag, properties, children⟩,
      ⟨otherTag, otherProperties, otherChildren⟩, difference, found => by
      simp only [elementDifference] at found
      by_cases tags : tag = otherTag
      · rw [if_neg (not_not_intro tags)] at found
        cases mismatch : propertiesMismatch properties otherProperties with
        | some _ =>
            rw [mismatch, Option.some.injEq] at found
            subst difference
            have describes := describes_of_propertiesMismatch
              (show propertiesMismatch (Element.mk tag properties children).properties
                (Element.mk otherTag otherProperties otherChildren).properties = _ from mismatch)
            exact ⟨[⟨tag, before.length⟩], rfl, .here describes before rest others⟩
        | none =>
            rw [mismatch] at found
            have like : (Element.mk tag properties children).IsLike
                ⟨otherTag, otherProperties, otherChildren⟩ :=
              ⟨tags, propertiesMismatch_eq_none_iff.mp mismatch⟩
            obtain ⟨below, extended, first⟩ := isFirst_of_forestDifference
              (path ++ [⟨tag, before.length⟩]) [] children otherChildren found
            refine ⟨⟨tag, before.length⟩ :: below, ?_, IsFirst.down like first before rest others⟩
            rw [extended, List.append_assoc, List.singleton_append]
      · rw [if_pos tags, Option.some.injEq] at found
        subst difference
        have describes : (Mismatch.tag tag otherTag).Describes ⟨tag, properties, children⟩
            ⟨otherTag, otherProperties, otherChildren⟩ := ⟨rfl, rfl, tags⟩
        exact ⟨[⟨tag, before.length⟩], rfl, .here describes before rest others⟩
  termination_by structural _ _ _ _ element => element

theorem isFirst_of_forestDifference : ∀ (path : List Step) (before forest others : List Element)
    {difference : Difference},
    forestDifference path before.length forest others = some difference →
      ∃ below, difference.path = path ++ below ∧
        IsFirst (before ++ forest) (before ++ others) ⟨below, difference.mismatch⟩
  | _, _, [], [], _, found => by cases found
  | path, before, [], other :: others, difference, found => by
      rw [forestDifference, Option.some.injEq] at found
      subst difference
      have surplus := IsFirst.surplus before [] (other :: others) (by simp) (by simp)
      refine ⟨[], by rw [List.append_nil], ?_⟩
      simpa [Nat.add_assoc] using surplus
  | path, before, element :: rest, [], difference, found => by
      rw [forestDifference, Option.some.injEq] at found
      subst difference
      have surplus := IsFirst.surplus before (element :: rest) [] (by simp) (by simp)
      refine ⟨[], by rw [List.append_nil], ?_⟩
      simpa [Nat.add_assoc] using surplus
  | path, before, element :: rest, other :: others, difference, found => by
      simp only [forestDifference] at found
      cases first : elementDifference path before.length element other with
      | some _ =>
          rw [first, Option.some.injEq] at found
          subst difference
          exact isFirst_of_elementDifference path before rest others element other first
      | none =>
          rw [first] at found
          obtain rfl := eq_of_elementDifference first
          have counted : before.length + 1 = (before ++ [element]).length := by simp
          rw [counted] at found
          obtain ⟨below, extended, later⟩ :=
            isFirst_of_forestDifference path (before ++ [element]) rest others found
          rw [List.append_cons before element rest, List.append_cons before element others]
          exact ⟨below, extended, later⟩
  termination_by structural _ _ forest => forest
end

theorem isFirst_of_firstDifference {expected actual : List Element} {difference : Difference}
    (found : firstDifference expected actual = some difference) :
    IsFirst expected actual difference := by
  obtain ⟨below, path, first⟩ := isFirst_of_forestDifference [] [] expected actual found
  rw [List.nil_append] at path
  rwa [← path] at first

namespace Difference

theorem getLast?_append (front : String) {back : String} {last : Char}
    (ends : back.toList.getLast? = some last) : (front ++ back).toList.getLast? = some last := by
  rw [String.toList_append, List.getLast?_append, ends, Option.some_or]

theorem getLast?_quoted (text : String) : (quoted text).toList.getLast? = some '"' := by
  rw [quoted, String.toList_ofList, Text.quoted, ← List.cons_append, List.getLast?_concat]

theorem exists_getLast?_valueText (value : Option PropertyValue) :
    ∃ last, (valueText value).toList.getLast? = some last ∧ last ≠ 'r' := by
  match value with
  | none => exact ⟨')', by decide, by decide⟩
  | some (.text text) => exact ⟨'"', getLast?_quoted text, by decide⟩
  | some (.style style) => exact ⟨'\x7d', getLast?_append _ (by decide), by decide⟩

theorem exists_getLast?_toString (number : Nat) :
    ∃ last, (toString number).toList.getLast? = some last ∧ last ≠ 'r' := by
  rw [Nat.toString_eq_repr, Nat.repr, String.toList_ofList]
  have digits : Nat.toDigits 10 number ≠ [] := Nat.toDigits_ne_nil
  refine ⟨_, List.getLast?_eq_some_getLast digits, ?_⟩
  have digit := Nat.isDigit_of_mem_toDigits (by decide) (by decide) (List.getLast_mem digits)
  intro letter
  rw [letter] at digit
  exact absurd digit (by decide)

theorem exists_getLast?_mismatchText {mismatch : Mismatch} (told : mismatch ≠ .properties) :
    ∃ last, (mismatchText mismatch).toList.getLast? = some last ∧ last ≠ 'r' := by
  cases mismatch with
  | tag expected actual => exact ⟨'\'', getLast?_append _ (by decide), by decide⟩
  | propertyNames expected actual =>
      have bracket : (namesText actual).toList.getLast? = some ']' :=
        getLast?_append _ (by decide)
      exact ⟨']', getLast?_append _ bracket, by decide⟩
  | propertyValue name expected actual =>
      obtain ⟨last, ends, other⟩ := exists_getLast?_valueText actual
      exact ⟨last, getLast?_append _ ends, other⟩
  | properties => exact absurd rfl told
  | childCount expected actual =>
      obtain ⟨last, ends, other⟩ := exists_getLast?_toString actual
      exact ⟨last, getLast?_append _ ends, other⟩

theorem text_ne_properties {difference : Difference} (told : difference.mismatch ≠ .properties)
    (front : String) : difference.text ≠ front ++ ": properties differ" := by
  intro same
  obtain ⟨last, ends, other⟩ := exists_getLast?_mismatchText told
  have own : difference.text.toList.getLast? = some last := getLast?_append _ ends
  have blank : (front ++ ": properties differ").toList.getLast? = some 'r' :=
    getLast?_append _ (by decide)
  rw [same, blank, Option.some.injEq] at own
  exact other own.symm

end Difference

theorem IsFirst.mismatch_ne_properties {expected actual : List Element} {difference : Difference}
    (first : IsFirst expected actual difference) : difference.mismatch ≠ .properties := by
  cases first with
  | atElements named found otherFound differ describes alike =>
      rintro rfl
      exact describes
  | atSiblings named found otherFound lengths common alike => simp

/-- The steps of a path, each as a slash, a tag and an index in brackets; a slash for no steps. -/
def writtenPath : List Step → List Char
  | [] => ['/']
  | path => path.flatMap fun step =>
      '/' :: (step.tag.toList ++ '[' :: (Nat.toDigits 10 step.index ++ [']']))

/-- What is said about a mismatch. Only a message about a number of siblings begins with what is
expected. -/
structure IsMessage (mismatch : Mismatch) (message : List Char) : Prop where
  counts : ∀ expected actual, mismatch = .childCount expected actual →
    message = "expected ".toList ++ Nat.toDigits 10 expected ++ " children, found ".toList ++
      Nat.toDigits 10 actual
  begins : "expected ".toList <+: message → ∃ expected actual, mismatch = .childCount expected actual

structure IsTold (difference : Difference) (details : String) : Prop where
  text : ∃ message, IsMessage difference.mismatch message ∧
    details.toList = writtenPath difference.path ++ ':' :: ' ' :: message
  known : ∀ front, details ≠ front ++ ": properties differ"

theorem toList_pathText (path : List Step) :
    (Difference.pathText path).toList = writtenPath path := by
  cases path with
  | nil => rfl
  | cons step path =>
      have each (step : Step) : (Difference.stepText step).toList =
          '/' :: (step.tag.toList ++ '[' :: (Nat.toDigits 10 step.index ++ [']'])) := by
        simp [Difference.stepText]
      rw [Difference.pathText, List.isEmpty_cons, if_neg Bool.false_ne_true, String.toList_join,
        List.flatMap_map, writtenPath]
      · simp only [each]
      · simp

theorem isMessage_mismatchText (mismatch : Mismatch) :
    IsMessage mismatch (Difference.mismatchText mismatch).toList where
  counts := by
    rintro expected actual rfl
    change ("expected " ++ toString expected ++ " children, found " ++ toString actual).toList = _
    simp
  begins := by
    rintro ⟨rest, same⟩
    cases mismatch with
    | childCount expected actual => exact ⟨expected, actual, rfl⟩
    | tag expected actual =>
        change _ = ("tag '" ++ expected ++ "' became '" ++ actual ++ "'").toList at same
        simp at same
    | propertyNames expected actual =>
        change _ = ("properties " ++ Difference.namesText expected ++ " became " ++
          Difference.namesText actual).toList at same
        simp at same
    | propertyValue name expected actual =>
        change _ = ("property '" ++ name ++ "' " ++ Difference.valueText (some expected) ++
          " became " ++ Difference.valueText actual).toList at same
        simp at same
    | properties =>
        change _ = "properties differ".toList at same
        simp at same

theorem isTold_text {difference : Difference} (told : difference.mismatch ≠ .properties) :
    IsTold difference difference.text where
  text := by
    refine ⟨_, isMessage_mismatchText difference.mismatch, ?_⟩
    simp [Difference.text, toList_pathText]
  known := Difference.text_ne_properties told

/-- Comparing tells equal trees from different ones, and where these begin to differ. -/
theorem compareTrees_first (expected actual : List Element) :
    (compareTrees expected actual = .equal ↔ expected = actual) ∧
      (expected = actual ∨ ∃ difference details,
        compareTrees expected actual = .treeMismatch details ∧
          IsFirst expected actual difference ∧ IsTold difference details) := by
  cases found : firstDifference expected actual with
  | none =>
      have same := firstDifference_eq_none_iff.mp found
      have compared : compareTrees expected actual = .equal := by rw [compareTrees, found]
      exact ⟨⟨fun _ => same, fun _ => compared⟩, Or.inl same⟩
  | some difference =>
      have differ : expected ≠ actual := by
        intro same
        rw [firstDifference_eq_none_iff.mpr same] at found
        cases found
      have compared : compareTrees expected actual = .treeMismatch difference.text := by
        rw [compareTrees, found]
      have first := isFirst_of_firstDifference found
      refine ⟨by simp [compared, differ], Or.inr ⟨difference, difference.text, compared, first, ?_⟩⟩
      exact isTold_text first.mismatch_ne_properties

example : compareTrees [⟨"path", .empty, []⟩, ⟨"circle", .empty, []⟩] [⟨"path", .empty, []⟩] =
    .treeMismatch "/: expected 2 children, found 1" := by
  decide

end VectorIcon
