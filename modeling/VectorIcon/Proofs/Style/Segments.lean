import Mathlib.Data.List.Induction
import VectorIcon.Proofs.OrderedMap.Lookup
import VectorIcon.Proofs.Style.Folded

/-!
Styles by the segments of their text. A segment declares a value under a name, or it is malformed and
counts for nothing. Names stand in the order of their first declarations, each with the value of its
last one, so texts put together give the styles put together.
-/

namespace VectorIcon.Style

inductive IsMalformed : List Char → Prop
  | colon {segment : List Char} (absent : ':' ∉ segment) : IsMalformed segment
  | name {before after : List Char} (first : ':' ∉ before)
      (blank : ∀ c ∈ before, Text.isBlank c = true) : IsMalformed (before ++ ':' :: after)
  | value {before after : List Char} (first : ':' ∉ before)
      (blank : ∀ c ∈ after, Text.isBlank c = true) : IsMalformed (before ++ ':' :: after)

def IsLastDeclaration (segments : List (List Char)) (name value : String) : Prop :=
  ∃ before segment after, segments = before ++ segment :: after ∧ Declares segment name value ∧
    ∀ later ∈ after, ∀ other, ¬Declares later name other

/-- A front of the segments declares the one name and not yet the other. -/
def IsDeclaredBefore (segments : List (List Char)) (name other : String) : Prop :=
  ∃ front, front <+: segments ∧ (∃ segment ∈ front, ∃ value, Declares segment name value) ∧
    ∀ segment ∈ front, ∀ value, ¬Declares segment other value

structure IsReadFrom (segments : List (List Char)) (style : Style) : Prop where
  distinct : style.keys.Nodup
  name : ∀ name ∈ style.keys, IsDeclaredName name.toList ∧ ';' ∉ name.toList
  value : ∀ name value, style.get? name = some value → IsWrittenValue value.toList
  order : style.keys.Pairwise (IsDeclaredBefore segments)
  last : ∀ name value, style.get? name = some value ↔ IsLastDeclaration segments name value

section

variable {segment : List Char} {name value : String}

theorem declaration?_eq_none_iff : declaration? segment = none ↔ IsMalformed segment := by
  constructor
  · intro dropped
    by_cases colon : ':' ∈ segment
    · obtain ⟨before, after, rfl, first⟩ := List.eq_append_cons_of_mem colon
      by_cases named : Text.trim before = []
      · exact .name first (Text.trim_eq_nil_iff.mp named)
      · by_cases valued : Text.trim after = []
        · exact .value first (Text.trim_eq_nil_iff.mp valued)
        · have kept := declaration?_eq_some_iff.mpr (.segment first named valued)
          rw [dropped] at kept
          cases kept
    · exact .colon colon
  · intro malformed
    cases malformed with
    | colon absent => simp [declaration?, Text.splitFirst_eq_none absent]
    | name first blank =>
        simp [declaration?, Text.splitFirst_append first, Text.trim_eq_nil_iff.mpr blank]
    | value first blank =>
        simp [declaration?, Text.splitFirst_append first, Text.trim_eq_nil_iff.mpr blank]

theorem IsMalformed.not_declares (malformed : IsMalformed segment) :
    ¬Declares segment name value := by
  intro declares
  have kept := declaration?_eq_some_iff.mpr declares
  rw [declaration?_eq_none_iff.mpr malformed] at kept
  cases kept

variable (declares : Declares segment name value)

include declares

theorem Declares.unique {other given : String} (again : Declares segment other given) :
    other = name ∧ given = value := by
  have same := declaration?_eq_some_iff.mpr again
  rw [declaration?_eq_some_iff.mpr declares, Option.some.injEq, Prod.mk.injEq] at same
  exact ⟨same.1.symm, same.2.symm⟩

theorem Declares.isUnhyphenated : isUnhyphenated name.toList = true := by
  obtain ⟨_, _, _⟩ := declares
  rw [String.toList_ofList]
  exact isUnhyphenated_camelCase _

theorem Declares.closed (joined : ';' ∉ segment) : ';' ∉ name.toList := by
  obtain ⟨_, _, _⟩ := declares
  rw [String.toList_ofList]
  intro member
  have inside := Text.mem_of_mem_trim (mem_of_mem_camelCase (by decide) member)
  exact joined (List.mem_append_left _ inside)

theorem Declares.isWrittenValue (joined : ';' ∉ segment) : IsWrittenValue value.toList := by
  obtain ⟨_, _, valued⟩ := declares
  rw [String.toList_ofList]
  refine ⟨valued, Text.trim_trim _, fun member => joined ?_⟩
  simp [Text.mem_of_mem_trim member]

end

section

variable {segments : List (List Char)} {segment : List Char} {name other value : String}

theorem isLastDeclaration_concat_iff :
    IsLastDeclaration (segments ++ [segment]) name value ↔ Declares segment name value ∨
      (∀ given, ¬Declares segment name given) ∧ IsLastDeclaration segments name value := by
  constructor
  · rintro ⟨before, found, after, split, declares, last⟩
    rcases List.eq_nil_or_concat after with rfl | ⟨after, final, rfl⟩
    · obtain ⟨_, same⟩ := List.append_inj' split rfl
      cases same
      exact .inl declares
    · rw [List.concat_eq_append, ← List.cons_append, ← List.append_assoc] at split
      obtain ⟨rfl, same⟩ := List.append_inj' split rfl
      cases same
      refine .inr ⟨last segment (by simp), before, found, after, rfl, declares, ?_⟩
      intro later member
      exact last later (by simp [member])
  · rintro (declares | ⟨silent, before, found, after, rfl, declares, last⟩)
    · exact ⟨segments, segment, [], rfl, declares, by simp⟩
    · refine ⟨before, found, after ++ [segment], by simp, declares, ?_⟩
      intro later member
      rcases List.mem_append.mp member with inside | final
      · exact last later inside
      · rw [List.mem_singleton.mp final]
        exact silent

theorem exists_isLastDeclaration (member : segment ∈ segments)
    (declares : Declares segment name value) : ∃ given, IsLastDeclaration segments name given := by
  induction segments using List.reverseRecOn with
  | nil => cases member
  | append_singleton segments final ih =>
      by_cases again : ∃ given, Declares final name given
      · obtain ⟨given, declares⟩ := again
        exact ⟨given, isLastDeclaration_concat_iff.mpr (.inl declares)⟩
      · rw [not_exists] at again
        rcases List.mem_append.mp member with inside | same
        · obtain ⟨given, last⟩ := ih inside
          exact ⟨given, isLastDeclaration_concat_iff.mpr (.inr ⟨again, last⟩)⟩
        · rw [List.mem_singleton.mp same] at declares
          exact absurd declares (again value)

theorem IsDeclaredBefore.concat (before : IsDeclaredBefore segments name other)
    (segment : List Char) : IsDeclaredBefore (segments ++ [segment]) name other := by
  obtain ⟨front, begins, declared, apart⟩ := before
  exact ⟨front, begins.trans (List.prefix_append segments [segment]), declared, apart⟩

end

namespace IsReadFrom

variable {segments : List (List Char)} {style : Style} {segment : List Char} {name value : String}

theorem nil : IsReadFrom [] OrderedMap.empty where
  distinct := List.nodup_nil
  name _ member := by cases member
  value _ _ found := by cases found
  order := .nil
  last name value := by
    constructor
    · intro found
      cases found
    · rintro ⟨before, found, after, split, _⟩
      simp at split

variable (read : IsReadFrom segments style)

include read

theorem mem_keys_iff :
    name ∈ style.keys ↔ ∃ segment ∈ segments, ∃ value, Declares segment name value := by
  constructor
  · intro member
    obtain ⟨value, found⟩ := OrderedMap.mem_keys_iff.mp member
    obtain ⟨before, segment, after, rfl, declares, _⟩ := (read.last name value).mp found
    exact ⟨segment, by simp, value, declares⟩
  · rintro ⟨segment, member, value, declares⟩
    obtain ⟨given, last⟩ := exists_isLastDeclaration member declares
    exact OrderedMap.mem_keys_iff.mpr ⟨given, (read.last name given).mpr last⟩

theorem skip (malformed : IsMalformed segment) : IsReadFrom (segments ++ [segment]) style where
  distinct := read.distinct
  name := read.name
  value := read.value
  order := read.order.imp fun before => before.concat segment
  last name value := by
    rw [read.last, isLastDeclaration_concat_iff]
    simp [malformed.not_declares]

theorem order_insert (segment : List Char) (name value : String) :
    (style.insert name value).keys.Pairwise (IsDeclaredBefore (segments ++ [segment])) := by
  have kept : style.keys.Pairwise (IsDeclaredBefore (segments ++ [segment])) :=
    read.order.imp fun before => before.concat segment
  rw [OrderedMap.keys_insert]
  split
  · exact kept
  · rename_i fresh
    rw [List.pairwise_append]
    refine ⟨kept, List.pairwise_singleton _ _, ?_⟩
    intro first known second added
    rw [List.mem_singleton] at added
    subst second
    -- All segments so far are a front that does not declare the new name.
    refine ⟨segments, List.prefix_append _ _, read.mem_keys_iff.mp known, ?_⟩
    intro earlier member given declares
    exact fresh (read.mem_keys_iff.mpr ⟨earlier, member, given, declares⟩)

theorem declare (declares : Declares segment name value) (joined : ';' ∉ segment) :
    IsReadFrom (segments ++ [segment]) (style.insert name value) where
  distinct := (style.insert name value).distinct
  name asked member := by
    rw [OrderedMap.keys_insert] at member
    split at member
    · exact read.name asked member
    · rcases List.mem_append.mp member with known | added
      · exact read.name asked known
      · rw [List.mem_singleton.mp added]
        exact ⟨declares.isDeclaredName, declares.closed joined⟩
  value asked given found := by
    rw [OrderedMap.get?_insert] at found
    split at found
    · cases found
      exact declares.isWrittenValue joined
    · exact read.value asked given found
  order := read.order_insert segment name value
  last asked given := by
    rw [OrderedMap.get?_insert, isLastDeclaration_concat_iff]
    by_cases same : asked = name
    · subst asked
      rw [if_pos rfl, Option.some.injEq]
      constructor
      · rintro rfl
        exact .inl declares
      · rintro (again | ⟨silent, _⟩)
        · exact (declares.unique again).2.symm
        · exact absurd declares (silent value)
    · have silent : ∀ other, ¬Declares segment asked other :=
        fun other again => same (declares.unique again).1
      rw [if_neg same, read.last]
      simp [silent]

end IsReadFrom

theorem isReadFrom_ofList {segments : List (List Char)}
    (joined : ∀ segment ∈ segments, ';' ∉ segment) :
    IsReadFrom segments (OrderedMap.ofList (segments.filterMap declaration?)) := by
  induction segments using List.reverseRecOn with
  | nil => exact .nil
  | append_singleton segments segment ih =>
      have read := ih fun earlier member => joined earlier (List.mem_append_left _ member)
      have final := joined segment (by simp)
      rw [List.filterMap_append, OrderedMap.ofList_append]
      cases found : declaration? segment with
      | none =>
          have nothing : [segment].filterMap declaration? = [] := by simp [found]
          rw [nothing]
          exact read.skip (declaration?_eq_none_iff.mp found)
      | some entry =>
          have added : [segment].filterMap declaration? = [entry] := by simp [found]
          rw [added]
          exact read.declare (declaration?_eq_some_iff.mp found) final

theorem isReadFrom_parse (text : String) :
    IsReadFrom (Text.split (· == ';') text.toList) (parse text) := by
  apply isReadFrom_ofList
  intro segment member semicolon
  have joined := Text.joined_of_mem_split member semicolon
  simp at joined

theorem declarations_around (left right : List Char) :
    declarations (left ++ ';' :: right) = declarations left ++ declarations right := by
  rw [declarations, Text.split_around rfl, List.filterMap_append]
  rfl

theorem declarations_intercalate (pieces : List (List Char)) :
    declarations (List.intercalate [';'] pieces) = pieces.flatMap declarations := by
  induction pieces with
  | nil => rfl
  | cons piece pieces ih =>
      cases pieces with
      | nil => simp
      | cons second pieces =>
          rw [List.intercalate_cons_cons, List.append_assoc, List.singleton_append,
            declarations_around, ih]
          rfl

theorem declarations_of_isMalformed {segment : List Char} (joined : ';' ∉ segment)
    (malformed : IsMalformed segment) : declarations segment = [] := by
  have whole : Text.split (· == ';') segment = [segment] := by
    apply Text.split_of_joined
    rintro c member
    refine beq_eq_false_iff_ne.mpr ?_
    rintro rfl
    exact joined member
  simp [declarations, whole, declaration?_eq_none_iff.mpr malformed]

theorem parse_around (left right : String) :
    parse (left ++ ";" ++ right) = (parse left).insertAll (parse right).entries := by
  have text : (left ++ ";" ++ right).toList = left.toList ++ ';' :: right.toList := by simp
  rw [parse, text, declarations_around, OrderedMap.ofList_append, parse, parse,
    OrderedMap.insertAll_ofList]

theorem parse_intercalate (pieces : List String) :
    parse (";".intercalate pieces) =
      OrderedMap.ofList (pieces.flatMap fun piece => declarations piece.toList) := by
  have mark : ";".toList = [';'] := rfl
  rw [parse, String.toList_intercalate, mark, declarations_intercalate, List.flatMap_map]

/-- Joining texts adds up their styles, the segments of a text determine its style, and a malformed
segment makes no difference wherever it stands. -/
theorem parse_compositional :
    (∀ left right : String,
      parse (left ++ ";" ++ right) = (parse left).insertAll (parse right).entries) ∧
    (∀ text : String, IsReadFrom (Text.split (· == ';') text.toList) (parse text)) ∧
    ∀ (before after : List String) (segment : String), ';' ∉ segment.toList →
      IsMalformed segment.toList →
        parse (";".intercalate (before ++ segment :: after)) =
          parse (";".intercalate (before ++ after)) := by
  refine ⟨parse_around, isReadFrom_parse, ?_⟩
  intro before after segment joined malformed
  rw [parse_intercalate, parse_intercalate, List.flatMap_append, List.flatMap_cons,
    declarations_of_isMalformed joined malformed, List.nil_append, ← List.flatMap_append]

theorem parse_compositional_blank :
    IsMalformed " fill : ".toList ∧
      parse (";".intercalate ["fill-rule: a", " fill : ", "fillRule:b:c", "x:1"]) =
        parse (";".intercalate ["fill-rule: a", "fillRule:b:c", "x:1"]) ∧
      (parse "fill-rule: a; fill : ;fillRule:b:c;x:1").entries = [("fillRule", "b:c"), ("x", "1")] := by
  have malformed : IsMalformed " fill : ".toList :=
    @IsMalformed.value " fill ".toList [' '] (by decide) (List.all_eq_true.mp (by decide))
  obtain ⟨_, _, skipped⟩ := parse_compositional
  have same := skipped ["fill-rule: a"] ["fillRule:b:c", "x:1"] " fill : " (by decide) malformed
  exact ⟨malformed, same, by decide +kernel⟩

end VectorIcon.Style
