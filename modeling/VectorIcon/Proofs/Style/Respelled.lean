import VectorIcon.Proofs.Style.Segments

/-!
CSS text of a style that has been read. It gives back the style, with a capital in front of each vendor
name that starts with `ms`, and so it is the CSS text of what it gives back.
-/

namespace VectorIcon.Style

def vendorName (name : List Char) : List Char :=
  if isBeforeUpper ['m', 's'] name then 'M' :: name.drop 1 else name

theorem exists_of_isBeforeUpper {name : List Char} (vendor : isBeforeUpper ['m', 's'] name = true) :
    ∃ rest, name = 'm' :: 's' :: rest ∧ startsUpper rest = true := by
  simp only [isBeforeUpper, Bool.and_eq_true, List.isPrefixOf_iff_prefix] at vendor
  obtain ⟨⟨rest, rfl⟩, upper⟩ := vendor
  exact ⟨rest, rfl, upper⟩

theorem cssName_eq_hyphenate_vendorName (name : List Char) :
    cssName name = hyphenate (vendorName name) := by
  unfold vendorName
  split
  · rename_i vendor
    obtain ⟨rest, rfl, upper⟩ := exists_of_isBeforeUpper vendor
    have capital : ('M' : Char).isUpper = true := by decide
    have small : ('s' : Char).isUpper = false := by decide
    simp only [cssName, Text.dropLeading, if_true, upper, List.drop_succ_cons, List.drop_zero,
      hyphenate_cons_of_isUpper capital, hyphenate_cons_of_not_isUpper small]
    rfl
  · rename_i plain
    unfold cssName
    split
    · rename_i rest found
      rw [startsUpper_of_dropLeading (by simpa using plain) found]
      rfl
    · rfl

theorem trim_vendorName {name : List Char} (trimmed : Text.trim name = name) :
    Text.trim (vendorName name) = vendorName name := by
  unfold vendorName
  split
  · rename_i vendor
    obtain ⟨rest, rfl, _⟩ := exists_of_isBeforeUpper vendor
    have back := ((Text.trim_eq_self_iff _).mp trimmed).2
    have front : Text.isBlank 'M' = false := by decide
    refine Text.trim_of_stops (by simp [front]) ?_
    rw [List.drop_one, List.tail_cons]
    rwa [Text.stops_reverse_cons _ _ (List.cons_ne_nil _ _)] at back ⊢
  · exact trimmed

theorem mem_of_mem_vendorName {c : Char} {name : List Char} (member : c ∈ vendorName name) :
    c = 'M' ∨ c ∈ name := by
  unfold vendorName at member
  split at member
  · exact (List.mem_cons.mp member).imp_right List.mem_of_mem_drop
  · exact .inr member

theorem isUnhyphenated_vendorName {name : List Char} (plain : isUnhyphenated name = true) :
    isUnhyphenated (vendorName name) = true := by
  unfold vendorName
  split
  · rename_i vendor
    obtain ⟨rest, rfl, _⟩ := exists_of_isBeforeUpper vendor
    exact isUnhyphenated_of_isUpper (by decide) (isUnhyphenated_cons plain)
  · exact plain

theorem isBeforeUpper_vendorName (name : List Char) :
    isBeforeUpper ['m', 's'] (vendorName name) = false := by
  unfold vendorName
  split
  · rfl
  · rename_i plain
    simpa using plain

section

variable {segment : List Char} {name value : String} (declares : Declares segment name value)
  (joined : ';' ∉ segment)

include declares joined

theorem Declares.isWrittenName_vendorName : IsWrittenName (vendorName name.toList) where
  nonempty := by
    unfold vendorName
    split
    · exact List.cons_ne_nil _ _
    · exact declares.isDeclaredName.nonempty
  trimmed := trim_vendorName declares.isDeclaredName.trimmed
  plain member := by
    rcases mem_of_mem_vendorName member with capital | inside
    · exact absurd capital (by decide)
    · exact declares.isDeclaredName.plain inside
  closed member := by
    rcases mem_of_mem_vendorName member with capital | inside
    · exact absurd capital (by decide)
    · exact declares.closed joined inside
  unhyphenated := isUnhyphenated_vendorName declares.isUnhyphenated
  unprefixed := isBeforeUpper_vendorName name.toList

end

def respelledEntry (entry : String × String) : String × String :=
  (String.ofList (vendorName entry.1.toList), entry.2)

/-- The style as CSS text gives it back, when no two names are written alike. -/
def respelled (style : Style) (apart : (style.keys.map fun name => cssName name.toList).Nodup) :
    Style where
  entries := style.entries.map respelledEntry
  distinct := by
    have names : ((style.entries.map respelledEntry).map Prod.fst).map
        (fun name => hyphenate name.toList) = style.keys.map fun name => cssName name.toList := by
      simp [OrderedMap.keys, respelledEntry, cssName_eq_hyphenate_vendorName]
    rw [← names] at apart
    refine List.Pairwise.of_map _ ?_ apart
    intro name other differ same
    exact differ (by rw [same])

theorem cssDeclaration_respelledEntry {segment : List Char} {entry : String × String}
    (declares : Declares segment entry.1 entry.2) (joined : ';' ∉ segment) :
    cssDeclaration (respelledEntry entry) = cssDeclaration entry := by
  have written := declares.isWrittenName_vendorName joined
  simp only [cssDeclaration, respelledEntry, String.toList_ofList, cssName_eq_hyphenate written,
    cssName_eq_hyphenate_vendorName entry.1.toList]

section

variable {text : String}

theorem isWritten_parse (apart : ∀ name ∈ (parse text).keys,
    isBeforeUpper ['m', 's'] name.toList = false) : (parse text).IsWritten := by
  intro entry member
  obtain ⟨segment, joined, declares⟩ := exists_declares_of_mem_parse member
  refine ⟨?_, declares.isWrittenValue joined⟩
  have written := declares.isWrittenName_vendorName joined
  have plain := apart entry.1 (List.mem_map_of_mem member)
  rwa [vendorName, plain, if_neg Bool.false_ne_true] at written

variable (apart : ((parse text).keys.map fun name => cssName name.toList).Nodup)

theorem isWritten_respelled : (respelled (parse text) apart).IsWritten := by
  intro entry member
  obtain ⟨read, inside, rfl⟩ := List.mem_map.mp member
  obtain ⟨segment, joined, declares⟩ := exists_declares_of_mem_parse inside
  refine ⟨?_, declares.isWrittenValue joined⟩
  rw [respelledEntry, String.toList_ofList]
  exact declares.isWrittenName_vendorName joined

theorem cssText_respelled : (respelled (parse text) apart).cssText = (parse text).cssText := by
  have same : ((parse text).entries.map respelledEntry).map cssDeclaration =
      (parse text).entries.map cssDeclaration := by
    rw [List.map_map]
    apply List.map_congr_left
    intro entry member
    obtain ⟨segment, joined, declares⟩ := exists_declares_of_mem_parse member
    exact cssDeclaration_respelledEntry declares joined
  rw [cssText, respelled, same, cssText]

theorem parse_cssText_parse :
    parse (String.ofList (parse text).cssText) = respelled (parse text) apart := by
  rw [← cssText_respelled apart]
  exact parse_cssText (isWritten_respelled apart)

end

/-- A style without vendor names comes back from its CSS text, and one whose names are written apart
comes back with the same CSS text. -/
theorem cssText_comes_back (text : String) :
    ((∀ name ∈ (parse text).keys, isBeforeUpper ['m', 's'] name.toList = false) →
      parse (String.ofList (parse text).cssText) = parse text) ∧
    (((parse text).keys.map fun name => cssName name.toList).Nodup →
      (parse (String.ofList (parse text).cssText)).cssText = (parse text).cssText) := by
  constructor
  · intro apart
    exact parse_cssText (isWritten_parse apart)
  · intro apart
    rw [parse_cssText_parse apart, cssText_respelled]

theorem cssText_comes_back_vendor :
    parse "--a-b:url(x:y); Fill:1" = OrderedMap.ofList [("-AB", "url(x:y)"), ("Fill", "1")] ∧
      parse "--a-b:url(x:y);-fill:1" = parse "--a-b:url(x:y); Fill:1" ∧
      (parse "msTransform:none;-ms-flex:1").cssText = "-ms-transform:none;-ms-flex:1".toList ∧
      (parse "-ms-transform:none;-ms-flex:1").cssText = "-ms-transform:none;-ms-flex:1".toList := by
  obtain ⟨back, _⟩ := cssText_comes_back "--a-b:url(x:y); Fill:1"
  have plain := back (by decide +kernel)
  obtain ⟨_, again⟩ := cssText_comes_back "msTransform:none;-ms-flex:1"
  have vendor := again (by decide +kernel)
  have plainText : (parse "--a-b:url(x:y); Fill:1").cssText = "--a-b:url(x:y);-fill:1".toList := by
    decide +kernel
  have vendorText : (parse "msTransform:none;-ms-flex:1").cssText =
      "-ms-transform:none;-ms-flex:1".toList := by
    decide +kernel
  rw [plainText, String.ofList_toList] at plain
  rw [vendorText, String.ofList_toList] at vendor
  exact ⟨by decide +kernel, plain, vendorText, vendor⟩

end VectorIcon.Style
