import VectorIcon.Component.Layout
import VectorIcon.Proofs.Component.Parsing
import VectorIcon.Proofs.Component.Readable
import VectorIcon.Proofs.OrderedMap
import VectorIcon.Proofs.Text.Trimmed

/-!
The parts of a start tag as they are written: quotes, keys, style objects and properties. Each is
read back whatever stands behind it.
-/

namespace VectorIcon.Component

theorem isBlank_of_isWhite {c : Char} (white : Parser.isWhite c = true) :
    Text.isBlank c = true := by
  simp only [Parser.isWhite, Bool.or_eq_true, beq_iff_eq] at white
  rcases white with ((rfl | rfl) | rfl) | rfl <;> decide

theorem stops_of_mem_ne {mark : Char} {text : List Char} (absent : mark ∉ text) :
    text.all (· != mark) = true := by
  simp only [List.all_eq_true, bne_iff_ne]
  rintro c member rfl
  exact absent member

theorem isWhite_eq_false_of_isNameChar {c : Char} (accepted : isNameChar c = true) :
    Parser.isWhite c = false := by
  refine Bool.eq_false_iff.mpr fun white => ?_
  simp only [Parser.isWhite, Bool.or_eq_true, beq_iff_eq] at white
  rcases white with ((rfl | rfl) | rfl) | rfl <;> simp [isNameChar] at accepted

theorem IsName.stops_white {name : List Char} (named : IsName name) (rest : List Char) :
    Text.stops Parser.isWhite (name ++ rest) = true :=
  Text.stops_append named.nonempty named.accepted (fun _ => isWhite_eq_false_of_isNameChar) rest

theorem IsStyleName.stops_white {name : List Char} (named : IsStyleName name)
    (rest : List Char) : Text.stops Parser.isWhite (name ++ rest) = true := by
  cases name with
  | nil => exact absurd rfl named.nonempty
  | cons c name =>
      have front := ((Text.trim_eq_self_iff _).mp named.trimmed).1
      simp only [List.cons_append, Text.stops_cons, Bool.not_eq_true']
      refine Bool.eq_false_iff.mpr fun white => ?_
      simp [isBlank_of_isWhite white] at front

theorem IsProperty.isName {entry : String × PropertyValue} (readable : IsProperty entry) :
    IsName entry.1.toList := by
  cases readable with
  | text named _ => exact named
  | style _ =>
      change IsName "style".toList
      exact ⟨by decide, by decide⟩

namespace Parser

theorem run_between (outer inner : Rule) {mark : Char} {text : List Char} (absent : mark ∉ text)
    (rest : List Char) (offset : Nat) :
    run (between outer inner mark) ⟨mark :: (text ++ mark :: rest), offset⟩ =
      some (String.ofList text,
        ⟨rest, offset + Text.byteLength (mark :: (text ++ [mark]))⟩) := by
  have single : mark.toString.toList = [mark] := by simp
  have opened := run_literal mark.toString (text ++ mark :: rest)
  have inside := run_takeWhile (mark :: rest) (stops_of_mem_ne absent) (by simp)
  have closed := run_literal mark.toString rest
  simp only [single, List.singleton_append] at opened closed
  simp only [between, run_rule, run_bind, opened, Option.bind_some, inside, closed, run_pure]
  simp [Nat.add_assoc]

def keyText (key : List Char) : List Char :=
  "key".toList ++ ("=\x7b".toList ++ (key ++ "\x7d".toList))

theorem run_keyAttribute {key : List Char} (nonempty : key ≠ [])
    (digits : key.all Char.isDigit = true) (rest : List Char) (offset : Nat) :
    run keyAttribute ⟨keyText key ++ rest, offset⟩ =
      some (⟨String.ofList key, ⟨offset, Text.byteLength (keyText key)⟩⟩,
        ⟨rest, offset + Text.byteLength (keyText key)⟩) := by
  have opened (rest : List Char) (offset : Nat) :
      run (tokens ["=", "\x7b"]) ⟨"=\x7b".toList ++ rest, offset⟩ =
        some ((), ⟨rest, offset + Text.byteLength "=\x7b".toList⟩) :=
    run_tokens [⟨[], "="⟩, ⟨[], "\x7b"⟩] (by decide) rest offset
  have closed (offset : Nat) :
      run (token "\x7d") ⟨"\x7d".toList ++ rest, offset⟩ =
        some ((), ⟨rest, offset + Text.byteLength "\x7d".toList⟩) :=
    run_token ⟨[], "\x7d"⟩ (by decide) rest offset
  have solid : Text.stops isWhite (key ++ ("\x7d".toList ++ rest)) = true := by
    cases key with
    | nil => exact absurd rfl nonempty
    | cons c key =>
        simp only [List.all_cons, Bool.and_eq_true] at digits
        have named : isNameChar c = true := by
          simp [isNameChar, Char.isAlphanum, digits.1]
        simp [isWhite_eq_false_of_isNameChar named]
  have taken := run_takeSome ("\x7d".toList ++ rest) nonempty digits rfl
  simp only [keyAttribute, keyIndex, keyText, List.append_assoc, run_bind, run_rule, run_located,
    run_literal, opened, closed, run_spaced_solid _ solid, taken, Option.bind_some, run_pure,
    Option.map_some, Cursor.spanTo]
  simp [Nat.add_assoc]

theorem run_plainAttribute {name text : String} (named : IsName name.toList)
    (unquoted : '"' ∉ text.toList) (rest : List Char) (offset : Nat) :
    run plainAttribute ⟨Component.property (name, .text text) ++ rest, offset⟩ =
      some ((name, .text text),
        ⟨rest, offset + Text.byteLength (Component.property (name, .text text))⟩) := by
  have equals (rest : List Char) (offset : Nat) :
      run (token "=") ⟨'=' :: rest, offset⟩ = some ((), ⟨rest, offset + '='.utf8Size⟩) :=
    run_token ⟨[], "="⟩ (by decide) rest offset
  have value := run_between .attrValue .quoted unquoted rest
  have solid : Text.stops isWhite ('"' :: (text.toList ++ '"' :: rest)) = true := rfl
  have taken := run_takeSome ('=' :: '"' :: (text.toList ++ '"' :: rest))
    named.nonempty named.accepted rfl
  simp only [plainAttribute, Component.property, List.append_assoc, List.cons_append,
    List.nil_append, run_rule, run_bind, taken, Option.bind_some, equals,
    run_spaced_solid _ solid, value, run_pure, String.ofList_toList]
  simp [Nat.add_assoc, Nat.add_comm, Nat.add_left_comm]

theorem run_styleEntry {entry : String × String} (readable : IsStyleEntry entry)
    (rest : List Char) (offset : Nat) :
    run styleEntry ⟨Component.styleEntry entry ++ rest, offset⟩ =
      some (entry, ⟨rest, offset + Text.byteLength (Component.styleEntry entry)⟩) := by
  obtain ⟨name, value⟩ := entry
  have colon (rest : List Char) (offset : Nat) :
      run (token ":") ⟨':' :: rest, offset⟩ = some ((), ⟨rest, offset + ':'.utf8Size⟩) :=
    run_token ⟨[], ":"⟩ (by decide) rest offset
  have taken := run_takeSome (':' :: ' ' :: '\'' :: (value.toList ++ '\'' :: rest))
    readable.name.nonempty readable.name.accepted rfl
  have quoted := run_between .styleValue .styleText readable.value rest
  have gap (offset : Nat) :
      run (spaced (between .styleValue .styleText '\''))
          ⟨' ' :: '\'' :: (value.toList ++ '\'' :: rest), offset⟩ =
        run (between .styleValue .styleText '\'')
          ⟨'\'' :: (value.toList ++ '\'' :: rest), offset + ' '.utf8Size⟩ :=
    run_spaced _ [' '] rfl rfl offset
  have spelled : Component.styleEntry (name, value) ++ rest =
      name.toList ++ ':' :: ' ' :: '\'' :: (value.toList ++ '\'' :: rest) := by
    simp [Component.styleEntry]
  rw [spelled]
  simp only [styleEntry, run_rule, run_bind, taken, Option.bind_some, colon, gap, quoted, run_pure,
    readable.name.trimmed, String.ofList_toList]
  simp [Component.styleEntry, Nat.add_assoc, Nat.add_comm, Nat.add_left_comm]

theorem run_repeated_styleEntry {entries : List (String × String)}
    (readable : ∀ entry ∈ entries, IsStyleEntry entry) {bound : Nat}
    (room : entries.length ≤ bound) {rest : List Char}
    (stop : ∀ offset, run (spaced (do literal ","; spaced styleEntry)) ⟨rest, offset⟩ = none)
    (offset : Nat) :
    run (repeated (do literal ","; spaced styleEntry) bound)
        ⟨entries.flatMap (fun entry => ", ".toList ++ Component.styleEntry entry) ++ rest,
          offset⟩ =
      some (entries, ⟨rest, offset + Text.byteLength
        (entries.flatMap fun entry => ", ".toList ++ Component.styleEntry entry)⟩) := by
  induction entries generalizing bound offset with
  | nil => simpa using run_repeated_none (stop offset) bound
  | cons entry entries ih =>
      obtain ⟨bound, rfl⟩ : ∃ smaller, bound = smaller + 1 :=
        ⟨bound - 1, by simp only [List.length_cons] at room; omega⟩
      simp only [List.length_cons, Nat.add_le_add_iff_right] at room
      have first := readable entry (by simp)
      have others := ih (fun other member => readable other (by simp [member])) room
      let behind := entries.flatMap (fun entry => ", ".toList ++ Component.styleEntry entry) ++ rest
      have comma : run (literal ",") ⟨',' :: ' ' :: (Component.styleEntry entry ++ behind), offset⟩ =
          some ((), ⟨' ' :: (Component.styleEntry entry ++ behind), offset + ','.utf8Size⟩) :=
        run_literal "," _ offset
      have solid : Text.stops isWhite (Component.styleEntry entry ++ behind) = true := by
        simp only [Component.styleEntry, List.append_assoc]
        exact first.name.stops_white _
      have gap (offset : Nat) : run (spaced styleEntry)
          ⟨' ' :: (Component.styleEntry entry ++ behind), offset⟩ =
            run styleEntry ⟨Component.styleEntry entry ++ behind, offset + ' '.utf8Size⟩ :=
        run_spaced _ [' '] rfl solid offset
      have taken : run (spaced (do literal ","; spaced styleEntry))
          ⟨',' :: ' ' :: (Component.styleEntry entry ++ behind), offset⟩ = some (entry,
            ⟨behind, offset + Text.byteLength (", ".toList ++ Component.styleEntry entry)⟩) := by
        rw [run_spaced_solid _ rfl]
        simp [comma, gap, run_styleEntry first, Nat.add_assoc, Nat.add_comm, Nat.add_left_comm]
      have all := run_repeated_cons taken (others _)
      simpa [behind, Nat.add_assoc] using all

/-- Where a mark stands no style entry begins. -/
theorem run_spaced_styleEntry_none {gap : List Char} (white : gap.all isWhite = true)
    {mark : Char} (solid : isWhite mark = false) (other : isStyleNameChar mark = false)
    (rest : List Char) (offset : Nat) :
    run (spaced styleEntry) ⟨gap ++ mark :: rest, offset⟩ = none := by
  have missing (offset : Nat) : run (takeSome isStyleNameChar) ⟨mark :: rest, offset⟩ = none :=
    run_takeSome_none (by simpa using other) offset
  rw [run_spaced styleEntry gap white (by simpa using solid)]
  simp [styleEntry, missing]

theorem run_styleEntries_cons {entry : String × String} {entries : List (String × String)}
    (readable : ∀ other ∈ entry :: entries, IsStyleEntry other) {bound : Nat}
    (room : entries.length ≤ bound) {rest : List Char}
    (stop : ∀ offset, run (spaced (do literal ","; spaced styleEntry)) ⟨rest, offset⟩ = none)
    (offset : Nat) :
    run (styleEntries bound)
        ⟨' ' :: (List.intercalate ", ".toList ((entry :: entries).map Component.styleEntry) ++ rest),
          offset⟩ =
      some (entry :: entries, ⟨rest, offset + Text.byteLength
        (' ' :: List.intercalate ", ".toList ((entry :: entries).map Component.styleEntry))⟩) := by
  have first := readable entry (by simp)
  have others := run_repeated_styleEntry
    (fun other member => readable other (by simp [member])) room stop
  let more := entries.flatMap fun entry => ", ".toList ++ Component.styleEntry entry
  have spelled : List.intercalate ", ".toList ((entry :: entries).map Component.styleEntry) =
      Component.styleEntry entry ++ more := by
    simp [Text.intercalate_cons, List.flatMap_map, more]
  have solid : Text.stops isWhite (Component.styleEntry entry ++ (more ++ rest)) = true := by
    simp only [Component.styleEntry, List.append_assoc]
    exact first.name.stops_white _
  have gap : run (spaced styleEntry)
      ⟨' ' :: (Component.styleEntry entry ++ (more ++ rest)), offset⟩ =
        run styleEntry ⟨Component.styleEntry entry ++ (more ++ rest), offset + ' '.utf8Size⟩ :=
    run_spaced _ [' '] rfl solid offset
  rw [spelled]
  simp only [List.append_assoc, styleEntries, run_orElse, run_bind, gap, run_styleEntry first,
    Option.bind_some, others, run_pure, Option.some_or, more]
  simp [Nat.add_assoc]

theorem run_styleEntries {entries : List (String × String)}
    (readable : ∀ entry ∈ entries, IsStyleEntry entry) {bound : Nat}
    (room : entries.length ≤ bound) (rest : List Char) (offset : Nat) :
    ∃ taken gap, ' ' :: (List.intercalate ", ".toList (entries.map Component.styleEntry) ++ [' ']) =
        taken ++ gap ∧ gap.all isWhite = true ∧
      run (styleEntries bound) ⟨taken ++ (gap ++ '\x7d' :: rest), offset⟩ =
        some (entries, ⟨gap ++ '\x7d' :: rest, offset + Text.byteLength taken⟩) := by
  cases entries with
  | nil =>
      refine ⟨[], [' ', ' '], rfl, rfl, ?_⟩
      have refused : run (spaced styleEntry) ⟨' ' :: ' ' :: '\x7d' :: rest, offset⟩ = none :=
        run_spaced_styleEntry_none (show [' ', ' '].all isWhite = true from rfl) rfl rfl rest offset
      simp [styleEntries, refused]
  | cons entry entries =>
      let inside := ' ' :: List.intercalate ", ".toList ((entry :: entries).map Component.styleEntry)
      refine ⟨inside, [' '], rfl, rfl, ?_⟩
      have stop (offset : Nat) : run (spaced (do literal ","; spaced styleEntry))
          ⟨[' '] ++ '\x7d' :: rest, offset⟩ = none := by
        have missing (offset : Nat) : run (literal ",") ⟨'\x7d' :: rest, offset⟩ = none :=
          run_literal_none "," rfl offset
        rw [run_spaced _ [' '] rfl rfl]
        simp [missing]
      exact run_styleEntries_cons readable (Nat.le_trans (Nat.le_succ _) room) stop offset

theorem run_styleAttribute {style : Style} (readable : ∀ entry ∈ style.entries, IsStyleEntry entry)
    {bound : Nat} (room : style.entries.length ≤ bound) (rest : List Char) (offset : Nat) :
    run (styleAttribute bound) ⟨Component.property ("style", .style style) ++ rest, offset⟩ =
      some (("style", .style style),
        ⟨rest, offset + Text.byteLength (Component.property ("style", .style style))⟩) := by
  have opened (rest : List Char) (offset : Nat) :
      run (tokens ["=", "\x7b\x7b"]) ⟨"=\x7b\x7b".toList ++ rest, offset⟩ =
        some ((), ⟨rest, offset + Text.byteLength "=\x7b\x7b".toList⟩) :=
    run_tokens [⟨[], "="⟩, ⟨[], "\x7b\x7b"⟩] (by decide) rest offset
  obtain ⟨taken, gap, split, white, entries⟩ := run_styleEntries readable room ('\x7d' :: rest)
    (offset + Text.byteLength "style".toList + Text.byteLength "=\x7b\x7b".toList)
  have closed (offset : Nat) :
      run (token "\x7d\x7d") ⟨gap ++ '\x7d' :: '\x7d' :: rest, offset⟩ =
        some ((), ⟨rest, offset + Text.byteLength (gap ++ "\x7d\x7d".toList)⟩) := by
    have valid : Spread.valid ⟨gap, "\x7d\x7d"⟩ = true := by
      simpa [Spread.valid, isWhite] using white
    simpa [Spread.text] using run_token ⟨gap, "\x7d\x7d"⟩ valid rest offset
  have spelled : Component.property ("style", .style style) =
      "style".toList ++ ("=\x7b\x7b".toList ++ (taken ++ (gap ++ ['\x7d', '\x7d']))) := by
    simp only [Component.property, styleObject, split]
    simp [braced, openBrace, closeBrace]
  rw [spelled]
  simp only [styleAttribute, List.append_assoc, List.cons_append, List.nil_append, run_rule,
    run_bind, run_literal, Option.bind_some, opened, entries, closed, run_pure,
    OrderedMap.ofList_entries]
  simp [Nat.add_assoc]

theorem run_styleAttribute_none {name : List Char} (named : IsName name) (bound : Nat)
    (rest : List Char) (offset : Nat) :
    run (styleAttribute bound) ⟨name ++ '=' :: '"' :: rest, offset⟩ = none := by
  by_cases styled : "style".toList.isPrefixOf (name ++ '=' :: '"' :: rest) = true
  · obtain ⟨more, rfl⟩ := Text.front_of_not_mem (by decide)
      (List.isPrefixOf_iff_prefix.mp styled)
    cases more with
    | nil =>
        have equals (offset : Nat) : run (token "=") ⟨'=' :: '"' :: rest, offset⟩ =
            some ((), ⟨'"' :: rest, offset + '='.utf8Size⟩) :=
          run_token ⟨[], "="⟩ (by decide) _ offset
        have missing (offset : Nat) : run (token "\x7b\x7b") ⟨'"' :: rest, offset⟩ = none := by
          rw [token, run_spaced_solid _ rfl]
          exact run_literal_none _ rfl offset
        simp only [styleAttribute, tokens, List.append_nil, run_rule, run_bind, run_literal,
          Option.bind_some, equals, missing, Option.bind_none]
    | cons c more =>
        have accepted : isNameChar c = true := by
          have all := named.accepted
          simp only [List.all_append, List.all_cons, Bool.and_eq_true] at all
          exact all.2.1
        have missing (offset : Nat) :
            run (token "=") ⟨c :: (more ++ '=' :: '"' :: rest), offset⟩ = none := by
          rw [token, run_spaced_solid _ (by simp [isWhite_eq_false_of_isNameChar accepted])]
          have other : c ≠ '=' := by
            rintro rfl
            exact absurd accepted (by decide)
          have unlike : "=".toList.isPrefixOf (c :: (more ++ '=' :: '"' :: rest)) = false := by
            simpa [List.isPrefixOf] using other.symm
          exact run_literal_none _ unlike offset
        simp only [styleAttribute, tokens, List.append_assoc, List.cons_append, run_rule, run_bind,
          run_literal, Option.bind_some, missing, Option.bind_none]
  · have missing := run_literal_none "style" (Bool.eq_false_iff.mpr styled) offset
    simp [styleAttribute, missing]

theorem length_entries_le (style : Style) :
    style.entries.length ≤ (Component.property ("style", .style style)).length := by
  have nonempty : ∀ piece ∈ style.entries.map Component.styleEntry, piece ≠ [] := by
    intro piece member
    obtain ⟨entry, _, rfl⟩ := List.mem_map.mp member
    simp [Component.styleEntry]
  have pieces := Text.length_le_intercalate ", ".toList nonempty
  simp only [List.length_map] at pieces
  simp only [Component.property, styleObject, braced, List.length_append, List.length_cons,
    List.length_nil]
  omega

theorem run_property {entry : String × PropertyValue} (readable : IsProperty entry) {bound : Nat}
    (room : (Component.property entry).length ≤ bound) (rest : List Char) (offset : Nat) :
    run (property bound) ⟨Component.property entry ++ rest, offset⟩ =
      some (entry, ⟨rest, offset + Text.byteLength (Component.property entry)⟩) := by
  cases readable with
  | @text name text named unquoted =>
      have other : run (styleAttribute bound)
          ⟨Component.property (name, .text text) ++ rest, offset⟩ = none := by
        simpa [Component.property] using
          run_styleAttribute_none named bound (text.toList ++ '"' :: rest) offset
      simp only [property, run_orElse, other, run_plainAttribute named unquoted, Option.none_or]
  | @style style entries =>
      have fits := Nat.le_trans (length_entries_le style) room
      simp only [property, run_orElse, run_styleAttribute entries fits, Option.some_or]

theorem run_spaced_property_none (bound : Nat) {gap : List Char} (white : gap.all isWhite = true)
    {mark : Char} (solid : isWhite mark = false) (other : isNameChar mark = false)
    (rest : List Char) (offset : Nat) :
    run (spaced (property bound)) ⟨gap ++ mark :: rest, offset⟩ = none := by
  have unlike : mark ≠ 's' := by
    rintro rfl
    exact absurd other (by decide)
  have style (offset : Nat) : run (literal "style") ⟨mark :: rest, offset⟩ = none := by
    have refused : "style".toList.isPrefixOf (mark :: rest) = false := by
      simp [List.isPrefixOf, unlike.symm]
    exact run_literal_none _ refused offset
  have name (offset : Nat) : run (takeSome isNameChar) ⟨mark :: rest, offset⟩ = none :=
    run_takeSome_none (by simpa using other) offset
  rw [run_spaced (property bound) gap white (by simpa using solid)]
  simp [property, styleAttribute, plainAttribute, style, name]

end Parser

def propertiesText (entries : List (String × PropertyValue)) : List Char :=
  List.intercalate [' '] (entries.map property)

theorem property_ne_nil (entry : String × PropertyValue) : property entry ≠ [] := by
  simp [property]

theorem cons_propertiesText {entries : List (String × PropertyValue)} (nonempty : entries ≠ []) :
    ' ' :: propertiesText entries = entries.flatMap fun entry => ' ' :: property entry := by
  cases entries with
  | nil => exact absurd rfl nonempty
  | cons entry entries => simp [propertiesText, Text.intercalate_cons, List.flatMap_map]

theorem length_le_propertiesText (entries : List (String × PropertyValue)) :
    entries.length ≤ (propertiesText entries).length := by
  have pieces : ∀ piece ∈ entries.map property, piece ≠ [] := by
    intro piece member
    obtain ⟨entry, _, rfl⟩ := List.mem_map.mp member
    exact property_ne_nil entry
  simpa [propertiesText] using Text.length_le_intercalate [' '] pieces

namespace Parser

theorem run_repeated_property {entries : List (String × PropertyValue)}
    (readable : ∀ entry ∈ entries, IsProperty entry) {bound count : Nat}
    (room : (entries.flatMap fun entry => ' ' :: Component.property entry).length ≤ bound)
    (enough : entries.length ≤ count) {rest : List Char}
    (stop : ∀ offset, run (spaced (property bound)) ⟨rest, offset⟩ = none) (offset : Nat) :
    run (repeated (property bound) count)
        ⟨entries.flatMap (fun entry => ' ' :: Component.property entry) ++ rest, offset⟩ =
      some (entries, ⟨rest, offset +
        Text.byteLength (entries.flatMap fun entry => ' ' :: Component.property entry)⟩) := by
  induction entries generalizing count offset with
  | nil => exact run_repeated_none (stop offset) count
  | cons entry entries ih =>
      obtain ⟨count, rfl⟩ : ∃ smaller, count = smaller + 1 :=
        ⟨count - 1, by simp only [List.length_cons] at enough; omega⟩
      simp only [List.length_cons, Nat.add_le_add_iff_right] at enough
      simp only [List.flatMap_cons, List.length_append, List.length_cons] at room
      have first := readable entry (by simp)
      have others := ih (fun other member => readable other (by simp [member]))
        (by omega) enough
      let behind := entries.flatMap (fun entry => ' ' :: Component.property entry) ++ rest
      have begins : Text.stops isWhite (Component.property entry ++ behind) = true := by
        simp only [Component.property, List.append_assoc]
        exact first.isName.stops_white _
      have taken : run (spaced (property bound))
          ⟨' ' :: (Component.property entry ++ behind), offset⟩ =
            some (entry, ⟨behind, offset + ' '.utf8Size +
              Text.byteLength (Component.property entry)⟩) := by
        have read : run (property bound)
            ⟨Component.property entry ++ behind, offset + ' '.utf8Size⟩ = _ :=
          run_property first (by omega) behind _
        rw [← read]
        exact run_spaced _ [' '] rfl begins offset
      have all := run_repeated_cons taken (others _)
      simpa [behind, Nat.add_assoc] using all

variable {mark : Char}

/-- Without properties the space that stands for them is left in front of the end of the tag. -/
theorem run_properties {entries : List (String × PropertyValue)}
    (readable : ∀ entry ∈ entries, IsProperty entry) {bound : Nat} {gap : List Char}
    (white : gap.all isWhite = true) (solid : isWhite mark = false)
    (other : isNameChar mark = false) (room : (propertiesText entries).length < bound) :
    ∃ taken left, ' ' :: (propertiesText entries ++ gap) = taken ++ left ∧
      left.all isWhite = true ∧ ∀ rest offset,
        run (repeated (property bound) bound) ⟨taken ++ (left ++ mark :: rest), offset⟩ =
          some (entries, ⟨left ++ mark :: rest, offset + Text.byteLength taken⟩) := by
  cases entries with
  | nil =>
      have leftWhite : (' ' :: gap).all isWhite = true := by simpa [isWhite] using white
      refine ⟨[], ' ' :: gap, by simp [propertiesText], leftWhite, fun rest offset => ?_⟩
      exact run_repeated_none
        (run_spaced_property_none bound leftWhite solid other rest offset) bound
  | cons entry entries =>
      have spelled := cons_propertiesText (List.cons_ne_nil entry entries)
      have fits := congrArg List.length spelled
      have count := length_le_propertiesText (entry :: entries)
      simp only [List.length_cons] at fits
      refine ⟨' ' :: propertiesText (entry :: entries), gap, by simp, white, fun rest offset => ?_⟩
      rw [spelled]
      refine run_repeated_property readable (by omega) ?_ ?_ offset
      · exact Nat.le_trans count (Nat.le_of_lt room)
      · exact run_spaced_property_none bound white solid other rest

end Parser

end VectorIcon.Component
