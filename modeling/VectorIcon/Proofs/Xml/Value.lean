import VectorIcon.Proofs.Text.Escape
import VectorIcon.Proofs.Xml.Reading

/-!
Escaped attribute values. The reader gives the text that was escaped, with a space for each line
end and each tab, and counts no reference.
-/

namespace VectorIcon

namespace Text

theorem escapeChar_escaped {c : Char} (escaped : isEscaped c = true) :
    ∃ name, escapeChar c = '&' :: (name ++ [';']) ∧ Xml.predefined name = some c ∧
      Xml.QualifiedName.startsName name = true ∧ name.all Xml.isNameChar = true := by
  simp only [isEscaped, Bool.or_eq_true, beq_iff_eq] at escaped
  rcases escaped with ((rfl | rfl) | rfl) | rfl
  · exact ⟨"amp".toList, rfl, by decide, by decide, by decide⟩
  · exact ⟨"lt".toList, rfl, by decide, by decide, by decide⟩
  · exact ⟨"gt".toList, rfl, by decide, by decide, by decide⟩
  · exact ⟨"quot".toList, rfl, by decide, by decide, by decide⟩

end Text

namespace Xml

theorem mem_escapeChar {c d : Char} (member : d ∈ Text.escapeChar c) :
    d ≠ '"' ∧ d ≠ '<' ∧ (isXmlChar c = true → isXmlChar d = true) := by
  by_cases escaped : Text.isEscaped c = true
  · simp only [Text.isEscaped, Bool.or_eq_true, beq_iff_eq] at escaped
    rcases escaped with ((rfl | rfl) | rfl) | rfl <;>
      simp [Text.escapeChar] at member <;> rcases member with rfl | rfl | rfl | rfl | rfl | rfl <;>
      decide
  · have plain := Bool.eq_false_iff.mpr escaped
    rw [Text.escapeChar_plain plain, List.mem_singleton] at member
    subst member
    simp only [Text.isEscaped, Bool.or_eq_false_iff, beq_eq_false_iff_ne] at plain
    exact ⟨plain.2, plain.1.1.2, id⟩

theorem readReference?_predefined {name : List Char} {c : Char}
    (known : predefined name = some c) (starts : QualifiedName.startsName name = true)
    (accepted : name.all isNameChar = true) (rest : List Char) (position : Position) :
    (⟨name ++ ';' :: rest, position⟩ : Cursor).readReference? =
      some (.character c, ⟨rest, position.after (name ++ [';'])⟩) := by
  have read := Cursor.readName_written starts accepted
    (show Text.stops isNameChar (';' :: rest) = true from rfl) position
  have named : (⟨name ++ ';' :: rest, position⟩ : Cursor).startsWith "#" = false := by
    cases name with
    | nil => simp [QualifiedName.startsName] at starts
    | cons d more =>
        have other : d ≠ '#' := ne_of_isNameStart starts (by decide)
        simp [Cursor.startsWith, List.isPrefixOf, other.symm]
  have ended (position : Position) :
      (⟨';' :: rest, position⟩ : Cursor).startsWith ";" = true := by
    simp [Cursor.startsWith, List.isPrefixOf]
  simp [Cursor.readReference?, Cursor.readReferenceBody?, named, read, known, ended,
    Cursor.advance]

theorem dropReturns_append {run rest : List Char} (other : rest.head? ≠ some '\n') :
    dropReturns (run ++ rest) = dropReturns run ++ dropReturns rest := by
  induction run with
  | nil => rfl
  | cons c run ih =>
      have next : (c == '\r' && (run ++ rest).head? == some '\n') =
          (c == '\r' && run.head? == some '\n') := by
        cases run with
        | nil => simp [other]
        | cons d run => rfl
      simp only [List.cons_append, dropReturns, next, ih]
      split <;> rfl

theorem normalizeRun_append {run rest : List Char} (other : rest.head? ≠ some '\n') :
    normalizeRun (run ++ rest) = normalizeRun run ++ normalizeRun rest := by
  rw [normalizeRun, dropReturns_append other, List.map_append, normalizeRun, normalizeRun]

theorem normalizeRun_escaped {c : Char} (escaped : Text.isEscaped c = true) (rest : List Char) :
    normalizeRun (c :: rest) = c :: normalizeRun rest := by
  simp only [Text.isEscaped, Bool.or_eq_true, beq_iff_eq] at escaped
  rcases escaped with ((rfl | rfl) | rfl) | rfl <;> rfl

theorem normalizeRun_eq_self {text : List Char}
    (plain : ∀ c ∈ text, c ≠ '\t' ∧ c ≠ '\n' ∧ c ≠ '\r') : normalizeRun text = text := by
  induction text with
  | nil => rfl
  | cons c rest ih =>
      obtain ⟨tab, feed, return_⟩ := plain c (by simp)
      have later := ih fun d member => plain d (by simp [member])
      simp only [normalizeRun] at later
      simp [normalizeRun, dropReturns, blankOf, tab, feed, return_, later]

theorem space_mem_normalizeRun {text : List Char} {c : Char} (member : c ∈ text)
    (blank : blankOf c = ' ') : ' ' ∈ normalizeRun text := by
  induction text generalizing c with
  | nil => simp at member
  | cons first rest ih =>
      by_cases dropped : (first == '\r' && rest.head? == some '\n') = true
      · -- The line feed behind the dropped return gives the space.
        have same : normalizeRun (first :: rest) = normalizeRun rest := by
          simp only [normalizeRun, dropReturns, dropped, if_true]
        rw [same]
        simp only [Bool.and_eq_true, beq_iff_eq] at dropped
        exact ih (List.mem_of_head? dropped.2) (by decide)
      · have split : normalizeRun (first :: rest) = blankOf first :: normalizeRun rest := by
          simp only [normalizeRun, dropReturns, dropped, Bool.false_eq_true, if_false,
            List.map_cons]
        rw [split]
        rcases List.mem_cons.mp member with same | behind
        · rw [← same, blank]
          exact List.mem_cons_self
        · exact List.mem_cons_of_mem _ (ih behind blank)

/-- A text that is read without a space is read as it is written. -/
theorem normalizeRun_of_not_mem_space {text : List Char} (absent : ' ' ∉ normalizeRun text) :
    normalizeRun text = text := by
  apply normalizeRun_eq_self
  intro c member
  refine ⟨?_, ?_, ?_⟩
  · rintro rfl
    exact absent (space_mem_normalizeRun member (by decide))
  · rintro rfl
    exact absent (space_mem_normalizeRun member (by decide))
  · rintro rfl
    exact absent (space_mem_normalizeRun member (by decide))

theorem expandValue_literal {room : Nat}
    {inner : Option (Nat → Cursor → Except Fault (List Char × Nat))} {references : Nat}
    {chunks : List Chunk} {text : List Char}
    (rest : expandValue room inner references chunks = .ok (text, references))
    (run : List Char) :
    expandValue room inner references (.literal run :: chunks) =
      .ok (normalizeRun run ++ text, references) := by
  simp [expandValue, rest, bind, Except.bind, pure, Except.pure]

theorem expandValue_character {room : Nat} (outermost : isNested room = false)
    {inner : Option (Nat → Cursor → Except Fault (List Char × Nat))} {references : Nat}
    {chunks : List Chunk} {text : List Char}
    (rest : expandValue room inner references chunks = .ok (text, references))
    (c : Char) (start : Position) :
    expandValue room inner references (.character c start :: chunks) =
      .ok (c :: text, references) := by
  simp [expandValue, outermost, rest, bind, Except.bind, pure, Except.pure]

theorem chunksFrom_reference (entities : Entities) (fuel : Nat) {name rest : List Char} {c : Char}
    (known : predefined name = some c) (starts : QualifiedName.startsName name = true)
    (accepted : name.all isNameChar = true) (position : Position) :
    chunksFrom entities (fuel + 1) ⟨'&' :: (name ++ ';' :: rest), position⟩ =
      .character c position ::
        chunksFrom entities fuel ⟨rest, position.after ('&' :: (name ++ [';']))⟩ := by
  have read := readReference?_predefined known starts accepted rest (position.next '&')
  simp [chunksFrom, Cursor.advance, read, referenceChunk]

theorem chunksFrom_literal (entities : Entities) (fuel : Nat) {run rest : List Char}
    (nonempty : run ≠ []) (accepted : run.all (· != '&') = true)
    (stop : Text.stops (· != '&') rest = true) (position : Position) :
    chunksFrom entities (fuel + 1) ⟨run ++ rest, position⟩ =
      .literal run :: chunksFrom entities fuel ⟨rest, position.after run⟩ := by
  have taken := Cursor.takeWhile_run accepted stop position
  cases run with
  | nil => exact absurd rfl nonempty
  | cons c run =>
      have other : c ≠ '&' := by
        simp only [List.all_cons, Bool.and_eq_true, bne_iff_ne] at accepted
        exact accepted.1
      simp only [List.cons_append] at taken ⊢
      simp [chunksFrom, taken]

theorem escape_split (value : List Char) :
    ∃ run rest, value = run ++ rest ∧ run.all (fun c => !Text.isEscaped c) = true ∧
      Text.stops (fun c => !Text.isEscaped c) rest = true :=
  ⟨value.takeWhile fun c => !Text.isEscaped c, value.dropWhile fun c => !Text.isEscaped c,
    List.takeWhile_append_dropWhile.symm, List.all_takeWhile, Text.stops_dropWhile _ value⟩

theorem stops_escape {rest : List Char}
    (stop : Text.stops (fun c => !Text.isEscaped c) rest = true) :
    Text.stops (· != '&') (Text.escape rest) = true ∧ rest.head? ≠ some '\n' := by
  cases rest with
  | nil => exact ⟨rfl, by simp⟩
  | cons c rest =>
      have escaped : Text.isEscaped c = true := by simpa using stop
      obtain ⟨name, spelled, _⟩ := Text.escapeChar_escaped escaped
      refine ⟨by simp [spelled], ?_⟩
      simp only [List.head?_cons, ne_eq, Option.some.injEq]
      rintro rfl
      exact absurd escaped (by decide)

/-- The chunks of an escaped text expand to the text. -/
theorem expandValue_escape (entities : Entities) {room : Nat} (outermost : isNested room = false)
    (inner : Option (Nat → Cursor → Except Fault (List Char × Nat))) (references : Nat) :
    ∀ (fuel : Nat) (value : List Char) (position : Position), (Text.escape value).length ≤ fuel →
      expandValue room inner references
          (chunksFrom entities fuel ⟨Text.escape value, position⟩) =
        .ok (normalizeRun value, references) := by
  intro fuel
  induction fuel with
  | zero =>
      intro value position short
      have none : Text.escape value = [] := List.length_eq_zero_iff.mp (by omega)
      rw [Text.escape_eq_nil_iff.mp none]
      rfl
  | succ fuel ih =>
      intro value position short
      obtain ⟨run, rest, rfl, plain, stop⟩ := escape_split value
      cases run with
      | nil =>
          cases rest with
          | nil => rfl
          | cons c rest =>
              have escaped : Text.isEscaped c = true := by simpa using stop
              obtain ⟨name, spelled, known, starts, accepted⟩ := Text.escapeChar_escaped escaped
              have length : (Text.escape rest).length ≤ fuel := by
                simp [spelled] at short
                omega
              have later := ih rest (position.after ('&' :: (name ++ [';']))) length
              rw [List.nil_append, Text.escape_cons, spelled, List.cons_append, List.append_assoc,
                List.singleton_append, chunksFrom_reference entities fuel known starts accepted,
                expandValue_character outermost later, normalizeRun_escaped escaped]
      | cons c run =>
          obtain ⟨ends, other⟩ := stops_escape stop
          have unmarked : (c :: run).all (· != '&') = true := by
            refine List.all_eq_true.mpr fun d member => ?_
            have unescaped := List.all_eq_true.mp plain d member
            simp only [bne_iff_ne]
            rintro rfl
            exact absurd unescaped (by decide)
          have length : (Text.escape rest).length ≤ fuel := by
            rw [Text.escape_append, Text.escape_plain plain] at short
            simp only [List.length_append, List.length_cons] at short
            omega
          have later := ih rest (position.after (c :: run)) length
          rw [Text.escape_append, Text.escape_plain plain,
            chunksFrom_literal entities fuel (by simp) unmarked ends,
            expandValue_literal later, normalizeRun_append other]

theorem valueText_escape (entities : Entities) (value : List Char) (references : Nat)
    (position : Position) :
    valueText entities maximumDepth references ⟨Text.escape value, position⟩ =
      .ok (normalizeRun value, references) :=
  expandValue_escape entities (by decide) _ references _ value position (Nat.le_refl _)

end Xml

end VectorIcon
