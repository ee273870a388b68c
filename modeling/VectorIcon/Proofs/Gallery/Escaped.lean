import VectorIcon.Gallery
import VectorIcon.Proofs.Text.Escape

/-! The text of a gallery page is escaped in the way of the markup of previews. -/

namespace VectorIcon.Gallery

/-- Both ways of escaping write the same text. No delimiter is left in it, every ampersand starts a
reference, and it reads back. -/
theorem escaped_as_markup (text : String) :
    (escaped text).toList = Text.escape text.toList ∧
      (∀ c ∈ Text.escape text.toList, c ≠ '<' ∧ c ≠ '>' ∧ c ≠ '"') ∧
      (∀ before after, Text.escape text.toList = before ++ '&' :: after →
        ∃ reference ∈ Text.references, reference <+: '&' :: after) ∧
      Text.unescape (Text.escape text.toList) = text.toList := by
  refine ⟨?_, ?_, ?_, Text.unescape_escape text.toList⟩
  · rw [escaped, String.toList_ofList, Text.escapeInTurn_eq_escape]
  · intro c member
    exact Text.mem_escape member
  · intro before after found
    exact Text.escape_ampersand found

theorem escaped_as_markup_reference :
    (escaped "<a b=\"&lt;\">").toList = "&lt;a b=&quot;&amp;lt;&quot;&gt;".toList ∧
      (∃ reference ∈ Text.references, reference <+: "&amp;lt;&quot;&gt;".toList) ∧
      Text.unescape "&lt;a b=&quot;&amp;lt;&quot;&gt;".toList = "<a b=\"&lt;\">".toList := by
  obtain ⟨written, _, ampersands, back⟩ := escaped_as_markup "<a b=\"&lt;\">"
  have spelled : Text.escape "<a b=\"&lt;\">".toList =
      "&lt;a b=&quot;".toList ++ '&' :: "amp;lt;&quot;&gt;".toList := by decide
  rw [spelled] at back
  exact ⟨written.trans spelled, ampersands _ _ spelled, back⟩

end VectorIcon.Gallery
