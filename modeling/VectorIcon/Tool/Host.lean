import VectorIcon.Preview.Markup
import VectorIcon.Report
import VectorIcon.Text.Base64

/-!
What a tool server has to be given: files to read, and pictures of markup. What a file holds and
what a picture looks like is not said here.
-/

namespace VectorIcon

/-- Draws markup in a width, compares two pictures, and puts two side by side with a placeholder
where one is missing. -/
structure Raster where
  draw : Nat → String → Except String (List UInt8)
  similarity : List UInt8 → List UInt8 → Option String
  sideBySide : Option (List UInt8) → Option (List UInt8) → Option (List UInt8)

structure Host where
  read : String → Except String (List UInt8)
  raster : Raster

structure Image where
  mimeType : String
  data : String

def Image.ofBytes (contents : List UInt8) : Image :=
  ⟨"image/png", String.ofList (Text.Base64.encode contents)⟩

namespace Raster

def width (asked : Option Nat) : Nat :=
  match asked with
  | some width => max 16 (min width 2048)
  | none => 300

def error? (drawn : Except String (List UInt8)) : Option String :=
  match drawn with
  | .ok _ => none
  | .error reason => some reason

/-- Draws an input beside its preview. Whatever fails is left out. -/
def compare (raster : Raster) (width : Nat) (input : String) (preview : Preview) :
    PreviewReport × Option Image :=
  let original := raster.draw width input
  let shown := raster.draw width preview.markup
  let similarity := match original, shown with
    | .ok original, .ok shown => raster.similarity original shown
    | _, _ => none
  let report : PreviewReport := {
    viewBox := preview.viewBox
    elementCount := preview.elementCount
    markup := preview.markup
    similarity := similarity
    inputError := error? original
    previewError := error? shown }
  (report, (raster.sideBySide original.toOption shown.toOption).map Image.ofBytes)

end Raster

end VectorIcon
