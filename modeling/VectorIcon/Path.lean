import VectorIcon.Text.Blank

/-!
Paths: the name and the extension at their end, and the types that go with extensions.
-/

namespace VectorIcon.Path

/-- The steps of a path; empty steps and single dots lead nowhere. -/
def steps (path : String) : List (List Char) :=
  (Text.split (· == '/') path.toList).filter fun step => !step.isEmpty && step != ['.']

def fileName? (path : String) : Option String :=
  (((steps path).getLast?).filter (· != ['.', '.'])).map String.ofList

/-- The text behind the last dot of a file name; a dot at the start does not count. -/
def extensionOf (fileName : List Char) : Option (List Char) :=
  let back := fileName.reverse
  let reversed := back.takeWhile (· ≠ '.')
  let before := back.drop (reversed.length + 1)
  if before.isEmpty then none else some reversed.reverse

def guessMimeType (path : String) : String :=
  let extension := ((fileName? path).bind fun name => extensionOf name.toList).getD []
  match String.ofList (extension.map Char.toLower) with
  | "svg" => "image/svg+xml"
  | "png" => "image/png"
  | "jpg" => "image/jpeg"
  | "jpeg" => "image/jpeg"
  | "gif" => "image/gif"
  | "webp" => "image/webp"
  | "txt" => "text/plain"
  | "xml" => "text/xml"
  | _ => "application/octet-stream"

end VectorIcon.Path
