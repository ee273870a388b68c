import VectorIcon.Conversion
import VectorIcon.Folder
import VectorIcon.Gallery.Sheet
import VectorIcon.Path
import VectorIcon.Preview.Markup
import VectorIcon.RoundTrip
import VectorIcon.Session
import VectorIcon.Text.Escape
import VectorIcon.Text.Quoted

/-!
The gallery: one page that shows what becomes of every SVG file of a folder, with the share of
documents that survive writing and reading their component.
-/

namespace VectorIcon.Gallery

structure Picture where
  name : String
  source : String

/-- Bytes that are no UTF-8 read as an empty text, and so does a folder. -/
def textOf : Place → String
  | .file contents => (String.fromUTF8? ⟨contents.toArray⟩).getD ""
  | .folder => ""

def picture? : List (List Char) × Place → Option Picture
  | ([name], place) =>
      if Path.extensionOf name == some "svg".toList then some ⟨String.ofList name, textOf place⟩
      else none
  | _ => none

def pictures (folder : Folder) : List Picture :=
  (folder.places.filterMap picture?).mergeSort fun first second => first.name ≤ second.name

def conversion (picture : Picture) : Except ConvertError (String × String) := do
  let document ← Document.parseText picture.source
  let component := Component.ofElements document.elements Session.defaultName document.frame
  return ((Preview.ofElements document.elements document.frame).markup,
    component.source Layout.standard)

def roundTrip (picture : Picture) : Comparison :=
  checkRoundTrip picture.source Session.defaultName

def escaped (text : String) : String :=
  String.ofList (Text.escapeInTurn text.toList)

def statusText : Comparison → String
  | .equal => "ROUND TRIP OK"
  | .treeMismatch details => "TreeMismatch \x7b details: " ++ Difference.quoted details ++ " \x7d"
  | .viewBoxMismatch expected actual =>
      "ViewBoxMismatch \x7b expected: " ++ Difference.quoted expected ++ ", actual: " ++
        Difference.quoted actual ++ " \x7d"
  | .unreadable details => "ParseError \x7b details: " ++ Difference.quoted details ++ " \x7d"

def tag? : List Char → Option (List Char)
  | [] => none
  | c :: rest => if "<svg".toList.isPrefixOf (c :: rest) then some (c :: rest) else tag? rest

/-- The text from the first `svg` tag on, or all of it if there is none. -/
def fromTag (text : List Char) : List Char :=
  (tag? text).getD text

def lines (parts : List String) : String :=
  String.join (parts.map fun part => part ++ "\n")

def card (picture : Picture) : String :=
  let status := roundTrip picture
  let statusClass := if status = .equal then "match" else "mismatch"
  let (preview, code) := match conversion picture with
    | .ok (markup, code) => (markup, escaped code)
    | .error error => ("<div class=\"error\">" ++ escaped error.message ++ "</div>", "")
  lines [
    "",
    "<div class=\"card\" id=\"" ++ picture.name ++ "\">",
    "    <div class=\"card-header\">",
    "        <span>" ++ picture.name ++ "</span>",
    "        <span class=\"status " ++ statusClass ++ "\">" ++ escaped (statusText status) ++
      "</span>",
    "    </div>",
    "    <div class=\"card-body\">",
    "        <div class=\"comparison\">",
    "            <div class=\"column\">",
    "                <div class=\"column-header\">Input</div>",
    "                <div class=\"svg-container\">" ++
      String.ofList (fromTag picture.source.toList) ++ "</div>",
    "            </div>",
    "            <div class=\"column\">",
    "                <div class=\"column-header\">Live preview</div>",
    "                <div class=\"svg-container\">" ++ preview ++ "</div>",
    "            </div>",
    "        </div>",
    "        <details open>",
    "            <summary>Generated component</summary>",
    "            <div class=\"source\">" ++ code ++ "</div>",
    "        </details>",
    "        <details>",
    "            <summary>Source</summary>",
    "            <div class=\"source\">" ++ escaped picture.source ++ "</div>",
    "        </details>",
    "    </div>",
    "</div>"]

def roundToEven (numerator denominator : Nat) : Nat :=
  let low := numerator / denominator
  let twice := 2 * (numerator % denominator)
  if twice < denominator then low
  else if denominator < twice then low + 1
  else low + low % 2

/-- The share in percent, rounded to binary64 after the division and after the scaling, and then
to a whole number. -/
def percentage (passed total : Nat) : Nat :=
  if total = 0 then 0
  else
    let share := Number.units (Number.nearestRank passed total)
    let percent := Number.units (Number.nearestRank (share * 100) (Nat.pow 2 1074))
    roundToEven percent (Nat.pow 2 1074)

def head (passed total : Nat) : String :=
  lines ([
    "<!DOCTYPE html>",
    "<html>",
    "<head>",
    "    <meta charset=\"UTF-8\">",
    "    <title>SvgIcon Conversion Preview</title>",
    "    <style>"] ++
    styleSheet.map (fun line => "        " ++ line) ++ [
    "    </style>",
    "</head>",
    "<body>",
    "<div class=\"page\">",
    "<h1>SvgIcon Conversion Preview</h1>",
    "<div class=\"stats\">" ++ toString (percentage passed total) ++ "% round-trip (" ++
      toString passed ++ " / " ++ toString total ++ ")</div>"])

def page (folder : Folder) : String :=
  let shown := pictures folder
  let passed := shown.countP fun picture => roundTrip picture = .equal
  head passed shown.length ++ String.join (shown.map card) ++ "</div>\n</body></html>"

end VectorIcon.Gallery
