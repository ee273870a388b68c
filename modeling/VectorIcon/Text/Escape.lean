/-!
Escaped markup text. `escape` writes the four delimiters of markup as references in one pass,
`unescape` reads those references back, and `escapeInTurn` gets the same text by replacing one
delimiter after the other.
-/

namespace VectorIcon.Text

def escapeChar (c : Char) : List Char :=
  if c = '&' then "&amp;".toList
  else if c = '<' then "&lt;".toList
  else if c = '>' then "&gt;".toList
  else if c = '"' then "&quot;".toList
  else [c]

def escape (text : List Char) : List Char :=
  text.flatMap escapeChar

def unescape : List Char → List Char
  | '&' :: 'a' :: 'm' :: 'p' :: ';' :: rest => '&' :: unescape rest
  | '&' :: 'l' :: 't' :: ';' :: rest => '<' :: unescape rest
  | '&' :: 'g' :: 't' :: ';' :: rest => '>' :: unescape rest
  | '&' :: 'q' :: 'u' :: 'o' :: 't' :: ';' :: rest => '"' :: unescape rest
  | c :: rest => c :: unescape rest
  | [] => []

def replace (old : Char) (new text : List Char) : List Char :=
  text.flatMap fun c => if c = old then new else [c]

/-- The ampersand goes first, so that the references written later stay whole. -/
def escapeInTurn (text : List Char) : List Char :=
  replace '"' "&quot;".toList
    (replace '>' "&gt;".toList
      (replace '<' "&lt;".toList
        (replace '&' "&amp;".toList text)))

end VectorIcon.Text
