import VectorIcon.Diagnostic.Snippet
import VectorIcon.Error
import VectorIcon.Text.Blank
import VectorIcon.Text.Terminal
import VectorIcon.Text.Wrap

/-!
Errors as boxed reports: the code, the message, the place in the source and the help, as plain
text without terminal controls.
-/

namespace VectorIcon.Diagnostic

def messageWidth : Nat :=
  194

/-- A message under its cross; lines after the first carry a bar. -/
def messageLines (message : List Char) : List (List Char) :=
  match (Text.split (· == '\n') message).flatMap (Text.wrap messageWidth) with
  | [] => []
  | first :: rest => ("  × ".toList ++ first) :: rest.map fun line => "  │ ".toList ++ line

def helpLines : Option String → List (List Char)
  | some help => ["  help: ".toList ++ help.toList]
  | none => []

def snippet? (error : ConvertError) : Option Snippet :=
  match error.source, error.span with
  | some source, some span => some (Snippet.ofSpan source span)
  | _, _ => none

def lines (error : ConvertError) : List (List Char) :=
  [error.code.toList, []] ++ messageLines error.message.toList ++
    ((snippet? error).map Snippet.drawn).getD [] ++ helpLines error.help

end VectorIcon.Diagnostic

namespace VectorIcon

def ConvertError.report (error : ConvertError) : String :=
  String.ofList
    (Text.Terminal.plain (Text.trimEnd (List.intercalate ['\n'] (Diagnostic.lines error))))

end VectorIcon
