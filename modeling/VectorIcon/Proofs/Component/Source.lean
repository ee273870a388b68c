import VectorIcon.Component.Reader
import VectorIcon.Proofs.Component.Elements

/-!
The module around the elements: imports, declaration, wrapper and export. The grammar reads every
part of it in one way, whatever elements stand inside.
-/

namespace VectorIcon.Component

theorem isWhite_eq_false_of_isIdentChar {c : Char} (accepted : isIdentChar c = true) :
    Parser.isWhite c = false := by
  refine Bool.eq_false_iff.mpr fun white => ?_
  simp only [Parser.isWhite, Bool.or_eq_true, beq_iff_eq] at white
  rcases white with ((rfl | rfl) | rfl) | rfl <;> simp [isIdentChar] at accepted

theorem IsIdent.stops_white {name : List Char} (named : IsIdent name) (rest : List Char) :
    Text.stops Parser.isWhite (name ++ rest) = true :=
  Text.stops_append named.nonempty named.accepted (fun _ => isWhite_eq_false_of_isIdentChar) rest

namespace Parser

theorem run_ident {name : List Char} (named : IsIdent name) {rest : List Char}
    (stop : Text.stops isIdentChar rest = true) (offset : Nat) :
    run ident ⟨name ++ rest, offset⟩ =
      some (⟨String.ofList name, ⟨offset, Text.byteLength name⟩⟩,
        ⟨rest, offset + Text.byteLength name⟩) := by
  simp [ident, written, run_takeSome rest named.nonempty named.accepted stop, Cursor.spanTo]

theorem run_importStatement {inside : List Char} (absent : ';' ∉ inside) (rest : List Char)
    (offset : Nat) :
    run importStatement ⟨"import".toList ++ (inside ++ ';' :: rest), offset⟩ =
      some ((), ⟨rest, offset + Text.byteLength ("import".toList ++ (inside ++ [';']))⟩) := by
  have ended (offset : Nat) : run (literal ";") ⟨';' :: rest, offset⟩ =
      some ((), ⟨rest, offset + ';'.utf8Size⟩) := run_literal ";" rest offset
  have inner (offset : Nat) :=
    run_takeWhile (';' :: rest) (stops_of_mem_ne absent) (by simp) offset
  simp only [importStatement, run_bind, run_literal, Option.bind_some, inner, ended]
  simp [Nat.add_assoc]

end Parser

def importLines (first second : List Char) : List Char :=
  "import".toList ++ (first ++ ';' :: '\n' :: ("import".toList ++ (second ++ [';'])))

def importsText : List Char :=
  importLines " React from 'react'".toList " \x7b SvgIcon \x7d from '@mui/material'".toList

def declarationText (name : List Char) : List Char :=
  importsText ++ ("\n\nconst".toList ++ (' ' :: (name ++ " = (props) => \x7b\n  return (".toList)))

def wrapperText (viewBox : List Char) : List Char :=
  "<".toList ++ ("SvgIcon \x7b...props\x7d viewBox=".toList ++ ('"' :: (viewBox ++ ['"', '>'])))

def exportText : List Char :=
  "\n  );\n\x7d;\n\nexport default".toList

def wrapperEnd : List Char :=
  "</SvgIcon>".toList

theorem header_eq (name viewBox : List Char) :
    header name viewBox =
      declarationText name ++ ("\n    ".toList ++ (wrapperText viewBox ++ ['\n'])) := by
  have front : "import React from 'react';\nimport ".toList ++
      (braced (' ' :: (wrapperTag ++ [' '])) ++ (" from '".toList ++ (wrapperModule ++
        "';\n\nconst ".toList))) = importsText ++ ("\n\nconst".toList ++ [' ']) := by
    decide +kernel
  have middle : " = (props) => ".toList ++ (openBrace :: "\n  return (\n    <".toList ++
      (wrapperTag ++ (' ' :: braced "...props".toList ++ " viewBox=\"".toList))) =
        " = (props) => \x7b\n  return (".toList ++ ("\n    ".toList ++ ("<".toList ++
          ("SvgIcon \x7b...props\x7d viewBox=".toList ++ ['"']))) := by
    decide +kernel
  have last : "\">\n".toList = ['"', '>', '\n'] := by decide +kernel
  calc header name viewBox
    _ = ("import React from 'react';\nimport ".toList ++
          (braced (' ' :: (wrapperTag ++ [' '])) ++ (" from '".toList ++ (wrapperModule ++
            "';\n\nconst ".toList)))) ++ (name ++ ((" = (props) => ".toList ++
          (openBrace :: "\n  return (\n    <".toList ++ (wrapperTag ++
            (' ' :: braced "...props".toList ++ " viewBox=\"".toList)))) ++
          (viewBox ++ "\">\n".toList))) := by
        unfold header
        simp only [List.append_assoc]
    _ = declarationText name ++ ("\n    ".toList ++ (wrapperText viewBox ++ ['\n'])) := by
        rw [front, middle, last]
        simp only [declarationText, wrapperText, List.append_assoc, List.cons_append,
          List.nil_append]

theorem footer_eq (name : List Char) :
    footer name = "\n    ".toList ++ (wrapperEnd ++ (exportText ++ ' ' :: (name ++ [';']))) := by
  have front : "\n    </".toList ++ (wrapperTag ++ (">\n  );\n".toList ++
      closeBrace :: ";\n\nexport default ".toList)) =
        "\n    ".toList ++ (wrapperEnd ++ (exportText ++ [' '])) := by
    decide +kernel
  calc footer name
    _ = ("\n    </".toList ++ (wrapperTag ++ (">\n  );\n".toList ++
          closeBrace :: ";\n\nexport default ".toList))) ++ (name ++ [';']) := by
        unfold footer
        simp only [List.append_assoc]
    _ = "\n    ".toList ++ (wrapperEnd ++ (exportText ++ ' ' :: (name ++ [';']))) := by
        rw [front]
        simp only [List.append_assoc, List.cons_append, List.nil_append]

namespace Parser

theorem run_importLines {first second : List Char} (plain : ';' ∉ first) (other : ';' ∉ second)
    (bound : Nat) (rest : List Char) (offset : Nat) :
    run (repeated importStatement (bound + 2))
        ⟨importLines first second ++ ("\n\nconst".toList ++ rest), offset⟩ =
      some ([(), ()], ⟨"\n\nconst".toList ++ rest,
        offset + Text.byteLength (importLines first second)⟩) := by
  let behind := "\n\nconst".toList ++ rest
  have refused (offset : Nat) : run (spaced importStatement) ⟨behind, offset⟩ = none := by
    have missing (offset : Nat) : run (literal "import") ⟨"const".toList ++ rest, offset⟩ = none :=
      run_literal_none "import" rfl offset
    have skipped : run (spaced importStatement) ⟨behind, offset⟩ =
        run importStatement ⟨"const".toList ++ rest, offset + Text.byteLength "\n\n".toList⟩ :=
      run_spaced _ "\n\n".toList (by decide) rfl offset
    rw [skipped]
    simp only [importStatement, run_bind, missing, Option.bind_none]
  let later := '\n' :: ("import".toList ++ (second ++ ';' :: behind))
  have secondRead (offset : Nat) : run (spaced importStatement) ⟨later, offset⟩ =
      some ((), ⟨behind, offset + '\n'.utf8Size +
        Text.byteLength ("import".toList ++ (second ++ [';']))⟩) :=
    (run_spaced _ ['\n'] rfl rfl offset).trans (run_importStatement other behind _)
  have firstRead : run (spaced importStatement)
      ⟨"import".toList ++ (first ++ ';' :: later), offset⟩ = some ((), ⟨later, offset +
        Text.byteLength ("import".toList ++ (first ++ [';']))⟩) :=
    (run_spaced_solid _ rfl offset).trans (run_importStatement plain later offset)
  have all := run_repeated_cons firstRead (run_repeated_cons (secondRead _)
    (run_repeated_none (refused _) bound))
  unfold importLines
  simpa [later, behind, Nat.add_assoc] using all

theorem run_imports (bound : Nat) (rest : List Char) (offset : Nat) :
    run (repeated importStatement (bound + 2))
        ⟨importsText ++ ("\n\nconst".toList ++ rest), offset⟩ =
      some ([(), ()], ⟨"\n\nconst".toList ++ rest, offset + Text.byteLength importsText⟩) :=
  run_importLines (by decide) (by decide) bound rest offset

def componentEnd (declared : Written) (icon : WrittenIcon) : Parser WrittenComponent := do
  tokens [")", ";", "\x7d", ";", "export", "default"]
  let exported ← spaced ident
  token ";"
  spaced (rule .endOfInput endOfInput)
  return ⟨declared, icon, exported⟩

def declaredSpan (name : List Char) : Span :=
  ⟨Text.byteLength (importsText ++ ("\n\nconst".toList ++ [' '])), Text.byteLength name⟩

theorem run_component_declaration {name : List Char} (named : IsIdent name) (bound : Nat)
    (rest : List Char) :
    run (component (bound + 2)) (Cursor.ofText (declarationText name ++ rest)) =
      (run (spaced (icon (bound + 2))) ⟨rest, Text.byteLength (declarationText name)⟩).bind
        fun result => run (componentEnd ⟨String.ofList name, declaredSpan name⟩ result.1)
          result.2 := by
  let opening := " = (props) => \x7b\n  return (".toList
  have keyword (rest : List Char) (offset : Nat) : run (token "const")
      ⟨"\n\nconst".toList ++ rest, offset⟩ =
        some ((), ⟨rest, offset + Text.byteLength "\n\nconst".toList⟩) :=
    run_token ⟨"\n\n".toList, "const"⟩ (by decide) rest offset
  have nameGap (offset : Nat) : run (spaced ident) ⟨' ' :: (name ++ (opening ++ rest)), offset⟩ =
      run ident ⟨name ++ (opening ++ rest), offset + ' '.utf8Size⟩ :=
    run_spaced _ [' '] rfl (named.stops_white _) offset
  have ends : Text.stops isIdentChar (opening ++ rest) = true := rfl
  have declared := run_ident named ends
  have opened (offset : Nat) :
      run (tokens ["=", "(", "props", ")", "=>", "\x7b", "return", "("]) ⟨opening ++ rest, offset⟩ =
        some ((), ⟨rest, offset + Text.byteLength opening⟩) :=
    run_tokens [⟨[' '], "="⟩, ⟨[' '], "("⟩, ⟨[], "props"⟩, ⟨[], ")"⟩, ⟨[' '], "=>"⟩,
      ⟨[' '], "\x7b"⟩, ⟨"\n  ".toList, "return"⟩, ⟨[' '], "("⟩] (by decide) rest offset
  have spelled : declarationText name ++ rest =
      importsText ++ ("\n\nconst".toList ++ (' ' :: (name ++ (opening ++ rest)))) := by
    simp only [declarationText, opening, List.append_assoc, List.cons_append]
  rw [spelled]
  simp only [component, Cursor.ofText, run_rule, run_bind, run_imports, Option.bind_some, keyword,
    nameGap, declared, opened, componentEnd]
  have place : 0 + Text.byteLength importsText + Text.byteLength "\n\nconst".toList + ' '.utf8Size =
      Text.byteLength (importsText ++ ("\n\nconst".toList ++ [' '])) := by
    simp only [Text.byteLength_append, Text.byteLength_cons, Text.byteLength_nil]
    omega
  have size : Text.byteLength (importsText ++ ("\n\nconst".toList ++ [' '])) +
      Text.byteLength name + Text.byteLength opening = Text.byteLength (declarationText name) := by
    simp only [declarationText, opening, Text.byteLength_append, Text.byteLength_cons,
      Text.byteLength_nil]
    omega
  rw [place, size, declaredSpan]

theorem run_icon_wrapper {viewBox : List Char} (unquoted : '"' ∉ viewBox) (bound : Nat)
    (rest : List Char) (offset : Nat) :
    run (icon bound) ⟨wrapperText viewBox ++ rest, offset⟩ =
      (run (repeated (element bound) bound)
          ⟨rest, offset + Text.byteLength (wrapperText viewBox)⟩).bind fun result =>
        (run (tokens ["<", "/", "SvgIcon", ">"]) result.2).map fun last =>
          (⟨String.ofList viewBox, result.1⟩, last.2) := by
  let attributes := "SvgIcon \x7b...props\x7d viewBox=".toList
  have opened (rest : List Char) (offset : Nat) :
      run (tokens ["SvgIcon", "\x7b", "...", "props", "\x7d", "viewBox", "="])
          ⟨attributes ++ rest, offset⟩ =
        some ((), ⟨rest, offset + Text.byteLength attributes⟩) :=
    run_tokens [⟨[], "SvgIcon"⟩, ⟨[' '], "\x7b"⟩, ⟨[], "..."⟩, ⟨[], "props"⟩, ⟨[], "\x7d"⟩,
      ⟨[' '], "viewBox"⟩, ⟨[], "="⟩] (by decide) rest offset
  have quoted := run_between .viewBox .quoted unquoted ('>' :: rest)
  have solid : Text.stops isWhite ('"' :: (viewBox ++ '"' :: '>' :: rest)) = true := rfl
  have ended (offset : Nat) : run (token ">") ⟨'>' :: rest, offset⟩ =
      some ((), ⟨rest, offset + '>'.utf8Size⟩) := run_token ⟨[], ">"⟩ (by decide) rest offset
  have spelled : wrapperText viewBox ++ rest =
      "<".toList ++ (attributes ++ ('"' :: (viewBox ++ '"' :: '>' :: rest))) := by
    simp only [wrapperText, attributes, List.append_assoc, List.cons_append, List.nil_append]
  have size : offset + Text.byteLength "<".toList + Text.byteLength attributes +
      Text.byteLength ('"' :: (viewBox ++ ['"'])) + '>'.utf8Size =
        offset + Text.byteLength (wrapperText viewBox) := by
    simp only [wrapperText, attributes, Text.byteLength_append, Text.byteLength_cons,
      Text.byteLength_nil]
    omega
  rw [spelled]
  simp only [icon, run_rule, run_bind, run_literal, Option.bind_some, opened,
    run_spaced_solid _ solid, quoted, ended, size, run_pure, Option.map_eq_bind,
    Function.comp_def]

theorem run_componentEnd {name : List Char} (named : IsIdent name) (declared : Written)
    (icon : WrittenIcon) (offset : Nat) :
    run (componentEnd declared icon) ⟨exportText ++ ' ' :: (name ++ [';']), offset⟩ =
      some (⟨declared, icon, ⟨String.ofList name,
          ⟨offset + Text.byteLength (exportText ++ [' ']), Text.byteLength name⟩⟩⟩,
        ⟨[], offset + Text.byteLength (exportText ++ ' ' :: (name ++ [';']))⟩) := by
  have opened (rest : List Char) (offset : Nat) :
      run (tokens [")", ";", "\x7d", ";", "export", "default"]) ⟨exportText ++ rest, offset⟩ =
        some ((), ⟨rest, offset + Text.byteLength exportText⟩) :=
    run_tokens [⟨"\n  ".toList, ")"⟩, ⟨[], ";"⟩, ⟨['\n'], "\x7d"⟩, ⟨[], ";"⟩,
      ⟨"\n\n".toList, "export"⟩, ⟨[' '], "default"⟩] (by decide) rest offset
  have nameGap (offset : Nat) : run (spaced ident) ⟨' ' :: (name ++ [';']), offset⟩ =
      run ident ⟨name ++ [';'], offset + ' '.utf8Size⟩ :=
    run_spaced _ [' '] rfl (named.stops_white _) offset
  have ends : Text.stops isIdentChar [';'] = true := rfl
  have exported := run_ident named ends
  have ended (offset : Nat) : run (token ";") ⟨[';'], offset⟩ =
      some ((), ⟨[], offset + ';'.utf8Size⟩) := run_token ⟨[], ";"⟩ (by decide) [] offset
  have done (offset : Nat) : run (spaced (rule .endOfInput endOfInput)) ⟨[], offset⟩ =
      some ((), ⟨[], offset⟩) := by
    rw [run_spaced_solid _ rfl, run_rule]
    rfl
  simp only [componentEnd, run_bind, opened, Option.bind_some, nameGap, exported, ended, done,
    run_pure]
  simp [Nat.add_assoc]

end Parser

def wrapperGap (forest : List WrittenElement) : List Char :=
  (if forest.isEmpty then ['\n'] else []) ++ "\n    ".toList

/-- A component source, with a name to declare and one to export. -/
def sourceText (layout : Layout) (declared viewBox : List Char) (forest : List WrittenElement)
    (exported : List Char) : List Char :=
  declarationText declared ++ ("\n    ".toList ++ (wrapperText viewBox ++
    (forestText layout 0 forest ++ (wrapperGap forest ++ (wrapperEnd ++ (exportText ++
      ' ' :: (exported ++ [';'])))))))

def forestStart (declared viewBox : List Char) : Nat :=
  Text.byteLength (declarationText declared ++ ("\n    ".toList ++ wrapperText viewBox))

def exportedSpan (layout : Layout) (declared viewBox : List Char)
    (forest : List WrittenElement) (exported : List Char) : Span :=
  ⟨forestStart declared viewBox + Text.byteLength (forestText layout 0 forest ++
      (wrapperGap forest ++ (wrapperEnd ++ (exportText ++ [' '])))),
    Text.byteLength exported⟩

def placedComponent (layout : Layout) (declared viewBox : List Char)
    (forest : List WrittenElement) (exported : List Char) : WrittenComponent :=
  ⟨⟨String.ofList declared, Parser.declaredSpan declared⟩,
    ⟨String.ofList viewBox, placedForest layout 0 (forestStart declared viewBox) forest⟩,
    ⟨String.ofList exported, exportedSpan layout declared viewBox forest exported⟩⟩

theorem wrapperGap_white (forest : List WrittenElement) :
    (wrapperGap forest).all Parser.isWhite = true := by
  cases forest <;> rfl

theorem Parser.run_icon (layout : Layout) {viewBox : List Char} {forest : List WrittenElement}
    (unquoted : '"' ∉ viewBox) (readable : ReadableForest forest) {bound : Nat}
    (room : (forestText layout 0 forest).length ≤ bound) (rest : List Char) (offset : Nat) :
    run (spaced (icon bound)) ⟨"\n    ".toList ++ (wrapperText viewBox ++
        (forestText layout 0 forest ++ (wrapperGap forest ++ (wrapperEnd ++ rest)))), offset⟩ =
      some (⟨String.ofList viewBox, placedForest layout 0
          (offset + Text.byteLength ("\n    ".toList ++ wrapperText viewBox)) forest⟩,
        ⟨rest, offset + Text.byteLength ("\n    ".toList ++ (wrapperText viewBox ++
          (forestText layout 0 forest ++ (wrapperGap forest ++ wrapperEnd))))⟩) := by
  have count := length_le_forestText layout 0 forest
  have elements := run_forest layout 0 forest readable bound bound room (by omega)
    (run_spaced_element_none (wrapperGap_white forest) bound ("SvgIcon>".toList ++ rest))
  let parts : List Spread := [⟨wrapperGap forest, "<"⟩, ⟨[], "/"⟩, ⟨[], "SvgIcon"⟩, ⟨[], ">"⟩]
  have valid : parts.all Spread.valid = true := by
    simpa [parts, Spread.valid, isWhite] using wrapperGap_white forest
  have spread : parts.flatMap Spread.text = wrapperGap forest ++ wrapperEnd := by
    have joined : "<".toList ++ ("/".toList ++ ("SvgIcon".toList ++ ">".toList)) = wrapperEnd := by
      decide +kernel
    simp only [parts, List.flatMap_cons, List.flatMap_nil, Spread.text, List.nil_append,
      List.append_nil, List.append_assoc, joined]
  have closed (offset : Nat) : run (tokens ["<", "/", "SvgIcon", ">"])
      ⟨wrapperGap forest ++ (wrapperEnd ++ rest), offset⟩ =
        some ((), ⟨rest, offset + Text.byteLength (wrapperGap forest ++ wrapperEnd)⟩) := by
    rw [← List.append_assoc, ← spread]
    exact run_tokens parts valid rest offset
  have spelled : wrapperEnd ++ rest = '<' :: '/' :: ("SvgIcon>".toList ++ rest) := by
    have front : wrapperEnd = '<' :: '/' :: "SvgIcon>".toList := by decide +kernel
    rw [front, List.cons_append, List.cons_append]
  rw [← spelled] at elements
  have solid : Text.stops isWhite (wrapperText viewBox ++ (forestText layout 0 forest ++
      (wrapperGap forest ++ (wrapperEnd ++ rest)))) = true := rfl
  rw [run_spaced _ "\n    ".toList (by decide) solid, run_icon_wrapper unquoted, elements,
    Option.bind_some, closed, Option.map_some]
  simp only [Text.byteLength_append, Nat.add_assoc]

theorem parseWritten_eq_ok_iff {text : List Char} {written : WrittenComponent} :
    parseWritten text = .ok written ↔
      ∃ behind, Parser.run (Parser.component (text.length + 1)) (Cursor.ofText text) =
        some (written, behind) := by
  unfold parseWritten Parser.run
  split
  · rename_i read behind tried found
    simp [found]
  · rename_i tried found
    simp [found]

theorem check_eq_ok_iff {written : WrittenComponent} {component : Component} :
    written.check = .ok component ↔ written.exported.text = written.declared.text ∧
      ∃ elements, checkForest 0 written.icon.elements = .ok elements ∧
        component = ⟨written.declared.text, written.icon.viewBox, elements⟩ := by
  unfold WrittenComponent.check checkExport
  by_cases same : written.exported.text = written.declared.text
  · cases forest : checkForest 0 written.icon.elements with
    | error issue => simp [same]
    | ok elements => simp [same, eq_comm]
  · simp [same]

theorem read_eq_ok_iff {text : String} {component : Component} :
    Component.read text = .ok component ↔
      ∃ written, parseWritten text.toList = .ok written ∧ written.check = .ok component := by
  unfold Component.read
  cases parsed : parseWritten text.toList with
  | error issue => simp
  | ok written => cases checked : written.check <;> simp [checked]

/-- The grammar reads a source back part by part, each part in its place. -/
theorem parseWritten_sourceText (layout : Layout) {declared viewBox exported : List Char}
    {forest : List WrittenElement} (named : IsIdent declared) (exportNamed : IsIdent exported)
    (unquoted : '"' ∉ viewBox) (readable : ReadableForest forest) :
    parseWritten (sourceText layout declared viewBox forest exported) =
      .ok (placedComponent layout declared viewBox forest exported) := by
  let text := sourceText layout declared viewBox forest exported
  have room : (forestText layout 0 forest).length + 1 ≤ text.length := by
    simp only [text, sourceText, List.length_append, List.length_cons]
    omega
  obtain ⟨bound, enough⟩ : ∃ bound, text.length + 1 = bound + 2 := ⟨text.length - 1, by omega⟩
  have fits : (forestText layout 0 forest).length ≤ bound + 2 := by omega
  have icon := Parser.run_icon layout unquoted readable fits
    (exportText ++ ' ' :: (exported ++ [';']))
  have ended := Parser.run_componentEnd exportNamed
  have read : Parser.run (Parser.component (text.length + 1)) (Cursor.ofText text) =
      some (placedComponent layout declared viewBox forest exported,
        ⟨[], Text.byteLength text⟩) := by
    rw [enough]
    simp only [text, sourceText, Parser.run_component_declaration named, icon, ended,
      Option.bind_some, placedComponent, forestStart, exportedSpan, Text.byteLength_append,
      Text.byteLength_cons, Text.byteLength_nil, Nat.add_assoc]
  exact parseWritten_eq_ok_iff.mpr ⟨_, read⟩

end VectorIcon.Component
