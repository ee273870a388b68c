import VectorIcon.Text.BreakClass

/-!
Where a line may be broken, by the rules of the Unicode line breaking algorithm. The rules look at
the class of the next character and at what a context keeps of the characters before it.
-/

namespace VectorIcon.Text

namespace BreakClass

def endsLine : BreakClass → Bool
  | .lineEnd | .carriageReturn | .lineFeed | .nextLine => true
  | _ => false

def combines : BreakClass → Bool
  | .mark | .zeroWidthJoiner => true
  | _ => false

/-- A mark that has nothing to belong to stands for itself, as a letter does. -/
def alone (kind : BreakClass) : BreakClass :=
  if kind.combines then .letter else kind

def isLetter : BreakClass → Bool
  | .letter | .hebrewLetter => true
  | _ => false

def isPictorial : BreakClass → Bool
  | .ideograph | .emojiBase | .emojiModifier => true
  | _ => false

def isKorean : BreakClass → Bool
  | .leadingJamo | .vowelJamo | .trailingJamo | .openSyllable | .closedSyllable => true
  | _ => false

def isUnit : BreakClass → Bool
  | .unitBefore | .unitAfter => true
  | _ => false

def closes : BreakClass → Bool
  | .closing | .parenthesisEnd => true
  | _ => false

def neverLeads : BreakClass → Bool
  | .joiner | .closing | .parenthesisEnd | .exclamation | .separator | .slash => true
  | _ => false

/-- Pairs that stay together even with blanks between them. -/
def bindsOverSpaces (before after : BreakClass) : Bool :=
  after.neverLeads || before = .opening || (before = .quote && after = .opening) ||
    (before.closes && after = .nonStarter) || (before = .breakAround && after = .breakAround)

def bindsNumber (before after : BreakClass) : Bool :=
  match before, after with
  | .digit, .digit | .separator, .digit | .slash, .digit | .hyphen, .digit => true
  | .unitBefore, .digit | .unitAfter, .digit => true
  | _, _ => ((before.closes || before = .digit) && after.isUnit) || (before.isUnit && after = .opening)

def bindsKorean (before after : BreakClass) : Bool :=
  match before, after with
  | .leadingJamo, .leadingJamo | .leadingJamo, .vowelJamo => true
  | .leadingJamo, .openSyllable | .leadingJamo, .closedSyllable => true
  | .vowelJamo, .vowelJamo | .vowelJamo, .trailingJamo => true
  | .openSyllable, .vowelJamo | .openSyllable, .trailingJamo => true
  | .trailingJamo, .trailingJamo | .closedSyllable, .trailingJamo => true
  | _, .unitAfter => before.isKorean
  | .unitBefore, _ => after.isKorean
  | _, _ => false

def bindsWord (before after : BreakClass) : Bool :=
  match before, after with
  | _, .inseparable | .slash, .hebrewLetter => true
  | .emojiBase, .emojiModifier => true
  | .unitBefore, _ => after.isPictorial || after.isLetter
  | .unitAfter, _ => after.isLetter
  | _, .unitAfter => before.isPictorial || before.isLetter
  | _, .unitBefore => before.isLetter
  | .parenthesisEnd, _ => after.isLetter || after = .digit
  | _, .opening => before.isLetter || before = .digit
  | .separator, _ | .digit, _ => after.isLetter
  | _, _ => before.isLetter && (after.isLetter || after = .digit)

/-- Pairs that stay together when nothing is between them. `chained` says that the earlier one is
a hyphen behind a Hebrew letter. -/
def binds (before after : BreakClass) (chained : Bool) : Bool :=
  before.bindsOverSpaces after || before = .joiner || before = .glue ||
    (after = .glue && before ≠ .breakAfter && before ≠ .hyphen) ||
    before = .quote || after = .quote ||
    (before ≠ .contingent && after ≠ .contingent &&
      (after = .breakAfter || after = .hyphen || after = .nonStarter || before = .breakBefore ||
        chained || before.bindsNumber after || before.bindsKorean after ||
        before.bindsWord after))

end BreakClass

/-- What decides about a break behind some characters. -/
structure BreakContext where
  /-- The last character, marks and blanks aside. -/
  before : Option BreakClass
  /-- Whether blanks stand behind it. -/
  spaced : Bool
  /-- Whether the last character of all is a zero width joiner. -/
  joined : Bool
  /-- Whether it is a hyphen right behind a Hebrew letter. -/
  chained : Bool
  /-- Whether it is a regional indicator that has no partner yet. -/
  unpaired : Bool
  deriving DecidableEq

namespace BreakContext

def start : BreakContext :=
  ⟨none, false, false, false, false⟩

def attaches (context : BreakContext) (kind : BreakClass) : Bool :=
  kind.combines && !context.spaced &&
    context.before.any fun before => !before.endsLine && before ≠ .zeroSpace

def breaksBefore (context : BreakContext) (kind : BreakClass) : Bool :=
  match context.before with
  | none => false
  | some before =>
      let after := kind.alone
      if before.endsLine then !(before = .carriageReturn && kind = .lineFeed)
      else if kind.endsLine || kind = .space || kind = .zeroSpace then false
      else if before = .zeroSpace then true
      else if context.joined || context.attaches kind then false
      else if context.spaced then !before.bindsOverSpaces after
      else if before = .regional && after = .regional then !context.unpaired
      else !before.binds after context.chained

def isAfter (context : BreakContext) (kind : BreakClass) : Bool :=
  context.before = some kind && !context.spaced

/-- The context behind a character. Blanks at the beginning of a line are characters of their
own. -/
def next (context : BreakContext) (kind : BreakClass) : BreakContext :=
  if kind = .space then
    let opensLine := context.before.all BreakClass.endsLine
    ⟨if opensLine then some .space else context.before, true, false, false, false⟩
  else if context.attaches kind then { context with joined := kind = .zeroWidthJoiner }
  else
    { before := some kind.alone
      spaced := false
      joined := kind = .zeroWidthJoiner
      chained := context.isAfter .hebrewLetter && (kind = .hyphen || kind = .breakAfter)
      unpaired := kind = .regional && !(context.isAfter .regional && context.unpaired) }

end BreakContext

end VectorIcon.Text
