import OutlineSearch.Text.Numeral
import OutlineSearch.Text.Quoted
import OutlineSearch.Pattern.Syntax

/-!
# Why a text is no pattern

Most refusals concern a place in the pattern and are reported with it.  Five kinds are
of another nature: a number too large to count rounds with, a number with too many
digits, a code point too large for a machine number, two options that contradict each
other, and groups nested too deeply for the reader.
-/

namespace OutlineSearch.Pattern

/-- What is wrong with a pattern at some place. -/
inductive Reason where
  | escapeAtEnd
  | badEscape (escape : Text)
  | incompleteEscape (escape : Text)
  | octalTooLarge (escape : Text)
  | unknownCharName (name : Text)
  | missing (what : String)
  | unterminatedName (terminator : Char)
  | unterminatedSet
  | unterminatedComment
  | unterminatedGroup
  | badRange (first last : Text)
  | nothingToRepeat
  | multipleRepeat
  | emptyRepeatRange
  | unexpectedEnd
  | unknownExtension (extension : Text)
  | badGroupName (name : Text)
  | unknownGroupName (name : Text)
  | groupNameTaken (name : Text) (number earlier : Nat)
  | badGroupNumber
  | noSuchGroup (number : Nat)
  | openGroup
  | groupOfSameLookBehind
  | tooManyBranches
  | lateOptions
  | unknownOption
  | bytesOption
  | alphabetConflict
  | alphabetOff
  | globalOptionOn
  | globalOptionOff
  | optionOnAndOff
  | unbalanced
deriving Repr, DecidableEq

def Reason.message : Reason → String
  | .escapeAtEnd => "bad escape (end of pattern)"
  | .badEscape e => "bad escape " ++ String.ofList e
  | .incompleteEscape e => "incomplete escape " ++ String.ofList e
  | .octalTooLarge e =>
    "octal escape value " ++ String.ofList e ++ " outside of range 0-0o377"
  | .unknownCharName n => "undefined character name " ++ String.ofList n.quoted
  | .missing what => "missing " ++ what
  | .unterminatedName t => "missing " ++ String.ofList [t] ++ ", unterminated name"
  | .unterminatedSet => "unterminated character set"
  | .unterminatedComment => "missing ), unterminated comment"
  | .unterminatedGroup => "missing ), unterminated subpattern"
  | .badRange a b =>
    "bad character range " ++ String.ofList a ++ "-" ++ String.ofList b
  | .nothingToRepeat => "nothing to repeat"
  | .multipleRepeat => "multiple repeat"
  | .emptyRepeatRange => "min repeat greater than max repeat"
  | .unexpectedEnd => "unexpected end of pattern"
  | .unknownExtension e => "unknown extension ?" ++ String.ofList e
  | .badGroupName n => "bad character in group name " ++ String.ofList n.quoted
  | .unknownGroupName n => "unknown group name " ++ String.ofList n.quoted
  | .groupNameTaken n number earlier =>
    let name := String.ofList n.quoted
    s!"redefinition of group name {name} as group {number}; was group {earlier}"
  | .badGroupNumber => "bad group number"
  | .noSuchGroup number => s!"invalid group reference {number}"
  | .openGroup => "cannot refer to an open group"
  | .groupOfSameLookBehind =>
    "cannot refer to group defined in the same lookbehind subpattern"
  | .tooManyBranches => "conditional backref with more than two branches"
  | .lateOptions => "global flags not at the start of the expression"
  | .unknownOption => "unknown flag"
  | .bytesOption => "bad inline flags: cannot use 'L' flag with a str pattern"
  | .alphabetConflict => "bad inline flags: flags 'a', 'u' and 'L' are incompatible"
  | .alphabetOff => "bad inline flags: cannot turn off flags 'a', 'u' and 'L'"
  | .globalOptionOn => "bad inline flags: cannot turn on global flag"
  | .globalOptionOff => "bad inline flags: cannot turn off global flag"
  | .optionOnAndOff => "bad inline flags: flag turned on and off"
  | .unbalanced => "unbalanced parenthesis"

/-- What is wrong with a pattern as a whole. -/
inductive Misfit where
  | lookBehindVaries
  | lookBehindTooLong
  /-- Repetitions are not allowed where the template option is on. -/
  | repeatInTemplate (greed : Greed)
deriving Repr, DecidableEq

def Misfit.message : Misfit → String
  | .lookBehindVaries => "look-behind requires fixed-width pattern"
  | .lookBehindTooLong => "looks too much behind"
  | .repeatInTemplate .greedy => "internal: unsupported template operator MAX_REPEAT"
  | .repeatInTemplate .lazy => "internal: unsupported template operator MIN_REPEAT"
  | .repeatInTemplate .possessive =>
    "internal: unsupported template operator POSSESSIVE_REPEAT"

/-- A refusal that is a statement about the pattern. -/
inductive Defect where
  | here (reason : Reason) (position : Nat)
  | whole (misfit : Misfit)
deriving Repr, DecidableEq

/-- A refusal that comes from the limits of numbers, options and the stack. -/
inductive Overrun where
  /-- A repetition counts further than rounds can be counted. -/
  | rounds
  /-- A number has more digits than numbers may have. -/
  | digits (count : Nat)
  /-- An escape asks for a code point that no machine number can hold. -/
  | code
  /-- The options ask for two alphabets. -/
  | alphabets
  /-- The reader runs out of stack. -/
  | depth
deriving Repr, DecidableEq

def Overrun.message : Overrun → String
  | .rounds => "the repetition number is too large"
  | .digits n => Text.tooManyDigits n
  | .code => "Python int too large to convert to C int"
  | .alphabets => "ASCII and UNICODE flags are incompatible"
  | .depth => "maximum recursion depth exceeded"

/-- Whether an overrun is a number that is out of range. -/
def Overrun.isOverflow : Overrun → Bool
  | .rounds | .code => true
  | _ => false

inductive Fault where
  | defect (d : Defect)
  | overrun (o : Overrun)
deriving Repr, DecidableEq

/-- The wording of a defect in `source`.  In a pattern of several lines the position is
given as line and column too. -/
def Defect.message (source : Text) : Defect → String
  | .whole misfit => misfit.message
  | .here reason position =>
    let why := reason.message
    if source.contains '\n' then
      let before := source.take position
      let line := before.count '\n' + 1
      let column := (before.reverse.takeWhile (· ≠ '\n')).length + 1
      s!"{why} at position {position} (line {line}, column {column})"
    else s!"{why} at position {position}"

end OutlineSearch.Pattern
