import OutlineSearch.Text.Letter
import OutlineSearch.Pattern.Token

/-!
# Options inside a pattern

`(?i)` at the start of a pattern sets an option for all of it, `(?i:…)` for a group, and
`(?-i:…)` takes it back for a group.
-/

namespace OutlineSearch.Pattern

/-- An option that a pattern can set. -/
inductive Switch where
  | ignoreCase
  | multiLine
  | dotAll
  | verbose
  | ascii
  | unicode
  | template
deriving Repr, DecidableEq

/-- The option that a letter stands for. -/
def Switch.ofChar? : Char → Option Switch
  | 'i' => some .ignoreCase
  | 'm' => some .multiLine
  | 's' => some .dotAll
  | 'x' => some .verbose
  | 'a' => some .ascii
  | 'u' => some .unicode
  | 't' => some .template
  | _ => none

/-- Whether an option chooses the alphabet. -/
def Switch.isAlphabet (s : Switch) : Bool := s == .ascii || s == .unicode

/-- The options in force. -/
abbrev Switches := List Switch

/-- The options in force inside a group that sets some and takes back others.  To set one
alphabet takes back the other. -/
def Switches.combine (current added removed : Switches) : Switches :=
  let current :=
    if added.any Switch.isAlphabet then current.filter (!·.isAlphabet) else current
  (current ++ added).filter (!removed.contains ·)

/-- The options that a parenthesis sets: for the whole pattern, or for its group. -/
inductive OptionSetting where
  | whole (added : Switches)
  | scoped (added removed : Switches)

/-- Refuses a token that is no option letter: letters are unknown options, anything else
stands where `expected` should. -/
def refuseOption {α : Type} (expected : String) (t : Token) (r : Rest) : Except Stop α :=
  let reason := if Text.isLetters t.text then .unknownOption else .missing expected
  r.refuseAt reason t.position

/-- The option letter that a token is, if it is one; `L` is a letter that is known and
never allowed. -/
def optionLetter? (t : Token) : Option (Option Switch) :=
  if t.escaped then none
  else if t.char = 'L' then some none
  else (Switch.ofChar? t.char).map some

/-- Reads the letters of options to take back up to the colon; the first letter is known
to be one. -/
def readRemoved (stop : Nat) (removed : Switches) : List Token → Except Stop (Switches × Rest)
  | [] => Rest.refuse ⟨[], stop⟩ (.missing ":") 0
  | t :: rest =>
    let after : Rest := ⟨rest, stop⟩
    if t.isPlain ':' then .ok (removed, after)
    else match optionLetter? t with
      | none => refuseOption ":" t after
      | some none => after.refuse .alphabetOff 0
      | some (some s) =>
        if s.isAlphabet then after.refuse .alphabetOff 0
        else readRemoved stop (removed ++ [s]) rest

/-- Checks the options of a group once its colon has been read. -/
def finishScoped (added removed : Switches) (r : Rest) : Except Stop (OptionSetting × Rest) :=
  if removed.contains .template then r.refuse .globalOptionOff 1
  else if added.any removed.contains then r.refuse .optionOnAndOff 1
  else .ok (.scoped added removed, r)

/-- Reads what follows the hyphen between options to set and options to take back. -/
def readAfterHyphen (added : Switches) (r : Rest) : Except Stop (OptionSetting × Rest) :=
  if added.contains .template then r.refuse .globalOptionOn 1
  else match r.tokens with
    | [] => r.refuse (.missing "flag") 0
    | t :: _ =>
      if (optionLetter? t).isNone then refuseOption "flag" t r.skip
      else do
        let (removed, after) ← readRemoved r.stop [] r.tokens
        finishScoped added removed after

/-- Reads the letters of options to set, up to the character that ends them; the first
letter is known to be one. -/
def readAdded (stop : Nat) (added : Switches) : List Token → Except Stop (OptionSetting × Rest)
  | [] => Rest.refuse ⟨[], stop⟩ (.missing "-, : or )") 0
  | t :: rest =>
    let after : Rest := ⟨rest, stop⟩
    if t.isPlain ')' then .ok (.whole added, after)
    else if t.isPlain '-' then readAfterHyphen added after
    else if t.isPlain ':' then
      if added.contains .template then after.refuse .globalOptionOn 1
      else finishScoped added [] after
    else match optionLetter? t with
      | none => refuseOption "-, : or )" t after
      | some none => after.refuse .bytesOption 0
      | some (some s) =>
        if s.isAlphabet && added.any fun o => o.isAlphabet && o ≠ s then
          after.refuse .alphabetConflict 0
        else readAdded stop (added ++ [s]) rest

/-- Reads options that begin with a letter or with the hyphen. -/
def readOptions (r : Rest) : Except Stop (OptionSetting × Rest) := readAdded r.stop [] r.tokens

end OutlineSearch.Pattern
