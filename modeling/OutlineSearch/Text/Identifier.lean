import OutlineSearch.Text.Letter
import OutlineSearch.Text.Identifier.Table

/-!
# Identifiers

Names of capture groups are identifiers in the sense of Unicode (`XID_Start` followed
by `XID_Continue`), with the underscore counted among the starting characters.
-/

namespace OutlineSearch.Text

/-- Whether an identifier may begin with the character. -/
def isIdentifierStart (c : Char) : Bool :=
  (isLetter c && !inRanges identifierStartMissing c.toNat) || c == '_'
    || inRanges identifierStartExtra c.toNat

/-- Whether an identifier may go on with the character. -/
def isIdentifierContinue (c : Char) : Bool :=
  (isAlphanumeric c && !inRanges identifierContinueMissing c.toNat) || c == '_'
    || inRanges identifierContinueExtra c.toNat

def isIdentifier : Text → Bool
  | [] => false
  | c :: rest => isIdentifierStart c && rest.all isIdentifierContinue

end OutlineSearch.Text
