import OutlineSearch.Text.Basic
import OutlineSearch.Text.Range

/-!
# Blank characters

What separates words and is trimmed from the ends of a text: the Unicode white
space characters, and with them the four information separators U+001C to U+001F.
-/

namespace OutlineSearch.Text

def blankRanges : List (Nat × Nat) :=
  [(9, 13), (28, 32), (133, 133), (160, 160), (5760, 5760), (8192, 8202), (8232, 8233),
   (8239, 8239), (8287, 8287), (12288, 12288)]

def isBlank (c : Char) : Bool := inRanges blankRanges c.toNat

def trimLeft (text : Text) : Text := text.dropWhile isBlank

def trimRight (text : Text) : Text := text.dropRightWhile isBlank

def trim (text : Text) : Text := text.trimLeft.trimRight

def isAllBlank (text : Text) : Bool := text.all isBlank

end OutlineSearch.Text
