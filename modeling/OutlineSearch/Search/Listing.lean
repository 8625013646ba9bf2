import OutlineSearch.Search.Hit
import OutlineSearch.Settings.Basic

/-!
# Listings

A hit is printed on one line: the path, the number of the line, the titles and the
content, with colons between them.  Scores are never printed.
-/

namespace OutlineSearch

inductive Color where
  | magenta
  | green
  | blue
  | white
deriving Repr, DecidableEq

namespace Color

/-- The character that begins a control sequence. -/
def escape : Char := Char.ofNat 27

def sequence (code : String) : Text := escape :: '[' :: code.toList ++ ['m']

/-- The control sequence that turns a color on. -/
def code : Color → String
  | magenta => "35"
  | green => "32"
  | blue => "34"
  | white => "37"

/-- A text in a color; an empty text stays empty. -/
def paint (c : Color) (text : Text) : Text :=
  if text.isEmpty then [] else sequence c.code ++ text ++ sequence "0"

end Color

namespace Layout

variable {σ : Type}

/-- A text in a color if the layout has colors. -/
def paint (l : Layout) (c : Color) (text : Text) : Text := if l.color then c.paint text else text

/-- The colon between parts. -/
def colon (l : Layout) : Text := l.paint .white [':']

/-- The number of the line, with what stands in front of it. -/
def lineText (l : Layout) (line : Nat) : Text :=
  if l.showLineNumbers then
    (if l.nullSeparator then [Char.ofNat 0] else l.colon) ++ l.paint .green (Text.ofNat line)
  else []

/-- The titles, with what stands in front of them. -/
def titlesText (l : Layout) (titles : List Text) : Text :=
  if l.showHeadings && !titles.isEmpty then
    l.colon ++ Text.join (l.paint .white l.separator) (titles.map (l.paint .blue))
  else []

/-- A hit on one line. -/
def render (l : Layout) (h : Hit σ) : Text :=
  l.paint .magenta h.path ++ l.lineText h.line ++ l.titlesText h.titles ++ l.colon ++ h.content

/-- As many hits as the layout allows, each on one line. -/
def renderAll (l : Layout) (hits : List (Hit σ)) : List Text :=
  match l.count with
  | some count => (hits.take count).map l.render
  | none => hits.map l.render

end Layout

end OutlineSearch
