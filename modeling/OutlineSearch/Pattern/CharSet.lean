import OutlineSearch.Pattern.Escape

/-!
# Character sets

A set stands in brackets and lists characters, ranges and classes.  A closing bracket in
first position is a member, and so is a hyphen that cannot join two characters.
-/

namespace OutlineSearch.Pattern

variable (host : Host)

/-- Reads one member of a set whose first token is `t`. -/
def readMember (t : Token) (r : Rest) : Except Stop (SetItem × Rest) :=
  if t.escaped then readSetEscape host t.char t.position r else .ok (.code t.char.toNat, r)

/-- Reads a member and, behind a hyphen, the other end of a range.  `opening` is the
offset of the bracket.  The second part says whether the set has ended with it. -/
def readSpan (opening : Nat) (t : Token) (r : Rest) :
    Except Stop (List SetItem × Bool × Rest) := do
  let (first, after) ← readMember host t r
  if !after.startsWith '-' then .ok ([first], false, after)
  else
    let beyond := after.skip
    match beyond.tokens with
    | [] => beyond.refuseAt .unterminatedSet opening
    | u :: _ =>
      if u.isPlain ']' then .ok ([first, .code 45], true, beyond.skip)
      else
        let (last, beyond) ← readMember host u beyond.skip
        let bad : Except Stop (List SetItem × Bool × Rest) :=
          beyond.refuse (.badRange t.text u.text) (t.text.length + 1 + u.text.length)
        match first, last with
        | .code a, .code b =>
          if a ≤ b then .ok ([.range a b], false, beyond) else bad
        | _, _ => bad

/-- Reads the members of a set up to its closing bracket, after `skip` tokens that have
been read already.  `found` holds the members so far. -/
def readMembers (opening stop : Nat) (found : List SetItem) :
    Nat → List Token → Except Stop (List SetItem × Rest)
  | _, [] => Rest.refuseAt ⟨[], stop⟩ .unterminatedSet opening
  | skip + 1, _ :: rest => readMembers opening stop found skip rest
  | 0, t :: rest =>
    if t.isPlain ']' && !found.isEmpty then .ok (found, ⟨rest, stop⟩)
    else do
      let (items, closed, after) ← readSpan host opening t ⟨rest, stop⟩
      if closed then .ok (found ++ items, after)
      else readMembers opening stop (found ++ items) (rest.length - after.tokens.length) rest

/-- Reads a set behind its opening bracket, which stands at `opening`: whether it is
negated, its members, and what follows it. -/
def readSet (opening : Nat) (r : Rest) : Except Stop (Bool × List SetItem × Rest) := do
  let negated := r.startsWith '^'
  let r := if negated then r.skip else r
  let (items, after) ← readMembers host opening r.stop [] 0 r.tokens
  .ok (negated, items, after)

end OutlineSearch.Pattern
