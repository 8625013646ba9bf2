import OutlineSearch.Data.Literal

/-!
# Checked values

Data is checked field by field.  A check does not stop at the first problem: it reports
every problem with the place where it was found.
-/

namespace OutlineSearch

/-- What is wrong with a value. -/
inductive Cause where
  | missing
  | unknownField
  | badFieldName
  | notText
  | notUnicode
  | tooShort
  | notBool
  | unclearBool
  | notInteger
  | fractional
  | unreadableInteger
  | integerTooLarge
  | infinite
  | notNumber
  | unreadableNumber
  | atMost (bound : Nat)
  | atLeast (bound : Nat)
  | above (bound : Nat)
  | notList
  | notMap
  | notRecord (name : String)
  | notPattern
  | badPattern
  /-- A rule of the field itself is broken. -/
  | refused (message : String)
deriving Repr, DecidableEq

namespace Cause

/-- The word by which a cause is known. -/
def label : Cause → String
  | missing => "missing"
  | unknownField => "extra_forbidden"
  | badFieldName => "invalid_key"
  | notText => "string_type"
  | notUnicode => "string_unicode"
  | tooShort => "string_too_short"
  | notBool => "bool_type"
  | unclearBool => "bool_parsing"
  | notInteger => "int_type"
  | fractional => "int_from_float"
  | unreadableInteger => "int_parsing"
  | integerTooLarge => "int_parsing_size"
  | infinite => "finite_number"
  | notNumber => "float_type"
  | unreadableNumber => "float_parsing"
  | atMost _ => "less_than_equal"
  | atLeast _ => "greater_than_equal"
  | above _ => "greater_than"
  | notList => "list_type"
  | notMap => "dict_type"
  | notRecord _ => "model_type"
  | notPattern => "pattern_type"
  | badPattern => "pattern_regex"
  | refused _ => "value_error"

def message : Cause → String
  | missing => "Field required"
  | unknownField => "Extra inputs are not permitted"
  | badFieldName => "Keys should be strings"
  | notText => "Input should be a valid string"
  | notUnicode => "Input should be a valid string, unable to parse raw data as a unicode string"
  | tooShort => "String should have at least 1 character"
  | notBool => "Input should be a valid boolean"
  | unclearBool => "Input should be a valid boolean, unable to interpret input"
  | notInteger => "Input should be a valid integer"
  | fractional => "Input should be a valid integer, got a number with a fractional part"
  | unreadableInteger =>
    "Input should be a valid integer, unable to parse string as an integer"
  | integerTooLarge => "Unable to parse input string as an integer, exceeded maximum size"
  | infinite => "Input should be a finite number"
  | notNumber => "Input should be a valid number"
  | unreadableNumber => "Input should be a valid number, unable to parse string as a number"
  | atMost n => s!"Input should be less than or equal to {n}"
  | atLeast n => s!"Input should be greater than or equal to {n}"
  | above n => s!"Input should be greater than {n}"
  | notList => "Input should be a valid list"
  | notMap => "Input should be a valid dictionary"
  | notRecord name => "Input should be a valid dictionary or instance of " ++ name
  | notPattern => "Input should be a valid pattern"
  | badPattern => "Input should be a valid regular expression"
  | refused message => "Value error, " ++ message

end Cause

/-- A problem with a value. -/
structure Problem where
  /-- The field names and list positions that lead to the value. -/
  location : List Text
  cause : Cause
  /-- The value that was refused. -/
  input : Data
deriving Repr

namespace Problem

def place (p : Problem) : Text := Text.join ['.'] p.location

/-- The problem seen from one level further out. -/
def inside (part : Text) (p : Problem) : Problem := { p with location := part :: p.location }

/-- A value cut to 50 characters, in the middle. -/
def shortened (t : Text) : Text :=
  if t.length ≤ 50 then t else t.take 25 ++ "...".toList ++ t.drop (t.length - 24)

/-- A problem with its place and the refused value, on two lines. -/
def report (p : Problem) : Text :=
  let detail := " [type=".toList ++ p.cause.label.toList ++ ", input_value=".toList
    ++ shortened p.input.literal ++ ", input_type=".toList ++ p.input.typeName.toList ++ [']']
  (if p.location.isEmpty then [] else p.place ++ ['\n']) ++ "  ".toList
    ++ p.cause.message.toList ++ detail

/-- All problems of a record, under a heading that counts them. -/
def reportAll (record : String) (problems : List Problem) : Text :=
  let count := problems.length
  let heading := s!"{count} validation error" ++ (if count = 1 then "" else "s") ++ " for "
    ++ record
  Text.join ['\n'] (heading.toList :: problems.map report)

end Problem

/-- A value that has passed its checks, or the problems found. -/
inductive Checked (α : Type) where
  | passed (value : α)
  | failed (problems : List Problem)
deriving Repr

namespace Checked

/-- The problems found, none if the value passed. -/
def problems {α : Type} : Checked α → List Problem
  | passed _ => []
  | failed problems => problems

def fail {α : Type} (input : Data) (cause : Cause) : Checked α := failed [⟨[], cause, input⟩]

/-- Applies a checked function to a checked value.  If both failed, the problems of both are
reported, those of the function first. -/
def both {α β : Type} (f : Checked (α → β)) (x : Unit → Checked α) : Checked β :=
  match f, x () with
  | passed f, passed a => passed (f a)
  | passed _, failed problems => failed problems
  | failed problems, passed _ => failed problems
  | failed problems, failed more => failed (problems ++ more)

instance : Pure Checked := ⟨passed⟩
instance : Seq Checked := ⟨both⟩
instance : Functor Checked where
  map f x := match x with
    | passed a => passed (f a)
    | failed problems => failed problems

/-- Goes on with a value that has passed. -/
def andThen {α β : Type} (x : Checked α) (f : α → Checked β) : Checked β :=
  match x with
  | passed a => f a
  | failed problems => failed problems

/-- The same check seen from one level further out. -/
def inside {α : Type} (part : Text) : Checked α → Checked α
  | passed a => passed a
  | failed problems => failed (problems.map (Problem.inside part))

/-- Checks every item of a list from position `index` on. -/
def itemsFrom {α : Type} (check : Data → Checked α) (index : Nat) :
    List Data → Checked (List α)
  | [] => passed []
  | item :: rest =>
    List.cons <$> inside (Text.ofNat index) (check item) <*> itemsFrom check (index + 1) rest

def toExcept {α : Type} : Checked α → Except (List Problem) α
  | passed a => .ok a
  | failed problems => .error problems

end Checked

end OutlineSearch
