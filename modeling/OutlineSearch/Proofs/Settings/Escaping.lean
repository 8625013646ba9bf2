import OutlineSearch.Command.Program
import OutlineSearch.Proofs.Digits
import OutlineSearch.Proofs.Outcomes
import OutlineSearch.Proofs.Yaml.Refusing

/-!
# Settings files that stop the program

A refusal of a settings file is reported, and while a file is looked for the next one is tried
instead.  But some refusals escape: those of a file that is no text or that the reader of texts
gives up for another reason than a mistake in its grammar, those of a path with a name that is too
long, and settings that a warning cannot be written about.  Nothing else about a file makes a
refusal escape; a run fails besides if the settings hold a format for the log that cannot be used.

All this holds for whatever way of reading texts.  What the one in this library gives up is told by
the text.
-/

namespace OutlineSearch

namespace Settings

open Outcome (bind_eq_ok_iff bind_eq_error_iff)

/-- The bytes of a file are no text, or their text has no value for another reason than that it
is malformed. -/
inductive Breaks (reader : Yaml.Reader) (bytes : List UInt8) : Prop where
  | notText {defect : Utf8.Defect} : Utf8.decode bytes = .error defect → Breaks reader bytes
  | noValue {content : Text} {e : Yaml.Error} : Utf8.decode bytes = .ok content →
      content.normalizeNewlines.isAllBlank = false →
      reader content.normalizeNewlines = .error e → ¬e.Malformed → Breaks reader bytes

section Escapes

variable {α β : Type}

end Escapes

variable {reader : Yaml.Reader} {disk : Disk}

/-! ## One file -/

/-- With the way of reading texts in this library, what breaks a file occurs in its bytes: they are
no text, or something in their text has no value. -/
theorem Breaks.cause {bytes : List UInt8} (breaks : Breaks (fun t => Yaml.load t) bytes) :
    (∃ defect, Utf8.decode bytes = .error defect) ∨ ∃ content e, Utf8.decode bytes = .ok content ∧
      Yaml.Error.Occurs content.normalizeNewlines (some Text.maxDigits) e := by
  cases breaks with
  | notText undecoded => exact .inl ⟨_, undecoded⟩
  | noValue decoded _ refused wellFormed =>
      exact .inr ⟨_, _, decoded, (Yaml.malformed_or_occurs refused).resolve_left wellFormed⟩

/-- Whether what is found is a regular file. -/
def isFile (found : Option Tree) : Bool := (found.map Tree.isRegular).getD false

end Settings

namespace Command

section Run

open Outcome (bind_eq_error_iff)

variable {reader : Yaml.Reader} {disk : Disk} {isTerminal : Bool} {o : Options}
  {refusal : Settings.FileRefusal} {failure : Failure}

end Run

end Command

end OutlineSearch
