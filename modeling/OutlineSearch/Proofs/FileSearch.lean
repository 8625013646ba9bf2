import OutlineSearch.Proofs.FileText
import OutlineSearch.Proofs.Judgement
import OutlineSearch.Proofs.Settings.RoundTrip
import OutlineSearch.Proofs.Utf8
import OutlineSearch.Search.Run

/-!
# Searching files

A search of a file finds in its bytes what a search finds in its lines, with the same numbers of
lines, and no bytes make it fail.
-/

namespace OutlineSearch.Searcher

variable {σ : Type} [Zero σ] [Add σ]

/-- What a search of a file returns where the file can be read. -/
def returned : Checked (List (Hit σ)) → Except Failure (List (Hit σ))
  | .passed hits => .ok hits
  | .failed problems => .error (.invalid problems)

variable {s : Searcher σ} {disk : Disk}

theorem searchDisk_of_read {bytes : List UInt8} (read : disk.read s.path = .ok bytes) :
    s.searchDisk disk = returned (s.search (Text.lines (Utf8.decodeLenient bytes))) := by
  rw [searchDisk, read]
  rfl

/-- A search fails only because of a path that cannot be reported. -/
theorem returned_search (s : Searcher σ) (lines : List Text) :
    (∃ hits, returned (s.search lines) = .ok hits) ∨
      ∃ problems, s.checkedPath = .failed problems ∧
        returned (s.search lines) = .error (.invalid problems) := by
  rw [search_eq_reported, reported]
  split
  · exact .inl ⟨[], rfl⟩
  · cases s.checkedPath with
    | passed path => exact .inl ⟨s.judged lines, rfl⟩
    | failed problems => exact .inr ⟨problems, rfl, rfl⟩

/-- The bytes of lines, which all end with the same terminator, the last one perhaps with none, are
searched like the lines.  Whatever bytes a file holds, its search returns hits, unless it has hits
and a path that cannot be reported. -/
theorem searchDisk_eq_search (s : Searcher σ) (disk : Disk) :
    (∀ (e : LineEnd) (closed : Bool) (lines : List Text), (∀ line ∈ lines, line.IsLine) →
      (closed = true ∨ lines.getLast? ≠ some []) →
      disk.read s.path = .ok (Utf8.encode (e.fileText closed lines)) →
        s.searchDisk disk = returned (s.search lines)) ∧
    ∀ bytes, disk.read s.path = .ok bytes →
      (∃ hits, s.searchDisk disk = .ok hits) ∨
        ∃ problems, s.checkedPath = .failed problems ∧
          s.searchDisk disk = .error (.invalid problems) := by
  constructor
  · intro e closed lines plain last read
    rw [searchDisk_of_read read, Utf8.decodeLenient_encode, LineEnd.lines_fileText plain last]
  · intro bytes read
    rw [searchDisk_of_read read]
    exact s.returned_search _

/-- Lines with characters that end a line elsewhere, an empty line, and no terminator at the
end; and a file that is no text. -/
theorem searchDisk_eq_search_of_separators :
    let s : Searcher Nat := { query := .empty, path := "/a".toList, scorer := fun _ _ => none }
    let lines : List Text :=
      ["* one\x0c\u0085", "SCHEDULED: <2024-01-01>", "", "x\u2028y"].map String.toList
    let disk := Settings.diskWith "a".toList (Utf8.encode (LineEnd.both.fileText false lines))
    let broken := Settings.diskWith "a".toList [0xff, 0x0d, 0xe2, 0x82]
    (∀ line ∈ lines, line.IsLine) ∧ lines.getLast? ≠ some [] ∧
      s.searchDisk disk = returned (s.search lines) ∧
      (s.searchDisk disk).toOption.map (·.map fun hit => (hit.line, hit.content)) =
        some [(1, "* one\x0c\u0085".toList), (3, []), (4, "x\u2028y".toList)] ∧
      ∃ hits, s.searchDisk broken = .ok hits := by
  intro s lines disk broken
  have plain : ∀ line ∈ lines, line.IsLine := by decide
  have last : lines.getLast? ≠ some [] := by decide
  have same := (searchDisk_eq_search s disk).1 .both false lines plain (.inr last)
    (Settings.read_diskWith _)
  have whole := (searchDisk_eq_search s broken).2 _ (Settings.read_diskWith _)
  refine ⟨plain, last, same, ?_, ?_⟩
  · rw [same]
    decide +kernel
  · rcases whole with hits | ⟨problems, refused, -⟩
    · exact hits
    · have path : s.checkedPath = .passed "/a".toList := rfl
      rw [path] at refused
      cases refused

end OutlineSearch.Searcher
