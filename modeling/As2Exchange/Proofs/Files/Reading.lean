import As2Exchange.Files.Tree

/-!
# Reading files

A name with a NUL is refused before the tree is walked; any other name leads to a file with its
content, or to an error of the operating system.

- `FileTree.read_eq_ok` and `FileTree.read_eq_nulInName` tell the results apart.
-/

namespace As2Exchange.FileTree

variable {files : FileTree} {name : String}

theorem read_eq_ok {data : Bytes} : files.read name = .ok data ↔
    '\x00' ∉ name.toList ∧ files.find name = .ok (.file data) := by
  unfold read
  by_cases hnul : '\x00' ∈ name.toList
  · simp [hnul]
  · simp only [List.contains_iff_mem, hnul, if_false, not_false_eq_true, true_and]
    rcases files.find name with fault | (_ | found) <;> simp

/-- A name with a NUL is the only one that no file can have. -/
theorem read_eq_nulInName : files.read name = .error .nulInName ↔ '\x00' ∈ name.toList := by
  unfold read
  by_cases hnul : '\x00' ∈ name.toList
  · simp [hnul]
  · simp only [List.contains_iff_mem, hnul, if_false, iff_false]
    split <;> simp

end As2Exchange.FileTree
