import OpaqueC.FileTree.Path
import OpaqueC.Proofs.Text.Lines

/-!
# Names of joined paths

A file name below a directory adds one name to the names of the directory, however the
directory is written: with a slash at its end or without one, or as the empty text. This
holds of names without slashes only. A name with a slash is a path in its own right, and an
absolute one even replaces the directory.

## Main definitions

* `Path.IsFileName`: texts that are one name of a file.

## Main results

* `Path.names_join`: the names of a joined path;
* `Path.isAbsolute_join`: joined to a file name, a directory stays absolute or relative.
-/

namespace OpaqueC

namespace Path

/-- A text that is one name of a file: without slashes, and neither empty nor a dot name. -/
structure IsFileName (name : String) : Prop where
  slash_not_mem : '/' ∉ name.toList
  ne_empty : name ≠ ""
  ne_dot : name ≠ "."
  ne_dots : name ≠ ".."

variable {dir name : String}

/-- A name without slashes that does not end in a dot is no dot name. -/
theorem IsFileName.of_getLast? {last : Char} (hslash : '/' ∉ name.toList)
    (hlast : name.toList.getLast? = some last) (hdot : last ≠ '.') : IsFileName name := by
  refine ⟨hslash, ?_, ?_, ?_⟩
  all_goals
    rintro rfl
    simp at hlast
  · exact hdot hlast.symm
  · exact hdot hlast.symm

/-- A file name does not begin at the root. -/
theorem IsFileName.isAbsolute_eq_false (h : IsFileName name) : isAbsolute name = false := by
  have hhead : name.toList.head? ≠ some '/' :=
    fun hhead => h.slash_not_mem (List.mem_of_head? hhead)
  simpa [isAbsolute] using hhead

/-- A joined path is the directory, a slash, and the name, unless the directory is empty. A
slash at the end of the directory is the one in between. -/
theorem toList_join (dir : String) (h : IsFileName name) :
    (dir = "" ∧ join dir name = name) ∨
      ∃ front, (join dir name).toList = front ++ '/' :: name.toList ∧
        (dir.toList = front ∨ dir.toList = front ++ ['/']) ∧ dir ≠ "" := by
  unfold join
  rw [h.isAbsolute_eq_false, Bool.false_or]
  by_cases hdir : dir = ""
  · exact .inl ⟨hdir, by simp [hdir]⟩
  · have hempty : dir.isEmpty = false := by simpa using hdir
    rw [hempty, if_neg Bool.false_ne_true]
    right
    by_cases hslash : endsInSlash dir = true
    · have hlast : dir.toList.getLast? = some '/' := by simpa [endsInSlash] using hslash
      obtain ⟨front, hfront⟩ := List.getLast?_eq_some_iff.mp hlast
      refine ⟨front, ?_, .inr hfront, hdir⟩
      rw [if_pos hslash, String.toList_append, hfront, List.append_assoc]
      rfl
    · refine ⟨dir.toList, ?_, .inl rfl, hdir⟩
      rw [if_neg hslash, String.toList_append, String.toList_append, List.append_assoc]
      rfl

/-- A file name below a directory adds one name to those of the directory. -/
theorem names_join (h : IsFileName name) : names (join dir name) = names dir ++ [name] := by
  have hname : (name.toList.isEmpty) = false := by
    simpa using h.ne_empty
  rcases toList_join dir h with ⟨rfl, hjoin⟩ | ⟨front, hjoin, hdir, -⟩
  · rw [hjoin, names, Text.splitAt_of_not_mem h.slash_not_mem]
    simp [hname, names, Text.splitAt]
  · have hnames : names dir =
        ((Text.splitAt '/' front).filter fun piece => !piece.isEmpty).map String.ofList := by
      rcases hdir with hdir | hdir
      · rw [names, hdir]
      · -- The slash at the end of the directory is followed by an empty piece only.
        rw [names, hdir, Text.splitAt_append_cons, List.filter_append]
        simp [Text.splitAt]
    rw [hnames, names, hjoin, Text.splitAt_append_cons, List.filter_append, List.map_append,
      Text.splitAt_of_not_mem h.slash_not_mem]
    simp [hname]

/-- Joined to a file name, a directory stays absolute or relative. -/
theorem isAbsolute_join (h : IsFileName name) : isAbsolute (join dir name) = isAbsolute dir := by
  rcases toList_join dir h with ⟨rfl, hjoin⟩ | ⟨front, hjoin, hdir, hne⟩
  · rw [hjoin, h.isAbsolute_eq_false]
    rfl
  · have hhead : (join dir name).toList.head? = dir.toList.head? := by
      rcases hdir with hdir | hdir
      · have hfront : front ≠ [] := by
          rintro rfl
          exact hne (String.toList_eq_nil_iff.mp hdir)
        rw [hjoin, hdir, List.head?_append_of_ne_nil _ hfront]
      · rw [hjoin, hdir, List.head?_append, List.head?_append]
        rfl
    rw [isAbsolute, isAbsolute, hhead]

end Path

end OpaqueC
