import Mathlib
import HostAgent.Host.FileTree

/-!
# `Proofs.PathPieces` — the pieces of a joined path

The state store names each of its files `Path.join dir name`, with `name` a plain file name
(`PlainName`: not empty, without a slash, and neither `.` nor `..`). The resolver reads a path
through `FileTree.steps`, so where such a file lives is decided by the pieces of its path:

* `pieces_append_slash` — pieces of `a ++ "/" ++ b` are those of `a` and then those of `b`;
* `steps_join` — **the steps of `join dir name` are the pieces of `dir` followed by `name`**;
* `isAbsolute_join` — the joined path starts at the root exactly when `dir` does.

Everything here is about text; nothing depends on a file tree.
-/

namespace HostAgent.Host.Path

/-- A file name that the resolver reads as one step down into a directory. -/
structure PlainName (n : String) : Prop where
  nonempty : n.toList ≠ []
  no_slash : '/' ∉ n.toList
  not_here : n ≠ "."
  not_up : n ≠ ".."

@[simp] theorem pieces_empty : pieces "" = [] := rfl

theorem pieces_append_slash (a b : String) : pieces (a ++ "/" ++ b) = pieces a ++ pieces b := by
  have hsplit : (a ++ "/" ++ b).toList.splitOn '/' = a.toList.splitOn '/' ++ b.toList.splitOn '/' := by
    rw [String.toList_append, String.toList_append, List.append_assoc]
    exact List.splitOn_append_cons_self a.toList b.toList
  simp only [pieces, hsplit, List.filter_append, List.map_append]

theorem pieces_plain {n : String} (h : PlainName n) : pieces n = [n] := by
  simp [pieces, List.splitOn_eq_singleton h.no_slash, h.nonempty, String.ofList_toList]

/-- A plain name does not start at the root. -/
theorem isAbsolute_plain {n : String} (h : PlainName n) : isAbsolute n = false := by
  have hhead : ¬ ['/'] <+: n.toList := fun hp => h.no_slash (hp.subset (by simp))
  simpa [isAbsolute] using hhead

/-- A path that ends with a slash is some path and then the slash. -/
theorem eq_append_slash_of_endsWith {d : String} (h : d.endsWith "/" = true) :
    ∃ d', d = d' ++ "/" := by
  have hs : ['/'] <:+ d.toList := by simpa [← String.endsWith_toSlice] using h
  obtain ⟨cs, hcs⟩ := hs
  refine ⟨String.ofList cs, ?_⟩
  rw [← String.toList_inj, String.toList_append, String.toList_ofList, ← hcs]
  rfl

theorem pieces_join (d : String) {n : String} (h : PlainName n) :
    pieces (join d n) = pieces d ++ [n] := by
  simp only [join, isAbsolute_plain h, Bool.false_eq_true, ↓reduceIte]
  by_cases hempty : d.isEmpty = true
  · simp [String.isEmpty_iff.mp hempty, pieces_plain h]
  · by_cases hslash : d.endsWith "/" = true
    · obtain ⟨d', rfl⟩ := eq_append_slash_of_endsWith hslash
      have hd : pieces (d' ++ "/") = pieces d' := by simpa using pieces_append_slash d' ""
      rw [if_neg hempty, if_pos hslash, pieces_append_slash, hd, pieces_plain h]
    · rw [if_neg hempty, if_neg hslash, pieces_append_slash, pieces_plain h]

theorem isAbsolute_join (d : String) {n : String} (h : PlainName n) :
    isAbsolute (join d n) = isAbsolute d := by
  simp only [join, isAbsolute_plain h, Bool.false_eq_true, ↓reduceIte]
  by_cases hempty : d.isEmpty = true
  · rw [if_pos hempty, String.isEmpty_iff.mp hempty, isAbsolute_plain h]
    rfl
  · -- a nonempty `d` decides the first character of anything that starts with it
    have hne : d.toList ≠ [] := by simpa [String.isEmpty_iff] using hempty
    have hprefix (tail : String) : ("/".toList <+: (d ++ tail).toList) ↔ "/".toList <+: d.toList := by
      obtain ⟨c, cs, hc⟩ := List.exists_cons_of_ne_nil hne
      simp [String.toList_append, hc]
    rw [if_neg hempty]
    split <;>
    · rw [isAbsolute, isAbsolute, Bool.eq_iff_iff]
      simp only [String.startsWith_string_iff, String.append_assoc, hprefix]

/-- A joined path ends with the name. -/
theorem exists_toList_join (d : String) {n : String} (h : PlainName n) :
    ∃ pre, (join d n).toList = pre ++ n.toList := by
  simp only [join, isAbsolute_plain h, Bool.false_eq_true, ↓reduceIte]
  split
  · exact ⟨[], rfl⟩
  · split
    · exact ⟨d.toList, String.toList_append⟩
    · exact ⟨(d ++ "/").toList, String.toList_append⟩

/-- **Where a file of a directory is looked for**: the pieces of the directory, then its name. -/
theorem steps_join (d : String) {n : String} (h : PlainName n) :
    FileTree.steps (join d n) = pieces d ++ [n] := by
  have hlast : (join d n).endsWith "/" = false := by
    obtain ⟨pre, hpre⟩ := exists_toList_join d h
    have hsuffix : ¬ ['/'] <:+ (join d n).toList := by
      rw [hpre, List.singleton_suffix_iff_getLast?_eq_some, List.getLast?_append_of_ne_nil _ h.nonempty]
      intro hl
      exact h.no_slash (List.mem_of_getLast? hl)
    simpa [← String.endsWith_toSlice] using hsuffix
  simp [FileTree.steps, hlast, pieces_join d h]

end HostAgent.Host.Path
