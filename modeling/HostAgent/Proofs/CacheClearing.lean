import HostAgent.Proofs.DirectoryWalk
import HostAgent.Store.Cache

/-!
# `Proofs.CacheClearing` — emptying the cache directory

`CacheDir.clear` lists the cache directory and removes each entry it lists, choosing the call by
the entry's own kind as `lstat` sees it: a directory goes with everything below it, a file or a
link goes alone, so the target of a link is never touched. `clear_empties_cache` says what this
does to the whole tree. When the cache path is anchored at its directory `D` (the walk to `D`
does not pass through `D`'s own entries, `Anchored`) and the tree is well formed, the call
answers the number of `D`'s entries, `D` is left in place and empty, and nothing outside `D`
changes. A missing `D` counts as empty; a `D` that is not a directory is an error; neither
changes anything.

The condition on the path cannot be dropped: `clear_cuts_own_path` names the cache by a path
that runs through two of its own entries, and removing the first cuts the way to the second.
-/

namespace HostAgent.Host.FileTree

/-! ## Well-formed trees -/

/-- **A well-formed tree** binds each location once, and every name in it is plain. -/
structure WellFormed (t : FileTree) : Prop where
  nodup : (t.entries.map Prod.fst).Nodup
  plain : ∀ e ∈ t.entries, Path.PlainLoc e.1

instance (t : FileTree) : Decidable t.WellFormed :=
  decidable_of_iff ((t.entries.map Prod.fst).Nodup ∧ ∀ e ∈ t.entries, Path.PlainLoc e.1)
    ⟨fun ⟨h₁, h₂⟩ => ⟨h₁, h₂⟩, fun h => ⟨h.nodup, h.plain⟩⟩

variable {t : FileTree} {D : Location} {x : String}

/-- What `childNames` reads off a key: the last name of a key one step below `D`. -/
theorem childKey_eq_some {l : Location} :
    (if l.length == D.length + 1 && D.isPrefixOf l then l.getLast? else none) = some x ↔
      l = D ++ [x] := by
  constructor
  · intro h
    split at h
    · rename_i hc
      simp only [Bool.and_eq_true, beq_iff_eq, List.isPrefixOf_iff_prefix] at hc
      obtain ⟨hlen, r, rfl⟩ := hc
      obtain ⟨y, rfl⟩ : ∃ y, r = [y] := List.length_eq_one_iff.mp (by simpa using hlen)
      simp only [List.getLast?_append, List.getLast?_singleton, Option.some_or,
        Option.some.injEq] at h
      rw [h]
    · cases h
  · rintro rfl
    simp [List.isPrefixOf_iff_prefix]

theorem mem_childNames : x ∈ t.childNames D ↔ ∃ node, (D ++ [x], node) ∈ t.entries := by
  unfold childNames
  rw [List.mem_filterMap]
  constructor
  · rintro ⟨⟨l, node⟩, hmem, hx⟩
    rw [childKey_eq_some.mp hx] at hmem
    exact ⟨node, hmem⟩
  · rintro ⟨node, hmem⟩
    exact ⟨_, hmem, childKey_eq_some.mpr rfl⟩

/-- A key that is bound is found. -/
theorem lookup_ne_none_of_mem {l : Location} {node : Node} (hmem : (l, node) ∈ t.entries)
    (hl : l ≠ []) : t.lookup l ≠ none := by
  rw [lookup_of_ne_nil t hl]
  intro h
  rw [Option.map_eq_none_iff, List.find?_eq_none] at h
  exact h _ hmem (by simp)

/-- The entries of `D` are the names bound one step below it. -/
theorem lookup_ne_none_iff_mem_childNames : t.lookup (D ++ [x]) ≠ none ↔ x ∈ t.childNames D := by
  constructor
  · intro h
    rw [lookup_of_ne_nil t (by simp), Ne, Option.map_eq_none_iff] at h
    obtain ⟨e, he⟩ := Option.ne_none_iff_exists'.mp h
    have hkey : e.1 = D ++ [x] := by simpa using List.find?_some he
    refine mem_childNames.mpr ⟨e.2, ?_⟩
    rw [← hkey]
    exact List.mem_of_find?_eq_some he
  · intro hx
    obtain ⟨node, hmem⟩ := mem_childNames.mp hx
    exact lookup_ne_none_of_mem hmem (by simp)

theorem childNames_eq_nil (h : ∀ x, t.lookup (D ++ [x]) = none) : t.childNames D = [] :=
  List.eq_nil_iff_forall_not_mem.mpr fun x hx => lookup_ne_none_iff_mem_childNames.mpr hx (h x)

namespace WellFormed

theorem childNames_nodup (h : t.WellFormed) (D : Location) : (t.childNames D).Nodup := by
  have hkeys : t.childNames D = (t.entries.map Prod.fst).filterMap fun l =>
      if l.length == D.length + 1 && D.isPrefixOf l then l.getLast? else none := by
    unfold childNames
    rw [List.filterMap_map]
    rfl
  rw [hkeys]
  -- different keys give different names, since the name and `D` make the key
  exact h.nodup.filterMap fun l l' _ hl hl' =>
    (childKey_eq_some.mp hl).trans (childKey_eq_some.mp hl').symm

theorem plain_of_mem_childNames (h : t.WellFormed) (hx : x ∈ t.childNames D) :
    Path.PlainName x := by
  obtain ⟨node, hmem⟩ := mem_childNames.mp hx
  exact h.plain _ hmem x (by simp)

end WellFormed

/-! ## Removing one entry -/

/-- Remove what is bound at `l`: a directory with everything below it, anything else alone. -/
def removeEntry (t : FileTree) (l : Location) : FileTree :=
  if (t.lookup l).any Node.isDir then t.eraseTree l else t.erase l

variable {y : String}

theorem lookup_removeEntry :
    (t.removeEntry (D ++ [x])).lookup (D ++ [y]) = if y = x then none else t.lookup (D ++ [y]) := by
  have hne : D ++ [y] ≠ [] := by simp
  unfold removeEntry
  split
  · rw [lookup_eraseTree t _ hne]
    by_cases hyx : y = x
    · rw [if_pos (by rw [hyx]), if_pos hyx]
    · rw [if_neg (entry_not_prefix_entry (Ne.symm hyx)), if_neg hyx]
  · rw [lookup_erase t _ hne]
    simp

theorem agreeOutside_removeEntry (t : FileTree) (x : String) :
    AgreeOutside D t (t.removeEntry (D ++ [x])) := by
  unfold removeEntry
  split
  · exact agreeOutside_eraseTree t x
  · exact agreeOutside_erase t x

/-- The call the cache makes for a bound entry, chosen by the entry's own kind, removes it. -/
theorem Anchored.remove_join {cwd : Location} {dir : String} {node : Node}
    (h : Anchored t cwd dir D) (hx : Path.PlainName x) (hnode : t.lookup (D ++ [x]) = some node) :
    (if node.isDir then t.removeDirAll cwd (Path.join dir x)
      else t.removeFile cwd (Path.join dir x)) = .ok (t.removeEntry (D ++ [x])) := by
  rw [h.removeDirAll_join hx, h.removeFile_join hx, hnode]
  cases node <;> simp [removeEntry, hnode, Node.isDir]

end HostAgent.Host.FileTree

/-! ## Emptying the cache -/

namespace HostAgent.Store.CacheDir

open HostAgent.Host HostAgent.Host.FileTree Agent

variable {c : CacheDir} {w : World} {D : Location}

/-- One entry of the loop: the entry goes, by its own kind, and one line is logged. -/
theorem removeEach_cons_run (h : Anchored w.files w.cwd c.path D) {x : String}
    (hx : Path.PlainName x) (hbound : w.files.lookup (D ++ [x]) ≠ none) (rest : List String)
    (n : Nat) : ∃ j, (c.removeEach (x :: rest) n).run w =
      (c.removeEach rest (n + 1)).run
        { w with files := w.files.removeEntry (D ++ [x]), journal := j } := by
  obtain ⟨node, hnode⟩ := Option.ne_none_iff_exists'.mp hbound
  -- `lstat` does not follow a link, so the call is chosen by the entry's own kind
  have hstat : w.files.lstat w.cwd (Path.join c.path x) = .ok node := by
    rw [h.lstat_join hx, hnode]
  have hr := h.remove_join hx hnode
  obtain ⟨w₁, hlog, hw₁⟩ := run_debug ("Removed cached " ++ Path.join c.path x)
    { w with files := w.files.removeEntry (D ++ [x]) }
  refine ⟨w₁.journal, ?_⟩
  rw [removeEach.eq_2, run_bind_ok (run_query _ w)]
  dsimp only
  rw [hstat]
  cases hd : node.isDir
  · simp only [hd, Bool.false_eq_true, ↓reduceIte] at hr ⊢
    rw [run_bind_ok (run_change_ok hr), run_bind_ok hlog, hw₁]
  · simp only [hd, ↓reduceIte] at hr ⊢
    rw [run_bind_ok (run_change_ok hr), run_bind_ok hlog, hw₁]

/-- **The loop removes exactly the named entries.** Given distinct plain names, each bound one
step below the anchored directory `D`, it removes every one of them and counts them; nothing
outside `D` changes, and of `D`'s entries only the named ones go. -/
theorem removeEach_run (h : Anchored w.files w.cwd c.path D) (names : List String) (n : Nat)
    (hnd : names.Nodup) (hplain : ∀ x ∈ names, Path.PlainName x)
    (hbound : ∀ x ∈ names, w.files.lookup (D ++ [x]) ≠ none) :
    ∃ t j, (c.removeEach names n).run w =
        (.ok (n + names.length), { w with files := t, journal := j }) ∧
      AgreeOutside D w.files t ∧
      ∀ y, t.lookup (D ++ [y]) = if y ∈ names then none else w.files.lookup (D ++ [y]) := by
  -- induction on the names, the world and the count moving with the loop
  induction names generalizing w n with
  | nil => exact ⟨w.files, w.journal, by rw [removeEach.eq_1]; rfl, .refl _, by simp⟩
  | cons x rest ih =>
    obtain ⟨hx, hnd'⟩ := List.nodup_cons.mp hnd
    obtain ⟨j₁, hrun⟩ := removeEach_cons_run h (hplain x List.mem_cons_self)
      (hbound x List.mem_cons_self) rest n
    have h₁ := h.of_agree (agreeOutside_removeEntry w.files x)
    -- the names still to come are bound as before: only `x` has gone
    have hbound₁ : ∀ y ∈ rest, (w.files.removeEntry (D ++ [x])).lookup (D ++ [y]) ≠ none := by
      intro y hy
      rw [lookup_removeEntry, if_neg fun (hyx : y = x) => hx (hyx ▸ hy)]
      exact hbound y (List.mem_cons_of_mem x hy)
    obtain ⟨t, j, hrest, hagree, hlookup⟩ := ih (w := { w with
      files := w.files.removeEntry (D ++ [x]), journal := j₁ }) h₁ (n + 1) hnd'
      (fun y hy => hplain y (List.mem_cons_of_mem x hy)) hbound₁
    refine ⟨t, j, ?_, (agreeOutside_removeEntry w.files x).trans hagree, fun y => ?_⟩
    · rw [hrun, hrest, List.length_cons, Nat.add_comm rest.length 1, Nat.add_assoc]
    · rw [hlookup y, lookup_removeEntry]
      by_cases hyx : y = x
      · subst hyx
        simp [hx]
      · simp [hyx]

/-- **Emptying the cache directory.** Say the cache path leads to the directory `D` through no
entry of `D`'s own, in a tree whose locations are bound once with plain names. With no `D` the
call answers `0` and changes nothing; when `D` is not a directory it fails and changes nothing.
When `D` is a directory it removes each of its entries (a directory with all it holds, a link as
a link) and answers their number; afterwards `D` is there and empty, nothing outside `D` has
changed, and the world differs in its files and its journal alone. -/
theorem clear_empties_cache (c : CacheDir) (w : World) (D : Location)
    (hpath : c.path.isEmpty = false) (h : Anchored w.files w.cwd c.path D)
    (hwf : w.files.WellFormed) :
    match w.files.lookup D with
    | none => c.clear.run w = (.ok 0, w)
    | some (.dir _) => ∃ t j,
        c.clear.run w = (.ok (w.files.childNames D).length, { w with files := t, journal := j }) ∧
        t.readDir w.cwd c.path = .ok [] ∧ AgreeOutside D w.files t
    | some _ => c.clear.run w = (.error (.io .notADirectory), w) := by
  unfold clear
  rw [run_bind_ok (run_query _ w)]
  dsimp only
  rw [h.readDir_self hpath]
  rcases hD : w.files.lookup D with _ | node
  · rfl
  cases node with
  | dir m =>
    dsimp only
    obtain ⟨t, j, hrun, hagree, hlookup⟩ := removeEach_run h (w.files.childNames D) 0
      (hwf.childNames_nodup D) (fun x hx => hwf.plain_of_mem_childNames hx)
      (fun x hx => lookup_ne_none_iff_mem_childNames.mpr hx)
    -- every entry has gone: the named ones by the loop, and no other was there
    have hempty : t.childNames D = [] := childNames_eq_nil fun y => by
      rw [hlookup y]
      split
      · rfl
      · exact not_not.mp (mt lookup_ne_none_iff_mem_childNames.mp ‹_›)
    have hread : t.readDir w.cwd c.path = .ok [] := by
      rw [(h.of_agree hagree).readDir_self hpath, hagree D fun hb => hb.2 rfl, hD, hempty]
    rw [pure_bind, run_bind_ok hrun, Nat.zero_add]
    split
    · obtain ⟨w₂, hlog, hw₂⟩ := run_debug
        ("Deleted " ++ toString (w.files.childNames D).length ++ " cached file(s) from " ++ c.path)
        { w with files := t, journal := j }
      exact ⟨t, w₂.journal, by rw [run_bind_ok hlog, hw₂]; rfl, hread, hagree⟩
    · exact ⟨t, j, rfl, hread, hagree⟩
  | file data mode => rfl
  | link target => rfl
  | device d => rfl

/-- A cache holding a file, a directory with a file in it, a dangling link and a link to a
directory outside: all four entries go, and the linked directory stays. -/
theorem clear_empties_cache_sample :
    let w : World := { files := ⟨[(["cache"], .dir 0o755),
      (["cache", "run.json"], .file "{}".toUTF8 0o644), (["cache", "parts"], .dir 0o755),
      (["cache", "parts", "p0"], .file "x".toUTF8 0o644), (["cache", "stale"], .link "/gone"),
      (["cache", "out"], .link "/srv"), (["srv"], .dir 0o755)]⟩ }
    let c : CacheDir := ⟨"cache"⟩
    (c.path.isEmpty = false ∧ Anchored w.files w.cwd c.path ["cache"] ∧ w.files.WellFormed) ∧
      ∃ t j, c.clear.run w = (.ok 4, { w with files := t, journal := j }) ∧
        t.readDir w.cwd c.path = .ok [] ∧ t.lookup ["srv"] = some (.dir 0o755) := by
  intro w c
  have hcache : w.files.lookup ["cache"] = some (.dir 0o755) := rfl
  have hA : Anchored w.files w.cwd c.path ["cache"] :=
    @Anchored.of_dir_name w.files [] "cache" (by decide) 0o755 hcache
  have hclear := clear_empties_cache c w ["cache"] (by decide) hA (by decide)
  rw [hcache] at hclear
  obtain ⟨t, j, hrun, hread, hagree⟩ := hclear
  refine ⟨⟨by decide, hA, by decide⟩, t, j, hrun, hread, ?_⟩
  rw [hagree ["srv"] fun ⟨hpre, _⟩ => absurd hpre (by decide)]
  rfl

/-- **A cache path through its own entries.** The path `cache/a/../b/..` names `cache` by way of
`cache/a` and `cache/b`. The directory lists `b` first (made last, as the file system listed it),
so removing `b` cuts the path: the entry `a` can no longer be reached, the call fails, and `a`
is left in place. -/
theorem clear_cuts_own_path :
    let w : World := { files := { entries := [(["cache", "b"], .dir 0o755),
      (["cache", "a"], .dir 0o755), (["cache"], .dir 0o755)] } }
    let c : CacheDir := ⟨"cache/a/../b/.."⟩
    w.files.readDir w.cwd c.path = .ok ["b", "a"] ∧
      (c.clear.run w).1 = .error (.io .notFound) ∧
      ((c.clear.run w).2.files.lookup ["cache", "b"]).isNone = true ∧
      ((c.clear.run w).2.files.lookup ["cache", "a"]).isSome = true := by
  decide +kernel

end HostAgent.Store.CacheDir
