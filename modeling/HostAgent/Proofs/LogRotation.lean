import HostAgent.Proofs.DirectoryWalk
import HostAgent.Cli.Logging

/-!
# `Proofs.LogRotation` — rolling the log over

Before a run the log may be rolled over (`LogFile.rotate`): the oldest of its three copies is
dropped, `log.2` and `log.1` move up one where they exist, oldest first, and the log becomes
`log.1`. A failure stops the roll-over where it is.

The log is a name `name` below a directory path `dir`, so the log and its copies are four
entries of one directory `D` (`resolve_join_child`), and each call of the roll-over acts on
them there as long as the walk to `D` does not pass through them (`Anchored`). The main
statements:

* `rotate_shifts_copies`: for a log whose directory is anchored, with no copy a link, a missing
  log changes nothing, a directory as the oldest copy stops the roll-over before any change,
  and otherwise each copy takes the place of the next one with all it holds, the log's place is
  left empty and nothing else changes;
* `rotations_keep_last_three`: over any number of runs, each writing the log afresh and then
  rolling it over, the three copies hold the last three logs written, newest first, followed by
  the copies there were before;
* `rotate_cuts_own_path`: a log path that leaves its directory through `log.2` and comes back
  with `..` is cut by its own roll-over, which moves `log.2` away and then cannot reach the log.
-/

namespace HostAgent.Cli

open HostAgent.Host HostAgent.Host.FileTree

/-! ## Running file changes -/

namespace FileChanges

variable {α β : Type} {t t' : FileTree}

theorem run_bind_ok {x : FileChanges α} {a : α} (h : x.run t = (.ok a, t'))
    (f : α → FileChanges β) : (x >>= f).run t = (f a).run t' := by
  unfold FileChanges.run at *
  rw [ExceptT.run_bind, StateT.run_bind, h]
  rfl

theorem run_bind_error {x : FileChanges α} {e : IoError} (h : x.run t = (.error e, t'))
    (f : α → FileChanges β) : (x >>= f).run t = (.error e, t') := by
  unfold FileChanges.run at *
  rw [ExceptT.run_bind, StateT.run_bind, h]
  rfl

@[simp] theorem run_pure (a : α) (t : FileTree) : (pure a : FileChanges α).run t = (.ok a, t) :=
  rfl

@[simp] theorem run_get_bind (f : FileTree → FileChanges α) (t : FileTree) :
    (get >>= f).run t = (f t).run t := rfl

@[simp] theorem run_set_bind (t₀ : FileTree) (f : Unit → FileChanges α) (t : FileTree) :
    (set t₀ >>= f).run t = (f ()).run t₀ := rfl

@[simp] theorem run_throw_bind (e : IoError) (f : α → FileChanges β) (t : FileTree) :
    (throw e >>= f).run t = (.error e, t) := rfl

theorem run_step_ok {f : FileTree → Except IoError FileTree} (h : f t = .ok t') :
    (step f).run t = (.ok (), t') := by
  unfold step
  simp only [run_get_bind, h]
  rfl

theorem run_step_error {f : FileTree → Except IoError FileTree} {e : IoError}
    (h : f t = .error e) : (step f).run t = (.error e, t) := by
  unfold step
  simp only [run_get_bind, h]
  rfl

end FileChanges

/-! ## The copies of a log -/

namespace LogFile

/-- The name of copy `i` of a log named `name`; copy `0` is the log itself. -/
def copyName (name : String) (i : Nat) : String :=
  if i = 0 then name else name ++ "." ++ toString i

@[simp] theorem copyName_zero (name : String) : copyName name 0 = name := rfl

theorem copyName_of_ne_zero (name : String) {i : Nat} (hi : i ≠ 0) :
    copyName name i = name ++ "." ++ toString i := if_neg hi

theorem toList_toString_ne_nil (i : Nat) : (toString i).toList ≠ [] := by
  rw [show toString i = Nat.repr i from rfl, Nat.toList_repr]
  exact Nat.toDigits_ne_nil

theorem slash_not_mem_toString (i : Nat) : '/' ∉ (toString i).toList := by
  rw [show toString i = Nat.repr i from rfl, Nat.toList_repr]
  intro h
  have hdigit := Nat.isDigit_of_mem_toDigits (by decide) (by decide) h
  exact absurd hdigit (by decide)

/-- A copy of a plain name is a plain name. -/
theorem plainName_copyName {name : String} (hn : Path.PlainName name) (i : Nat) :
    Path.PlainName (copyName name i) := by
  by_cases hi : i = 0
  · subst hi
    exact hn
  rw [copyName_of_ne_zero name hi]
  have hlist : (name ++ "." ++ toString i).toList = name.toList ++ '.' :: (toString i).toList := by
    simp
  -- the copy's name is at least three characters long: the name, the dot and the digits
  have hlong : 3 ≤ (name ++ "." ++ toString i).toList.length := by
    have h₁ := List.length_pos_iff.mpr hn.nonempty
    have h₂ := List.length_pos_iff.mpr (toList_toString_ne_nil i)
    rw [hlist, List.length_append, List.length_cons]
    omega
  refine ⟨by simp, ?_, ?_, ?_⟩
  · rw [hlist, List.mem_append, List.mem_cons]
    rintro (h | h | h)
    · exact hn.no_slash h
    · exact absurd h (by decide)
    · exact slash_not_mem_toString i h
  · rintro h
    rw [h] at hlong
    exact absurd hlong (by decide)
  · rintro h
    rw [h] at hlong
    exact absurd hlong (by decide)

/-- Different copies have different names. -/
theorem copyName_injective {name : String} {i j : Nat}
    (h : copyName name i = copyName name j) : i = j := by
  -- the log's own name is shorter than any copy's
  have hshort : ∀ k, k ≠ 0 → name ≠ name ++ "." ++ toString k := by
    intro k _ hk
    have hlen := congrArg (fun s : String => s.toList.length) hk
    simp at hlen
  by_cases hi : i = 0 <;> by_cases hj : j = 0
  · rw [hi, hj]
  · rw [hi, copyName_zero, copyName_of_ne_zero name hj] at h
    exact absurd h (hshort j hj)
  · rw [hj, copyName_zero, copyName_of_ne_zero name hi] at h
    exact absurd h.symm (hshort i hi)
  · rw [copyName_of_ne_zero name hi, copyName_of_ne_zero name hj] at h
    exact Nat.repr_injective ((String.append_right_inj _).mp h)

/-- The `i`-th rolled-over copy of a log below `dir` is the copy's name below `dir`. -/
theorem backupPath_join (dir : String) {name : String} (hn : Path.PlainName name) {i : Nat}
    (hi : i ≠ 0) : backupPath (Path.join dir name) i = Path.join dir (copyName name i) := by
  have habs := Path.isAbsolute_plain (plainName_copyName hn i)
  rw [copyName_of_ne_zero name hi] at habs ⊢
  unfold backupPath Path.join
  rw [Path.isAbsolute_plain hn, habs]
  by_cases he : dir.isEmpty <;> by_cases hs : dir.endsWith "/" <;>
    simp [he, hs, String.append_assoc]

/-- One copy moved up: copy `n` becomes copy `n + 1` when it is there. -/
def shiftUp (log : String) (cwd : Location) (n : Nat) : FileChanges Unit := do
  if (← get).exists? cwd (backupPath log n) then
    FileChanges.step (·.rename cwd (backupPath log n) (backupPath log (n + 1)))

/-- What the roll-over does once the oldest copy is out of the way: the other copies moved up,
oldest first, and the log made the first copy. -/
def shiftCopies (log : String) (cwd : Location) : FileChanges Unit := do
  ((List.range (backups - 1)).reverse.map (· + 1)).forM (shiftUp log cwd)
  FileChanges.step (·.rename cwd log (backupPath log 1))

/-- The roll-over in two parts: the oldest copy removed (a missing one is no error), then the
others moved up. -/
theorem rotate_run (log : String) (cwd : Location) (t : FileTree) :
    (rotate log cwd).run t =
      if t.exists? cwd log then
        match t.removeFile cwd (backupPath log backups) with
        | .ok t₁ => (shiftCopies log cwd).run t₁
        | .error .notFound => (shiftCopies log cwd).run t
        | .error e => (.error e, t)
      else (.ok (), t) := by
  unfold rotate
  simp only [FileChanges.run_get_bind]
  cases t.exists? cwd log
  · rfl
  · simp only [Bool.not_true, Bool.false_eq_true, ↓reduceIte, FileChanges.run_get_bind]
    rcases t.removeFile cwd (backupPath log backups) with e | t₁
    · cases e <;> rfl
    · rfl

end LogFile

end HostAgent.Cli

/-! ## Moving an entry that is there -/

namespace HostAgent.Host.FileTree

/-- Move `src` to `dst` when `src` is bound, and change nothing otherwise. -/
def moveIfBound (t : FileTree) (src dst : Location) : FileTree :=
  if (t.lookup src).isSome then t.move src dst else t

section MoveIfBound

variable {src dst : Location}

theorem lookup_moveIfBound_apart (t : FileTree) {l : Location} (hl : l ≠ []) (hs : ¬ src <+: l)
    (hd : ¬ dst <+: l) : (t.moveIfBound src dst).lookup l = t.lookup l := by
  unfold moveIfBound
  split
  · exact lookup_move t hl hs hd
  · rfl

theorem agreeOutside_moveIfBound {D : Location} (t : FileTree) (a b : String) :
    AgreeOutside D t (t.moveIfBound (D ++ [a]) (D ++ [b])) := by
  unfold moveIfBound
  split
  · exact agreeOutside_move t a b
  · exact .refl t

variable (hsd : ¬ src <+: dst) (hds : ¬ dst <+: src)
include hsd hds

/-- What was under `src` is under `dst` afterwards, when `dst` held nothing there and an unbound
`src` had nothing below it. -/
theorem lookup_moveIfBound_into (t : FileTree) (p : List String)
    (hvac : t.lookup (dst ++ p) = none)
    (hbelow : t.lookup src = none → t.lookup (src ++ p) = none) :
    (t.moveIfBound src dst).lookup (dst ++ p) = t.lookup (src ++ p) := by
  unfold moveIfBound
  split
  · exact lookup_move_into hsd hds t p
  · rename_i hnone
    rw [hvac, hbelow (by simpa using hnone)]

theorem lookup_moveIfBound_from (t : FileTree) (p : List String)
    (hbelow : t.lookup src = none → t.lookup (src ++ p) = none) :
    (t.moveIfBound src dst).lookup (src ++ p) = none := by
  unfold moveIfBound
  split
  · exact lookup_move_from hsd hds t p
  · rename_i hnone
    exact hbelow (by simpa using hnone)

end MoveIfBound

end HostAgent.Host.FileTree

/-! ## One roll-over of an anchored log -/

namespace HostAgent.Cli.LogFile

open HostAgent.Host HostAgent.Host.FileTree

/-- The tree after a roll-over of the log `name` in `D`: the oldest copy dropped, the copies
that are there moved up one, oldest first, and the log made the first copy. -/
def rolledOver (t : FileTree) (D : Location) (name : String) : FileTree :=
  (((t.erase (D ++ [copyName name 3])).moveIfBound (D ++ [copyName name 2])
      (D ++ [copyName name 3])).moveIfBound (D ++ [copyName name 1]) (D ++ [copyName name 2])).move
    (D ++ [copyName name 0]) (D ++ [copyName name 1])

section Copies

variable {D : Location} {name : String}

/-- Two different copies are entries of `D` apart from each other. -/
theorem copy_not_prefix_copy {i j : Nat} (hij : i ≠ j) (p : List String) :
    ¬ (D ++ [copyName name i]) <+: D ++ [copyName name j] ++ p :=
  not_prefix_append_of_apart (entry_not_prefix_entry fun h => hij (copyName_injective h).symm)
    (entry_not_prefix_entry fun h => hij (copyName_injective h)) p

theorem copy_ne_nil (i : Nat) (p : List String) : D ++ [copyName name i] ++ p ≠ [] := by
  simp

theorem copy_apart {i j : Nat} (hij : i ≠ j) :
    ¬ (D ++ [copyName name i]) <+: D ++ [copyName name j] := fun h =>
  @copy_not_prefix_copy D name i j hij [] (by simpa using h)

end Copies

/-! ### What lies under each copy after a roll-over -/

section View

variable {t : FileTree} {D : Location} {name : String}

theorem lookup_erase_copy {i j : Nat} (hij : i ≠ j) (p : List String) :
    (t.erase (D ++ [copyName name j])).lookup (D ++ [copyName name i] ++ p) =
      t.lookup (D ++ [copyName name i] ++ p) := by
  rw [lookup_erase t _ (copy_ne_nil i p)]
  refine if_neg fun heq => @copy_not_prefix_copy D name j i hij.symm p ?_
  rw [heq]

theorem lookup_moveIfBound_copy {i a b : Nat} (ha : i ≠ a) (hb : i ≠ b) (p : List String) :
    (t.moveIfBound (D ++ [copyName name a]) (D ++ [copyName name b])).lookup
      (D ++ [copyName name i] ++ p) = t.lookup (D ++ [copyName name i] ++ p) :=
  lookup_moveIfBound_apart t (copy_ne_nil i p) (copy_not_prefix_copy ha.symm p)
    (copy_not_prefix_copy hb.symm p)

theorem lookup_move_copy {i a b : Nat} (ha : i ≠ a) (hb : i ≠ b) (p : List String) :
    (t.move (D ++ [copyName name a]) (D ++ [copyName name b])).lookup
      (D ++ [copyName name i] ++ p) = t.lookup (D ++ [copyName name i] ++ p) :=
  lookup_move t (copy_ne_nil i p) (copy_not_prefix_copy ha.symm p) (copy_not_prefix_copy hb.symm p)

/-- **The log's place is left empty.** -/
theorem lookup_rolledOver_log (p : List String) :
    (rolledOver t D name).lookup (D ++ [copyName name 0] ++ p) = none :=
  lookup_move_from (copy_apart (by decide)) (copy_apart (by decide)) _ p

/-- **The first copy holds what the log held.** -/
theorem lookup_rolledOver_first (p : List String) :
    (rolledOver t D name).lookup (D ++ [copyName name 1] ++ p) =
      t.lookup (D ++ [copyName name 0] ++ p) := by
  unfold rolledOver
  rw [lookup_move_into (copy_apart (by decide)) (copy_apart (by decide)),
    lookup_moveIfBound_copy (by decide) (by decide),
    lookup_moveIfBound_copy (by decide) (by decide), lookup_erase_copy (by decide)]

/-- **The second copy holds what the first held**, when a missing first copy had nothing
below it. -/
theorem lookup_rolledOver_second {p : List String}
    (hgap₁ : t.lookup (D ++ [copyName name 1]) = none →
      t.lookup (D ++ [copyName name 1] ++ p) = none)
    (hgap₂ : t.lookup (D ++ [copyName name 2]) = none →
      t.lookup (D ++ [copyName name 2] ++ p) = none) :
    (rolledOver t D name).lookup (D ++ [copyName name 2] ++ p) =
      t.lookup (D ++ [copyName name 1] ++ p) := by
  set t₁ := t.erase (D ++ [copyName name 3])
  set t₂ := t₁.moveIfBound (D ++ [copyName name 2]) (D ++ [copyName name 3])
  -- the places of copies 1 and 2 are as in `t` until copy 2 moves out
  have hsame : ∀ i, i < 3 → ∀ q, t₁.lookup (D ++ [copyName name i] ++ q) =
      t.lookup (D ++ [copyName name i] ++ q) := fun i hi q => lookup_erase_copy (by omega) q
  have hsame₀ : ∀ i, i < 3 → t₁.lookup (D ++ [copyName name i]) =
      t.lookup (D ++ [copyName name i]) := fun i hi => by simpa using hsame i hi []
  have hvac : t₂.lookup (D ++ [copyName name 2] ++ p) = none := by
    apply lookup_moveIfBound_from (copy_apart (by decide)) (copy_apart (by decide))
    intro hnone
    rw [hsame 2 (by decide)]
    exact hgap₂ (hsame₀ 2 (by decide) ▸ hnone)
  have hbelow : t₂.lookup (D ++ [copyName name 1]) = none →
      t₂.lookup (D ++ [copyName name 1] ++ p) = none := by
    intro hnone
    rw [lookup_moveIfBound_apart t₁ (by simp) (copy_apart (by decide)) (copy_apart (by decide)),
      hsame₀ 1 (by decide)] at hnone
    rw [lookup_moveIfBound_copy (by decide) (by decide), hsame 1 (by decide)]
    exact hgap₁ hnone
  unfold rolledOver
  rw [lookup_move_copy (by decide) (by decide),
    lookup_moveIfBound_into (copy_apart (by decide)) (copy_apart (by decide)) t₂ p hvac hbelow,
    lookup_moveIfBound_copy (by decide) (by decide), hsame 1 (by decide)]

/-- **The third copy holds what the second held**, when there was nothing below the oldest
copy's place and a missing second copy had nothing below it. -/
theorem lookup_rolledOver_third {p : List String}
    (hold : p ≠ [] → t.lookup (D ++ [copyName name 3] ++ p) = none)
    (hgap₂ : t.lookup (D ++ [copyName name 2]) = none →
      t.lookup (D ++ [copyName name 2] ++ p) = none) :
    (rolledOver t D name).lookup (D ++ [copyName name 3] ++ p) =
      t.lookup (D ++ [copyName name 2] ++ p) := by
  set t₁ := t.erase (D ++ [copyName name 3])
  -- after the oldest copy is dropped its place is free, also below it
  have hvac : t₁.lookup (D ++ [copyName name 3] ++ p) = none := by
    rw [lookup_erase t _ (copy_ne_nil 3 p)]
    split
    · rfl
    · rename_i hne
      exact hold fun hp => hne (by simp [hp])
  have hbelow : t₁.lookup (D ++ [copyName name 2]) = none →
      t₁.lookup (D ++ [copyName name 2] ++ p) = none := by
    intro hnone
    have h₀ : t₁.lookup (D ++ [copyName name 2]) = t.lookup (D ++ [copyName name 2]) := by
      simpa using @lookup_erase_copy t D name 2 3 (by decide) []
    rw [lookup_erase_copy (by decide)]
    exact hgap₂ (h₀ ▸ hnone)
  unfold rolledOver
  rw [lookup_move_copy (by decide) (by decide), lookup_moveIfBound_copy (by decide) (by decide),
    lookup_moveIfBound_into (copy_apart (by decide)) (copy_apart (by decide)) t₁ p hvac hbelow,
    lookup_erase_copy (by decide)]

/-- **Nothing else changes.** -/
theorem lookup_rolledOver_apart {l : Location}
    (hl : ∀ i ≤ 3, ¬ (D ++ [copyName name i]) <+: l) :
    (rolledOver t D name).lookup l = t.lookup l := by
  by_cases hnil : l = []
  · subst hnil
    rfl
  have hne : l ≠ D ++ [copyName name 3] := by
    rintro rfl
    exact hl 3 (by decide) (List.prefix_refl _)
  unfold rolledOver
  rw [lookup_move _ hnil (hl 0 (by decide)) (hl 1 (by decide)),
    lookup_moveIfBound_apart _ hnil (hl 1 (by decide)) (hl 2 (by decide)),
    lookup_moveIfBound_apart _ hnil (hl 2 (by decide)) (hl 3 (by decide)),
    lookup_erase t _ hnil, if_neg hne]

/-- **Each copy moves up one place**, seen at the copies' own places. -/
theorem lookup_rolledOver_shift {i : Nat} (hi : i < 3) :
    (rolledOver t D name).lookup (D ++ [copyName name (i + 1)]) =
      t.lookup (D ++ [copyName name i]) := by
  obtain rfl | rfl | rfl : i = 0 ∨ i = 1 ∨ i = 2 := by omega
  · simpa using @lookup_rolledOver_first t D name []
  · simpa using @lookup_rolledOver_second t D name [] (by simp) (by simp)
  · simpa using @lookup_rolledOver_third t D name [] (by simp) (by simp)

end View

section Anchored

variable {t : FileTree} {cwd D : Location} {dir name : String}

/-- **One copy moved up**, from an anchored directory into a free place. -/
theorem shiftUp_run (h : Anchored t cwd dir D) (hn : Path.PlainName name) {n : Nat} (hn0 : n ≠ 0)
    (hnl : ∀ target, t.lookup (D ++ [copyName name n]) ≠ some (.link target))
    (hvac : t.lookup (D ++ [copyName name (n + 1)]) = none) :
    (shiftUp (Path.join dir name) cwd n).run t =
      (.ok (), t.moveIfBound (D ++ [copyName name n]) (D ++ [copyName name (n + 1)])) := by
  unfold shiftUp moveIfBound
  simp only [FileChanges.run_get_bind]
  rw [backupPath_join dir hn hn0, backupPath_join dir hn (Nat.succ_ne_zero n),
    h.exists?_join (plainName_copyName hn n) hnl]
  rcases hsrc : t.lookup (D ++ [copyName name n]) with _ | node
  · rfl
  · have hne : copyName name n ≠ copyName name (n + 1) := fun heq => by
      have := copyName_injective heq
      omega
    simp only [Option.isSome_some, ↓reduceIte]
    exact FileChanges.run_step_ok
      (h.rename_join (plainName_copyName hn n) (plainName_copyName hn (n + 1)) hne hsrc hvac)

/-- **The copies moved up and the log made the first copy**, once the oldest copy's place is
free. -/
theorem shiftCopies_run (h : Anchored t cwd dir D) (hn : Path.PlainName name)
    (hnl : ∀ i, 0 < i → i < 3 → ∀ target, t.lookup (D ++ [copyName name i]) ≠ some (.link target))
    (hvac : t.lookup (D ++ [copyName name 3]) = none) {node : Node}
    (hlog : t.lookup (D ++ [copyName name 0]) = some node) :
    (shiftCopies (Path.join dir name) cwd).run t =
      (.ok (), ((t.moveIfBound (D ++ [copyName name 2]) (D ++ [copyName name 3])).moveIfBound
        (D ++ [copyName name 1]) (D ++ [copyName name 2])).move (D ++ [copyName name 0])
        (D ++ [copyName name 1])) := by
  set t₂ := t.moveIfBound (D ++ [copyName name 2]) (D ++ [copyName name 3])
  set t₃ := t₂.moveIfBound (D ++ [copyName name 1]) (D ++ [copyName name 2])
  have h₂ : Anchored t₂ cwd dir D := h.of_agree (agreeOutside_moveIfBound t _ _)
  have h₃ : Anchored t₃ cwd dir D := h₂.of_agree (agreeOutside_moveIfBound t₂ _ _)
  -- copy 2 moves into the free place of copy 3, and leaves its own place free for copy 1
  have hrun₂ : (shiftUp (Path.join dir name) cwd 2).run t = (.ok (), t₂) :=
    shiftUp_run h hn (by decide) (hnl 2 (by decide) (by decide)) hvac
  have hone : t₂.lookup (D ++ [copyName name 1]) = t.lookup (D ++ [copyName name 1]) :=
    lookup_moveIfBound_apart t (by simp) (copy_apart (by decide)) (copy_apart (by decide))
  have hvac₂ : t₂.lookup (D ++ [copyName name 2]) = none := by
    simpa using lookup_moveIfBound_from (copy_apart (by decide)) (copy_apart (by decide)) t []
      (by simp)
  have hrun₁ : (shiftUp (Path.join dir name) cwd 1).run t₂ = (.ok (), t₃) :=
    shiftUp_run h₂ hn (by decide) (hone ▸ hnl 1 (by decide) (by decide)) hvac₂
  have hloop : ([2, 1].forM (shiftUp (Path.join dir name) cwd)).run t = (.ok (), t₃) := by
    rw [List.forM_eq_forM, List.forM_cons, FileChanges.run_bind_ok hrun₂, List.forM_cons,
      FileChanges.run_bind_ok hrun₁]
    rfl
  -- the log is still in its place, and the place of copy 1 is free
  have hlog₃ : t₃.lookup (D ++ [copyName name 0]) = some node := by
    rw [lookup_moveIfBound_apart t₂ (by simp) (copy_apart (by decide)) (copy_apart (by decide)),
      lookup_moveIfBound_apart t (by simp) (copy_apart (by decide)) (copy_apart (by decide)), hlog]
  have hvac₃ : t₃.lookup (D ++ [copyName name 1]) = none := by
    simpa using lookup_moveIfBound_from (copy_apart (by decide)) (copy_apart (by decide)) t₂ []
      (by simp)
  have hlist : (List.range (backups - 1)).reverse.map (· + 1) = [2, 1] := rfl
  unfold shiftCopies
  rw [hlist, FileChanges.run_bind_ok hloop, backupPath_join dir hn one_ne_zero]
  exact FileChanges.run_step_ok (h₃.rename_join hn (plainName_copyName hn 1)
    (fun heq => absurd (copyName_injective (i := 0) heq) (by decide)) hlog₃ hvac₃)

/-- **The roll-over of an anchored log**, whose copies below the oldest are no links: nothing
happens without a log, a directory as the oldest copy stops it before any change, and otherwise
it ends with the tree `rolledOver`. -/
theorem rotate_run_anchored (h : Anchored t cwd dir D) (hn : Path.PlainName name)
    (hnl : ∀ i < 3, ∀ target, t.lookup (D ++ [copyName name i]) ≠ some (.link target)) :
    (rotate (Path.join dir name) cwd).run t =
      match t.lookup (D ++ [copyName name 0]), t.lookup (D ++ [copyName name 3]) with
      | none, _ => (.ok (), t)
      | some _, some (.dir _) => (.error .isADirectory, t)
      | some _, _ => (.ok (), rolledOver t D name) := by
  -- once the oldest copy is out of the way the rest runs on `t.erase` of its place
  have hrest : ∀ node, t.lookup (D ++ [copyName name 0]) = some node →
      (shiftCopies (Path.join dir name) cwd).run (t.erase (D ++ [copyName name 3])) =
        (.ok (), rolledOver t D name) := by
    intro node hlog
    have hsame : ∀ i < 3, (t.erase (D ++ [copyName name 3])).lookup (D ++ [copyName name i]) =
        t.lookup (D ++ [copyName name i]) := fun i hi => by
      rw [lookup_erase t _ (by simp), if_neg fun heq => by
        have := copyName_injective (by simpa using heq)
        omega]
    exact shiftCopies_run (h.of_agree (agreeOutside_erase t _)) hn
      (fun i _ hi target => hsame i hi ▸ hnl i hi target) (by simp [lookup_erase])
      ((hsame 0 (by decide)).trans hlog)
  have hb : backups = 3 := rfl
  rw [rotate_run, h.exists?_join hn (hnl 0 (by decide)), hb, backupPath_join dir hn (by decide),
    h.removeFile_join (plainName_copyName hn 3)]
  rcases hlog : t.lookup (D ++ [copyName name 0]) with _ | node
  · have hlog' : t.lookup (D ++ [name]) = none := hlog
    simp [hlog']
  · have hlog' : t.lookup (D ++ [name]) = some node := hlog
    simp only [hlog', Option.isSome_some, ↓reduceIte]
    rcases hold : t.lookup (D ++ [copyName name 3]) with _ | oldest
    · -- no oldest copy: the rest runs on the tree as it is
      have h' := hrest node hlog
      rwa [erase_eq_self (by simp) hold] at h'
    · cases oldest with
      | dir m => rfl
      | file data m => exact hrest node hlog
      | link target => exact hrest node hlog
      | device d => exact hrest node hlog

/-- **Rolling an anchored log over.** Whatever the tree, when the log's directory path stays out
of the log and its copies and none of the log and its two newest copies is a link: a missing
log leaves everything as it is; a directory as the oldest copy stops the roll-over before it
changes anything; otherwise the roll-over succeeds, the log's place is empty, each copy holds
what the one before it held (with everything below it, and nothing where that one was
missing), and nothing outside the four places changes. -/
theorem rotate_shifts_copies (h : Anchored t cwd dir D) (hn : Path.PlainName name) (hr : t.Rooted)
    (hnl : ∀ i < 3, ∀ target, t.lookup (D ++ [copyName name i]) ≠ some (.link target)) :
    (t.lookup (D ++ [name]) = none → (rotate (Path.join dir name) cwd).run t = (.ok (), t)) ∧
    (∀ m, t.lookup (D ++ [name]) ≠ none → t.lookup (D ++ [copyName name 3]) = some (.dir m) →
      (rotate (Path.join dir name) cwd).run t = (.error .isADirectory, t)) ∧
    (t.lookup (D ++ [name]) ≠ none → (∀ m, t.lookup (D ++ [copyName name 3]) ≠ some (.dir m)) →
      ∃ t', (rotate (Path.join dir name) cwd).run t = (.ok (), t') ∧
        (∀ p, t'.lookup (D ++ [name] ++ p) = none) ∧
        (∀ i < 3, ∀ p, t'.lookup (D ++ [copyName name (i + 1)] ++ p) =
          t.lookup (D ++ [copyName name i] ++ p)) ∧
        (∀ l, (∀ i ≤ 3, ¬ (D ++ [copyName name i]) <+: l) → t'.lookup l = t.lookup l)) := by
  have hrun := rotate_run_anchored h hn hnl
  simp only [copyName_zero] at hrun
  refine ⟨fun hlog => by simp [hrun, hlog], fun m hlog hold => ?_, fun hlog hold => ?_⟩
  · obtain ⟨node, hnode⟩ := Option.ne_none_iff_exists'.mp hlog
    simp [hrun, hnode, hold]
  obtain ⟨node, hnode⟩ := Option.ne_none_iff_exists'.mp hlog
  refine ⟨rolledOver t D name, ?_, lookup_rolledOver_log, ?_,
    fun l hl => lookup_rolledOver_apart hl⟩
  · rw [hrun, hnode]
    rcases hthird : t.lookup (D ++ [copyName name 3]) with _ | oldest
    · rfl
    · cases oldest with
      | dir m => exact absurd hthird (hold m)
      | file data m => rfl
      | link target => rfl
      | device d => rfl
  · intro i hi p
    -- in a rooted tree nothing hangs below a missing copy, nor below a copy that is no directory
    have hgap : ∀ k, t.lookup (D ++ [copyName name k]) = none →
        t.lookup (D ++ [copyName name k] ++ p) = none := by
      intro k hk
      by_cases hp : p = []
      · simpa [hp] using hk
      · exact hr.lookup_below (by simp [hk]) p hp
    obtain rfl | rfl | rfl : i = 0 ∨ i = 1 ∨ i = 2 := by omega
    · exact lookup_rolledOver_first p
    · exact lookup_rolledOver_second (hgap 1) (hgap 2)
    · exact lookup_rolledOver_third (fun hp => hr.lookup_below hold p hp) (hgap 2)

/-- Nothing outside `D`'s entries changes in a roll-over. -/
theorem agreeOutside_rolledOver (t : FileTree) : AgreeOutside D t (rolledOver t D name) :=
  fun _ hl => lookup_rolledOver_apart fun _ _ => not_entry_prefix_of_outside hl _

end Anchored

/-! ## Runs one after another -/

/-- The bytes a place holds as a regular file. -/
def fileData : Option Node → Option ByteArray
  | some (.file data _) => some data
  | _ => none

/-- What the three copies hold as files, newest first. -/
def copiesData (t : FileTree) (D : Location) (name : String) : List (Option ByteArray) :=
  [1, 2, 3].map fun i => fileData (t.lookup (D ++ [copyName name i]))

/-- Runs one after another, each writing the log afresh (created with mode 644) and then
rolling it over. -/
def rotations (log : String) (cwd : Location) (logs : List ByteArray) : FileChanges Unit :=
  logs.forM fun data => do
    FileChanges.step (·.writeFile cwd log data 0o644)
    rotate log cwd

/-- The log and its copies each hold a regular file or nothing. -/
def FilesOnly (t : FileTree) (D : Location) (name : String) : Prop :=
  ∀ i ≤ 3, (t.lookup (D ++ [copyName name i])).all Node.isFile

instance (t : FileTree) (D : Location) (name : String) : Decidable (FilesOnly t D name) :=
  inferInstanceAs (Decidable (∀ i ≤ 3, (t.lookup (D ++ [copyName name i])).all Node.isFile))

theorem eq_file_of_all_isFile {o : Option Node} (h : o.all Node.isFile) :
    o = none ∨ ∃ data m, o = some (.file data m) := by
  rcases o with _ | node
  · exact .inl rfl
  · cases node <;> simp_all [Node.isFile]

theorem FilesOnly.no_link {t : FileTree} {D : Location} {name : String} (hf : FilesOnly t D name) :
    ∀ i ≤ 3, ∀ target, t.lookup (D ++ [copyName name i]) ≠ some (.link target) := by
  intro i hi target hl
  simpa [hl, Node.isFile] using hf i hi

section Runs

variable {t : FileTree} {cwd D : Location} {dir name : String}

/-- Writing the log where a regular file or nothing stands puts a file with the bytes there. -/
theorem writeFile_log (h : Anchored t cwd dir D) (hn : Path.PlainName name)
    (hlog : (t.lookup (D ++ [name])).all Node.isFile) (data : ByteArray) :
    ∃ m, t.writeFile cwd (Path.join dir name) data 0o644 =
      .ok (t.insert (D ++ [name]) (.file data m)) := by
  rcases eq_file_of_all_isFile hlog with hnone | ⟨old, m, hold⟩
  · exact ⟨0o644, by rw [h.writeFile_join hn (by simp [hnone]), hnone]⟩
  · exact ⟨m, by rw [h.writeFile_join hn (by simp [hold]), hold]⟩

/-- **One run**: the log written afresh and rolled over becomes the first copy, the copies move
up, the log's place is left empty and nothing outside the four places changes. -/
theorem writeRotate_run (h : Anchored t cwd dir D) (hn : Path.PlainName name)
    (hfiles : FilesOnly t D name) (data : ByteArray) :
    ∃ t', (FileChanges.step (·.writeFile cwd (Path.join dir name) data 0o644) >>= fun _ =>
        rotate (Path.join dir name) cwd).run t = (.ok (), t') ∧
      Anchored t' cwd dir D ∧ FilesOnly t' D name ∧ t'.lookup (D ++ [name]) = none ∧
      copiesData t' D name = (some data :: copiesData t D name).take 3 ∧
      ∀ l, (∀ i ≤ 3, ¬ (D ++ [copyName name i]) <+: l) → t'.lookup l = t.lookup l := by
  have hnolink := hfiles.no_link
  -- the write puts a file with the new bytes in the log's place, and touches nothing else
  obtain ⟨m, hwrite⟩ := writeFile_log h hn (by simpa using hfiles 0 (by decide)) data
  set t₁ := t.insert (D ++ [name]) (.file data m)
  have hsame : ∀ i, i ≠ 0 →
      t₁.lookup (D ++ [copyName name i]) = t.lookup (D ++ [copyName name i]) := fun i hi => by
    rw [lookup_insert t _ _ (by simp),
      if_neg fun heq => hi (copyName_injective (by simpa using heq))]
  have hlog₁ : t₁.lookup (D ++ [name]) = some (.file data m) := by
    rw [lookup_insert t _ _ (by simp), if_pos rfl]
  have h₁ : Anchored t₁ cwd dir D := h.of_agree (agreeOutside_insert t _ _)
  have hnolink₁ : ∀ i < 3, ∀ target, t₁.lookup (D ++ [copyName name i]) ≠ some (.link target) := by
    intro i hi target
    by_cases hi0 : i = 0
    · subst hi0
      simp [hlog₁]
    · rw [hsame i hi0]
      exact hnolink i (by omega) target
  -- the roll-over then finds a log and no directory as the oldest copy
  have hrot : (rotate (Path.join dir name) cwd).run t₁ = (.ok (), rolledOver t₁ D name) := by
    rw [rotate_run_anchored h₁ hn hnolink₁, copyName_zero, hlog₁, hsame 3 (by decide)]
    rcases eq_file_of_all_isFile (hfiles 3 (by decide)) with hold | ⟨old, m', hold⟩ <;> rw [hold]
  have hempty : (rolledOver t₁ D name).lookup (D ++ [name]) = none := by
    simpa using @lookup_rolledOver_log t₁ D name []
  refine ⟨rolledOver t₁ D name, ?_, h₁.of_agree (agreeOutside_rolledOver t₁), ?_, hempty, ?_, ?_⟩
  · rw [FileChanges.run_bind_ok (FileChanges.run_step_ok hwrite)]
    exact hrot
  · -- the log's place is empty, and each copy holds what a file or nothing held before
    intro i hi
    rcases Nat.eq_zero_or_pos i with rfl | hpos
    · simp [hempty]
    · obtain ⟨k, rfl⟩ : ∃ k, i = k + 1 := ⟨i - 1, by omega⟩
      rw [lookup_rolledOver_shift (by omega)]
      by_cases hk : k = 0
      · subst hk
        simp [hlog₁, Node.isFile]
      · rw [hsame k hk]
        exact hfiles k (by omega)
  · have hshift := @lookup_rolledOver_shift t₁ D name
    simp only [copiesData, List.map_cons, List.map_nil, hshift (i := 0) (by decide),
      hshift (i := 1) (by decide), hshift (i := 2) (by decide), copyName_zero, hlog₁,
      hsame 1 (by decide), hsame 2 (by decide)]
    rfl
  · intro l hl
    rw [lookup_rolledOver_apart hl]
    have hne : l ≠ D ++ [name] := by
      rintro rfl
      exact hl 0 (by decide) (List.prefix_refl _)
    by_cases hnil : l = []
    · subst hnil
      rfl
    · rw [lookup_insert t _ _ hnil, if_neg hne]

/-- **The last three logs are kept, newest first.** Over any number of runs, each writing the
log afresh and rolling it over, in a directory that stays out of the log and its copies and
with each of them a regular file or nothing at first: every run succeeds, the copies hold the
logs written, newest first, followed by the copies there were before, cut to three; the log's
place is empty after the first run, and nothing outside the four places changes. -/
theorem rotations_keep_last_three (h : Anchored t cwd dir D) (hn : Path.PlainName name)
    (hfiles : FilesOnly t D name) (logs : List ByteArray) :
    ∃ t', (rotations (Path.join dir name) cwd logs).run t = (.ok (), t') ∧
      FilesOnly t' D name ∧ (logs ≠ [] → t'.lookup (D ++ [name]) = none) ∧
      copiesData t' D name = (logs.reverse.map some ++ copiesData t D name).take 3 ∧
      ∀ l, (∀ i ≤ 3, ¬ (D ++ [copyName name i]) <+: l) → t'.lookup l = t.lookup l := by
  induction logs generalizing t with
  | nil =>
    refine ⟨t, rfl, hfiles, fun hne => absurd rfl hne, ?_, fun _ _ => rfl⟩
    simp [copiesData]
  | cons data rest ih =>
    -- one run, then the remaining runs from the tree it leaves
    obtain ⟨t₁, hrun₁, h₁, hfiles₁, hlog₁, hcopies₁, hframe₁⟩ := writeRotate_run h hn hfiles data
    obtain ⟨t', hrun', hfiles', hlog', hcopies', hframe'⟩ := ih h₁ hfiles₁
    have htake : ∀ xs ys : List (Option ByteArray),
        (xs ++ ys.take 3).take 3 = (xs ++ ys).take 3 := by
      intro xs ys
      rw [List.take_append, List.take_append, List.take_take]
      congr 2
      omega
    refine ⟨t', ?_, hfiles', fun _ => ?_, ?_, fun l hl => (hframe' l hl).trans (hframe₁ l hl)⟩
    · unfold rotations
      rw [List.forM_eq_forM, List.forM_cons, FileChanges.run_bind_ok hrun₁]
      exact hrun'
    · rcases rest with _ | ⟨next, rest⟩
      · -- after the last run the tree is the one it left
        have hsame : ((Except.ok () : Except IoError Unit), t₁) = (.ok (), t') := hrun'
        rw [← (Prod.mk.inj hsame).2]
        exact hlog₁
      · exact hlog' (List.cons_ne_nil next rest)
    · rw [hcopies', hcopies₁, htake]
      simp

/-- **Rolling the log over keeps the last three logs.** For a log whose directory path stays out
of the log and its copies: in a rooted tree where none of the log and its two newest copies is
a link, one roll-over does nothing without a log, stops before any change at a directory as
the oldest copy, and otherwise moves each copy up one with all it holds and empties the log's
place, changing nothing else; and when the log and its copies are regular files or nothing,
any number of runs that each write the log afresh and roll it over leave the last three logs in
the copies, newest first. -/
theorem rotate_contract (h : Anchored t cwd dir D) (hn : Path.PlainName name) :
    ((t.Rooted ∧ ∀ i < 3, ∀ target, t.lookup (D ++ [copyName name i]) ≠ some (.link target)) →
      (t.lookup (D ++ [name]) = none → (rotate (Path.join dir name) cwd).run t = (.ok (), t)) ∧
      (∀ m, t.lookup (D ++ [name]) ≠ none → t.lookup (D ++ [copyName name 3]) = some (.dir m) →
        (rotate (Path.join dir name) cwd).run t = (.error .isADirectory, t)) ∧
      (t.lookup (D ++ [name]) ≠ none → (∀ m, t.lookup (D ++ [copyName name 3]) ≠ some (.dir m)) →
        ∃ t', (rotate (Path.join dir name) cwd).run t = (.ok (), t') ∧
          (∀ p, t'.lookup (D ++ [name] ++ p) = none) ∧
          (∀ i < 3, ∀ p, t'.lookup (D ++ [copyName name (i + 1)] ++ p) =
            t.lookup (D ++ [copyName name i] ++ p)) ∧
          (∀ l, (∀ i ≤ 3, ¬ (D ++ [copyName name i]) <+: l) → t'.lookup l = t.lookup l))) ∧
    (FilesOnly t D name → ∀ logs : List ByteArray,
      ∃ t', (rotations (Path.join dir name) cwd logs).run t = (.ok (), t') ∧
        FilesOnly t' D name ∧ (logs ≠ [] → t'.lookup (D ++ [name]) = none) ∧
        copiesData t' D name = (logs.reverse.map some ++ copiesData t D name).take 3 ∧
        ∀ l, (∀ i ≤ 3, ¬ (D ++ [copyName name i]) <+: l) → t'.lookup l = t.lookup l) :=
  ⟨fun ⟨hr, hnl⟩ => rotate_shifts_copies h hn hr hnl,
    fun hfiles logs => rotations_keep_last_three h hn hfiles logs⟩

end Runs

/-- The contract at a log in the working directory with an older copy beside it. -/
theorem rotate_contract_sample :
    let t : FileTree := ⟨[(["hostwatch.log"], .file "run 2".toUTF8 0o644),
      (["hostwatch.log.1"], .file "run 1".toUTF8 0o644)]⟩
    let name := "hostwatch.log"
    Anchored t [] "" [] ∧ Path.PlainName name ∧ t.Rooted ∧ FilesOnly t [] name ∧
      ((t.lookup ([] ++ [name]) = none → (rotate (Path.join "" name) []).run t = (.ok (), t)) ∧
      (∀ m, t.lookup ([] ++ [name]) ≠ none → t.lookup ([] ++ [copyName name 3]) = some (.dir m) →
        (rotate (Path.join "" name) []).run t = (.error .isADirectory, t)) ∧
      (t.lookup ([] ++ [name]) ≠ none → (∀ m, t.lookup ([] ++ [copyName name 3]) ≠ some (.dir m)) →
        ∃ t', (rotate (Path.join "" name) []).run t = (.ok (), t') ∧
          (∀ p, t'.lookup ([] ++ [name] ++ p) = none) ∧
          (∀ i < 3, ∀ p, t'.lookup ([] ++ [copyName name (i + 1)] ++ p) =
            t.lookup ([] ++ [copyName name i] ++ p)) ∧
          (∀ l, (∀ i ≤ 3, ¬ ([] ++ [copyName name i]) <+: l) → t'.lookup l = t.lookup l))) ∧
      (∀ logs : List ByteArray,
        ∃ t', (rotations (Path.join "" name) [] logs).run t = (.ok (), t') ∧
          FilesOnly t' [] name ∧ (logs ≠ [] → t'.lookup ([] ++ [name]) = none) ∧
          copiesData t' [] name = (logs.reverse.map some ++ copiesData t [] name).take 3 ∧
          ∀ l, (∀ i ≤ 3, ¬ ([] ++ [copyName name i]) <+: l) → t'.lookup l = t.lookup l) := by
  intro t name
  have hn : Path.PlainName name := ⟨by decide, by decide, by decide, by decide⟩
  have hr : t.Rooted := by decide +kernel
  have hf : FilesOnly t [] name := by decide +kernel
  have hc := rotate_contract (Anchored.here t []) hn
  exact ⟨Anchored.here t [], hn, hr, hf,
    hc.1 ⟨hr, fun i hi => hf.no_link i (by omega)⟩, hc.2 hf⟩

/-- **A log path through its own copy is cut by the roll-over.** The log
`x/hostwatch.log.2/../hostwatch.log` is a file, its second copy a directory and the other copies
missing, none of them a link; yet the roll-over moves `x/hostwatch.log.2` up to
`x/hostwatch.log.3`, which removes the directory the log's own path runs through, and then
fails to find the log. -/
theorem rotate_cuts_own_path :
    let t : FileTree := ⟨[(["x"], .dir 0o755), (["x", "hostwatch.log.2"], .dir 0o755),
      (["x", "hostwatch.log"], .file "old".toUTF8 0o644)]⟩
    let log := "x/hostwatch.log.2/../hostwatch.log"
    t.resolve [] log false = .ok ["x", "hostwatch.log"] ∧
      (t.lookup ["x", "hostwatch.log"]).any Node.isFile ∧
      t.resolve [] (backupPath log 1) false = .ok ["x", "hostwatch.log.1"] ∧
      (t.lookup ["x", "hostwatch.log.1"]).isNone ∧
      t.resolve [] (backupPath log 2) false = .ok ["x", "hostwatch.log.2"] ∧
      (t.lookup ["x", "hostwatch.log.2"]).any Node.isDir ∧
      t.resolve [] (backupPath log 3) false = .ok ["x", "hostwatch.log.3"] ∧
      (t.lookup ["x", "hostwatch.log.3"]).isNone ∧
      ((rotate log []).run t).1 = .error .notFound ∧
      (((rotate log []).run t).2.lookup ["x", "hostwatch.log.3"]).any Node.isDir := by
  decide +kernel

end HostAgent.Cli.LogFile
