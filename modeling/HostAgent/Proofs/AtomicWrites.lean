import HostAgent.Proofs.DirectoryCreation
import HostAgent.Proofs.DirectoryWalk
import HostAgent.Proofs.StoreWrites
import HostAgent.Proofs.WriteOutcome

/-!
# `Proofs.AtomicWrites` — replacing a file of the state directory

`StateStore.writeAtomic` makes the state directory, creates an empty temporary file beside the
target under a fresh name, writes and flushes the bytes, sets its mode and renames it onto the
target; when any step on the temporary file fails it removes the file again.
`writeAtomic_done_lookup` reads a finished write of `Proofs.WriteOutcome` in the tree, and
`writeAtomic_replaces_or_keeps` reads both outcomes. For
a state directory whose path has no `..` and no link on its way, in a rooted tree, a write that
succeeds leaves exactly the bytes at the target, at mode 600, and a write that fails, at
whichever step and whatever the storage answered, leaves the target as it was; in both cases
nothing else changes apart from the directories made on the way, and no temporary file is left
behind. A finished write therefore makes no link (`writeAtomic_addsNoLink`).

The tree facts the rename rests on come first: moving a binding with nothing below it
(`lookup_move_single`), and a placed temporary file moved onto another entry's place
(`lookup_tmp_moved`). The condition on the way cannot be dropped: in `writeAtomic_cuts_own_way`
the state directory is reached through a link that the write itself replaces, so the bytes
written no longer lie where the path leads.
-/

namespace HostAgent.Host.FileTree

/-! ## Moving a single binding -/

section MoveSingle

variable {t : FileTree} {src dst : Location}

/-- **Moving a binding with nothing below it onto a place with nothing below it** empties
`src` and leaves every location but `dst` as it was. -/
theorem lookup_move_single (hsd : ¬ src <+: dst) (hds : ¬ dst <+: src)
    (hsrc : ∀ p, p ≠ [] → t.lookup (src ++ p) = none)
    (hdst : ∀ p, p ≠ [] → t.lookup (dst ++ p) = none) {l : Location} (hl : l ≠ [])
    (hne : l ≠ dst) : (t.move src dst).lookup l = if l = src then none else t.lookup l := by
  by_cases hs : src <+: l
  · obtain ⟨p, rfl⟩ := hs
    rw [lookup_move_from hsd hds t p]
    by_cases hp : p = []
    · simp [hp]
    · rw [if_neg (by simpa using hp), hsrc p hp]
  by_cases hd : dst <+: l
  · obtain ⟨p, rfl⟩ := hd
    have hp : p ≠ [] := fun h => hne (by simp [h])
    rw [lookup_move_into hsd hds t p, hsrc p hp, hdst p hp]
    simp
  · rw [lookup_move t hl hs hd, if_neg fun (h : l = src) => hs (h ▸ List.prefix_refl _)]

end MoveSingle

/-! ## A temporary file beside a directory's entries -/

section Temporary

variable {t : FileTree} {D : Location} {n name : String}

/-- **A temporary file moved onto another entry's place** leaves its node there and every other
location as it was before the file was made, when nothing hangs below either place. -/
theorem lookup_tmp_moved (hnn : n ≠ name) (hfresh : t.lookup (D ++ [n]) = none)
    (hbelow_tmp : ∀ p, p ≠ [] → t.lookup (D ++ [n] ++ p) = none)
    (hbelow_dst : ∀ p, p ≠ [] → t.lookup (D ++ [name] ++ p) = none) (a : Node) :
    ((t.insert (D ++ [n]) a).move (D ++ [n]) (D ++ [name])).lookup (D ++ [name]) = some a ∧
      ∀ l, l ≠ [] → l ≠ D ++ [name] →
        ((t.insert (D ++ [n]) a).move (D ++ [n]) (D ++ [name])).lookup l = t.lookup l := by
  have hsd : ¬ (D ++ [n]) <+: (D ++ [name]) := entry_not_prefix_entry hnn
  have hds : ¬ (D ++ [name]) <+: (D ++ [n]) := entry_not_prefix_entry (Ne.symm hnn)
  -- the file placed at `D ++ [n]`, seen before the move
  have hplaced : ∀ l, l ≠ [] → (t.insert (D ++ [n]) a).lookup l =
      if l = D ++ [n] then some a else t.lookup l :=
    fun l hl => lookup_insert _ _ _ hl
  have hsrc : ∀ p, p ≠ [] → (t.insert (D ++ [n]) a).lookup (D ++ [n] ++ p) = none := by
    intro p hp
    rw [hplaced _ (by simp), if_neg fun h => hp (by simpa using h)]
    exact hbelow_tmp p hp
  have hdst : ∀ p, p ≠ [] → (t.insert (D ++ [n]) a).lookup (D ++ [name] ++ p) = none := by
    intro p hp
    rw [hplaced _ (by simp), if_neg fun h => hp (by simpa using congrArg List.length h)]
    exact hbelow_dst p hp
  have hinto := lookup_move_into hsd hds (t.insert (D ++ [n]) a) []
  rw [List.append_nil, List.append_nil, hplaced _ (by simp), if_pos rfl] at hinto
  refine ⟨hinto, fun l hl hne => ?_⟩
  rw [lookup_move_single hsd hds hsrc hdst hl hne, hplaced l hl]
  split
  · rename_i heq
    rw [heq, hfresh]
  · rfl

/-- In a tree that agrees with a rooted one off the way to `D`, nothing hangs below an entry of
`D` that is no directory. -/
theorem Rooted.lookup_below_entry {t₀ : FileTree} (hr : t₀.Rooted)
    (hagree : ∀ l, ¬ l <+: D → t.lookup l = t₀.lookup l) {x : String}
    (hx : ∀ m, t.lookup (D ++ [x]) ≠ some (.dir m)) :
    ∀ p, p ≠ [] → t.lookup (D ++ [x] ++ p) = none := by
  have hoff : ∀ p, ¬ (D ++ [x] ++ p) <+: D := fun p h => by simpa using h.length_le
  intro p hp
  rw [hagree _ (hoff p)]
  refine hr.lookup_below (fun m hm => hx m ?_) p hp
  rw [hagree _ (by simpa using hoff [])]
  exact hm

end Temporary

end HostAgent.Host.FileTree

namespace HostAgent.Store.StateStore

open HostAgent.Host HostAgent.Host.FileTree Agent

variable {s : StateStore} {t t' : FileTree} {cwd : Location} {n : String}

/-- **The tree a finished atomic write leaves**, for a state directory whose path has no `..` and
no link on its way, in a tree where every binding hangs below a directory: the directories made on
the state directory's way, which is then a chain of directories, and the bytes at the file's
place. Every other location holds what making the directories left there. -/
theorem writeAtomic_done_lookup (hs : s.Plain) {name : String} (hname : Path.PlainName name)
    {bytes : ByteArray} {w w' : World} {u : Unit} (hfree : w.files.LinkFree (s.base w.cwd) s.names)
    (hr : w.files.Rooted) (h : (s.writeAtomic (Path.join s.dir name) bytes).run w = (.ok u, w')) :
    ∃ t₁, AddsDirs w.files t₁ ∧
      (∀ l, ¬ l <+: s.base w.cwd ++ s.names → t₁.lookup l = w.files.lookup l) ∧
      t₁.DirChain (s.base w.cwd) s.names ∧
      w'.files.lookup (s.fileLoc w.cwd name) = some (.file bytes 0o600) ∧
      ∀ l, l ≠ [] → l ≠ s.fileLoc w.cwd name → w'.files.lookup l = t₁.lookup l := by
  have hout := writeAtomic_outcome hs hfree (Path.join s.dir name) bytes w rfl
  rw [h] at hout
  obtain ⟨n, p, t', ⟨t₁, E, hdirs, hn, hfresh, hchain, rfl⟩, hren, rfl⟩ := hout
  -- `D` is where the state directory lies; its files lie one step below it
  set D := s.base w.cwd ++ s.names with hD
  have hfresh₁ : t₁.lookup (D ++ [n]) = none := hfresh
  -- making the directories acts on the state directory's way alone
  have hframe₁ : ∀ l, ¬ l <+: D → t₁.lookup l = w.files.lookup l := mkdirAll_above hs hfree hdirs
  refine ⟨t₁, mkdirAllWith_eq_ok _ _ hdirs, hframe₁, hchain, ?_⟩
  -- the finished temporary file, placed in the anchored directory
  set P := t₁.insert (D ++ [n]) (.file bytes 0o600) with hP
  have hA : Anchored P w.cwd s.dir D :=
    (anchored_of_dirChain hs hchain).of_agree (agreeOutside_insert t₁ n _)
  have hfile : P.lookup (D ++ [n]) = some (.file bytes 0o600) := by
    rw [hP, lookup_insert _ _ _ (by simp), if_pos rfl]
  have hlook : ∀ l, l ≠ [] → l ≠ D ++ [n] → P.lookup l = t₁.lookup l := fun l hl hne => by
    rw [hP, lookup_insert _ _ _ hl, if_neg hne]
  replace hren : P.rename w.cwd (Path.join s.dir n) (Path.join s.dir name) = .ok t' := hren
  by_cases hsame : n = name
  · -- the temporary name is the file's own: the rename has nothing to do
    subst hsame
    rw [hA.rename_join_self hn.otherName.plain hfile] at hren
    have ht' : t' = P := (Except.ok.inj hren).symm
    subst ht'
    exact ⟨hfile, hlook⟩
  rw [hA.rename_join_file hn.otherName.plain hname hsame hfile] at hren
  -- a directory at the file's place fails the rename, so the temporary file moved there
  have hdir : ¬ ∃ m, P.lookup (D ++ [name]) = some (.dir m) := by
    rintro ⟨m, hm⟩
    rw [hm] at hren
    cases hren
  have hmove : t' = P.move (D ++ [n]) (D ++ [name]) := by
    split at hren
    · cases hren
    · exact (Except.ok.inj hren).symm
  subst hmove
  -- in a rooted tree nothing hangs below the temporary file, nor below a file's place
  have hL : P.lookup (D ++ [name]) = t₁.lookup (D ++ [name]) :=
    hlook _ (by simp) fun h => hsame (by simpa using h.symm)
  have hnone_tmp : ∀ p, p ≠ [] → t₁.lookup (D ++ [n] ++ p) = none :=
    hr.lookup_below_entry hframe₁ fun m => by rw [hfresh₁]; nofun
  have hnone_dst : ∀ p, p ≠ [] → t₁.lookup (D ++ [name] ++ p) = none :=
    hr.lookup_below_entry hframe₁ fun m hm => hdir ⟨m, hL ▸ hm⟩
  exact lookup_tmp_moved hsame hfresh₁ hnone_tmp hnone_dst (.file bytes 0o600)

/-- **A finished atomic write makes no link**: it makes directories and one file. -/
theorem writeAtomic_addsNoLink (hs : s.Plain) {name : String} (hname : Path.PlainName name)
    {bytes : ByteArray} {w w' : World} {u : Unit} (hfree : w.files.LinkFree (s.base w.cwd) s.names)
    (hr : w.files.Rooted) (h : (s.writeAtomic (Path.join s.dir name) bytes).run w = (.ok u, w')) :
    w.files.AddsNoLink w'.files := by
  obtain ⟨t₁, hdirs, -, -, hfile, hmoved⟩ := writeAtomic_done_lookup hs hname hfree hr h
  intro l target hlink
  by_cases hl : l = []
  · subst hl
    exact hlink
  by_cases hf : l = s.fileLoc w.cwd name
  · subst hf
    rw [hfile] at hlink
    cases hlink
  · rw [hmoved l hl hf] at hlink
    exact hdirs.addsNoLink l target hlink

/-- **An atomic write replaces its file or leaves it.** Take a file `name` of a state directory
whose path has no `..` and no link on its way, in a tree where every binding hangs below a
directory. When the write succeeds the file holds the bytes at mode 600 and reads back as them;
when it fails the file is as it was. Either way nothing but the file changes, apart from the
directories of the state directory's way: no temporary file is left, and no other file of the
state directory changes. -/
theorem writeAtomic_replaces_or_keeps (s : StateStore) {name : String}
    (hname : Path.PlainName name) (bytes : ByteArray) (w : World) (hs : s.Plain)
    (hfree : w.files.LinkFree (s.base w.cwd) s.names) (hr : w.files.Rooted) :
    w.HostOnly ((s.writeAtomic (Path.join s.dir name) bytes).run w).2 ∧
    match (s.writeAtomic (Path.join s.dir name) bytes).run w with
    | (.ok _, w') =>
      w'.files.lookup (s.fileLoc w.cwd name) = some (.file bytes 0o600) ∧
      w'.files.readFile w'.cwd (Path.join s.dir name) = .ok bytes ∧
      ∀ l, ¬ l <+: s.base w.cwd ++ s.names → l ≠ s.fileLoc w.cwd name →
        w'.files.lookup l = w.files.lookup l
    | (.error _, w') =>
      ∀ l, ¬ l <+: s.base w.cwd ++ s.names → w'.files.lookup l = w.files.lookup l := by
  have hhost := s.writeAtomic_hostOnly (Path.join s.dir name) bytes w
  refine ⟨hhost, ?_⟩
  have hne_nil : ∀ {l}, ¬ l <+: s.base w.cwd ++ s.names → l ≠ [] :=
    fun hl h => hl (h ▸ List.nil_prefix)
  rcases hrun : (s.writeAtomic (Path.join s.dir name) bytes).run w with ⟨_ | _, w'⟩
  · -- a failed write leaves at most the directories it made
    have hout := writeAtomic_outcome hs hfree (Path.join s.dir name) bytes w rfl
    rw [hrun] at hout
    obtain ⟨t, E, rfl | hdirs, rfl⟩ := hout
    · exact fun _ _ => rfl
    · exact mkdirAll_above hs hfree hdirs
  obtain ⟨t₁, -, hframe₁, hchain₁, hfile, hmoved⟩ := writeAtomic_done_lookup hs hname hfree hr hrun
  -- the state directory's way is still a chain of directories, so the path reads the file back
  have hcwd : w'.cwd = w.cwd := by
    have h' := hhost
    rw [hrun] at h'
    exact h'.cwd_eq
  have hchain' : w'.files.DirChain (s.base w.cwd) s.names := by
    refine (dirChain_congr fun l hl => hmoved l (onPath_ne_nil hl) fun heq => ?_).mpr hchain₁
    have hlen := (prefix_of_onPath hl []).length_le
    rw [heq] at hlen
    simp [fileLoc] at hlen
  refine ⟨hfile, ?_, fun l hl hne => (hmoved l (hne_nil hl) hne).trans (hframe₁ l hl)⟩
  rw [hcwd]
  exact (anchored_of_dirChain hs hchain').readFile_join hname hfile

/-- A record written into a state directory that holds a marker. -/
theorem writeAtomic_replaces_or_keeps_sample :
    let s : StateStore := ⟨"state"⟩
    let w : World := { files := ⟨[(["state"], .dir 0o700),
      (["state", ".registered"], .file "2024-01-01T00:00:00Z".toUTF8 0o600)]⟩ }
    (Path.PlainName "machine-id" ∧ s.Plain ∧ w.files.LinkFree (s.base w.cwd) s.names ∧
      w.files.Rooted) ∧
    w.HostOnly ((s.writeAtomic (Path.join s.dir "machine-id") "abc".toUTF8).run w).2 ∧
    match (s.writeAtomic (Path.join s.dir "machine-id") "abc".toUTF8).run w with
    | (.ok _, w') =>
      w'.files.lookup (s.fileLoc w.cwd "machine-id") = some (.file "abc".toUTF8 0o600) ∧
      w'.files.readFile w'.cwd (Path.join s.dir "machine-id") = .ok "abc".toUTF8 ∧
      ∀ l, ¬ l <+: s.base w.cwd ++ s.names → l ≠ s.fileLoc w.cwd "machine-id" →
        w'.files.lookup l = w.files.lookup l
    | (.error _, w') =>
      ∀ l, ¬ l <+: s.base w.cwd ++ s.names → w'.files.lookup l = w.files.lookup l := by
  intro s w
  have hs : s.Plain := by
    unfold StateStore.Plain
    decide +kernel
  have hway : s.base w.cwd = [] ∧ s.names = ["state"] := by decide +kernel
  have hfree : w.files.LinkFree (s.base w.cwd) s.names := by
    rw [hway.1, hway.2]
    intro l hl target
    rcases onPath_cons.mp hl with rfl | hl
    · nofun
    · exact absurd hl not_onPath_nil
  exact ⟨⟨by decide, hs, hfree, by decide +kernel⟩,
    writeAtomic_replaces_or_keeps s (by decide) "abc".toUTF8 w hs hfree (by decide +kernel)⟩

/-- **A state directory reached through its own marker.** Here `state` is a link to
`x/.registered`, itself a link back to `x`. The write of the registration marker succeeds, but
its rename replaces the link `x/.registered` on the way to the state directory, so the marker's
path no longer leads to the bytes written. -/
theorem writeAtomic_cuts_own_way :
    let s : StateStore := ⟨"state"⟩
    let w : World := { files := ⟨[(["x"], .dir 0o755), (["x", ".registered"], .link "."),
      (["state"], .link "x/.registered")]⟩ }
    ((s.writeAtomic (s.markerPath .registered) "t".toUTF8).run w).1 = .ok () ∧
      (((s.writeAtomic (s.markerPath .registered) "t".toUTF8).run w).2.files.readFile []
        (s.markerPath .registered)).toBool = false := by
  decide +kernel

end HostAgent.Store.StateStore
