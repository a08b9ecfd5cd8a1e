import HostAgent.Proofs.DirectoryCreation
import HostAgent.Proofs.DirectoryWalk
import HostAgent.Proofs.StepFrames

/-!
# `Proofs.WriteOutcome` — what an atomic write leaves

`StateStore.writeAtomic` makes the state directory, creates an empty temporary file under a
fresh name (drawing again while the name is taken), writes and flushes the bytes through it,
sets its mode and renames it onto the target; a step on the temporary file that fails removes it
again. Below a plain state directory with no link on its way this comes down to two outcomes,
whatever the storage answers (`writeAtomic_outcome`):

* a write that fails leaves the files as they were, or as making the state directory left them
  (`WriteUndone`): whichever step failed, the temporary file is gone;
* a write that succeeds leaves what renaming the finished temporary file onto the target gives
  (`WriteDone`): that file was bound where nothing was, and holds the bytes at mode 600
  (`TempPlaced`).

Only the random source changes besides. Each step is a triple of its own: making the
directories (`mkdirAll_made`), creating the temporary file, by induction on the tries left
(`createTemp_placed`), and each step on the placed file (`onTemp_placed`, with
`writeOpened_placed`, `syncOpened_placed`, `chmod_placed_run`, `rename_placed_run`). The theorems
about the store's writes in later modules read the two outcomes and never unfold the write.
-/

namespace HostAgent.Host.FileTree.Anchored

/-! ## A file placed in an anchored directory -/

variable {t : FileTree} {cwd D : Location} {dir n : String}

/-- Writing through a file placed in an anchored directory rebinds it with the new bytes, at the
mode it has. -/
theorem writeFile_placed (hA : Anchored t cwd dir D) (hn : Path.PlainName n) (data data' : ByteArray)
    (mode mode' : Nat) :
    (t.insert (D ++ [n]) (.file data mode)).writeFile cwd (Path.join dir n) data' mode' =
      .ok (t.insert (D ++ [n]) (.file data' mode)) := by
  have hfile : (t.insert (D ++ [n]) (.file data mode)).lookup (D ++ [n]) =
      some (.file data mode) := by
    rw [lookup_insert _ _ _ (by simp), if_pos rfl]
  rw [(hA.of_agree (agreeOutside_insert t n _)).writeFile_join hn (fun _ => by rw [hfile]; nofun),
    hfile]
  exact congrArg Except.ok (insert_insert _ _ _ _)

/-- Setting the mode of a file placed in an anchored directory rebinds it with that mode. -/
theorem chmod_placed (hA : Anchored t cwd dir D) (hn : Path.PlainName n) (data : ByteArray)
    (mode mode' : Nat) :
    (t.insert (D ++ [n]) (.file data mode)).chmod cwd (Path.join dir n) mode' =
      .ok (t.insert (D ++ [n]) (.file data mode')) := by
  have hfile : (t.insert (D ++ [n]) (.file data mode)).lookup (D ++ [n]) =
      some (.file data mode) := by
    rw [lookup_insert _ _ _ (by simp), if_pos rfl]
  rw [(hA.of_agree (agreeOutside_insert t n _)).chmod_join hn (fun _ => by rw [hfile]; nofun),
    hfile]
  exact congrArg Except.ok (insert_insert _ _ _ _)

/-- Removing a file placed where nothing was gives the tree back. -/
theorem removeFile_placed (hA : Anchored t cwd dir D) (hn : Path.PlainName n)
    (hfresh : t.lookup (D ++ [n]) = none) (data : ByteArray) (mode : Nat) :
    (t.insert (D ++ [n]) (.file data mode)).removeFile cwd (Path.join dir n) = .ok t := by
  have hfile : (t.insert (D ++ [n]) (.file data mode)).lookup (D ++ [n]) =
      some (.file data mode) := by
    rw [lookup_insert _ _ _ (by simp), if_pos rfl]
  rw [(hA.of_agree (agreeOutside_insert t n _)).removeFile_join hn, hfile]
  exact congrArg Except.ok (erase_insert_of_lookup_none t (by simp) hfresh _)

end HostAgent.Host.FileTree.Anchored

namespace HostAgent.Store.StateStore

open HostAgent.Host HostAgent.Host.FileTree Agent

variable {s : StateStore} {t t' : FileTree} {cwd : Location} {n : String}

/-! ## Temporary names -/

theorem toList_tmp (picks : List Char) :
    (".tmp" ++ String.ofList picks).toList = '.' :: 't' :: 'm' :: 'p' :: picks := by
  simp

/-- A name that starts with `.tmp` is neither marker's, nor `.` or `..`. -/
theorem otherName_tmp {picks : List Char} (h : '/' ∉ picks) :
    OtherName (".tmp" ++ String.ofList picks) := by
  -- each name it must differ from starts otherwise
  have hne : ∀ n : String, n.toList.take 2 ≠ ['.', 't'] → ".tmp" ++ String.ofList picks ≠ n := by
    rintro n hn rfl
    rw [toList_tmp] at hn
    exact hn rfl
  refine ⟨⟨?_, ?_, hne _ (by decide), hne _ (by decide)⟩, ?_⟩
  · simp
  · simp [h]
  · intro m hm
    cases m with
    | registered => exact hne _ (by decide)
    | unregistered => exact hne _ (by decide)
    | lastUpload => cases hm

theorem slash_not_mem_tempPicks (x : UInt64) :
    '/' ∉ (List.range 6).map fun i => nameAlphabet.getD ((x >>> (8 * i).toUInt64).toNat % 62) 'x' := by
  simp only [List.mem_map, not_exists, not_and]
  intro i _ hc
  rw [List.getD_eq_getElem?_getD] at hc
  rcases hk : nameAlphabet[(x >>> (8 * i).toUInt64).toNat % 62]? with _ | c
  · rw [hk] at hc
    cases hc
  · rw [hk, Option.getD_some] at hc
    subst hc
    revert hk
    generalize (x >>> (8 * i).toUInt64).toNat % 62 = k
    intro hk
    have hmem := List.mem_of_getElem? hk
    revert hmem
    decide

/-- A name the temporary file can take: `.tmp`, then characters other than a slash. -/
def TempName (n : String) : Prop := ∃ picks : List Char, '/' ∉ picks ∧ n = ".tmp" ++ String.ofList picks

theorem TempName.otherName (h : TempName n) : OtherName n := by
  obtain ⟨picks, hpicks, rfl⟩ := h
  exact otherName_tmp hpicks

/-- **Drawing a temporary name** gives a name of that form and moves only the random source. -/
theorem tempName_run (w : World) : ∃ n, TempName n ∧
    tempName.run w = (.ok n, { w with entropy := (Agent.splitMix w.entropy).1 }) :=
  ⟨_, ⟨_, slash_not_mem_tempPicks _, rfl⟩, rfl⟩

/-! ## Creating the temporary file -/

theorem anchored_of_dirChain (hs : s.Plain) (hchain : t.DirChain (s.base cwd) s.names) :
    Anchored t cwd s.dir (s.base cwd ++ s.names) :=
  Anchored.of_down hs hchain

/-- A file of the state directory can only be created once the directory's way is there. -/
theorem dirChain_of_createNew (hs : s.Plain) (hn : Path.PlainName n)
    (hfree : t.LinkFree (s.base cwd) s.names) {data : ByteArray} {mode : Nat}
    (h : t.createNew cwd (Path.join s.dir n) data mode = .ok t') :
    t.DirChain (s.base cwd) s.names := by
  obtain ⟨loc, hr, -, -⟩ := createNew_eq_ok h
  exact ((resolve_join_eq_ok hs hn hfree (by simp)).mp hr).2

/-- **The temporary file is placed**: creating it succeeds only at the end of the state
directory's way, where nothing was bound. -/
theorem tmp_placed (hs : s.Plain) (hn : Path.PlainName n) (hfree : t.LinkFree (s.base cwd) s.names)
    {bytes : ByteArray} {mode : Nat} (h : t.createNew cwd (Path.join s.dir n) bytes mode = .ok t') :
    t.DirChain (s.base cwd) s.names ∧ t.lookup (s.fileLoc cwd n) = none ∧
      t' = t.insert (s.fileLoc cwd n) (.file bytes mode) := by
  have hchain := dirChain_of_createNew hs hn hfree h
  rw [(anchored_of_dirChain hs hchain).createNew_join hn] at h
  rcases hfresh : t.lookup (s.fileLoc cwd n) with _ | node
  · rw [fileLoc] at hfresh
    rw [hfresh] at h
    exact ⟨hchain, rfl, (Except.ok.inj h).symm⟩
  · rw [fileLoc] at hfresh
    rw [hfresh] at h
    cases h

/-! ## The outcomes -/

section Outcomes

variable (s : StateStore) (w : World)

/-- The state directory made: the world is `w` with the files that making the directory gave,
and another random source. -/
def DirsMade (w' : World) : Prop :=
  ∃ t E, w.files.mkdirAll w.cwd s.dir 0o755 = .ok t ∧ w' = { w with files := t, entropy := E }

/-- A failed write's world: `w` with the files as they were or as making the state directory
left them, and another random source. -/
def WriteUndone (w' : World) : Prop :=
  ∃ t E, (t = w.files ∨ w.files.mkdirAll w.cwd s.dir 0o755 = .ok t) ∧
    w' = { w with files := t, entropy := E }

/-- The temporary file `n` in place with `data` at mode 600: the world is `w` with the state
directory made (`t`), the file bound where nothing was, and another random source. -/
def TempPlaced (n : String) (data : ByteArray) (w' : World) : Prop :=
  ∃ t E, w.files.mkdirAll w.cwd s.dir 0o755 = .ok t ∧ TempName n ∧
    t.lookup (s.fileLoc w.cwd n) = none ∧ t.DirChain (s.base w.cwd) s.names ∧
    w' = { w with files := t.insert (s.fileLoc w.cwd n) (.file data 0o600), entropy := E }

/-- A successful write's world: the temporary file placed with the bytes, then renamed onto
`path`. -/
def WriteDone (path : String) (bytes : ByteArray) (w' : World) : Prop :=
  ∃ n p t', s.TempPlaced w n bytes p ∧ p.files.rename w.cwd (Path.join s.dir n) path = .ok t' ∧
    w' = { p with files := t' }

end Outcomes

variable {w : World}

theorem mkdirAll_made (w : World) :
    Triple (· = w) (change fun t cwd => t.mkdirAll cwd s.dir 0o755) (fun _ => s.DirsMade w)
      (s.WriteUndone w) := by
  intro w' hw
  rw [hw]
  rcases h : w.files.mkdirAll w.cwd s.dir 0o755 with e | t
  · rw [run_change_error h]
    exact ⟨w.files, w.entropy, .inl rfl, rfl⟩
  · rw [run_change_ok h]
    exact ⟨t, w.entropy, h, rfl⟩

/-- **Creating the temporary file places it, or fails having changed nothing.** A taken name is
drawn again; at the end of the way nothing is bound under the name that is made. -/
theorem createTemp_placed (hs : s.Plain) (hfree : w.files.LinkFree (s.base w.cwd) s.names)
    (tries : Nat) :
    Triple (s.DirsMade w) (s.createTemp tries)
      (fun tmp w' => ∃ n, tmp = Path.join s.dir n ∧ s.TempPlaced w n .empty w')
      (s.WriteUndone w) := by
  -- on the tries left, from the state directory made and any random source
  induction tries with
  | zero => exact Triple.throw fun _ ⟨t, E, hdirs, hw⟩ => ⟨t, E, .inr hdirs, hw⟩
  | succ tries ih =>
    rintro _ ⟨t, E, hdirs, rfl⟩
    rw [createTemp]
    obtain ⟨n, hn, hname⟩ := tempName_run { w with files := t, entropy := E }
    rw [run_bind_ok hname]
    dsimp only
    generalize (splitMix E).1 = E'
    rcases hc : t.createNew w.cwd (Path.join s.dir n) .empty 0o600 with e | t'
    · rw [run_bind_ok (run_attempt_error hc)]
      -- a taken name is drawn again; any other failure ends the write
      rcases e with _ | _ | _ | _ | _ | _ | _ | _ | _ | _ | _ | _ | _
      case alreadyExists => exact ih _ ⟨t, E', hdirs, rfl⟩
      all_goals
        rw [run_bind_ok (run_cwd _)]
        exact ⟨t, E', .inr hdirs, rfl⟩
    · rw [run_bind_ok (run_attempt_ok hc)]
      have hfree₁ := hfree.of_addsDirs (mkdirAllWith_eq_ok _ _ hdirs)
      obtain ⟨hchain, hfresh, rfl⟩ := tmp_placed hs hn.otherName.plain hfree₁ hc
      exact ⟨n, rfl, t, E', hdirs, hn, hfresh, hchain, rfl⟩

section Placed

variable {n : String} {d : ByteArray}

/-- Removing a placed temporary file gives back the files the directories left. -/
theorem run_removeTemp (hs : s.Plain) {p : World} (hp : s.TempPlaced w n d p) :
    ∃ p', (attempt fun t cwd => t.removeFile cwd (Path.join s.dir n)).run p = (.ok (.ok ()), p') ∧
      s.WriteUndone w p' := by
  obtain ⟨t, E, hdirs, hn, hfresh, hchain, rfl⟩ := hp
  rw [run_attempt_ok
    ((anchored_of_dirChain hs hchain).removeFile_placed hn.otherName.plain hfresh d _)]
  exact ⟨_, rfl, t, E, .inr hdirs, rfl⟩

/-- **A step on the placed temporary file**: when it answers success the write goes on from
where it left the world, and when it fails the file is removed again. -/
theorem onTemp_placed (hs : s.Plain) {step : Agent (Except IoError Unit)} (report : IoError → Fault)
    {P Q : World → Prop}
    (hstep : ∀ p, P p → ∃ r p', step.run p = (.ok r, p') ∧ (r = .ok () → Q p') ∧
      (r ≠ .ok () → ∃ d', s.TempPlaced w n d' p')) :
    Triple P (onTemp (Path.join s.dir n) step report) (fun _ => Q) (s.WriteUndone w) := by
  intro p hp
  obtain ⟨r, p', hrun, hok, hfail⟩ := hstep p hp
  unfold onTemp
  rw [run_bind_ok hrun]
  rcases r with e | ⟨⟩
  · obtain ⟨d', hplaced⟩ := hfail nofun
    obtain ⟨p'', hrm, hundone⟩ := run_removeTemp hs hplaced
    dsimp only
    rw [run_bind_ok hrm]
    exact hundone
  · exact hok rfl

theorem writeOpened_placed (hs : s.Plain) (bytes : ByteArray) (p : World)
    (hp : s.TempPlaced w n .empty p) :
    ∃ r p', (writeOpened (Path.join s.dir n) bytes).run p = (.ok r, p') ∧
      (r = .ok () → s.TempPlaced w n bytes p') ∧ (r ≠ .ok () → ∃ d', s.TempPlaced w n d' p') := by
  rcases run_writeOpened (Path.join s.dir n) bytes p with ⟨e, hr⟩ | ⟨hempty, hr⟩ | hr
  · -- the storage refused the bytes: the empty file stays
    exact ⟨_, _, hr, nofun, fun _ => ⟨_, hp⟩⟩
  · -- nothing to write: the empty file holds the bytes already
    have hbytes : bytes = .empty := by
      apply ByteArray.ext
      have hsize : bytes.size = 0 := by simpa [ByteArray.isEmpty] using hempty
      rw [ByteArray.size] at hsize
      rw [Array.size_eq_zero_iff.mp hsize]
      rfl
    subst hbytes
    exact ⟨_, _, hr, fun _ => hp, fun _ => ⟨_, hp⟩⟩
  · obtain ⟨t, E, hdirs, hn, hfresh, hchain, rfl⟩ := hp
    rw [hr, run_attempt_ok ((anchored_of_dirChain hs hchain).writeFile_placed hn.otherName.plain
      .empty bytes 0o600 0o600)]
    exact ⟨_, _, rfl, fun _ => ⟨t, E, hdirs, hn, hfresh, hchain, rfl⟩, nofun⟩

theorem syncOpened_placed (p : World) (hp : s.TempPlaced w n d p) :
    ∃ r p', (syncOpened (Path.join s.dir n)).run p = (.ok r, p') ∧
      (r = .ok () → s.TempPlaced w n d p') ∧ (r ≠ .ok () → ∃ d', s.TempPlaced w n d' p') := by
  obtain ⟨r, hr⟩ := run_syncOpened (Path.join s.dir n) p
  exact ⟨r, p, hr, fun _ => hp, fun _ => ⟨d, hp⟩⟩

theorem chmod_placed_run (hs : s.Plain) (p : World) (hp : s.TempPlaced w n d p) :
    ∃ r p', (attempt fun t cwd => t.chmod cwd (Path.join s.dir n) 0o600).run p = (.ok r, p') ∧
      (r = .ok () → s.TempPlaced w n d p') ∧ (r ≠ .ok () → ∃ d', s.TempPlaced w n d' p') := by
  obtain ⟨t, E, hdirs, hn, hfresh, hchain, rfl⟩ := hp
  rw [run_attempt_ok
    ((anchored_of_dirChain hs hchain).chmod_placed hn.otherName.plain d 0o600 0o600)]
  exact ⟨_, _, rfl, fun _ => ⟨t, E, hdirs, hn, hfresh, hchain, rfl⟩, nofun⟩

theorem rename_placed_run (path : String) (p : World) (hp : s.TempPlaced w n d p) :
    ∃ r p', (attempt fun t cwd => t.rename cwd (Path.join s.dir n) path).run p = (.ok r, p') ∧
      (r = .ok () → s.WriteDone w path d p') ∧ (r ≠ .ok () → ∃ d', s.TempPlaced w n d' p') := by
  have hcwd : p.cwd = w.cwd := by
    obtain ⟨t, E, -, -, -, -, rfl⟩ := hp
    rfl
  rcases h : p.files.rename p.cwd (Path.join s.dir n) path with e | t'
  · exact ⟨_, _, run_attempt_error h, nofun, fun _ => ⟨d, hp⟩⟩
  · exact ⟨_, _, run_attempt_ok h, fun _ => ⟨n, p, t', hp, hcwd ▸ h, rfl⟩, nofun⟩

end Placed

/-- **What an atomic write leaves.** Below a plain state directory with no link on its way, a
write that fails leaves the files as they were or as making the directory left them, and one
that succeeds leaves the finished temporary file renamed onto `path`; only the random source
changes besides. -/
theorem writeAtomic_outcome (hs : s.Plain) (hfree : w.files.LinkFree (s.base w.cwd) s.names)
    (path : String) (bytes : ByteArray) :
    Triple (· = w) (s.writeAtomic path bytes) (fun _ => s.WriteDone w path bytes)
      (s.WriteUndone w) := by
  unfold writeAtomic
  refine Triple.bind (mkdirAll_made w) fun _ =>
    Triple.bind (createTemp_placed hs hfree _) fun tmp p hp => ?_
  obtain ⟨n, rfl, hp⟩ := hp
  -- the steps on the placed file, each removing it again when it fails
  have hcwd : Triple (s.TempPlaced w n .empty) cwd (fun _ => s.TempPlaced w n .empty)
      (s.WriteUndone w) := fun p hp => by
    rw [run_cwd]
    exact hp
  refine Triple.bind hcwd (fun _ => ?_) p hp
  exact Triple.bind (onTemp_placed hs _ (writeOpened_placed hs bytes)) fun _ =>
    Triple.bind (onTemp_placed hs _ syncOpened_placed) fun _ =>
    Triple.bind (onTemp_placed hs _ (chmod_placed_run hs)) fun _ =>
    onTemp_placed hs _ (rename_placed_run path)

end HostAgent.Store.StateStore
