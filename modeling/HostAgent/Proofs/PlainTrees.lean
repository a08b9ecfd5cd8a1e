import HostAgent.Proofs.FileTreeFrame
import HostAgent.Proofs.PathPieces

/-!
# Trees of plain names

A name bound in a file system is *plain*: not `.` or `..`, not empty, and without a slash. The
tree keeps its bindings as locations, lists of names, so this is a property of the tree
(`FileTree.PlainNames`) that every call has to keep. It does, whatever links the tree holds: a
walk steps down only by plain names and up by `..`, and a link sends it on from the root or from
where it stands, so **a path resolves to a location of plain names** from a working directory of
plain names (`resolve_plain`). Every call binds only where a path resolves, and so keeps the
names of a tree plain (`mkdirAll_plainNames` and the lemmas beside it); the names a directory
lists are then plain too (`readDir_plain`).

`Path.spelled` is the location a path names when it is read name by name, with no link on the
way and no `..`.
-/

namespace HostAgent.Host

namespace Path

/-- The location a path spells from the working directory `cwd`: each piece one step down, a
`.` none. -/
def spelled (cwd : Location) (path : String) : Location :=
  (if isAbsolute path then [] else cwd) ++ (pieces path).filter (· != ".")

instance (n : String) : Decidable (PlainName n) :=
  decidable_of_iff (n.toList ≠ [] ∧ '/' ∉ n.toList ∧ n ≠ "." ∧ n ≠ "..")
    ⟨fun ⟨h₁, h₂, h₃, h₄⟩ => ⟨h₁, h₂, h₃, h₄⟩, fun h => ⟨h.nonempty, h.no_slash, h.not_here, h.not_up⟩⟩

/-- A location all of whose names are plain. -/
def PlainLoc (l : Location) : Prop := ∀ x ∈ l, PlainName x

instance (l : Location) : Decidable (PlainLoc l) :=
  inferInstanceAs (Decidable (∀ x ∈ l, PlainName x))

namespace PlainLoc

theorem nil : PlainLoc [] := fun _ h => absurd h List.not_mem_nil

theorem append {a b : Location} (ha : PlainLoc a) (hb : PlainLoc b) : PlainLoc (a ++ b) := by
  intro x hx
  rcases List.mem_append.1 hx with hx | hx
  · exact ha x hx
  · exact hb x hx

theorem singleton {n : String} (h : PlainName n) : PlainLoc [n] := by
  intro x hx
  rw [List.mem_singleton.1 hx]
  exact h

theorem sublist {a b : Location} (hb : PlainLoc b) (h : a.Sublist b) : PlainLoc a :=
  fun x hx => hb x (h.subset hx)

end PlainLoc

/-- No piece of a split holds a separator. -/
theorem forall_mem_splitOnPPrepend {α : Type} {p : α → Bool} :
    ∀ (xs acc : List α), (∀ c ∈ acc, p c = false) →
      ∀ l ∈ List.splitOnPPrepend p xs acc, ∀ c ∈ l, p c = false
  | [], acc, hacc, l, hl => by
    rw [List.splitOnPPrepend_nil, List.mem_singleton] at hl
    subst hl
    simpa using hacc
  | x :: xs, acc, hacc, l, hl => by
    rw [List.splitOnPPrepend_cons_eq_if] at hl
    by_cases hx : p x = true
    · rw [if_pos hx] at hl
      rcases List.mem_cons.1 hl with rfl | hl
      · simpa using hacc
      · exact forall_mem_splitOnPPrepend xs [] (by simp) l hl
    · rw [if_neg hx] at hl
      refine forall_mem_splitOnPPrepend xs (x :: acc) ?_ l hl
      intro c hc
      rcases List.mem_cons.1 hc with rfl | hc
      · simpa using hx
      · exact hacc c hc

/-- A piece of a path is a nonempty name without a slash. -/
theorem mem_pieces {path x : String} (h : x ∈ pieces path) : x.toList ≠ [] ∧ '/' ∉ x.toList := by
  simp only [pieces, List.mem_map, List.mem_filter] at h
  obtain ⟨cs, ⟨hcs, hne⟩, rfl⟩ := h
  rw [String.toList_ofList]
  refine ⟨by simpa using hne, fun hslash => ?_⟩
  have hsep := forall_mem_splitOnPPrepend path.toList [] (by simp) cs hcs '/' hslash
  simp at hsep

/-- A plain name read as a path: relative, one step down, with no `..`. -/
theorem down_plain {n : String} (h : PlainName n) (cwd : Location) :
    (if isAbsolute n then [] else cwd) = cwd ∧ (pieces n).filter (· != ".") = [n] ∧
      ".." ∉ pieces n := by
  refine ⟨by rw [isAbsolute_plain h]; rfl, by simp [pieces_plain h, h.not_here], ?_⟩
  simpa [pieces_plain h] using h.not_up.symm

end Path

namespace FileTree

open HostAgent.Host.Path

theorem mem_steps {path x : String} (h : x ∈ steps path) : x ∈ pieces path ∨ x = "." := by
  unfold steps at h
  dsimp only at h
  split at h
  · simpa using h
  · exact .inl h

theorem filter_steps (path : String) :
    (steps path).filter (· != ".") = (pieces path).filter (· != ".") := by
  unfold steps
  dsimp only
  split <;> simp

/-- A step of a path is a nonempty name without a slash. -/
theorem mem_steps_piece {path x : String} (h : x ∈ steps path) : x.toList ≠ [] ∧ '/' ∉ x.toList := by
  rcases mem_steps h with h | rfl
  · exact mem_pieces h
  · decide

/-- **Every name bound in the tree is plain.** -/
def PlainNames (t : FileTree) : Prop := ∀ e ∈ t.entries, PlainLoc e.1

instance (t : FileTree) : Decidable t.PlainNames :=
  inferInstanceAs (Decidable (∀ e ∈ t.entries, PlainLoc e.1))

namespace PlainNames

variable {t : FileTree}

theorem of_subset {t' : FileTree} (h : t.PlainNames) (hs : ∀ e ∈ t'.entries, e ∈ t.entries) :
    t'.PlainNames :=
  fun e he => h e (hs e he)

theorem insert (h : t.PlainNames) {loc : Location} (hloc : PlainLoc loc) (n : Node) :
    (t.insert loc n).PlainNames := by
  unfold FileTree.insert
  split
  · -- rebinding in place keeps every key
    intro e he
    simp only [List.mem_map] at he
    obtain ⟨⟨l, m⟩, hm, rfl⟩ := he
    split <;> exact h (l, m) hm
  · intro e he
    rcases List.mem_cons.1 he with rfl | he
    · exact hloc
    · exact h e he

theorem erase (h : t.PlainNames) (loc : Location) : (t.erase loc).PlainNames :=
  h.of_subset fun _ he => List.mem_of_mem_filter he

theorem eraseTree (h : t.PlainNames) (loc : Location) : (t.eraseTree loc).PlainNames :=
  h.of_subset fun _ he => List.mem_of_mem_filter he

/-- Moving puts under a plain `dst` what was under `src`: plain names below plain names. -/
theorem move (h : t.PlainNames) (src : Location) {dst : Location} (hdst : PlainLoc dst) :
    (t.move src dst).PlainNames := by
  have h' := h.eraseTree dst
  unfold FileTree.move
  intro e he
  simp only [List.mem_map] at he
  obtain ⟨⟨l, n⟩, hm, rfl⟩ := he
  split
  · exact hdst.append ((h' _ hm).sublist (List.drop_sublist _ _))
  · exact h' _ hm

end PlainNames

/-! ## Walks end at plain names -/

section Walk

variable {t : FileTree} {fl : Bool}

/-- The pieces a walk is given: every one a nonempty name without a slash. -/
def WalkPieces (ps : List String) : Prop := ∀ x ∈ ps, x.toList ≠ [] ∧ '/' ∉ x.toList

theorem walkPieces_steps (path : String) : WalkPieces (steps path) := fun _ hx => mem_steps_piece hx

/-- **A walk from plain names ends at plain names**, when every walk a link hands on does:
it steps down only by names that are neither `.` nor `..`, up by dropping a name, and a link
sends it on from the root or from where it stands. -/
theorem walkWith_plain {follow : Location → List String → Except IoError Location}
    (hfollow : ∀ base qs loc, PlainLoc base → WalkPieces qs → follow base qs = .ok loc →
      PlainLoc loc) :
    ∀ (ps : List String) (cur loc : Location), WalkPieces ps → PlainLoc cur →
      t.walkWith fl follow cur ps = .ok loc → PlainLoc loc
  | [], cur, loc, _, hcur, hw => by
    rw [walkWith.eq_1] at hw
    cases hw
    exact hcur
  | p :: ps, cur, loc, hps, hcur, hw => by
    have hps' : WalkPieces ps := fun x hx => hps x (List.mem_cons_of_mem _ hx)
    by_cases hdot : p = "."
    · subst hdot
      rw [walkWith.eq_2] at hw
      exact walkWith_plain hfollow ps cur loc hps' hcur hw
    by_cases hup : p = ".."
    · subst hup
      rw [walkWith.eq_3] at hw
      exact walkWith_plain hfollow ps cur.dropLast loc hps'
        (hcur.sublist (List.dropLast_sublist _)) hw
    -- a plain name: one step down, where the walk stops, goes on, or is handed on by a link
    have hhere : PlainLoc (cur ++ [p]) :=
      hcur.append (PlainLoc.singleton
        ⟨(hps p List.mem_cons_self).1, (hps p List.mem_cons_self).2, hdot, hup⟩)
    have hstop : ∀ {e : IoError},
        (if ps.isEmpty then Except.ok (cur ++ [p]) else .error e) = .ok loc → PlainLoc loc := by
      intro e hs
      split at hs
      · cases hs
        exact hhere
      · cases hs
    rw [walkWith.eq_4 _ _ _ _ _ _ hdot hup] at hw
    rcases hl : t.lookup (cur ++ [p]) with _ | n
    · simp only [hl] at hw
      exact hstop hw
    · cases n with
      | link target =>
        simp only [hl] at hw
        split at hw
        · cases hw
          exact hhere
        · refine hfollow _ _ loc ?_ ?_ hw
          · split
            · exact PlainLoc.nil
            · exact hcur
          · intro x hx
            rcases List.mem_append.1 hx with hx | hx
            · exact walkPieces_steps target x hx
            · exact hps' x hx
      | dir m =>
        simp only [hl] at hw
        exact walkWith_plain hfollow ps (cur ++ [p]) loc hps' hhere hw
      | file data m =>
        simp only [hl] at hw
        exact hstop hw
      | device d =>
        simp only [hl] at hw
        exact hstop hw

/-- The same for a walk that follows any number of links. -/
theorem walk_plain : ∀ (fuel : Nat) (cur : Location) (ps : List String) {loc : Location},
    WalkPieces ps → PlainLoc cur → t.walk fl fuel cur ps = .ok loc → PlainLoc loc
  | 0, cur, ps, loc, hps, hcur, hw => by
    rw [walk] at hw
    exact walkWith_plain (fun _ _ _ _ _ h => by cases h) ps cur loc hps hcur hw
  | fuel + 1, cur, ps, loc, hps, hcur, hw => by
    rw [walk] at hw
    exact walkWith_plain (fun base qs _ hbase hqs h => walk_plain fuel base qs hqs hbase h)
      ps cur loc hps hcur hw

/-- **A path resolves to a location of plain names** from a working directory of plain names,
whatever links the tree holds. -/
theorem resolve_plain {cwd : Location} (hcwd : PlainLoc cwd) {path : String} {loc : Location}
    (hr : t.resolve cwd path fl = .ok loc) : PlainLoc loc := by
  unfold resolve at hr
  split at hr
  · cases hr
  refine walk_plain _ _ _ (walkPieces_steps path) ?_ hr
  split
  · exact PlainLoc.nil
  · exact hcwd

end Walk

/-! ## Every call keeps the names plain -/

section Calls

variable {t t' : FileTree} {cwd : Location}

theorem mkdir_plainNames (h : t.PlainNames) (hcwd : PlainLoc cwd) {path : String} {mode : Nat}
    (hm : t.mkdir cwd path mode = .ok t') : t'.PlainNames := by
  obtain ⟨loc, hr, -, rfl⟩ := mkdir_eq_ok hm
  exact h.insert (resolve_plain hcwd hr) _

/-- What every `mkdir` keeps, making a directory with those above it keeps too. -/
theorem mkdirAllWith_keeps (P : FileTree → Prop) {mode : Nat}
    (hmk : ∀ {t t' : FileTree} {path : String}, P t → t.mkdir cwd path mode = .ok t' → P t') :
    ∀ (fuel : Nat) (path : String) {t t' : FileTree}, P t →
      t.mkdirAllWith cwd mode fuel path = .ok t' → P t'
  | 0, _, _, _, _, h => by simp [mkdirAllWith] at h
  | fuel + 1, path, t, t', hP, h => by
    unfold mkdirAllWith at h
    split at h
    · cases h
      exact hP
    split at h
    · cases h
      exact hmk hP ‹_›
    split at h
    · -- a failure other than a missing parent: done only where a directory already stands
      split at h
      · cases h
        exact hP
      · cases h
    split at h
    · cases h
    · -- the parent first, then this directory again
      rename_i up _
      rcases hup : t.mkdirAllWith cwd mode fuel up with e | t₁
      · simp [hup, bind, Except.bind] at h
      · simp only [hup, bind, Except.bind] at h
        have h₁ : P t₁ := mkdirAllWith_keeps P hmk fuel up hP hup
        split at h
        · cases h
          exact hmk h₁ ‹_›
        · split at h
          · cases h
            exact h₁
          · cases h

theorem mkdirAll_plainNames (h : t.PlainNames) (hcwd : PlainLoc cwd) {path : String} {mode : Nat}
    (hm : t.mkdirAll cwd path mode = .ok t') : t'.PlainNames :=
  mkdirAllWith_keeps PlainNames (fun ht hmk => mkdir_plainNames ht hcwd hmk) _ path h hm

theorem createNew_plainNames (h : t.PlainNames) (hcwd : PlainLoc cwd) {path : String}
    {data : ByteArray} {mode : Nat} (hc : t.createNew cwd path data mode = .ok t') :
    t'.PlainNames := by
  obtain ⟨loc, hr, -, rfl⟩ := createNew_eq_ok hc
  exact h.insert (resolve_plain hcwd hr) _

theorem writeFile_plainNames (h : t.PlainNames) (hcwd : PlainLoc cwd) {path : String}
    {data : ByteArray} {mode : Nat} (hc : t.writeFile cwd path data mode = .ok t') :
    t'.PlainNames := by
  obtain ⟨loc, hr, ⟨m, rfl⟩ | rfl⟩ := writeFile_eq_ok hc
  · exact h.insert (resolve_plain hcwd hr) _
  · exact h

theorem chmod_plainNames (h : t.PlainNames) (hcwd : PlainLoc cwd) {path : String} {mode : Nat}
    (hc : t.chmod cwd path mode = .ok t') : t'.PlainNames := by
  obtain ⟨loc, hr, ⟨data, m, -, rfl⟩ | ⟨m, -, rfl⟩ | rfl⟩ := chmod_eq_ok hc
  · exact h.insert (resolve_plain hcwd hr) _
  · exact h.insert (resolve_plain hcwd hr) _
  · exact h

theorem removeFile_plainNames (h : t.PlainNames) {path : String}
    (hc : t.removeFile cwd path = .ok t') : t'.PlainNames := by
  obtain ⟨loc, n, -, -, -, rfl⟩ := removeFile_eq_ok hc
  exact h.erase loc

theorem removeDirAll_plainNames (h : t.PlainNames) {path : String}
    (hc : t.removeDirAll cwd path = .ok t') : t'.PlainNames := by
  obtain ⟨loc, -, ⟨target, -, rfl⟩ | ⟨m, -, rfl⟩⟩ := removeDirAll_eq_ok hc
  · exact h.erase loc
  · exact h.eraseTree loc

theorem rename_plainNames (h : t.PlainNames) (hcwd : PlainLoc cwd) {source target : String}
    (hc : t.rename cwd source target = .ok t') : t'.PlainNames := by
  obtain ⟨src, dst, -, hdst, ⟨-, rfl⟩ | ⟨-, rfl⟩⟩ := rename_eq_ok hc
  · exact h
  · exact h.move src (resolve_plain hcwd hdst)

/-- The names a directory of a tree of plain names lists are plain. -/
theorem readDir_plain (h : t.PlainNames) {path : String} {names : List String}
    (hr : t.readDir cwd path = .ok names) : ∀ n ∈ names, PlainName n := by
  unfold readDir at hr
  rcases hres : t.resolve cwd path true with e | loc
  · simp [hres, bind, Except.bind] at hr
  simp only [hres, bind, Except.bind] at hr
  split at hr
  · cases hr
  · cases hr
    intro n hn
    simp only [childNames, List.mem_filterMap] at hn
    obtain ⟨⟨l, m⟩, hm, hl⟩ := hn
    split at hl
    · exact h _ hm n (List.mem_of_getLast? hl)
    · cases hl
  · cases hr

end Calls

end FileTree

end HostAgent.Host
