import Mathlib
import HostAgent.Host.FileTree

/-!
# `Proofs.FileTreeFrame` — what each file call changes, and where a plain path leads

`FileTree.lookup` is the one view of a tree. This module says, for each call the agent makes,
how the view after it relates to the view before it, and so which locations a call can
touch at all:

* `lookup_insert`, `lookup_erase`, `lookup_eraseTree`, `lookup_move` — the view after each
  change of the bindings;
* `mkdir_eq_ok`, `createNew_eq_ok`, `writeFile_eq_ok`, `chmod_eq_ok`, `removeFile_eq_ok`,
  `removeDirAll_eq_ok`, `rename_eq_ok` — what a successful call did, as one such change at the
  location the path resolves to;
* `mkdirAllWith_eq_ok` — **making a directory tree only adds directories where nothing was**
  (`AddsDirs`);
* `walk_down_iff` — **a path without `..` whose directories are not links leads straight
  down**: it resolves exactly when every location on the way is a directory (`DirChain`), and
  then to the location its names spell;
* `AddsNoLink` — a change after which every link was there before; removals are such changes,
  and they keep every way without links so.
-/

namespace HostAgent.Host.FileTree

/-! ## The view after a change -/

theorem lookup_of_ne_nil (t : FileTree) {l : Location} (hl : l ≠ []) :
    t.lookup l = (t.entries.find? (·.1 == l)).map (·.2) := by
  simp [lookup, hl]

/-- A map that keeps every key finds, under each key, the image of what was found before. -/
theorem find?_map_keyed {es : List (Location × Node)} {f : Location × Node → Location × Node}
    (hkey : ∀ e, (f e).1 = e.1) (l : Location) :
    (es.map f).find? (·.1 == l) = (es.find? (·.1 == l)).map f := by
  have hp : ((fun e : Location × Node => e.1 == l) ∘ f) = fun e => e.1 == l := by
    funext e
    simp [hkey]
  rw [List.find?_map, hp]

theorem key_of_find? {es : List (Location × Node)} {l : Location} {e : Location × Node}
    (h : es.find? (·.1 == l) = some e) : e.1 = l := by
  simpa using List.find?_some h

theorem lookup_insert (t : FileTree) (loc : Location) (n : Node) {l : Location} (hl : l ≠ []) :
    (t.insert loc n).lookup l = if l = loc then some n else t.lookup l := by
  rw [lookup_of_ne_nil _ hl, lookup_of_ne_nil _ hl]
  unfold insert
  split
  · rename_i hany
    have hkey : ∀ e : Location × Node,
        ((fun (k, m) => if k == loc then (k, n) else (k, m)) e).1 = e.1 := by
      rintro ⟨k, m⟩
      by_cases h : k = loc <;> simp [h]
    rw [find?_map_keyed hkey, Option.map_map]
    by_cases h : l = loc
    · -- the first binding of `loc` is the one rebound
      subst h
      obtain ⟨e, he⟩ : ∃ e, t.entries.find? (·.1 == l) = some e :=
        Option.isSome_iff_exists.mp (by rw [List.find?_isSome]; simpa using hany)
      obtain ⟨k, m⟩ := e
      have hk : k = l := key_of_find? he
      rw [he, if_pos rfl]
      simp [hk]
    · rw [if_neg h]
      rcases hx : t.entries.find? (·.1 == l) with _ | ⟨k, m⟩
      · rw [hx]
        rfl
      · have hkl : k = l := key_of_find? hx
        have hk : k ≠ loc := hkl ▸ h
        rw [hx]
        simp [hk]
  · -- a new binding is listed first
    by_cases h : l = loc
    · subst h
      simp
    · simp [h, Ne.symm h]

theorem lookup_erase (t : FileTree) (loc : Location) {l : Location} (hl : l ≠ []) :
    (t.erase loc).lookup l = if l = loc then none else t.lookup l := by
  rw [lookup_of_ne_nil _ hl, lookup_of_ne_nil _ hl]
  unfold erase
  rw [List.find?_filter]
  by_cases h : l = loc
  · subst h
    rw [if_pos rfl, List.find?_eq_none.mpr (by simp)]
    rfl
  · rw [if_neg h]
    congr 2
    funext ⟨k, m⟩
    by_cases hk : k = l
    · subst hk
      simp [h]
    · simp [hk]

/-- No binding is keyed by a location that holds nothing. -/
theorem key_ne_of_lookup_none {t : FileTree} {loc : Location} (hl : loc ≠ [])
    (h : t.lookup loc = none) : ∀ e ∈ t.entries, e.1 ≠ loc := by
  rw [lookup_of_ne_nil t hl, Option.map_eq_none_iff, List.find?_eq_none] at h
  intro e he hkey
  exact h e he (by simp [hkey])

/-- After binding `loc` some entry is keyed by it. -/
theorem any_key_insert (t : FileTree) (loc : Location) (n : Node) :
    (t.insert loc n).entries.any (·.1 == loc) = true := by
  unfold insert
  split
  · rename_i hany
    obtain ⟨e, he, hk⟩ := List.any_eq_true.mp hany
    refine List.any_eq_true.mpr ⟨_, List.mem_map_of_mem he, ?_⟩
    by_cases h : e.1 = loc <;> simp_all
  · simp

/-- **Binding a location twice keeps the second node**, in the place of the first. -/
theorem insert_insert (t : FileTree) (loc : Location) (a b : Node) :
    (t.insert loc a).insert loc b = t.insert loc b := by
  -- the second binding finds `loc` bound, and rebinds it in place
  rw [insert.eq_1 (t.insert loc a), if_pos (any_key_insert t loc a)]
  unfold insert
  by_cases hany : t.entries.any (·.1 == loc) = true
  · -- so did the first, and the second rebinding overrides it
    simp only [hany, ↓reduceIte, List.map_map]
    congr 2
    funext e
    obtain ⟨l, m⟩ := e
    by_cases h : l = loc <;> simp [h]
  · -- the first binding is new and listed first; the second rebinds it there
    have hnew : ∀ e ∈ t.entries, e.1 ≠ loc := fun e he hk =>
      hany (List.any_eq_true.mpr ⟨e, he, by simp [hk]⟩)
    simp only [hany, Bool.false_eq_true, ↓reduceIte, List.map_cons, beq_self_eq_true,
      FileTree.mk.injEq, List.cons.injEq, true_and]
    refine (List.map_congr_left fun e he => ?_).trans (List.map_id' _)
    obtain ⟨l, m⟩ := e
    have hl : l ≠ loc := hnew _ he
    simp [hl]

/-- **A new binding removed again leaves the tree as it was.** -/
theorem erase_insert_of_lookup_none (t : FileTree) {loc : Location} (hl : loc ≠ [])
    (h : t.lookup loc = none) (n : Node) : (t.insert loc n).erase loc = t := by
  have hnew := key_ne_of_lookup_none hl h
  have hany : t.entries.any (·.1 == loc) = false := by
    rw [Bool.eq_false_iff, ne_eq, List.any_eq_true]
    rintro ⟨e, he, hk⟩
    exact hnew e he (by simpa using hk)
  unfold insert erase
  simp only [hany, Bool.false_eq_true, ↓reduceIte, List.filter_cons, bne_self_eq_false]
  congr 1
  exact List.filter_eq_self.mpr fun e he => by simpa using hnew e he

theorem lookup_eraseTree (t : FileTree) (loc : Location) {l : Location} (hl : l ≠ []) :
    (t.eraseTree loc).lookup l = if loc <+: l then none else t.lookup l := by
  rw [lookup_of_ne_nil _ hl, lookup_of_ne_nil _ hl]
  unfold eraseTree
  rw [List.find?_filter]
  by_cases h : loc <+: l
  · rw [if_pos h, List.find?_eq_none.mpr]
    · rfl
    · rintro ⟨k, m⟩ _
      by_cases hk : k = l
      · subst hk
        simp [List.isPrefixOf_iff_prefix.mpr h]
      · simp [hk]
  · rw [if_neg h]
    have hpre : loc.isPrefixOf l = false := by
      rw [Bool.eq_false_iff, ne_eq, List.isPrefixOf_iff_prefix]
      exact h
    congr 2
    funext ⟨k, m⟩
    by_cases hk : k = l
    · subst hk
      simp [hpre]
    · simp [hk]

/-- The last step of `rename`: `src` and everything below it moved under `dst`, over whatever
`dst` held. -/
def move (t : FileTree) (src dst : Location) : FileTree :=
  { entries := (t.eraseTree dst).entries.map fun (l, n) =>
      if src.isPrefixOf l then (dst ++ l.drop src.length, n) else (l, n) }

theorem find?_congr {α : Type} {xs : List α} {p q : α → Bool} (h : ∀ x ∈ xs, p x = q x) :
    xs.find? p = xs.find? q := by
  induction xs with
  | nil => rfl
  | cons x xs ih =>
    rw [List.find?_cons, List.find?_cons, h x (by simp), ih fun y hy => h y (by simp [hy])]

/-- Under `l` the moved tree holds what the tree held under `l₀`, when exactly the bindings
that a `dst` outside `l₀` leaves in place and that the move puts at `l` are those at `l₀`. -/
theorem lookup_move_eq (t : FileTree) (src dst : Location) {l l₀ : Location} (hl : l ≠ [])
    (hl₀ : l₀ ≠ []) (hdst : ¬ dst <+: l₀)
    (hkey : ∀ k, ¬ dst <+: k →
      ((if src.isPrefixOf k then dst ++ k.drop src.length else k) == l) = (k == l₀)) :
    (t.move src dst).lookup l = t.lookup l₀ := by
  have hkept := lookup_eraseTree t dst hl₀
  rw [if_neg hdst] at hkept
  rw [← hkept, lookup_of_ne_nil _ hl, lookup_of_ne_nil _ hl₀]
  unfold move
  rw [List.find?_map, Option.map_map]
  -- the move keeps every node, so only where it looks matters
  have hnode : ((fun e : Location × Node => e.2) ∘ fun (k, n) =>
      if src.isPrefixOf k then (dst ++ k.drop src.length, n) else (k, n)) = fun e => e.2 := by
    funext ⟨k, n⟩
    show (if src.isPrefixOf k then (dst ++ k.drop src.length, n) else (k, n)).2 = n
    split <;> rfl
  rw [hnode]
  congr 1
  apply find?_congr
  rintro ⟨k, n⟩ hmem
  have hk : ¬ dst <+: k := by
    have hkeep : (!dst.isPrefixOf k) = true := (List.mem_filter.mp hmem).2
    rw [Bool.not_eq_true', Bool.eq_false_iff, ne_eq, List.isPrefixOf_iff_prefix] at hkeep
    exact hkeep
  rw [← hkey k hk]
  show ((if src.isPrefixOf k then (dst ++ k.drop src.length, n) else (k, n)).1 == l) = _
  split <;> rfl

/-- Away from `src` and `dst` a move changes nothing. -/
theorem lookup_move (t : FileTree) {src dst l : Location} (hl : l ≠ []) (hsrc : ¬ src <+: l)
    (hdst : ¬ dst <+: l) : (t.move src dst).lookup l = t.lookup l := by
  apply lookup_move_eq t src dst hl hl hdst
  intro k _
  by_cases hs : src <+: k
  · -- a moved binding lands below `dst`, and `k` itself is below `src`: neither is `l`
    have hmoved : (dst ++ k.drop src.length == l) = false := by
      simp only [beq_eq_false_iff_ne, ne_eq]
      rintro rfl
      exact hdst (List.prefix_append _ _)
    have hkl : (k == l) = false := by
      simp only [beq_eq_false_iff_ne, ne_eq]
      rintro rfl
      exact hsrc hs
    simp [List.isPrefixOf_iff_prefix.mpr hs, hmoved, hkl]
  · have hs' : src.isPrefixOf k = false := by
      rw [Bool.eq_false_iff, ne_eq, List.isPrefixOf_iff_prefix]
      exact hs
    simp [hs']

/-- At `dst` a move puts what was at `src`. -/
theorem lookup_move_target (t : FileTree) {src dst : Location} (hsrc : src ≠ []) (hdst : dst ≠ [])
    (hds : ¬ dst <+: src) : (t.move src dst).lookup dst = t.lookup src := by
  apply lookup_move_eq t src dst hdst hsrc hds
  intro k hk
  by_cases hs : src <+: k
  · obtain ⟨r, rfl⟩ := hs
    simp [List.isPrefixOf_iff_prefix.mpr (List.prefix_append src r)]
  · have hs' : src.isPrefixOf k = false := by
      rw [Bool.eq_false_iff, ne_eq, List.isPrefixOf_iff_prefix]
      exact hs
    have hkd : (k == dst) = false := by
      simp only [beq_eq_false_iff_ne, ne_eq]
      rintro rfl
      exact hk (List.prefix_refl _)
    have hks : (k == src) = false := by
      simp only [beq_eq_false_iff_ne, ne_eq]
      rintro rfl
      exact hs (List.prefix_refl _)
    simp [hs', hkd, hks]

/-! ## What a successful call did -/

section Calls

variable {t t' : FileTree} {cwd : Location}

theorem mkdir_eq_ok {path : String} {mode : Nat} (h : t.mkdir cwd path mode = .ok t') :
    ∃ loc, t.resolve cwd path false = .ok loc ∧ t.lookup loc = none ∧
      t' = t.insert loc (.dir mode) := by
  unfold mkdir at h
  rcases hr : t.resolve cwd path false with e | loc
  · simp [hr, bind, Except.bind] at h
  · simp only [hr, bind, Except.bind] at h
    rcases hl : t.lookup loc with _ | n
    · rw [hl] at h
      exact ⟨loc, rfl, hl, (Except.ok.inj h).symm⟩
    · rw [hl] at h
      cases h

theorem createNew_eq_ok {path : String} {data : ByteArray} {mode : Nat}
    (h : t.createNew cwd path data mode = .ok t') :
    ∃ loc, t.resolve cwd path false = .ok loc ∧ t.lookup loc = none ∧
      t' = t.insert loc (.file data mode) := by
  unfold createNew at h
  rcases hr : t.resolve cwd path false with e | loc
  · simp [hr, bind, Except.bind] at h
  · simp only [hr, bind, Except.bind] at h
    rcases hl : t.lookup loc with _ | n
    · rw [hl] at h
      exact ⟨loc, rfl, hl, (Except.ok.inj h).symm⟩
    · rw [hl] at h
      cases h

/-- `chmod` rebinds a file or a directory to the same kind of node, or changes nothing. -/
theorem chmod_eq_ok {path : String} {mode : Nat} (h : t.chmod cwd path mode = .ok t') :
    ∃ loc, t.resolve cwd path true = .ok loc ∧
      ((∃ data m, t.lookup loc = some (.file data m) ∧ t' = t.insert loc (.file data mode)) ∨
        (∃ m, t.lookup loc = some (.dir m) ∧ t' = t.insert loc (.dir mode)) ∨ t' = t) := by
  unfold chmod at h
  rcases hr : t.resolve cwd path true with e | loc
  · simp [hr, bind, Except.bind] at h
  · simp only [hr, bind, Except.bind] at h
    refine ⟨loc, rfl, ?_⟩
    rcases hl : t.lookup loc with _ | n
    · rw [hl] at h
      cases h
    · rw [hl] at h
      cases n with
      | file data m => exact .inl ⟨data, m, rfl, (Except.ok.inj h).symm⟩
      | dir m => exact .inr (.inl ⟨m, rfl, (Except.ok.inj h).symm⟩)
      | link target => exact .inr (.inr (Except.ok.inj h).symm)
      | device d => exact .inr (.inr (Except.ok.inj h).symm)

/-- `writeFile` binds a file where the path leads, or leaves the tree to a device there. -/
theorem writeFile_eq_ok {path : String} {data : ByteArray} {mode : Nat}
    (h : t.writeFile cwd path data mode = .ok t') :
    ∃ loc, t.resolve cwd path true = .ok loc ∧
      ((∃ m, t' = t.insert loc (.file data m)) ∨ t' = t) := by
  unfold writeFile at h
  rcases hr : t.resolve cwd path true with e | loc
  · simp [hr, bind, Except.bind] at h
  · simp only [hr, bind, Except.bind] at h
    refine ⟨loc, rfl, ?_⟩
    rcases hl : t.lookup loc with _ | n
    · rw [hl] at h
      exact .inl ⟨mode, (Except.ok.inj h).symm⟩
    · rw [hl] at h
      cases n with
      | file d m => exact .inl ⟨m, (Except.ok.inj h).symm⟩
      | device d =>
        -- the device takes the bytes or refuses them; the tree stays either way
        rcases ha : d.accepts with e | u
        · simp [ha] at h
        · simp only [ha] at h
          exact .inr (Except.ok.inj h).symm
      | dir m => cases h
      | link target => cases h

/-- `removeFile` unbinds one location that holds something other than a directory. -/
theorem removeFile_eq_ok {path : String} (h : t.removeFile cwd path = .ok t') :
    ∃ loc n, t.resolve cwd path false = .ok loc ∧ t.lookup loc = some n ∧ n.isDir = false ∧
      t' = t.erase loc := by
  unfold removeFile at h
  rcases hr : t.resolve cwd path false with e | loc
  · simp [hr, bind, Except.bind] at h
  · simp only [hr, bind, Except.bind] at h
    rcases hl : t.lookup loc with _ | n
    · rw [hl] at h
      cases h
    · rw [hl] at h
      cases n with
      | dir m => cases h
      | file data m => exact ⟨loc, _, rfl, hl, rfl, (Except.ok.inj h).symm⟩
      | link target => exact ⟨loc, _, rfl, hl, rfl, (Except.ok.inj h).symm⟩
      | device d => exact ⟨loc, _, rfl, hl, rfl, (Except.ok.inj h).symm⟩

/-- `removeDirAll` unbinds a link by itself, or a directory with everything below it. -/
theorem removeDirAll_eq_ok {path : String} (h : t.removeDirAll cwd path = .ok t') :
    ∃ loc, t.resolve cwd path false = .ok loc ∧
      ((∃ target, t.lookup loc = some (.link target) ∧ t' = t.erase loc) ∨
        (∃ m, t.lookup loc = some (.dir m) ∧ t' = t.eraseTree loc)) := by
  unfold removeDirAll at h
  rcases hr : t.resolve cwd path false with e | loc
  · simp [hr, bind, Except.bind] at h
  · simp only [hr, bind, Except.bind] at h
    refine ⟨loc, rfl, ?_⟩
    rcases hl : t.lookup loc with _ | n
    · rw [hl] at h
      cases h
    · rw [hl] at h
      cases n with
      | dir m => exact .inr ⟨m, rfl, (Except.ok.inj h).symm⟩
      | link target => exact .inl ⟨target, rfl, (Except.ok.inj h).symm⟩
      | file data m => cases h
      | device d => cases h

/-- A successful `rename` changed nothing (a path onto itself) or was the move between the
two resolved locations. -/
theorem rename_eq_ok {source target : String} (h : t.rename cwd source target = .ok t') :
    ∃ src dst, t.resolve cwd source false = .ok src ∧ t.resolve cwd target false = .ok dst ∧
      ((src = dst ∧ t' = t) ∨ (src ≠ dst ∧ t' = t.move src dst)) := by
  unfold rename at h
  rcases hs : t.resolve cwd source false with e | src
  · simp [hs, bind, Except.bind] at h
  rcases hd : t.resolve cwd target false with e | dst
  · simp [hs, hd, bind, Except.bind] at h
  refine ⟨src, dst, rfl, rfl, ?_⟩
  simp only [hs, hd, bind, Except.bind] at h
  rcases hl : t.lookup src with _ | node
  · simp [hl] at h
  · simp only [hl] at h
    -- every guard of `rename` either throws or falls through to the move
    by_cases hsd : src = dst
    · subst hsd
      simp only [beq_self_eq_true, ↓reduceIte] at h
      exact .inl ⟨rfl, (Except.ok.inj h).symm⟩
    · simp only [beq_iff_eq, hsd, ↓reduceIte] at h
      repeat' split at h
      all_goals first
        | exact .inr ⟨hsd, (Except.ok.inj h).symm⟩
        | cases h

/-- `t'` is `t` with directories added one at a time, each where nothing was bound. -/
inductive AddsDirs : FileTree → FileTree → Prop
  | refl (t : FileTree) : AddsDirs t t
  | step {t t' : FileTree} (loc : Location) (mode : Nat) (fresh : t.lookup loc = none) :
      AddsDirs (t.insert loc (.dir mode)) t' → AddsDirs t t'

theorem AddsDirs.trans {t₁ t₂ t₃ : FileTree} (h₁ : AddsDirs t₁ t₂) (h₂ : AddsDirs t₂ t₃) :
    AddsDirs t₁ t₃ := by
  induction h₁ with
  | refl => exact h₂
  | step loc mode fresh _ ih => exact .step loc mode fresh (ih h₂)

theorem AddsDirs.of_mkdir {path : String} {mode : Nat} (h : t.mkdir cwd path mode = .ok t') :
    AddsDirs t t' := by
  obtain ⟨loc, -, hfresh, rfl⟩ := mkdir_eq_ok h
  exact .step loc mode hfresh (.refl _)

/-- **Making a directory and those above it only adds directories where nothing was.** -/
theorem mkdirAllWith_eq_ok {mode : Nat} :
    ∀ (fuel : Nat) (path : String) {t' : FileTree},
      t.mkdirAllWith cwd mode fuel path = .ok t' → AddsDirs t t'
  | 0, _, _, h => by simp [mkdirAllWith] at h
  | fuel + 1, path, t', h => by
    unfold mkdirAllWith at h
    split at h
    · cases h
      exact .refl _
    split at h
    · cases h
      exact AddsDirs.of_mkdir ‹_›
    split at h
    · -- a failure other than a missing parent: done only where a directory already stands
      split at h
      · cases h
        exact .refl _
      · cases h
    split at h
    · cases h
    · -- the parent first, then this directory again
      rename_i up _
      rcases hup : t.mkdirAllWith cwd mode fuel up with e | t₁
      · simp [hup, bind, Except.bind] at h
      · simp only [hup, bind, Except.bind] at h
        have h₁ : AddsDirs t t₁ := mkdirAllWith_eq_ok fuel up hup
        split at h
        · cases h
          exact h₁.trans (AddsDirs.of_mkdir ‹_›)
        · split at h
          · cases h
            exact h₁
          · cases h

end Calls

/-! ## Walking straight down -/

/-- `l` is one of the locations met going from `cur` down `names`: `cur ++ p` for a nonempty
prefix `p` of `names`. -/
def OnPath (cur : Location) (names : List String) (l : Location) : Prop :=
  ∃ p, p ≠ [] ∧ p <+: names ∧ l = cur ++ p

/-- Every location from `cur` down `names` is a directory. -/
def DirChain (t : FileTree) (cur : Location) (names : List String) : Prop :=
  ∀ l, OnPath cur names l → ∃ m, t.lookup l = some (.dir m)

/-- No location from `cur` down `names` is a link. -/
def LinkFree (t : FileTree) (cur : Location) (names : List String) : Prop :=
  ∀ l, OnPath cur names l → ∀ target, t.lookup l ≠ some (.link target)

theorem not_onPath_nil {cur l : Location} : ¬ OnPath cur [] l := by
  rintro ⟨p, hp, hpre, -⟩
  exact hp (List.prefix_nil.mp hpre)

theorem onPath_cons {cur l : Location} {n : String} {rest : List String} :
    OnPath cur (n :: rest) l ↔ l = cur ++ [n] ∨ OnPath (cur ++ [n]) rest l := by
  constructor
  · rintro ⟨p, hp, hpre, rfl⟩
    obtain ⟨q, hq, rfl⟩ : ∃ q, q <+: rest ∧ p = n :: q := by
      rcases List.prefix_cons_iff.mp hpre with h | ⟨q, rfl, hq⟩
      · exact absurd h hp
      · exact ⟨q, hq, rfl⟩
    by_cases hqe : q = []
    · subst hqe
      exact .inl rfl
    · exact .inr ⟨q, hqe, hq, by simp⟩
  · rintro (rfl | ⟨q, hq, hpre, rfl⟩)
    · exact ⟨[n], by simp, by simp, rfl⟩
    · exact ⟨n :: q, by simp, List.cons_prefix_cons.mpr ⟨rfl, hpre⟩, by simp⟩

theorem dirChain_nil (t : FileTree) (cur : Location) : DirChain t cur [] :=
  fun _ hl => absurd hl not_onPath_nil

theorem dirChain_cons {t : FileTree} {cur : Location} {n : String} {rest : List String} :
    DirChain t cur (n :: rest) ↔
      (∃ m, t.lookup (cur ++ [n]) = some (.dir m)) ∧ DirChain t (cur ++ [n]) rest := by
  simp only [DirChain, onPath_cons]
  constructor
  · intro h
    exact ⟨h _ (.inl rfl), fun l hl => h l (.inr hl)⟩
  · rintro ⟨hhere, hrest⟩ l (rfl | hl)
    · exact hhere
    · exact hrest l hl

theorem linkFree_cons {t : FileTree} {cur : Location} {n : String} {rest : List String}
    (h : LinkFree t cur (n :: rest)) :
    (∀ target, t.lookup (cur ++ [n]) ≠ some (.link target)) ∧ LinkFree t (cur ++ [n]) rest :=
  ⟨h _ (onPath_cons.mpr (.inl rfl)), fun l hl => h l (onPath_cons.mpr (.inr hl))⟩

/-- A chain of directories is a way without links. -/
theorem DirChain.linkFree {t : FileTree} {cur : Location} {names : List String}
    (h : DirChain t cur names) : LinkFree t cur names := by
  intro l hl target hlink
  obtain ⟨m, hm⟩ := h l hl
  rw [hm] at hlink
  cases hlink

theorem dirChain_congr {t t' : FileTree} {cur : Location} {names : List String}
    (h : ∀ l, OnPath cur names l → t'.lookup l = t.lookup l) :
    t'.DirChain cur names ↔ t.DirChain cur names := by
  constructor
  · intro hc l hl
    rw [← h l hl]
    exact hc l hl
  · intro hc l hl
    rw [h l hl]
    exact hc l hl

theorem prefix_of_onPath {cur l : Location} {names : List String} (h : OnPath cur names l)
    (tail : List String) : l <+: cur ++ names ++ tail := by
  obtain ⟨p, -, ⟨q, rfl⟩, rfl⟩ := h
  exact ⟨q ++ tail, by simp⟩

theorem onPath_ne_nil {cur l : Location} {names : List String} (h : OnPath cur names l) : l ≠ [] := by
  obtain ⟨p, hp, -, rfl⟩ := h
  simp [hp]

/-- **Walking a path without `..` whose directories are not links.** With `ps` the pieces of a
directory and `name` a plain name in it, the walk ends at the location the names spell exactly
when every location on the way is a directory. The last location may hold anything but a link
that the walk would follow; no link is followed, so `follow` is never asked. -/
theorem walkWith_down_iff {t : FileTree} {fl : Bool}
    {follow : Location → List String → Except IoError Location} {name : String}
    (hname : name ≠ "." ∧ name ≠ "..") :
    ∀ (ps : List String) (cur loc : Location), ".." ∉ ps →
      LinkFree t cur (ps.filter (· != ".")) →
      (fl = true → ∀ target, t.lookup (cur ++ ps.filter (· != ".") ++ [name]) ≠ some (.link target)) →
      (t.walkWith fl follow cur (ps ++ [name]) = .ok loc ↔
        loc = cur ++ ps.filter (· != ".") ++ [name] ∧ DirChain t cur (ps.filter (· != ".")))
  | [], cur, loc, _, _, hlast => by
    rw [List.nil_append, walkWith.eq_4 _ _ _ _ _ _ hname.1 hname.2]
    simp only [List.filter_nil, List.append_nil] at hlast ⊢
    have hdone : t.walkWith fl follow (cur ++ [name]) [] = .ok (cur ++ [name]) := walkWith.eq_1 ..
    rcases hl : t.lookup (cur ++ [name]) with _ | n
    · simp [dirChain_nil, eq_comm]
    · cases n with
      | link target =>
        cases fl with
        | false => simp [dirChain_nil, eq_comm]
        | true => exact absurd hl (hlast rfl target)
      | dir m => simp [hdone, dirChain_nil, eq_comm]
      | file data m => simp [dirChain_nil, eq_comm]
      | device d => simp [dirChain_nil, eq_comm]
  | p :: ps, cur, loc, hup, hfree, hlast => by
    have hup' : ".." ∉ ps := fun h => hup (List.mem_cons_of_mem _ h)
    by_cases hdot : p = "."
    · -- a `.` stays where it is and spells nothing
      subst hdot
      rw [List.cons_append, walkWith.eq_2]
      have hf : ("." :: ps).filter (· != ".") = ps.filter (· != ".") := by simp
      rw [hf] at hfree hlast ⊢
      exact walkWith_down_iff hname ps cur loc hup' hfree hlast
    · have hp : p ≠ ".." := fun h => hup (h ▸ List.mem_cons_self)
      have hf : (p :: ps).filter (· != ".") = p :: ps.filter (· != ".") := by simp [hdot]
      rw [List.cons_append, walkWith.eq_4 _ _ _ _ _ _ hdot hp]
      rw [hf] at hfree hlast ⊢
      obtain ⟨hnolink, hfree'⟩ := linkFree_cons hfree
      have hrest : (ps ++ [name]).isEmpty = false := by simp
      rw [dirChain_cons]
      rcases hl : t.lookup (cur ++ [p]) with _ | n
      · simp [hrest]
      · cases n with
        | link target => exact absurd hl (hnolink target)
        | dir m =>
          simp only
          rw [walkWith_down_iff hname ps (cur ++ [p]) loc hup' hfree' (by simpa using hlast)]
          simp
        | file data m => simp [hrest]
        | device d => simp [hrest]

/-- The same walk with any number of links allowed. -/
theorem walk_down_iff {t : FileTree} {fl : Bool} {fuel : Nat} {name : String}
    (hname : name ≠ "." ∧ name ≠ "..") (ps : List String) (cur loc : Location) (hup : ".." ∉ ps)
    (hfree : LinkFree t cur (ps.filter (· != ".")))
    (hlast : fl = true → ∀ target, t.lookup (cur ++ ps.filter (· != ".") ++ [name]) ≠ some (.link target)) :
    t.walk fl fuel cur (ps ++ [name]) = .ok loc ↔
      loc = cur ++ ps.filter (· != ".") ++ [name] ∧ DirChain t cur (ps.filter (· != ".")) := by
  cases fuel <;> exact walkWith_down_iff hname ps cur loc hup hfree hlast

/-! ## Changes that make no link -/

/-- Every link bound in `t'` was bound, to the same target, in `t`. -/
def AddsNoLink (t t' : FileTree) : Prop :=
  ∀ l target, t'.lookup l = some (.link target) → t.lookup l = some (.link target)

namespace AddsNoLink

variable {t₁ t₂ t₃ : FileTree}

theorem refl (t : FileTree) : AddsNoLink t t := fun _ _ h => h

theorem trans (h₁ : AddsNoLink t₁ t₂) (h₂ : AddsNoLink t₂ t₃) : AddsNoLink t₁ t₃ :=
  fun l target h => h₁ l target (h₂ l target h)

/-- **A change that makes no link keeps a way without links so.** -/
theorem linkFree (h : AddsNoLink t₁ t₂) {cur : Location} {names : List String}
    (hfree : LinkFree t₁ cur names) : LinkFree t₂ cur names :=
  fun l hl target hlink => hfree l hl target (h l target hlink)

end AddsNoLink

section Removals

variable {t t' : FileTree} {cwd : Location}

theorem addsNoLink_erase (t : FileTree) (loc : Location) : AddsNoLink t (t.erase loc) := by
  intro l target h
  by_cases hl : l = []
  · subst hl
    exact h
  rw [lookup_erase _ _ hl] at h
  split at h
  · cases h
  · exact h

theorem addsNoLink_eraseTree (t : FileTree) (loc : Location) : AddsNoLink t (t.eraseTree loc) := by
  intro l target h
  by_cases hl : l = []
  · subst hl
    exact h
  rw [lookup_eraseTree _ _ hl] at h
  split at h
  · cases h
  · exact h

theorem addsNoLink_removeFile {path : String} (h : t.removeFile cwd path = .ok t') :
    AddsNoLink t t' := by
  obtain ⟨loc, -, -, -, -, rfl⟩ := removeFile_eq_ok h
  exact addsNoLink_erase t loc

theorem addsNoLink_removeDirAll {path : String} (h : t.removeDirAll cwd path = .ok t') :
    AddsNoLink t t' := by
  obtain ⟨loc, -, ⟨-, -, rfl⟩ | ⟨-, -, rfl⟩⟩ := removeDirAll_eq_ok h
  · exact addsNoLink_erase t loc
  · exact addsNoLink_eraseTree t loc

end Removals

end HostAgent.Host.FileTree
