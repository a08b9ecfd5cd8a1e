import HostAgent.Proofs.MarkerFiles
import HostAgent.Proofs.PlainTrees

/-!
# `Proofs.DirectoryWalk` — where a name inside a directory leads

The agent names the files of a directory `Path.join dir name`: its state files, its cache
entries, its log and the log's backups. Whatever `dir` is (relative or absolute, with `.`, `..`
or links on the way), all such paths lead into one place, `dirOf dir`: the location the resolver
reaches when it walks `dir` and then asks for a directory there. `resolve_join_child` says so:
**a plain name below a path resolves one step below the path's directory**, whenever the name
itself is not a link that the call follows.

So every call on the files of one directory acts at `D ++ [name]` for the same `D`, as long as
the walk to `D` comes out the same. A call that changes only what lies below `D` keeps it so when
the walk to `D` never goes below `D`: that is `Anchored t cwd dir D`, the directory path reaching
`D` whatever `D` holds. A path that runs through one of `D`'s own entries (a `..` back out of it,
or a link inside it) is not anchored, and acting on the entries may then cut the path itself.

A path with a clear way (`ClearWay`: no `..`, and no link anywhere on the way) leads where its
names spell (`ClearWay.dirOf_eq`). A removal of a name below it, which acts on the entry and not
on what a link there points to, then keeps every location it does not spell
(`ClearWay.removeFile_keeps`, `ClearWay.removeDirAll_keeps`), whatever links the tree holds
elsewhere.
-/

namespace HostAgent.Host.FileTree

/-- The directory a path leads to when something in it is asked for: the path's pieces walked
from where it starts, links followed, and a final `.` that asks for a directory there. -/
def dirOf (t : FileTree) (cwd : Location) (path : String) : Except IoError Location :=
  t.walk true maxLinks (if Path.isAbsolute path then [] else cwd) (Path.pieces path ++ ["."])

/-- No location a walk may end at holds a link under the name `n`. -/
def NoLinkBelow (t : FileTree) (n : String) (r : Except IoError Location) : Prop :=
  ∀ D, r = .ok D → ∀ target, t.lookup (D ++ [n]) ≠ some (.link target)

section Child

variable {t : FileTree} {n : String} {fl b : Bool}

/-- **A walk to a name is the walk to its directory and one step down**, for any way of
following links that agree on the same: with `followA` and `followB` related as the two walks,
the walk of `qs` then `n` ends one step below the walk of `qs` then `.`. -/
theorem walkWith_child (hn : n ≠ "." ∧ n ≠ "..")
    {followA followB : Location → List String → Except IoError Location}
    (hfollow : ∀ base qs, (fl = true → NoLinkBelow t n (followB base (qs ++ ["."]))) →
      followA base (qs ++ [n]) = (followB base (qs ++ ["."])).map (· ++ [n])) :
    ∀ (qs : List String) (cur : Location),
      (fl = true → NoLinkBelow t n (t.walkWith b followB cur (qs ++ ["."]))) →
      t.walkWith fl followA cur (qs ++ [n]) =
        (t.walkWith b followB cur (qs ++ ["."])).map (· ++ [n])
  | [], cur, hlast => by
    -- the last step: the name itself, which is not followed
    have hdot : t.walkWith b followB cur ["."] = .ok cur := by
      rw [walkWith.eq_2, walkWith.eq_1]
    rw [List.nil_append, List.nil_append, hdot, walkWith.eq_4 _ _ _ _ _ _ hn.1 hn.2]
    rw [List.nil_append, hdot] at hlast
    have hdone : t.walkWith fl followA (cur ++ [n]) [] = .ok (cur ++ [n]) := walkWith.eq_1 ..
    rcases hl : t.lookup (cur ++ [n]) with _ | node
    · rfl
    · cases node with
      | link target =>
        cases fl with
        | false => rfl
        | true => exact absurd hl (hlast rfl cur rfl target)
      | dir m => simp only [hdone]; rfl
      | file data m => rfl
      | device d => rfl
  | x :: qs, cur, hlast => by
    simp only [List.cons_append] at hlast ⊢
    by_cases hdot : x = "."
    · subst hdot
      rw [walkWith.eq_2, walkWith.eq_2]
      rw [walkWith.eq_2] at hlast
      exact walkWith_child hn hfollow qs cur hlast
    by_cases hup : x = ".."
    · subst hup
      rw [walkWith.eq_3, walkWith.eq_3]
      rw [walkWith.eq_3] at hlast
      exact walkWith_child hn hfollow qs cur.dropLast hlast
    rw [walkWith.eq_4 _ _ _ _ _ _ hdot hup, walkWith.eq_4 _ _ _ _ _ _ hdot hup]
    rw [walkWith.eq_4 _ _ _ _ _ _ hdot hup] at hlast
    have hne : (qs ++ [n]).isEmpty = false := by simp
    have hne' : (qs ++ ["."]).isEmpty = false := by simp
    rcases hl : t.lookup (cur ++ [x]) with _ | node
    · simp only [hne, hne']
      rfl
    · rw [hl] at hlast
      cases node with
      | link target =>
        -- a link on the way is followed by both walks, with the rest of the path after it
        simp only [hne, hne', Bool.false_and, Bool.false_eq_true, ↓reduceIte] at hlast ⊢
        rw [← List.append_assoc, ← List.append_assoc]
        rw [← List.append_assoc] at hlast
        exact hfollow _ _ hlast
      | dir m => exact walkWith_child hn hfollow qs (cur ++ [x]) hlast
      | file data m =>
        simp only [hne, hne']
        rfl
      | device d =>
        simp only [hne, hne']
        rfl

/-- The same for `walk`, whatever the links left to follow. -/
theorem walk_child (hn : n ≠ "." ∧ n ≠ "..") :
    ∀ (fuel : Nat) (cur : Location) (qs : List String),
      (fl = true → NoLinkBelow t n (t.walk b fuel cur (qs ++ ["."]))) →
      t.walk fl fuel cur (qs ++ [n]) = (t.walk b fuel cur (qs ++ ["."])).map (· ++ [n])
  | 0, cur, qs, hlast => by
    simp only [walk] at hlast ⊢
    exact walkWith_child hn (fun _ _ _ => rfl) qs cur hlast
  | fuel + 1, cur, qs, hlast => by
    simp only [walk] at hlast ⊢
    exact walkWith_child hn (fun base qs' h => walk_child hn fuel base qs' h) qs cur hlast

/-- **A plain name below a path resolves one step below the path's directory**, whenever the
name is not a link that the call follows. -/
theorem resolve_join_child (cwd : Location) (dir : String) (hn : Path.PlainName n)
    (hlast : fl = true → NoLinkBelow t n (t.dirOf cwd dir)) :
    t.resolve cwd (Path.join dir n) fl = (t.dirOf cwd dir).map (· ++ [n]) := by
  rw [Store.StateStore.resolve_join ⟨dir⟩ hn t cwd fl]
  exact walk_child ⟨hn.not_here, hn.not_up⟩ maxLinks _ _ hlast

/-- The same for a call that does not follow the name. -/
theorem resolve_join_child_nofollow (cwd : Location) (dir : String) (hn : Path.PlainName n) :
    t.resolve cwd (Path.join dir n) false = (t.dirOf cwd dir).map (· ++ [n]) :=
  resolve_join_child cwd dir hn (fun h => Bool.false_ne_true h |>.elim)

end Child

/-! ## The directory a path names -/

section Dot

variable {t : FileTree}

/-- **A walk that asks for a directory ends where the plain walk ends.** When the walk of `qs`
then `.` succeeds, the walk of `qs` alone, following a link at its end, comes to the same
place: the `.` only checks that the place is a directory. -/
theorem walkWith_dot {b : Bool}
    {followA followB : Location → List String → Except IoError Location}
    (hfollow : ∀ base qs D, followB base (qs ++ ["."]) = .ok D → followA base qs = .ok D) :
    ∀ (qs : List String) (cur D : Location), t.walkWith b followB cur (qs ++ ["."]) = .ok D →
      t.walkWith true followA cur qs = .ok D
  | [], cur, D, h => by
    rw [List.nil_append, walkWith.eq_2, walkWith.eq_1] at h
    rw [walkWith.eq_1]
    exact h
  | x :: qs, cur, D, h => by
    rw [List.cons_append] at h
    by_cases hdot : x = "."
    · subst hdot
      rw [walkWith.eq_2] at h ⊢
      exact walkWith_dot hfollow qs cur D h
    by_cases hup : x = ".."
    · subst hup
      rw [walkWith.eq_3] at h ⊢
      exact walkWith_dot hfollow qs cur.dropLast D h
    rw [walkWith.eq_4 _ _ _ _ _ _ hdot hup] at h ⊢
    have hne : (qs ++ ["."]).isEmpty = false := by simp
    rcases hl : t.lookup (cur ++ [x]) with _ | node
    · simp [hl, hne] at h
    · rw [hl] at h
      cases node with
      | link target =>
        -- a link is followed by both walks, the rest of the path after it
        simp only [hne, Bool.false_and, Bool.false_eq_true, ↓reduceIte] at h
        simp only [Bool.not_true, Bool.and_false, Bool.false_eq_true, ↓reduceIte]
        rw [← List.append_assoc] at h
        exact hfollow _ _ D h
      | dir m => exact walkWith_dot hfollow qs (cur ++ [x]) D h
      | file data m => simp [hne] at h
      | device d => simp [hne] at h

theorem walk_dot {b : Bool} :
    ∀ (fuel : Nat) (qs : List String) (cur D : Location),
      t.walk b fuel cur (qs ++ ["."]) = .ok D → t.walk true fuel cur qs = .ok D
  | 0, qs, cur, D, h => by
    simp only [walk] at h ⊢
    exact walkWith_dot (fun _ _ _ h => by cases h) qs cur D h
  | fuel + 1, qs, cur, D, h => by
    simp only [walk] at h ⊢
    exact walkWith_dot (fun base qs' D' h' => walk_dot fuel qs' base D' h') qs cur D h

end Dot

/-! ## Paths anchored at their directory -/

/-- `l` lies strictly below `D`. -/
def Below (D l : Location) : Prop := D <+: l ∧ l ≠ D

/-- `t'` binds every location not strictly below `D` as `t` does. -/
def AgreeOutside (D : Location) (t t' : FileTree) : Prop :=
  ∀ l, ¬ Below D l → t'.lookup l = t.lookup l

namespace AgreeOutside

variable {D : Location} {t₁ t₂ t₃ : FileTree}

theorem refl (t : FileTree) : AgreeOutside D t t := fun _ _ => rfl

theorem trans (h₁ : AgreeOutside D t₁ t₂) (h₂ : AgreeOutside D t₂ t₃) : AgreeOutside D t₁ t₃ :=
  fun l hl => (h₂ l hl).trans (h₁ l hl)

end AgreeOutside

/-- **The path `dir` leads to the directory `D` whatever `D` holds**: in every tree that agrees
with `t` outside `D`'s contents the walk to `dir`'s directory ends at `D`. -/
def Anchored (t : FileTree) (cwd : Location) (dir : String) (D : Location) : Prop :=
  ∀ t', AgreeOutside D t t' → t'.dirOf cwd dir = .ok D

namespace Anchored

variable {t t' : FileTree} {cwd D : Location} {dir : String}

theorem dirOf_eq (h : Anchored t cwd dir D) : t.dirOf cwd dir = .ok D := h t (.refl t)

/-- A path with no directory part is anchored at the working directory. -/
theorem here (t : FileTree) (cwd : Location) : Anchored t cwd "" cwd := fun _ _ => rfl

/-- **A path straight down through directories is anchored.** With no `..` and a directory at
every step, the walk meets only locations above `D`, which a change inside `D` leaves alone. -/
theorem of_down (hup : ".." ∉ Path.pieces dir)
    (hchain : DirChain t (if Path.isAbsolute dir then [] else cwd)
      ((Path.pieces dir).filter (· != "."))) :
    Anchored t cwd dir
      ((if Path.isAbsolute dir then [] else cwd) ++ (Path.pieces dir).filter (· != ".")) := by
  intro t' ha
  -- every location on the way lies above `D`, where `t'` agrees with `t`
  have hagree : ∀ l, OnPath (if Path.isAbsolute dir then [] else cwd)
      ((Path.pieces dir).filter (· != ".")) l → t'.lookup l = t.lookup l := by
    intro l hl
    have hpre := prefix_of_onPath hl []
    rw [List.append_nil] at hpre
    exact ha l fun ⟨hbelow, hne⟩ =>
      hne (hbelow.eq_of_length (le_antisymm hbelow.length_le hpre.length_le)).symm
  have hchain' := (dirChain_congr hagree).mpr hchain
  -- the walk to any name below `dir` goes straight down, so the walk to `dir` itself does too
  have hname : Path.PlainName "a" := by decide
  have hwalk := (@walk_down_iff t' false maxLinks "a" ⟨hname.not_here, hname.not_up⟩ _ _ _
    hup hchain'.linkFree nofun).mpr ⟨rfl, hchain'⟩
  have hmap : (t'.dirOf cwd dir).map (· ++ ["a"]) =
      .ok ((if Path.isAbsolute dir then [] else cwd) ++ (Path.pieces dir).filter (· != ".") ++
        ["a"]) := by
    rw [← resolve_join_child_nofollow cwd dir hname]
    exact (Store.StateStore.resolve_join ⟨dir⟩ hname t' cwd false).trans hwalk
  rcases hD : t'.dirOf cwd dir with e | D'
  · rw [hD] at hmap
    cases hmap
  · rw [hD] at hmap
    rw [List.append_cancel_right (Except.ok.inj hmap)]

/-- A plain name of a directory in the working directory is anchored at that directory. -/
theorem of_dir_name {n : String} (hn : Path.PlainName n) {m : Nat}
    (hdir : t.lookup (cwd ++ [n]) = some (.dir m)) : Anchored t cwd n (cwd ++ [n]) := by
  obtain ⟨hbase, hnames, hup⟩ := Path.down_plain hn cwd
  have h := @of_down t cwd n hup (by
    rw [hbase, hnames]
    exact dirChain_cons.mpr ⟨⟨m, hdir⟩, dirChain_nil _ _⟩)
  rwa [hbase, hnames] at h

/-- A change below `D` keeps the path anchored. -/
theorem of_agree (h : Anchored t cwd dir D) (ha : AgreeOutside D t t') : Anchored t' cwd dir D :=
  fun t'' ha' => h t'' (ha.trans ha')

/-- Below an anchored path a plain name resolves one step below `D`, whenever the name is not a
link that the call follows. -/
theorem resolve_join (h : Anchored t cwd dir D) {n : String} (hn : Path.PlainName n) {fl : Bool}
    (hlast : fl = true → ∀ target, t.lookup (D ++ [n]) ≠ some (.link target)) :
    t.resolve cwd (Path.join dir n) fl = .ok (D ++ [n]) := by
  rw [resolve_join_child cwd dir hn, h.dirOf_eq]
  · rfl
  · intro hfl D' hD'
    rw [h.dirOf_eq] at hD'
    cases hD'
    exact hlast hfl

/-- The same for a call that does not follow the name. -/
theorem resolve_join_nofollow (h : Anchored t cwd dir D) {n : String} (hn : Path.PlainName n) :
    t.resolve cwd (Path.join dir n) false = .ok (D ++ [n]) :=
  h.resolve_join hn fun hf => (Bool.false_ne_true hf).elim

end Anchored

/-! ## Paths with a clear way -/

/-- **A clear way down a path**: no piece of it is `..`, and no location its names pass, the last
included, holds a link. Such a path leads where its names spell (`ClearWay.dirOf_eq`), and a
change that makes no link keeps it clear. -/
def ClearWay (t : FileTree) (cwd : Location) (dir : String) : Prop :=
  ".." ∉ Path.pieces dir ∧
    t.LinkFree (if Path.isAbsolute dir then [] else cwd) ((Path.pieces dir).filter (· != "."))

namespace ClearWay

variable {t t' : FileTree} {cwd : Location} {dir : String}

theorem of_addsNoLink (h : t.ClearWay cwd dir) (ht : AddsNoLink t t') : t'.ClearWay cwd dir :=
  ⟨h.1, ht.linkFree h.2⟩

/-- A plain name of a directory in the working directory has a clear way. -/
theorem of_dir_name {n : String} (hn : Path.PlainName n) {m : Nat}
    (hdir : t.lookup (cwd ++ [n]) = some (.dir m)) : t.ClearWay cwd n := by
  obtain ⟨hbase, hnames, hup⟩ := Path.down_plain hn cwd
  refine ⟨hup, ?_⟩
  rw [hbase, hnames]
  exact (dirChain_cons.mpr ⟨⟨m, hdir⟩, dirChain_nil _ _⟩).linkFree

/-- **A clear path leads to the directory its names spell**, when it leads anywhere. -/
theorem dirOf_eq (h : t.ClearWay cwd dir) {D : Location} (hD : t.dirOf cwd dir = .ok D) :
    D = Path.spelled cwd dir := by
  -- the walk to a name below `dir` goes straight down, so the walk to `dir` itself does too
  have hname : Path.PlainName "a" := by decide
  have hres : t.resolve cwd (Path.join dir "a") false = .ok (D ++ ["a"]) := by
    rw [resolve_join_child_nofollow cwd dir hname, hD]
    rfl
  rw [Store.StateStore.resolve_join ⟨dir⟩ hname t cwd false] at hres
  obtain ⟨heq, -⟩ := (@walk_down_iff t false maxLinks "a" ⟨hname.not_here, hname.not_up⟩ _ _ _
    h.1 h.2 nofun).mp hres
  exact List.append_cancel_right heq

/-- Below a clear path a plain name, not followed, resolves one step below where the path
spells. -/
theorem resolve_join (h : t.ClearWay cwd dir) {n : String} (hn : Path.PlainName n)
    {loc : Location} (hr : t.resolve cwd (Path.join dir n) false = .ok loc) :
    loc = Path.spelled cwd dir ++ [n] := by
  rw [resolve_join_child_nofollow cwd dir hn] at hr
  rcases hD : t.dirOf cwd dir with e | D
  · rw [hD] at hr
    cases hr
  · rw [hD] at hr
    rw [← Except.ok.inj hr, h.dirOf_eq hD]

/-- **Removing a file below a clear path** keeps every location but the one the path spells. -/
theorem removeFile_keeps (h : t.ClearWay cwd dir) {n : String} (hn : Path.PlainName n)
    {m : Location} (hm : m ≠ []) (hne : Path.spelled cwd dir ++ [n] ≠ m)
    (hc : t.removeFile cwd (Path.join dir n) = .ok t') : t'.lookup m = t.lookup m := by
  obtain ⟨loc, -, hr, -, -, rfl⟩ := removeFile_eq_ok hc
  rw [lookup_erase _ _ hm, if_neg fun heq => hne ((h.resolve_join hn hr).symm.trans heq.symm)]

/-- **Removing a directory tree below a clear path** keeps every location outside the one the
path spells. -/
theorem removeDirAll_keeps (h : t.ClearWay cwd dir) {n : String} (hn : Path.PlainName n)
    {m : Location} (hm : m ≠ []) (hoff : ¬ Path.spelled cwd dir ++ [n] <+: m)
    (hc : t.removeDirAll cwd (Path.join dir n) = .ok t') : t'.lookup m = t.lookup m := by
  obtain ⟨loc, hr, ⟨target, -, rfl⟩ | ⟨md, -, rfl⟩⟩ := removeDirAll_eq_ok hc
  all_goals rw [h.resolve_join hn hr]
  · rw [lookup_erase _ _ hm, if_neg]
    rintro rfl
    exact hoff (List.prefix_refl _)
  · rw [lookup_eraseTree _ _ hm, if_neg hoff]

end ClearWay

/-! ## Changes to a directory's entries -/

section Entries

variable {D : Location}

/-- A location outside `D` lies inside none of `D`'s entries. -/
theorem not_entry_prefix_of_outside {l : Location} (hl : ¬ Below D l) (n : String) :
    ¬ (D ++ [n]) <+: l := by
  intro hp
  apply hl
  refine ⟨(List.prefix_append D [n]).trans hp, ?_⟩
  rintro rfl
  have hlen := hp.length_le
  simp at hlen

/-- Every tree binds the root alike, so agreeing outside `D` is a matter of the other
locations. -/
theorem AgreeOutside.of_ne_nil {t t' : FileTree}
    (h : ∀ l, l ≠ [] → ¬ Below D l → t'.lookup l = t.lookup l) : AgreeOutside D t t' := by
  intro l hl
  by_cases hnil : l = []
  · subst hnil
    rfl
  · exact h l hnil hl

theorem agreeOutside_erase (t : FileTree) (n : String) : AgreeOutside D t (t.erase (D ++ [n])) :=
  .of_ne_nil fun l hl hout => by
    rw [lookup_erase t _ hl,
      if_neg fun (h : l = D ++ [n]) => not_entry_prefix_of_outside hout n ⟨[], by simp [h]⟩]

theorem agreeOutside_eraseTree (t : FileTree) (n : String) :
    AgreeOutside D t (t.eraseTree (D ++ [n])) :=
  .of_ne_nil fun l hl hout => by
    rw [lookup_eraseTree t _ hl, if_neg (not_entry_prefix_of_outside hout n)]

theorem agreeOutside_insert (t : FileTree) (n : String) (node : Node) :
    AgreeOutside D t (t.insert (D ++ [n]) node) :=
  .of_ne_nil fun l hl hout => by
    rw [lookup_insert t _ _ hl,
      if_neg fun (h : l = D ++ [n]) => not_entry_prefix_of_outside hout n ⟨[], by simp [h]⟩]

theorem agreeOutside_move (t : FileTree) (a b : String) :
    AgreeOutside D t (t.move (D ++ [a]) (D ++ [b])) :=
  .of_ne_nil fun _ hl hout =>
    lookup_move t hl (not_entry_prefix_of_outside hout a) (not_entry_prefix_of_outside hout b)

/-- A location that holds nothing is unbound by no entry, so erasing it changes nothing. -/
theorem erase_eq_self {t : FileTree} {l : Location} (hl : l ≠ []) (hnone : t.lookup l = none) :
    t.erase l = t := by
  rw [lookup_of_ne_nil t hl, Option.map_eq_none_iff, List.find?_eq_none] at hnone
  unfold erase
  congr 1
  apply List.filter_eq_self.mpr
  intro e he
  simpa using hnone e he

theorem not_prefix_of_mem_eraseTree {t : FileTree} {dst : Location} {e : Location × Node}
    (he : e ∈ (t.eraseTree dst).entries) : ¬ dst <+: e.1 := by
  have hkeep : (!dst.isPrefixOf e.1) = true := (List.mem_filter.mp he).2
  rw [Bool.not_eq_true', Bool.eq_false_iff, ne_eq, List.isPrefixOf_iff_prefix] at hkeep
  exact hkeep

section Apart

/-! Two locations apart from each other, neither inside the other, such as two entries of one
directory. -/

variable {src dst : Location} (hsd : ¬ src <+: dst) (hds : ¬ dst <+: src)
include hsd hds

theorem not_prefix_append_of_apart (p : List String) : ¬ dst <+: src ++ p := fun h =>
  (List.prefix_or_prefix_of_prefix h (List.prefix_append src p)).elim hds hsd

/-- **A move between locations apart puts under `dst` what was under `src`.** -/
theorem lookup_move_into (t : FileTree) (p : List String) :
    (t.move src dst).lookup (dst ++ p) = t.lookup (src ++ p) := by
  have hsrc : src ≠ [] := by
    rintro rfl
    exact hsd (List.nil_prefix)
  have hdst : dst ≠ [] := by
    rintro rfl
    exact hds (List.nil_prefix)
  apply lookup_move_eq t src dst (by simp [hdst]) (by simp [hsrc])
    (not_prefix_append_of_apart hsd hds p)
  intro k hk
  by_cases hs : src <+: k
  · obtain ⟨r, rfl⟩ := hs
    simp [List.isPrefixOf_iff_prefix.mpr (List.prefix_append src r)]
  · have hs' : src.isPrefixOf k = false := by
      rw [Bool.eq_false_iff, ne_eq, List.isPrefixOf_iff_prefix]
      exact hs
    have hkd : (k == dst ++ p) = false := by
      simp only [beq_eq_false_iff_ne, ne_eq]
      rintro rfl
      exact hk (List.prefix_append dst p)
    have hks : (k == src ++ p) = false := by
      simp only [beq_eq_false_iff_ne, ne_eq]
      rintro rfl
      exact hs (List.prefix_append src p)
    simp [hs', hkd, hks]

/-- **After a move between locations apart nothing is left under `src`.** -/
theorem lookup_move_from (t : FileTree) (p : List String) :
    (t.move src dst).lookup (src ++ p) = none := by
  have hsrc : src ≠ [] := by
    rintro rfl
    exact hsd (List.nil_prefix)
  rw [lookup_of_ne_nil _ (by simp [hsrc]), Option.map_eq_none_iff, List.find?_eq_none]
  rintro ⟨k, n⟩ hmem
  obtain ⟨⟨k₀, n₀⟩, hmem₀, heq⟩ := List.mem_map.mp hmem
  have hk₀ : ¬ dst <+: k₀ := not_prefix_of_mem_eraseTree hmem₀
  -- a moved binding lands under `dst`, which is apart from `src`; the others stay off `src`
  by_cases hs : src <+: k₀
  · simp only [List.isPrefixOf_iff_prefix.mpr hs, ↓reduceIte, Prod.mk.injEq] at heq
    obtain ⟨rfl, -⟩ := heq
    simp only [beq_iff_eq, ne_eq]
    intro h
    exact not_prefix_append_of_apart hsd hds p (h ▸ List.prefix_append dst _)
  · have hs' : src.isPrefixOf k₀ = false := by
      rw [Bool.eq_false_iff, ne_eq, List.isPrefixOf_iff_prefix]
      exact hs
    simp only [hs', Bool.false_eq_true, ↓reduceIte, Prod.mk.injEq] at heq
    obtain ⟨rfl, -⟩ := heq
    simp only [beq_iff_eq, ne_eq]
    rintro rfl
    exact hs (List.prefix_append src p)

end Apart

/-- Two entries of one directory under different names are apart. -/
theorem entry_not_prefix_entry {a b : String} (hab : a ≠ b) : ¬ (D ++ [a]) <+: (D ++ [b]) := by
  intro hp
  exact hab (by simpa using hp.eq_of_length (by simp))

end Entries

namespace Anchored

variable {t : FileTree} {cwd D : Location} {dir n : String}

/-- Whether an entry of an anchored directory exists is whether its location is bound. -/
theorem exists?_join (h : Anchored t cwd dir D) (hn : Path.PlainName n)
    (hnl : ∀ target, t.lookup (D ++ [n]) ≠ some (.link target)) :
    t.exists? cwd (Path.join dir n) = (t.lookup (D ++ [n])).isSome := by
  unfold FileTree.exists? stat
  rw [h.resolve_join hn fun _ => hnl]
  simp only [bind, Except.bind]
  rcases t.lookup (D ++ [n]) with _ | node <;> rfl

theorem removeFile_join (h : Anchored t cwd dir D) (hn : Path.PlainName n) :
    t.removeFile cwd (Path.join dir n) = match t.lookup (D ++ [n]) with
      | none => .error .notFound
      | some (.dir _) => .error .isADirectory
      | some _ => .ok (t.erase (D ++ [n])) := by
  unfold removeFile
  rw [h.resolve_join_nofollow hn]
  rfl

theorem writeFile_join (h : Anchored t cwd dir D) (hn : Path.PlainName n)
    (hnl : ∀ target, t.lookup (D ++ [n]) ≠ some (.link target)) (data : ByteArray) (mode : Nat) :
    t.writeFile cwd (Path.join dir n) data mode = match t.lookup (D ++ [n]) with
      | none => .ok (t.insert (D ++ [n]) (.file data mode))
      | some (.file _ m) => .ok (t.insert (D ++ [n]) (.file data m))
      | some (.device d) => do d.accepts; pure t
      | some _ => .error .isADirectory := by
  unfold writeFile
  rw [h.resolve_join hn fun _ => hnl]
  rfl

theorem createNew_join (h : Anchored t cwd dir D) (hn : Path.PlainName n) (data : ByteArray)
    (mode : Nat) :
    t.createNew cwd (Path.join dir n) data mode = match t.lookup (D ++ [n]) with
      | none => .ok (t.insert (D ++ [n]) (.file data mode))
      | some _ => .error .alreadyExists := by
  unfold createNew
  rw [h.resolve_join_nofollow hn]
  rfl

theorem chmod_join (h : Anchored t cwd dir D) (hn : Path.PlainName n)
    (hnl : ∀ target, t.lookup (D ++ [n]) ≠ some (.link target)) (mode : Nat) :
    t.chmod cwd (Path.join dir n) mode = match t.lookup (D ++ [n]) with
      | none => .error .notFound
      | some (.file data _) => .ok (t.insert (D ++ [n]) (.file data mode))
      | some (.dir _) => .ok (t.insert (D ++ [n]) (.dir mode))
      | some (.link _) | some (.device _) => .ok t := by
  unfold chmod
  rw [h.resolve_join hn fun _ => hnl]
  rfl

theorem stat_join (h : Anchored t cwd dir D) (hn : Path.PlainName n)
    (hnl : ∀ target, t.lookup (D ++ [n]) ≠ some (.link target)) :
    t.stat cwd (Path.join dir n) = match t.lookup (D ++ [n]) with
      | some node => .ok node
      | none => .error .notFound := by
  unfold stat
  rw [h.resolve_join hn fun _ => hnl]
  rfl

/-- A file of an anchored directory reads back its bytes. -/
theorem readFile_join (h : Anchored t cwd dir D) (hn : Path.PlainName n) {data : ByteArray}
    {mode : Nat} (hfile : t.lookup (D ++ [n]) = some (.file data mode)) :
    t.readFile cwd (Path.join dir n) = .ok data := by
  unfold readFile
  rw [h.stat_join hn (by simp [hfile]), hfile]
  rfl

/-- An entry of an anchored directory renamed to a free name of it moves there. -/
theorem rename_join (h : Anchored t cwd dir D) {a b : String} (ha : Path.PlainName a)
    (hb : Path.PlainName b) (hab : a ≠ b) {node : Node} (hsrc : t.lookup (D ++ [a]) = some node)
    (hdst : t.lookup (D ++ [b]) = none) :
    t.rename cwd (Path.join dir a) (Path.join dir b) = .ok (t.move (D ++ [a]) (D ++ [b])) := by
  have hne : (D ++ [a] == D ++ [b]) = false := by simpa using hab
  have hemp : (D ++ [a]).isEmpty = false := by simp
  have hpre : (D ++ [a]).isPrefixOf (D ++ [b]) = false := by
    rw [Bool.eq_false_iff, ne_eq, List.isPrefixOf_iff_prefix]
    exact entry_not_prefix_entry hab
  unfold rename
  rw [h.resolve_join_nofollow ha, h.resolve_join_nofollow hb]
  simp only [bind, Except.bind, hsrc, hne, hdst, hpre, hemp, Bool.and_false, Bool.or_false,
    Bool.false_eq_true, ↓reduceIte]
  rfl

/-- A file of an anchored directory renamed to another name of it moves there, over anything
but a directory. -/
theorem rename_join_file (h : Anchored t cwd dir D) {a b : String} (ha : Path.PlainName a)
    (hb : Path.PlainName b) (hab : a ≠ b) {data : ByteArray} {mode : Nat}
    (hsrc : t.lookup (D ++ [a]) = some (.file data mode)) :
    t.rename cwd (Path.join dir a) (Path.join dir b) = match t.lookup (D ++ [b]) with
      | some (.dir _) => .error .isADirectory
      | _ => .ok (t.move (D ++ [a]) (D ++ [b])) := by
  have hne : (D ++ [a] == D ++ [b]) = false := by simpa using hab
  have hemp : (D ++ [a]).isEmpty = false := by simp
  unfold rename
  rw [h.resolve_join_nofollow ha, h.resolve_join_nofollow hb]
  simp only [bind, Except.bind, hsrc, hne, hemp, Node.isDir, Bool.false_and, Bool.or_false,
    Bool.false_eq_true, ↓reduceIte]
  rcases hdst : t.lookup (D ++ [b]) with _ | node
  · rfl
  · cases node <;> rfl

/-- Renaming an entry of an anchored directory to itself changes nothing. -/
theorem rename_join_self (h : Anchored t cwd dir D) (hn : Path.PlainName n) {node : Node}
    (hsrc : t.lookup (D ++ [n]) = some node) :
    t.rename cwd (Path.join dir n) (Path.join dir n) = .ok t := by
  unfold rename
  rw [h.resolve_join_nofollow hn]
  simp only [bind, Except.bind, hsrc, beq_self_eq_true, ↓reduceIte]
  rfl

/-- **An anchored path leads to its directory**, with its last link followed. -/
theorem resolve_self (h : Anchored t cwd dir D) (hne : dir.isEmpty = false) :
    t.resolve cwd dir true = .ok D := by
  have hd := h.dirOf_eq
  unfold dirOf at hd
  unfold resolve steps
  rw [hne, if_neg Bool.false_ne_true]
  -- with a trailing slash the path already asks for a directory
  by_cases hs : (dir.endsWith "/" && !(Path.pieces dir).isEmpty) = true
  · rw [if_pos hs]
    exact hd
  · rw [if_neg hs]
    exact walk_dot _ _ _ _ hd

theorem readDir_self (h : Anchored t cwd dir D) (hne : dir.isEmpty = false) :
    t.readDir cwd dir = match t.lookup D with
      | none => .error .notFound
      | some (.dir _) => .ok (t.childNames D)
      | some _ => .error .notADirectory := by
  unfold readDir
  rw [h.resolve_self hne]
  rfl

theorem lstat_join (h : Anchored t cwd dir D) (hn : Path.PlainName n) :
    t.lstat cwd (Path.join dir n) = match t.lookup (D ++ [n]) with
      | some node => .ok node
      | none => .error .notFound := by
  unfold lstat
  rw [h.resolve_join_nofollow hn]
  rfl

theorem removeDirAll_join (h : Anchored t cwd dir D) (hn : Path.PlainName n) :
    t.removeDirAll cwd (Path.join dir n) = match t.lookup (D ++ [n]) with
      | none => .error .notFound
      | some (.link _) => .ok (t.erase (D ++ [n]))
      | some (.file _ _) | some (.device _) => .error .notADirectory
      | some (.dir _) => .ok (t.eraseTree (D ++ [n])) := by
  unfold removeDirAll
  rw [h.resolve_join_nofollow hn]
  rfl

end Anchored

/-! ## Trees whose bindings hang below directories -/

/-- Every bound location hangs below a directory: the location above it holds one (above a
name at the top stands the root). -/
def Rooted (t : FileTree) : Prop := ∀ e ∈ t.entries, (t.lookup e.1.dropLast).any Node.isDir

instance (t : FileTree) : Decidable t.Rooted :=
  inferInstanceAs (Decidable (∀ e ∈ t.entries, (t.lookup e.1.dropLast).any Node.isDir))

namespace Rooted

variable {t : FileTree}

theorem parent_dir (hr : t.Rooted) {l : Location} {node : Node} (hl : t.lookup l = some node)
    (hne : l ≠ []) : ∃ m, t.lookup l.dropLast = some (.dir m) := by
  rw [lookup_of_ne_nil t hne, Option.map_eq_some_iff] at hl
  obtain ⟨e, he, -⟩ := hl
  have hkey : e.1 = l := key_of_find? he
  have hdir := hr e (List.mem_of_find?_eq_some he)
  rw [hkey] at hdir
  rcases hp : t.lookup l.dropLast with _ | n
  · simp [hp] at hdir
  · cases n <;> simp_all [Node.isDir]

/-- **Nothing hangs below a location that holds no directory.** -/
theorem lookup_below (hr : t.Rooted) {L : Location} (hL : ∀ m, t.lookup L ≠ some (.dir m)) :
    ∀ p, p ≠ [] → t.lookup (L ++ p) = none := by
  intro p
  induction p using List.reverseRecOn with
  | nil => exact fun h => absurd rfl h
  | append_singleton q x ih =>
    intro _
    rcases hl : t.lookup (L ++ (q ++ [x])) with _ | node
    · rfl
    · -- the location above holds a directory, which is `L` itself or something below it
      obtain ⟨m, hm⟩ := hr.parent_dir hl (by simp)
      rw [← List.append_assoc, List.dropLast_concat] at hm
      by_cases hq : q = []
      · subst hq
        exact absurd (by simpa using hm) (hL m)
      · rw [ih hq] at hm
        cases hm

/-- **Unbinding what is not a directory keeps a tree rooted**: nothing hung below it. -/
theorem erase (hr : t.Rooted) {loc : Location} (hloc : ∀ m, t.lookup loc ≠ some (.dir m)) :
    (t.erase loc).Rooted := by
  intro e he
  have hup := hr e (List.mem_of_mem_filter he)
  by_cases hp : e.1.dropLast = []
  · rw [hp] at hup ⊢
    exact hup
  rw [lookup_erase _ _ hp]
  split
  · -- the location above a binding holds a directory, so it is not the one unbound
    rename_i heq
    rw [heq] at hup
    rcases hl : t.lookup loc with _ | n
    · simp [hl] at hup
    · cases n <;> simp_all [Node.isDir]
  · exact hup

end Rooted

end HostAgent.Host.FileTree
