import HostAgent.Proofs.PlainTrees

/-!
# `Proofs.DirectoryCreation` — where making a directory's parents can act

`FileTree.mkdirAll` makes a directory and, when its parent is missing, makes the parent first,
taking the parent from the text of the path (`Path.parent?`). For a path without `..`, the
parent is the same path one name shorter (`parent?_down`), so every directory made lies on the
way the path spells. With no link on that way the walk cannot leave it either
(`resolve_within`), and so **making the directories of such a path changes nothing off its
way** (`mkdirAll_above`): every other location, and everything below the directory itself,
stays as it was.
-/

namespace HostAgent.Host.Path

/-! ## The parent of a path -/

theorem pieces_single {x : String} (hne : x.toList ≠ []) (hs : '/' ∉ x.toList) :
    pieces x = [x] := by
  simp [pieces, List.splitOn_eq_singleton hs, hne, String.ofList_toList]

/-- Names joined by slashes split back into the names. -/
theorem pieces_intercalate :
    ∀ ns : List String, (∀ x ∈ ns, x.toList ≠ [] ∧ '/' ∉ x.toList) →
      pieces ("/".intercalate ns) = ns
  | [], _ => rfl
  | [x], h => by
    rw [String.intercalate_singleton]
    exact pieces_single (h x (by simp)).1 (h x (by simp)).2
  | x :: y :: rest, h => by
    rw [String.intercalate_cons_cons, pieces_append_slash,
      pieces_single (h x (by simp)).1 (h x (by simp)).2,
      pieces_intercalate (y :: rest) fun z hz => h z (List.mem_cons_of_mem _ hz)]
    rfl

theorem pieces_slash_append (s : String) : pieces ("/" ++ s) = pieces s := by
  simpa using pieces_append_slash "" s

theorem ofComponents_names (ns : List String) :
    ofComponents (ns.map .name) = "/".intercalate ns := by
  cases ns with
  | nil => rfl
  | cons x rest => simp [ofComponents, List.map_map, Function.comp_def]

theorem ofComponents_root_names (ns : List String) :
    ofComponents (.root :: ns.map .name) = "/" ++ "/".intercalate ns := by
  cases ns with
  | nil => rfl
  | cons x rest => simp [ofComponents, List.map_map, Function.comp_def]

theorem ofComponents_current_names (ns : List String) :
    ofComponents (.current :: ns.map .name) = "/".intercalate ("." :: ns) := by
  simp [ofComponents, List.map_map, Function.comp_def]

theorem isAbsolute_of_no_slash {x : String} (hs : '/' ∉ x.toList) : isAbsolute x = false := by
  have hhead : ¬ ['/'] <+: x.toList := fun hp => hs (hp.subset (by simp))
  simpa [isAbsolute] using hhead

/-- A path that starts with a nonempty text starts at the root exactly when that text does. -/
theorem isAbsolute_append_left {x : String} (s : String) (hx : x.toList ≠ []) :
    isAbsolute (x ++ s) = isAbsolute x := by
  obtain ⟨c, cs, hc⟩ := List.exists_cons_of_ne_nil hx
  rw [isAbsolute, isAbsolute, Bool.eq_iff_iff]
  simp [String.startsWith_string_iff, String.toList_append, hc]

theorem isAbsolute_slash_append (s : String) : isAbsolute ("/" ++ s) = true := by
  rw [isAbsolute_append_left s (by decide)]
  simp [isAbsolute, String.startsWith_string_iff]

/-- Names joined by slashes start below the working directory. -/
theorem isAbsolute_intercalate :
    ∀ ns : List String, (∀ x ∈ ns, x.toList ≠ [] ∧ '/' ∉ x.toList) →
      isAbsolute ("/".intercalate ns) = false
  | [], _ => rfl
  | [x], h => by
    rw [String.intercalate_singleton]
    exact isAbsolute_of_no_slash (h x (by simp)).2
  | x :: y :: rest, h => by
    rw [String.intercalate_cons_cons, String.append_assoc,
      isAbsolute_append_left _ (h x (by simp)).1]
    exact isAbsolute_of_no_slash (h x (by simp)).2

theorem parent?_of_components {p : String} {cs : List Component} {x : String}
    (h : components p = cs ++ [.name x]) : parent? p = some (ofComponents cs) := by
  unfold parent?
  rw [h, List.reverse_append, List.reverse_singleton, List.singleton_append]
  simp

/-- Without `..` a path is its start (the root, a leading `.`, or nothing) and then its names. -/
theorem components_down {p : String} (hp : ".." ∉ pieces p) :
    components p = (if isAbsolute p then [.root]
      else if p == "." || p.startsWith "./" then [.current] else []) ++
      ((pieces p).filter (· != ".")).map .name := by
  have hbody : ((pieces p).filter (· != ".")).map
      (fun s => if s == ".." then Component.up else .name s) =
      ((pieces p).filter (· != ".")).map .name := by
    refine List.map_congr_left fun x hx => ?_
    have hx' : x ≠ ".." := fun h => hp (h ▸ (List.mem_filter.mp hx).1)
    simp [hx']
  unfold components
  simp only [hbody]
  split
  · rfl
  · split <;> rfl

/-- A path written from a start (the root, a leading `.`, or nothing) and plain names starts at
the root exactly when its start is the root, and spells those names. -/
theorem ofComponents_start_names {ns : List String} (hns : ∀ y ∈ ns, PlainName y)
    {abs cur : Bool} {up : String} (hup : up = ofComponents
      ((if abs then [.root] else if cur then [.current] else []) ++ ns.map .name)) :
    isAbsolute up = abs ∧ ".." ∉ pieces up ∧ (pieces up).filter (· != ".") = ns := by
  have htext : ∀ y ∈ ns, y.toList ≠ [] ∧ '/' ∉ y.toList :=
    fun y hy => ⟨(hns y hy).nonempty, (hns y hy).no_slash⟩
  have hkeep : ns.filter (· != ".") = ns :=
    List.filter_eq_self.mpr fun y hy => by simpa using (hns y hy).not_here
  have hnup : ".." ∉ ns := fun hy => (hns ".." hy).not_up rfl
  subst hup
  cases abs
  · cases cur
    · rw [if_neg Bool.false_ne_true, if_neg Bool.false_ne_true, List.nil_append,
        ofComponents_names, isAbsolute_intercalate ns htext, pieces_intercalate ns htext]
      exact ⟨rfl, hnup, hkeep⟩
    · -- below a leading `.`
      have htext' : ∀ y ∈ "." :: ns, y.toList ≠ [] ∧ '/' ∉ y.toList :=
        List.forall_mem_cons.mpr ⟨by decide, htext⟩
      rw [if_neg Bool.false_ne_true, if_pos rfl, List.singleton_append,
        ofComponents_current_names, isAbsolute_intercalate _ htext', pieces_intercalate _ htext']
      refine ⟨rfl, ?_, by simpa using hkeep⟩
      simp only [List.mem_cons, not_or]
      exact ⟨by decide, hnup⟩
  · -- below the root
    rw [if_pos rfl, List.singleton_append, ofComponents_root_names, isAbsolute_slash_append,
      pieces_slash_append, pieces_intercalate ns htext]
    exact ⟨rfl, hnup, hkeep⟩

/-- **The parent of a path without `..`** starts where the path starts and goes down the same
names but the last. -/
theorem parent?_down {p up : String} (hp : ".." ∉ pieces p) (h : parent? p = some up) :
    isAbsolute up = isAbsolute p ∧ ".." ∉ pieces up ∧
      (pieces up).filter (· != ".") = ((pieces p).filter (· != ".")).dropLast := by
  have hnames : ∀ x ∈ (pieces p).filter (· != "."), PlainName x := fun x hx => by
    obtain ⟨hmem, hdot⟩ := List.mem_filter.mp hx
    exact ⟨(mem_pieces hmem).1, (mem_pieces hmem).2, by simpa using hdot, fun h => hp (h ▸ hmem)⟩
  have hcomp := components_down hp
  rcases List.eq_nil_or_concat ((pieces p).filter (· != ".")) with hnil | ⟨ns, x, hsnoc⟩
  · -- no name to go down: of such paths only `.` has a parent, the empty path
    rw [hnil, List.map_nil, List.append_nil] at hcomp
    unfold parent? at h
    by_cases habs : isAbsolute p = true
    · rw [hcomp, if_pos habs] at h
      cases h
    by_cases hcur : (p == "." || p.startsWith "./") = true
    · rw [hcomp, if_neg habs, if_pos hcur] at h
      cases h
      refine ⟨by rw [Bool.eq_false_iff.mpr habs]; rfl, by decide, ?_⟩
      rw [hnil]
      rfl
    · rw [hcomp, if_neg habs, if_neg hcur] at h
      cases h
  · -- the parent drops the last name and keeps the start
    rw [List.concat_eq_append] at hsnoc
    have hns : ∀ y ∈ ns, PlainName y := fun y hy => hnames y (hsnoc ▸ List.mem_append_left _ hy)
    rw [hsnoc, List.dropLast_concat]
    rw [hsnoc, List.map_append, List.map_singleton, ← List.append_assoc] at hcomp
    rw [parent?_of_components hcomp] at h
    exact ofComponents_start_names hns (Option.some.inj h).symm

/-- The way a parent spells is the start of the way its path spells. -/
theorem spelled_parent {p up : String} (hp : ".." ∉ pieces p) (h : parent? p = some up)
    (cwd : Location) : spelled cwd up <+: spelled cwd p := by
  obtain ⟨habs, -, hnames⟩ := parent?_down hp h
  unfold spelled
  rw [habs, hnames]
  exact List.prefix_append_right_inj _ |>.mpr (List.dropLast_prefix _)

end HostAgent.Host.Path

namespace HostAgent.Host.FileTree

open HostAgent.Host.Path

/-! ## Walking down without links -/

section Within

variable {t : FileTree}

/-- **A walk with no `..` and no link on the way ends on the way**: at the location its names
spell, or above it where a name is missing. -/
theorem walkWith_within {fl : Bool} {follow : Location → List String → Except IoError Location} :
    ∀ (ps : List String) (cur loc : Location), ".." ∉ ps →
      LinkFree t cur (ps.filter (· != ".")) → t.walkWith fl follow cur ps = .ok loc →
      loc <+: cur ++ ps.filter (· != ".")
  | [], cur, loc, _, _, hw => by
    rw [walkWith.eq_1] at hw
    cases hw
    simp
  | p :: ps, cur, loc, hup, hfree, hw => by
    have hup' : ".." ∉ ps := fun h => hup (List.mem_cons_of_mem _ h)
    by_cases hdot : p = "."
    · subst hdot
      rw [walkWith.eq_2] at hw
      have hf : ("." :: ps).filter (· != ".") = ps.filter (· != ".") := by simp
      rw [hf] at hfree ⊢
      exact walkWith_within ps cur loc hup' hfree hw
    have hnotup : p ≠ ".." := fun h => hup (h ▸ List.mem_cons_self)
    rw [walkWith.eq_4 _ _ _ _ _ _ hdot hnotup] at hw
    have hf : (p :: ps).filter (· != ".") = p :: ps.filter (· != ".") := by simp [hdot]
    rw [hf] at hfree ⊢
    obtain ⟨hnl, hfree'⟩ := linkFree_cons hfree
    -- where the walk stops at this name, the name is the last step
    have hstop : ∀ {e : IoError}, (if ps.isEmpty then Except.ok (cur ++ [p]) else .error e) =
        .ok loc → loc <+: cur ++ p :: ps.filter (· != ".") := by
      intro e hs
      split at hs
      · cases hs
        exact ⟨ps.filter (· != "."), by simp⟩
      · cases hs
    rcases hl : t.lookup (cur ++ [p]) with _ | n
    · simp only [hl] at hw
      exact hstop hw
    · cases n with
      | link target => exact absurd hl (hnl target)
      | dir m =>
        simp only [hl] at hw
        simpa using walkWith_within ps (cur ++ [p]) loc hup' hfree' hw
      | file data m =>
        simp only [hl] at hw
        exact hstop hw
      | device d =>
        simp only [hl] at hw
        exact hstop hw

theorem walk_within {fl : Bool} {fuel : Nat} (ps : List String) (cur : Location) {loc : Location}
    (hup : ".." ∉ ps) (hfree : LinkFree t cur (ps.filter (· != ".")))
    (hw : t.walk fl fuel cur ps = .ok loc) : loc <+: cur ++ ps.filter (· != ".") := by
  cases fuel <;> exact walkWith_within ps cur loc hup hfree hw

theorem resolve_within {cwd : Location} {path : String} {fl : Bool} {loc : Location}
    (hup : ".." ∉ pieces path)
    (hfree : LinkFree t (if isAbsolute path then [] else cwd) ((pieces path).filter (· != ".")))
    (hr : t.resolve cwd path fl = .ok loc) : loc <+: spelled cwd path := by
  unfold resolve at hr
  split at hr
  · cases hr
  -- a trailing slash adds a `.`, which the way does not count
  have hsteps : ".." ∉ steps path := fun h => by
    rcases mem_steps h with h | h
    · exact hup h
    · exact absurd h (by decide)
  unfold spelled
  rw [← filter_steps] at hfree ⊢
  exact walk_within _ _ hsteps hfree hr

end Within

/-! ## Making the directories of a path -/

section Make

variable {t t' : FileTree} {cwd : Location}

/-- What making directories leaves at a location: what was there, or a directory. -/
theorem AddsDirs.lookup_cases (h : AddsDirs t t') (l : Location) :
    t'.lookup l = t.lookup l ∨ ∃ m, t'.lookup l = some (.dir m) := by
  induction h with
  | refl => exact .inl rfl
  | step loc mode fresh _ ih =>
    rcases ih with heq | hdir
    · by_cases hl : l = []
      · subst hl
        exact .inl (heq.trans rfl)
      rw [lookup_insert _ _ _ hl] at heq
      split at heq
      · exact .inr ⟨mode, heq⟩
      · exact .inl heq
    · exact .inr hdir

/-- Making directories makes no link. -/
theorem AddsDirs.addsNoLink (h : AddsDirs t t') : AddsNoLink t t' := by
  intro l target hlink
  rcases h.lookup_cases l with heq | ⟨m, hm⟩
  · exact heq ▸ hlink
  · rw [hm] at hlink
    cases hlink

theorem LinkFree.of_addsDirs {cur : Location} {names : List String} (hfree : LinkFree t cur names)
    (h : AddsDirs t t') : LinkFree t' cur names :=
  h.addsNoLink.linkFree hfree

theorem LinkFree.dropLast {cur : Location} {names : List String} (hfree : LinkFree t cur names) :
    LinkFree t cur names.dropLast := by
  rintro l ⟨p, hp, hpre, rfl⟩
  exact hfree _ ⟨p, hp, hpre.trans (List.dropLast_prefix names), rfl⟩

/-- A way without links stays so up to a parent of its path. -/
theorem LinkFree.parent {path up : String} (hup : ".." ∉ pieces path)
    (hparent : parent? path = some up)
    (hfree : LinkFree t (if isAbsolute path then [] else cwd) ((pieces path).filter (· != "."))) :
    LinkFree t (if isAbsolute up then [] else cwd) ((pieces up).filter (· != ".")) := by
  obtain ⟨habs, -, hnames⟩ := parent?_down hup hparent
  rw [habs, hnames]
  exact hfree.dropLast

/-- Making one directory of a path without `..` and with no link on its way binds a location on
that way, and nothing else. -/
theorem mkdir_above {path : String} {mode : Nat} (hup : ".." ∉ pieces path)
    (hfree : LinkFree t (if isAbsolute path then [] else cwd) ((pieces path).filter (· != ".")))
    (h : t.mkdir cwd path mode = .ok t') (l : Location) (hl : ¬ l <+: spelled cwd path) :
    t'.lookup l = t.lookup l := by
  obtain ⟨loc, hr, -, rfl⟩ := mkdir_eq_ok h
  have hloc := resolve_within hup hfree hr
  have hne : l ≠ [] := fun h => hl (h ▸ List.nil_prefix)
  rw [lookup_insert _ _ _ hne, if_neg fun (heq : l = loc) => hl (heq ▸ hloc)]

/-- **Making a directory and those above it changes nothing off the way to it**, for a path
without `..` and with no link on the way: every directory it makes lies on the way. -/
theorem mkdirAllWith_above {mode : Nat} :
    ∀ (fuel : Nat) (path : String) {t t' : FileTree}, ".." ∉ pieces path →
      LinkFree t (if isAbsolute path then [] else cwd) ((pieces path).filter (· != ".")) →
      t.mkdirAllWith cwd mode fuel path = .ok t' →
      ∀ l, ¬ l <+: spelled cwd path → t'.lookup l = t.lookup l
  | 0, _, _, _, _, _, h => by simp [mkdirAllWith] at h
  | fuel + 1, path, t, t', hup, hfree, h => by
    unfold mkdirAllWith at h
    split at h
    · cases h
      exact fun _ _ => rfl
    split at h
    · cases h
      exact mkdir_above hup hfree ‹_›
    split at h
    · -- a failure other than a missing parent: done only where a directory already stands
      split at h
      · cases h
        exact fun _ _ => rfl
      · cases h
    split at h
    · cases h
    -- the parent first, on a way that is the start of this one
    rename_i up hparent
    have hup' : ".." ∉ pieces up := (parent?_down hup hparent).2.1
    rcases hrec : t.mkdirAllWith cwd mode fuel up with e | t₁
    · simp [hrec, bind, Except.bind] at h
    simp only [hrec, bind, Except.bind] at h
    have h₁ : ∀ l, ¬ l <+: spelled cwd path → t₁.lookup l = t.lookup l := fun l hl =>
      mkdirAllWith_above fuel up hup' (hfree.parent hup hparent) hrec l
        fun hp => hl (hp.trans (spelled_parent hup hparent cwd))
    have hfree₁ := hfree.of_addsDirs (mkdirAllWith_eq_ok fuel up hrec)
    split at h
    · cases h
      exact fun l hl => (mkdir_above hup hfree₁ ‹_› l hl).trans (h₁ l hl)
    · split at h
      · cases h
        exact h₁
      · cases h

theorem mkdirAll_above {path : String} {mode : Nat} (hup : ".." ∉ pieces path)
    (hfree : LinkFree t (if isAbsolute path then [] else cwd) ((pieces path).filter (· != ".")))
    (h : t.mkdirAll cwd path mode = .ok t') (l : Location) (hl : ¬ l <+: spelled cwd path) :
    t'.lookup l = t.lookup l :=
  mkdirAllWith_above _ path hup hfree h l hl

end Make

end HostAgent.Host.FileTree
