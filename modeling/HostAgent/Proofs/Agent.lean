import HostAgent.Host.World

/-!
# `Proofs.Agent` — running agent computations one step at a time

`Agent.run act w` is what a computation answers in world `w`, with the world it leaves. The proofs
about the agent's operations compute runs through the lemmas of this module and never open
`ExceptT` or `StateT`:

* `run_bind_ok` / `run_bind_error` peel the first step of a `do` block by what that step answered;
* `run_pure`, `run_throw`, `run_modify`, `run_get`, `run_set` run the primitive steps;
* `run_tryCatch_ok` / `run_tryCatch_error` and `run_capture` run the handlers;
* `run_log` and its level shorthands: an event changes the journal and nothing else.

`World.LogOnly w w'` says that `w'` is `w` up to its journal. Statements about the agent's
operations use it to leave the log lines they emit unspecified.
-/

namespace HostAgent

/-- `w'` is `w` with another journal: nothing the agent can act on differs. -/
def World.LogOnly (w w' : World) : Prop := w' = { w with journal := w'.journal }

namespace World.LogOnly

theorem refl (w : World) : w.LogOnly w := rfl

theorem trans {w₁ w₂ w₃ : World} (h₁ : w₁.LogOnly w₂) (h₂ : w₂.LogOnly w₃) : w₁.LogOnly w₃ := by
  unfold World.LogOnly at *
  rw [h₂, h₁]

/-- Any journal of `w`'s other fields. -/
theorem withJournal (w : World) (j : Array Host.Event) : w.LogOnly { w with journal := j } := rfl

theorem files_eq {w w' : World} (h : w.LogOnly w') : w'.files = w.files := by rw [h]

theorem cwd_eq {w w' : World} (h : w.LogOnly w') : w'.cwd = w.cwd := by rw [h]

theorem service_eq {w w' : World} (h : w.LogOnly w') : w'.service = w.service := by rw [h]

instance : Std.Refl World.LogOnly := ⟨refl⟩

instance : Trans World.LogOnly World.LogOnly World.LogOnly := ⟨trans⟩

end World.LogOnly

namespace Agent

variable {α β : Type} {w w' : World}

/-! ## Peeling a `do` block -/

theorem run_bind_ok {x : Agent α} {a : α} (h : x.run w = (.ok a, w')) (f : α → Agent β) :
    (x >>= f).run w = (f a).run w' := by
  unfold Agent.run at *
  rw [ExceptT.run_bind, StateT.run_bind, h]
  rfl

theorem run_bind_error {x : Agent α} {e : Fault} (h : x.run w = (.error e, w')) (f : α → Agent β) :
    (x >>= f).run w = (.error e, w') := by
  unfold Agent.run at *
  rw [ExceptT.run_bind, StateT.run_bind, h]
  rfl

@[simp] theorem run_pure (a : α) (w : World) : (pure a : Agent α).run w = (.ok a, w) := rfl

@[simp] theorem run_throw (e : Fault) (w : World) : (throw e : Agent α).run w = (.error e, w) := rfl

@[simp] theorem run_modify (f : World → World) (w : World) :
    (modify f : Agent Unit).run w = (.ok (), f w) := rfl

@[simp] theorem run_get (w : World) : (get : Agent World).run w = (.ok w, w) := rfl

@[simp] theorem run_set (w₀ w : World) : (set w₀ : Agent Unit).run w = (.ok (), w₀) := rfl

/-- The general form, for `simp`: the rest runs only after a value. -/
theorem run_bind (x : Agent α) (f : α → Agent β) (w : World) :
    (x >>= f).run w = match x.run w with
      | (.ok a, w') => (f a).run w'
      | (.error e, w') => (.error e, w') := by
  rcases h : x.run w with ⟨_ | a, w'⟩
  · exact run_bind_error h f
  · exact run_bind_ok h f

@[simp] theorem run_map (f : α → β) (x : Agent α) (w : World) :
    (f <$> x).run w = ((x.run w).1.map f, (x.run w).2) := by
  rcases h : x.run w with ⟨_ | a, w'⟩
  · exact run_bind_error h _
  · exact run_bind_ok h _

/-! ## Handlers -/

theorem run_tryCatch_ok {x : Agent α} {a : α} (hx : x.run w = (.ok a, w')) (h : Fault → Agent α) :
    (tryCatch x h).run w = (.ok a, w') := by
  unfold Agent.run at *
  show StateT.run (ExceptT.tryCatch x h) w = _
  simp only [ExceptT.tryCatch, ExceptT.run, ExceptT.mk, StateT.run_bind] at *
  rw [hx]
  rfl

theorem run_tryCatch_error {x : Agent α} {e : Fault} (hx : x.run w = (.error e, w'))
    (h : Fault → Agent α) : (tryCatch x h).run w = (h e).run w' := by
  unfold Agent.run at *
  show StateT.run (ExceptT.tryCatch x h) w = _
  simp only [ExceptT.tryCatch, ExceptT.run, ExceptT.mk, StateT.run_bind] at *
  rw [hx]
  rfl

/-- `capture` answers what the computation answered, fault or value, and keeps its world. -/
theorem run_capture {x : Agent α} {r : Except Fault α} (h : x.run w = (r, w')) :
    (capture x).run w = (.ok r, w') := by
  unfold capture
  cases r with
  | ok a =>
    rw [run_tryCatch_ok]
    rw [run_bind_ok h]
    rfl
  | error e =>
    rw [run_tryCatch_error (run_bind_error h _)]
    rfl

/-! ## Log events -/

theorem run_log (l : Host.Level) (m : String) (w : World) :
    (log l m).run w = (.ok (), { w with journal := w.journal.push ⟨l, m, w.spans, w.clock⟩ }) :=
  rfl

/-- An event changes nothing but the journal. -/
theorem run_log_logOnly (l : Host.Level) (m : String) (w : World) :
    ∃ w', (log l m).run w = (.ok (), w') ∧ w.LogOnly w' :=
  ⟨_, run_log l m w, World.LogOnly.withJournal w _⟩

theorem run_debug (m : String) (w : World) : ∃ w', (debug m).run w = (.ok (), w') ∧ w.LogOnly w' :=
  run_log_logOnly .debug m w

theorem run_info (m : String) (w : World) : ∃ w', (info m).run w = (.ok (), w') ∧ w.LogOnly w' :=
  run_log_logOnly .info m w

theorem run_warn (m : String) (w : World) : ∃ w', (warn m).run w = (.ok (), w') ∧ w.LogOnly w' :=
  run_log_logOnly .warn m w

theorem run_error (m : String) (w : World) : ∃ w', (error m).run w = (.ok (), w') ∧ w.LogOnly w' :=
  run_log_logOnly .error m w

/-! ## Specifications

`Triple P act Q E`: from a world where `P` holds, `act` ends with a value `a` in a world where
`Q a` holds, or with a fault in a world where `E` holds. Proofs about a `do` block chain the
triples of its steps with `Triple.bind`; `Keeps P act` is the triple of an invariant. -/

/-- What a run's end satisfies: `Q` of the value, or `E` after a fault. -/
def Ends (Q : α → World → Prop) (E : World → Prop) : Except Fault α × World → Prop
  | (.ok a, w') => Q a w'
  | (.error _, w') => E w'

/-- From `P`, `act` ends in `Q` of its value, or in `E` after a fault. -/
def Triple (P : World → Prop) (act : Agent α) (Q : α → World → Prop) (E : World → Prop) : Prop :=
  ∀ w, P w → Ends Q E (act.run w)

/-- `act` keeps `P`, whether it answers or fails. -/
def Keeps (P : World → Prop) (act : Agent α) : Prop := Triple P act (fun _ => P) P

namespace Triple

variable {P P' : World → Prop} {Q Q' : α → World → Prop} {E E' : World → Prop}

theorem pure {a : α} (h : ∀ w, P w → Q a w) : Triple P (pure a) Q E := fun w hw => h w hw

theorem throw {e : Fault} (h : ∀ w, P w → E w) : Triple P (throw e : Agent α) Q E :=
  fun w hw => h w hw

theorem bind {x : Agent α} {f : α → Agent β} {R : β → World → Prop} (hx : Triple P x Q E)
    (hf : ∀ a, Triple (Q a) (f a) R E) : Triple P (x >>= f) R E := by
  intro w hw
  have hend := hx w hw
  rcases h : x.run w with ⟨_ | a, w'⟩
  · rw [run_bind_error h]
    rw [h] at hend
    exact hend
  · rw [run_bind_ok h]
    rw [h] at hend
    exact hf a w' hend

theorem mono {act : Agent α} (h : Triple P act Q E) (hP : ∀ w, P' w → P w)
    (hQ : ∀ a w, Q a w → Q' a w) (hE : ∀ w, E w → E' w) : Triple P' act Q' E' := by
  intro w hw
  have hend := h w (hP w hw)
  rcases hr : act.run w with ⟨_ | a, w'⟩ <;> rw [hr] at hend
  · exact hE w' hend
  · exact hQ a w' hend

theorem tryCatch {x : Agent α} {h : Fault → Agent α} {E₀ : World → Prop} (hx : Triple P x Q E₀)
    (hh : ∀ e, Triple E₀ (h e) Q E) : Triple P (tryCatch x h) Q E := by
  intro w hw
  have hend := hx w hw
  rcases hr : x.run w with ⟨e | a, w'⟩ <;> rw [hr] at hend
  · rw [run_tryCatch_error hr]
    exact hh e w' hend
  · rw [run_tryCatch_ok hr]
    exact hend

end Triple

/-- A triple whose postcondition reads only the world it ends in. -/
theorem Triple.of_world {P Q : World → Prop} {act : Agent α} (h : ∀ w, P w → Q (act.run w).2) :
    Triple P act (fun _ => Q) Q := by
  intro w hw
  have hend := h w hw
  rcases hr : act.run w with ⟨_ | a, w'⟩ <;> rw [hr] at hend <;> exact hend

/-- What follows a fault never runs. -/
theorem Triple.throw_bind {P : World → Prop} {Q : β → World → Prop} {E : World → Prop} (e : Fault)
    (f : α → Agent β) (h : ∀ w, P w → E w) : Triple P ((MonadExcept.throw e : Agent α) >>= f) Q E := by
  intro w hw
  rw [run_bind_error (run_throw e w)]
  exact h w hw

namespace Keeps

variable {P : World → Prop}

theorem bind {x : Agent α} {f : α → Agent β} (hx : Keeps P x) (hf : ∀ a, Keeps P (f a)) :
    Keeps P (x >>= f) :=
  Triple.bind hx hf

theorem pure (a : α) : Keeps P (pure a) := Triple.pure fun _ h => h

theorem throw (e : Fault) : Keeps P (throw e : Agent α) := Triple.throw fun _ h => h

theorem throw_bind (e : Fault) (f : α → Agent β) : Keeps P ((MonadExcept.throw e : Agent α) >>= f) :=
  Triple.throw_bind e f fun _ h => h

/-- A captured fault is kept in the world the computation left. -/
theorem capture {act : Agent α} (h : Keeps P act) : Keeps P (capture act) := by
  intro w hw
  have hend := h w hw
  rcases hr : act.run w with ⟨r, w'⟩
  rw [run_capture hr]
  rw [hr] at hend
  cases r <;> exact hend

/-- The world a run ends in, whatever it answers. -/
theorem run_snd {act : Agent α} (h : Keeps P act) {w : World} (hw : P w) : P (act.run w).2 := by
  have hend := h w hw
  rcases hr : act.run w with ⟨_ | a, w'⟩ <;> rw [hr] at hend <;> exact hend

end Keeps

/-- `act` ends in a world that `R` relates to the one it started in. -/
def Within (R : World → World → Prop) (act : Agent α) : Prop := ∀ w, R w (act.run w).2

/-- A change of world that `R` allows keeps every `P` that `R` preserves. -/
theorem Within.keeps {R : World → World → Prop} {P : World → Prop} {act : Agent α}
    (h : Within R act) (hP : ∀ w w', R w w' → P w → P w') : Keeps P act :=
  Triple.of_world fun w hw => hP w _ (h w) hw

section Within

variable {R : World → World → Prop}

theorem Within.pure [Std.Refl R] (a : α) : Within R (pure a : Agent α) := fun w => Std.Refl.refl w

theorem Within.throw [Std.Refl R] (e : Fault) : Within R (throw e : Agent α) := fun w => Std.Refl.refl w

/-! Reading the files, the clock or the environment leaves the world as it was. -/

theorem Within.query [Std.Refl R] (q : Host.FileTree → Host.Location → α) : Within R (query q) :=
  fun w => Std.Refl.refl w

theorem Within.now [Std.Refl R] : Within R now := fun w => Std.Refl.refl w

theorem Within.env [Std.Refl R] (name : String) : Within R (env? name) := fun w => Std.Refl.refl w

theorem Within.bind [Trans R R R] {x : Agent α} {f : α → Agent β} (hx : Within R x) (hf : ∀ a, Within R (f a)) :
    Within R (x >>= f) := by
  intro w
  rcases h : x.run w with ⟨_ | a, w'⟩
  · rw [run_bind_error h]
    simpa [h] using hx w
  · rw [run_bind_ok h]
    have hw' : R w w' := by simpa [h] using hx w
    exact Trans.trans hw' (hf a w')

theorem Within.tryCatch [Trans R R R] {x : Agent α} {h : Fault → Agent α} (hx : Within R x)
    (hh : ∀ e, Within R (h e)) : Within R (tryCatch x h) := by
  intro w
  rcases hr : x.run w with ⟨e | a, w'⟩
  · rw [run_tryCatch_error hr]
    have hw' : R w w' := by simpa [hr] using hx w
    exact Trans.trans hw' (hh e w')
  · rw [run_tryCatch_ok hr]
    simpa [hr] using hx w

theorem Within.capture [Std.Refl R] [Trans R R R] {x : Agent α} (hx : Within R x) :
    Within R (capture x) :=
  Within.tryCatch (Within.bind hx fun _ => Within.pure _) fun _ => Within.pure _

theorem Within.modify {f : World → World} (h : ∀ w, R w (f w)) : Within R (modify f) := h

theorem Within.mono {S : World → World → Prop} {act : Agent α} (h : Within R act)
    (hRS : ∀ w w', R w w' → S w w') : Within S act :=
  fun w => hRS w _ (h w)

end Within

/-! ## Randomness -/

/-- Drawing a word moves the random source one step and changes nothing else. -/
theorem run_random64 (w : World) :
    random64.run w = (.ok (splitMix w.entropy).2, { w with entropy := (splitMix w.entropy).1 }) :=
  rfl

theorem run_random128 (w : World) : random128.run w =
    (.ok (bytesOfWord (splitMix w.entropy).2 ++ bytesOfWord (splitMix (splitMix w.entropy).1).2),
      { w with entropy := (splitMix (splitMix w.entropy).1).1 }) := by
  unfold random128
  rw [run_bind_ok (run_random64 w), run_bind_ok (run_random64 _)]
  rfl

/-! ## Files -/

section Files

open Host

variable {f : FileTree → Location → Except IoError FileTree} {t : FileTree} {e : IoError}

@[simp] theorem run_query (q : FileTree → Location → α) (w : World) :
    (query q).run w = (.ok (q w.files w.cwd), w) := rfl

theorem run_attempt_ok (h : f w.files w.cwd = .ok t) :
    (attempt f).run w = (.ok (.ok ()), { w with files := t }) := by
  unfold attempt
  rw [run_bind_ok (run_get w)]
  simp only [h]
  rfl

theorem run_attempt_error (h : f w.files w.cwd = .error e) :
    (attempt f).run w = (.ok (.error e), w) := by
  unfold attempt
  rw [run_bind_ok (run_get w)]
  simp only [h]
  rfl

theorem run_change_ok (h : f w.files w.cwd = .ok t) :
    (change f).run w = (.ok (), { w with files := t }) := by
  unfold change
  rw [run_bind_ok (run_attempt_ok h)]
  rfl

theorem run_change_error (h : f w.files w.cwd = .error e) :
    (change f).run w = (.error (.io e), w) := by
  unfold change
  rw [run_bind_ok (run_attempt_error h)]
  rfl

/-- The general forms, for `simp`: a change of the tree as its outcome decides. -/
theorem run_attempt (f : FileTree → Location → Except IoError FileTree) (w : World) :
    (attempt f).run w = match f w.files w.cwd with
      | .ok t => (.ok (.ok ()), { w with files := t })
      | .error e => (.ok (.error e), w) := by
  rcases h : f w.files w.cwd with e | t
  · exact run_attempt_error h
  · exact run_attempt_ok h

theorem run_change (f : FileTree → Location → Except IoError FileTree) (w : World) :
    (change f).run w = match f w.files w.cwd with
      | .ok t => (.ok (), { w with files := t })
      | .error e => (.error (.io e), w) := by
  rcases h : f w.files w.cwd with e | t
  · exact run_change_error h
  · exact run_change_ok h

@[simp] theorem run_cwd (w : World) : cwd.run w = (.ok w.cwd, w) := rfl

/-- **A write through an open file** fails with the storage's answer and changes nothing, makes
no call for an empty buffer, or writes the file. -/
theorem run_writeOpened (path : String) (data : ByteArray) (w : World) :
    (∃ e, (writeOpened path data).run w = (.ok (.error e), w)) ∨
      (data.isEmpty = true ∧ (writeOpened path data).run w = (.ok (.ok ()), w)) ∨
      (writeOpened path data).run w =
        (attempt fun t cwd => t.writeFile cwd path data 0o600).run w := by
  unfold writeOpened
  by_cases hempty : data.isEmpty = true
  · refine .inr (.inl ⟨hempty, ?_⟩)
    simp only [hempty, ↓reduceIte]
    rfl
  · simp only [hempty, Bool.false_eq_true, ↓reduceIte]
    rw [run_bind_ok (run_get w)]
    -- the storage refuses the bytes, or the file takes them
    split
    · exact .inl ⟨_, rfl⟩
    · exact .inr (.inr rfl)

/-- A flush answers what the storage says and changes nothing. -/
theorem run_syncOpened (path : String) (w : World) : ∃ r, (syncOpened path).run w = (.ok r, w) := by
  unfold syncOpened
  rw [run_bind_ok (run_get w)]
  split
  · exact ⟨_, rfl⟩
  · exact ⟨_, rfl⟩

end Files

section Within

variable {R : World → World → Prop} [Std.Refl R]

theorem Within.cwd : Within R cwd := fun w => Std.Refl.refl w

theorem Within.syncOpened (path : String) : Within R (syncOpened path) := by
  intro w
  obtain ⟨r, hr⟩ := run_syncOpened path w
  rw [hr]
  exact Std.Refl.refl w

/-- A write through an open file stays in every frame that writing the file stays in. -/
theorem Within.writeOpened {path : String} {data : ByteArray}
    (h : Within R (attempt fun t cwd => t.writeFile cwd path data 0o600)) :
    Within R (writeOpened path data) := by
  intro w
  rcases run_writeOpened path data w with ⟨e, hr⟩ | ⟨-, hr⟩ | hr
  · rw [hr]
    exact Std.Refl.refl w
  · rw [hr]
    exact Std.Refl.refl w
  · rw [hr]
    exact h w

end Within

/-! ## Steps that only read or report -/

theorem logOnly_log (l : Host.Level) (m : String) : Within World.LogOnly (log l m) := by
  intro w
  rw [run_log]
  exact World.LogOnly.withJournal w _

theorem logOnly_orIo (r : Except Host.IoError α) : Within World.LogOnly (orIo r) := by
  cases r
  · exact Within.throw _
  · exact Within.pure _

end Agent

end HostAgent
