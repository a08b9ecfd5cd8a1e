import HostAgent.Proofs.StoreOutcomes

/-!
# `Proofs.IdentityRecord` — the machine identifier settles on one value

`MachineIdentity.load` reads the `machine-id` record as text, with ill-formed UTF-8 replaced, and
trims it; a blank text is no identifier. `StateStore.Holds s id w` says the record reads as `id`.

* A record that holds an identifier answers every resolution that does not regenerate, and such a
  resolution writes nothing but the journal (`resolve_held`).
* A resolution that finds no identifier and succeeds stores a new UUID (`resolve_fresh`). A UUID
  is ASCII without blanks, so reading it back gives it again (`trim_decodeLossy_uuid`).
* Resolutions in a row (`resolveRepeatedly`) therefore answer one identifier: the stored one,
  or the UUID the first call made (`resolveRepeatedly_held`, `resolveRepeatedly_fresh`); after
  a regeneration, the new UUID (`resolveRepeatedly_after_regenerate`).
-/

namespace HostAgent

open HostAgent.Store

/-! ## ASCII text through UTF-8 -/

theorem ByteArray.toList_loop (bs : ByteArray) (i : Nat) (r : List UInt8) :
    ByteArray.toList.loop bs i r = r.reverse ++ bs.data.toList.drop i := by
  fun_induction ByteArray.toList.loop bs i r with
  | case1 i r hi ih =>
    rw [ih, List.reverse_cons, List.append_assoc]
    congr 1
    rw [List.drop_eq_getElem_cons (show i < bs.data.toList.length by simpa using hi)]
    simp [ByteArray.get!, hi]
  | case2 i r hi =>
    rw [List.drop_eq_nil_of_le (by simpa using hi), List.append_nil]

theorem ByteArray.toList_eq (bs : ByteArray) : bs.toList = bs.data.toList := by
  rw [ByteArray.toList, ByteArray.toList_loop]
  rfl

namespace Text

theorem utf8Encode_of_ascii (cs : List Char) (h : ∀ c ∈ cs, c.toNat < 128) :
    cs.utf8Encode.data.toList = cs.map fun c => c.toNat.toUInt8 := by
  induction cs with
  | nil => rfl
  | cons c cs ih =>
    have hc : c.utf8Size = 1 := by
      have hlt := h c List.mem_cons_self
      rw [Char.utf8Size_eq_one_iff, UInt32.le_iff_toNat_le]
      simp only [Char.toNat] at hlt
      simp only [UInt32.reduceToNat]
      omega
    rw [List.utf8Encode_cons, ByteArray.toList_data_append, List.utf8Encode_singleton,
      String.utf8EncodeChar_eq_singleton hc, ih fun c hc => h c (List.mem_cons_of_mem _ hc)]
    rw [List.toList_data_toByteArray, List.map_cons, List.singleton_append]
    rfl

/-- Bytes below `0x80` decode one character each. -/
theorem decodeBytes_of_ascii (cs : List Char) (h : ∀ c ∈ cs, c.toNat < 128) (fuel : Nat)
    (hf : cs.length ≤ fuel) : decodeBytes fuel (cs.map fun c => c.toNat.toUInt8) = cs := by
  induction cs generalizing fuel with
  | nil => cases fuel <;> rfl
  | cons c cs ih =>
    obtain ⟨f, rfl⟩ : ∃ f, fuel = f + 1 := ⟨fuel - 1, by simp at hf; omega⟩
    have hc := h c List.mem_cons_self
    have hbyte : c.toNat.toUInt8.toNat = c.toNat := by
      rw [Nat.toUInt8, UInt8.toNat_ofNat_of_lt' (by unfold UInt8.size; omega)]
    have hstep : step c.toNat.toUInt8 (cs.map fun c => c.toNat.toUInt8) = (c, 1) := by
      have hlead : c.toNat.toUInt8 < 0x80 := by
        rw [UInt8.lt_iff_toNat_lt, hbyte]
        exact hc
      simp [step, sequenceLength, hlead, hbyte]
    simp only [List.map_cons, decodeBytes, hstep, Nat.sub_self, List.drop_zero]
    rw [ih (fun c hc' => h c (List.mem_cons_of_mem _ hc')) f (by simp at hf; omega)]

/-- **ASCII text reads back as itself.** -/
theorem decodeLossy_of_ascii (s : String) (h : ∀ c ∈ s.toList, c.toNat < 128) :
    decodeLossy s.toUTF8 = s := by
  have hbytes : s.toUTF8.data.toList = s.toList.map fun c => c.toNat.toUInt8 := by
    rw [String.toUTF8_eq_toByteArray, ← utf8Encode_of_ascii s.toList h, ← String.toByteArray_ofList,
      String.ofList_toList]
  have hsize : s.toUTF8.size = s.toList.length := by
    rw [← ByteArray.size_data, ← Array.length_toList, hbytes, List.length_map]
  rw [decodeLossy, ByteArray.toList_eq, hbytes, decodeBytes_of_ascii s.toList h _ hsize.ge,
    String.ofList_toList]

theorem dropWhile_blank (cs : List Char) (h : ∀ c ∈ cs, isBlank c = false) :
    cs.dropWhile isBlank = cs := by
  cases cs with
  | nil => rfl
  | cons c cs => exact List.dropWhile_cons_of_neg (by simp [h c List.mem_cons_self])

/-- Text without a blank character is its own trim. -/
theorem trim_of_noBlank (s : String) (h : ∀ c ∈ s.toList, isBlank c = false) : trim s = s := by
  rw [trim, dropWhile_blank _ h, dropWhile_blank _ (fun c hc => h c (List.mem_reverse.mp hc)),
    List.reverse_reverse, String.ofList_toList]

/-- Text that UTF-8 writes one byte a character, with no blank character. -/
def Bare (s : String) : Prop := ∀ c ∈ s.toList, c.toNat < 128 ∧ isBlank c = false

theorem Bare.append {s t : String} (hs : Bare s) (ht : Bare t) : Bare (s ++ t) := by
  intro c hc
  rw [String.toList_append, List.mem_append] at hc
  rcases hc with hc | hc
  · exact hs c hc
  · exact ht c hc

theorem bare_dash : Bare "-" := by
  intro c hc
  have : c = '-' := by simpa using hc
  subst this
  decide

theorem digit_bare : ∀ n, n < 16 → (Hex.digit n).toNat < 128 ∧ isBlank (Hex.digit n) = false := by
  decide

theorem bare_hex (l : List UInt8) : Bare (Hex.encode l) := by
  intro c hc
  simp only [Hex.encode, String.toList_join, List.mem_flatMap, List.mem_map] at hc
  obtain ⟨_, ⟨x, -, rfl⟩, hc⟩ := hc
  simp only [Hex.ofByte, String.toList_ofList, List.mem_cons, List.mem_nil_iff, or_false] at hc
  have hx := x.toNat_lt
  rcases hc with rfl | rfl
  · exact digit_bare _ (by omega)
  · exact digit_bare _ (by omega)

end Text

namespace Store.MachineIdentity

theorem bare_uuid (b : List UInt8) : Text.Bare (uuidOfBytes b) := by
  unfold uuidOfBytes
  dsimp only
  -- five groups of hex digits joined by dashes
  exact ((((((((Text.bare_hex _).append Text.bare_dash).append (Text.bare_hex _)).append
    Text.bare_dash).append (Text.bare_hex _)).append Text.bare_dash).append
    (Text.bare_hex _)).append Text.bare_dash).append (Text.bare_hex _)

/-- **A UUID written to the record reads back as itself.** -/
theorem trim_decodeLossy_uuid (b : List UInt8) :
    Text.trim (Text.decodeLossy (uuidOfBytes b).toUTF8) = uuidOfBytes b := by
  rw [Text.decodeLossy_of_ascii _ fun c hc => (bare_uuid b c hc).1]
  exact Text.trim_of_noBlank _ fun c hc => (bare_uuid b c hc).2

theorem uuidOfBytes_isEmpty (b : List UInt8) : (uuidOfBytes b).isEmpty = false := by
  unfold uuidOfBytes
  simp

end Store.MachineIdentity

/-! ## Reading the record -/

namespace Store.StateStore

open Agent

variable {s : StateStore} {w w' : World} {id : MachineIdentity}

/-- The `machine-id` record reads as `id`: its bytes, decoded with replacement and trimmed, are
`id`'s text, and that text is not blank. -/
def Holds (s : StateStore) (id : MachineIdentity) (w : World) : Prop :=
  ∃ bytes, w.files.readFile w.cwd (s.recordPath .machineId) = .ok bytes ∧
    Text.trim (Text.decodeLossy bytes) = id.text ∧ id.text.isEmpty = false

/-- The `machine-id` record holds no identifier: it is absent, or its text is blank once decoded
and trimmed. -/
def NoIdentity (s : StateStore) (w : World) : Prop :=
  w.files.readFile w.cwd (s.recordPath .machineId) = .error .notFound ∨
    ∃ bytes, w.files.readFile w.cwd (s.recordPath .machineId) = .ok bytes ∧
      (Text.trim (Text.decodeLossy bytes)).isEmpty = true

theorem Holds.of_logOnly (hl : w.LogOnly w') (h : s.Holds id w) : s.Holds id w' := by
  unfold World.LogOnly at hl
  rw [hl]
  exact h

theorem readRecord_run_ok {r : Record} {bytes : ByteArray}
    (h : w.files.readFile w.cwd (s.recordPath r) = .ok bytes) :
    (s.readRecord r).run w = (.ok (some bytes), w) := by
  unfold readRecord
  rw [run_bind_ok (run_query _ w)]
  simp only [h]
  rfl

theorem readRecord_run_notFound {r : Record}
    (h : w.files.readFile w.cwd (s.recordPath r) = .error .notFound) :
    (s.readRecord r).run w = (.ok none, w) := by
  unfold readRecord
  rw [run_bind_ok (run_query _ w)]
  simp only [h]
  rfl

theorem readRecord_run_error {r : Record} {e : Host.IoError} (he : e ≠ .notFound)
    (h : w.files.readFile w.cwd (s.recordPath r) = .error e) :
    (s.readRecord r).run w = (.error (.io e), w) := by
  unfold readRecord
  rw [run_bind_ok (run_query _ w)]
  simp only [h]
  rfl

/-- Reading a record answers what its file holds. -/
theorem readFile_of_readRecord {r : Record} {bytes : ByteArray}
    (h : (s.readRecord r).run w = (.ok (some bytes), w')) :
    w.files.readFile w.cwd (s.recordPath r) = .ok bytes := by
  rcases hr : w.files.readFile w.cwd (s.recordPath r) with e | b
  · by_cases he : e = .notFound
    · subst he
      rw [readRecord_run_notFound hr] at h
      cases h
    · rw [readRecord_run_error he hr] at h
      cases h
  · rw [readRecord_run_ok hr] at h
    cases h
    rfl

end Store.StateStore

/-! ## Loading and resolving -/

namespace Store.MachineIdentity

open Store.StateStore Agent

variable {s : StateStore} {w w' : World} {id : MachineIdentity}

theorem load_run_read {bytes : ByteArray}
    (h : w.files.readFile w.cwd (s.recordPath .machineId) = .ok bytes) :
    (load s).run w = (.ok (if (Text.trim (Text.decodeLossy bytes)).isEmpty then none
      else some ⟨Text.trim (Text.decodeLossy bytes)⟩), w) := by
  unfold load
  rw [run_bind_ok (readRecord_run_ok h)]
  rfl

theorem load_run_none (h : s.NoIdentity w) : (load s).run w = (.ok none, w) := by
  rcases h with h | ⟨bytes, h, hblank⟩
  · unfold load
    rw [run_bind_ok (readRecord_run_notFound h)]
    rfl
  · rw [load_run_read h, if_pos hblank]

/-- Loading reads the record and changes nothing. -/
theorem load_world (w : World) : ((load s).run w).2 = w := by
  rcases h : w.files.readFile w.cwd (s.recordPath .machineId) with e | bytes
  · unfold load
    by_cases he : e = .notFound
    · subst he
      rw [run_bind_ok (readRecord_run_notFound h)]
      rfl
    · rw [run_bind_error (readRecord_run_error he h)]
  · rw [load_run_read h]

/-- **Loading answers an identifier exactly when the record holds it.** -/
theorem load_some_iff : ((load s).run w).1 = .ok (some id) ↔ s.Holds id w := by
  rcases h : w.files.readFile w.cwd (s.recordPath .machineId) with e | bytes
  · have hno : ¬ s.Holds id w := by
      rintro ⟨_, hb, -⟩
      rw [h] at hb
      cases hb
    unfold load
    by_cases he : e = .notFound
    · subst he
      rw [run_bind_ok (readRecord_run_notFound h)]
      simpa using hno
    · rw [run_bind_error (readRecord_run_error he h)]
      simpa using hno
  · rw [load_run_read h]
    constructor
    · intro hl
      split at hl
      · cases hl
      · rename_i hne
        -- by injectivity: `cases` would unify the decoded text with `id` by unfolding it
        obtain rfl := Option.some.inj (Except.ok.inj hl)
        exact ⟨bytes, h, rfl, by simpa using hne⟩
    · rintro ⟨b, hb, htext, hne⟩
      rw [h] at hb
      cases hb
      rw [htext, hne]
      rfl

theorem holds_of_recordHolds (hs : s.Plain) {b : List UInt8}
    (h : s.RecordHolds .machineId (uuidOfBytes b).toUTF8 w) : s.Holds ⟨uuidOfBytes b⟩ w :=
  ⟨_, readFile_of_readRecord (h.readRecord_run hs), trim_decodeLossy_uuid b, uuidOfBytes_isEmpty b⟩

/-- Generating, storing and reporting a new identifier: from a sound tree, a success leaves the
new identifier, a UUID, in the record's file. -/
theorem holds_of_storeNew (hs : s.Plain) (hsound : s.Sound w.files w.cwd)
    (h : (do
      let identity ← generate
      s.writeRecord .machineId identity.text.toUTF8
      info ("Generated new machine id " ++ identity.text)
      pure identity : Agent MachineIdentity).run w = (.ok id, w')) :
    s.RecordHolds .machineId id.text.toUTF8 w' ∧ s.Holds id w' ∧
      ∃ bytes, id.text = uuidOfBytes bytes := by
  obtain ⟨bytes, w₁, hgen, hf, hc, -⟩ := generate_run w
  have hsound₁ : s.Sound w₁.files w₁.cwd := by
    rw [hf, hc]
    exact hsound
  rw [run_bind_ok hgen] at h
  rcases hwr : (s.writeRecord .machineId (uuidOfBytes bytes).toUTF8).run w₁ with ⟨_ | _, w₂⟩
  · rw [run_bind_error hwr] at h
    cases h
  rw [run_bind_ok hwr] at h
  obtain ⟨w₃, hinfo, hlo⟩ := run_info ("Generated new machine id " ++ uuidOfBytes bytes) w₂
  rw [run_bind_ok hinfo] at h
  simp only [run_pure, Prod.mk.injEq, Except.ok.injEq] at h
  obtain ⟨rfl, rfl⟩ := h
  have hrec := (writeRecord_holds hs hwr hsound₁).of_logOnly hlo
  exact ⟨hrec, holds_of_recordHolds hs hrec, bytes, rfl⟩

/-- **A record that holds an identifier answers every resolution that does not regenerate**, and
such a resolution writes nothing but the journal. -/
theorem resolve_held (hh : s.Holds id w) :
    ∃ w', (resolve s false).run w = (.ok id, w') ∧ w.LogOnly w' := by
  have hload : (load s).run w = (.ok (some id), w) :=
    Prod.ext (load_some_iff.mpr hh) (load_world w)
  obtain ⟨w', hlog, hlo⟩ := run_debug ("Using existing machine id " ++ id.text) w
  refine ⟨w', ?_, hlo⟩
  unfold resolve
  simp only [Bool.false_eq_true, ↓reduceIte]
  rw [run_bind_ok hload]
  dsimp only
  rw [run_bind_ok hlog]
  rfl

/-- **A resolution that loads no identifier and succeeds leaves a new UUID in the record.** -/
theorem resolve_fresh (hs : s.Plain) (hsound : s.Sound w.files w.cwd)
    (hnone : (load s).run w = (.ok none, w)) (h : (resolve s false).run w = (.ok id, w')) :
    s.RecordHolds .machineId id.text.toUTF8 w' ∧ s.Holds id w' ∧
      ∃ bytes, id.text = uuidOfBytes bytes := by
  unfold resolve at h
  simp only [Bool.false_eq_true, ↓reduceIte] at h
  rw [run_bind_ok hnone] at h
  exact holds_of_storeNew hs hsound h

/-- A regeneration that succeeds leaves its UUID in the record. -/
theorem holds_of_regenerate (hs : s.Plain) (hsound : s.Sound w.files w.cwd)
    (h : (resolve s true).run w = (.ok id, w')) :
    s.RecordHolds .machineId id.text.toUTF8 w' ∧ s.Holds id w' ∧
      ∃ bytes, id.text = uuidOfBytes bytes := by
  obtain ⟨hrec, bytes, hb⟩ := resolve_regenerate_record hs hsound h
  obtain ⟨text⟩ := id
  subst hb
  exact ⟨hrec, holds_of_recordHolds hs hrec, bytes, rfl⟩

/-- The UUID that generating an identifier makes when the random source stands at `e`. -/
def drawnUuid (e : UInt64) : String :=
  uuidOfBytes (Agent.bytesOfWord (Agent.splitMix e).2 ++
    Agent.bytesOfWord (Agent.splitMix (Agent.splitMix e).1).2)

theorem generate_drawn (w : World) : (generate.run w).1 = .ok ⟨drawnUuid w.entropy⟩ := by
  unfold generate
  rw [run_bind_ok (run_random128 w)]
  rfl

theorem removeIfExists_entropy (path : String) (w : World) :
    ((removeIfExists path).run w).2.entropy = w.entropy := by
  unfold removeIfExists
  rcases h : w.files.removeFile w.cwd path with e | t
  · rw [run_bind_ok (run_attempt_error h)]
    split <;> rfl
  · rw [run_bind_ok (run_attempt_ok h)]
    rfl

/-- Storing an identifier and reporting it answers that identifier. -/
theorem storeNew_value {identity : MachineIdentity}
    (h : (do
      s.writeRecord .machineId identity.text.toUTF8
      info ("Generated new machine id " ++ identity.text)
      pure identity : Agent MachineIdentity).run w = (.ok id, w')) : id = identity := by
  rcases hwr : (s.writeRecord .machineId identity.text.toUTF8).run w with ⟨_ | _, w₁⟩
  · rw [run_bind_error hwr] at h
    cases h
  rw [run_bind_ok hwr] at h
  obtain ⟨w₂, hinfo, -⟩ := run_info ("Generated new machine id " ++ identity.text) w₁
  rw [run_bind_ok hinfo] at h
  simp only [run_pure, Prod.mk.injEq, Except.ok.injEq] at h
  exact h.1.symm

/-- **A regeneration answers the UUID drawn from the random source as it stood**, so it differs
from the identifier before it whenever that draw is fresh. -/
theorem resolve_regenerate_drawn (h : (resolve s true).run w = (.ok id, w')) :
    id.text = drawnUuid w.entropy := by
  simp only [resolve, ↓reduceIte] at h
  rcases hdel : (s.deleteRecord .machineId).run w with ⟨_ | _, w₁⟩
  · rw [run_bind_error hdel] at h
    cases h
  rw [run_bind_ok hdel] at h
  -- removing the old record leaves the random source where it was
  have hent : w₁.entropy = w.entropy := by
    have hkeep := removeIfExists_entropy (s.recordPath .machineId) w
    rw [← deleteRecord, hdel] at hkeep
    exact hkeep
  have hgen := generate_drawn w₁
  rcases hg : generate.run w₁ with ⟨_ | identity, w₂⟩
  · rw [hg] at hgen
    cases hgen
  rw [hg] at hgen
  rw [run_bind_ok hg] at h
  -- named, not unified: unifying would compute the drawn words
  have hid : identity = ⟨drawnUuid w₁.entropy⟩ := Except.ok.inj hgen
  rw [storeNew_value h, hid, hent]

/-! ## Resolutions in a row -/

/-- `k` resolutions in a row that do not regenerate, each one's outcome kept, failed or not. -/
def resolveRepeatedly (s : StateStore) : Nat → Agent (List (Except Fault MachineIdentity))
  | 0 => pure []
  | k + 1 => do
    let r ← capture (resolve s false)
    let rs ← resolveRepeatedly s k
    pure (r :: rs)

theorem resolveRepeatedly_succ_run {k : Nat} {r : Except Fault MachineIdentity}
    {rs : List (Except Fault MachineIdentity)} {w₁ w₂ : World}
    (h₁ : (resolve s false).run w = (r, w₁)) (h₂ : (resolveRepeatedly s k).run w₁ = (.ok rs, w₂)) :
    (resolveRepeatedly s (k + 1)).run w = (.ok (r :: rs), w₂) := by
  unfold resolveRepeatedly
  rw [run_bind_ok (run_capture h₁), run_bind_ok h₂]
  rfl

/-- Each call's fault is kept, so the calls in a row never fail as a whole. -/
theorem resolveRepeatedly_ok (k : Nat) (w : World) :
    ∃ rs w', (resolveRepeatedly s k).run w = (.ok rs, w') := by
  induction k generalizing w with
  | zero => exact ⟨[], w, rfl⟩
  | succ k ih =>
    rcases h₁ : (resolve s false).run w with ⟨r, w₁⟩
    obtain ⟨rs, w₂, h₂⟩ := ih w₁
    exact ⟨r :: rs, w₂, resolveRepeatedly_succ_run h₁ h₂⟩

/-- **Once the record holds an identifier, every resolution answers it**, and only the journal
changes. -/
theorem resolveRepeatedly_held (hh : s.Holds id w) (k : Nat) :
    ∃ w', (resolveRepeatedly s k).run w = (.ok (List.replicate k (.ok id)), w') ∧
      w.LogOnly w' := by
  induction k generalizing w with
  | zero => exact ⟨w, rfl, .refl w⟩
  | succ k ih =>
    obtain ⟨w₁, h₁, hlo₁⟩ := resolve_held hh
    obtain ⟨w₂, h₂, hlo₂⟩ := ih (hh.of_logOnly hlo₁)
    exact ⟨w₂, resolveRepeatedly_succ_run h₁ h₂, hlo₁.trans hlo₂⟩

/-- A record that cannot be read fails every resolution alike, and nothing changes. -/
theorem resolve_unreadable {e : Host.IoError} (he : e ≠ .notFound)
    (h : w.files.readFile w.cwd (s.recordPath .machineId) = .error e) :
    (resolve s false).run w = (.error (.io e), w) := by
  have hload : (load s).run w = (.error (.io e), w) := by
    unfold load
    rw [run_bind_error (readRecord_run_error he h)]
  unfold resolve
  simp only [Bool.false_eq_true, ↓reduceIte]
  rw [run_bind_error hload]

theorem resolveRepeatedly_unreadable {e : Host.IoError} (he : e ≠ .notFound)
    (h : w.files.readFile w.cwd (s.recordPath .machineId) = .error e) (k : Nat) :
    (resolveRepeatedly s k).run w = (.ok (List.replicate k (.error (.io e))), w) := by
  induction k with
  | zero => rfl
  | succ k ih => exact resolveRepeatedly_succ_run (resolve_unreadable he h) ih

/-- **From a record without an identifier, a first resolution that succeeds stores a UUID that
every later one answers.** -/
theorem resolveRepeatedly_fresh (hs : s.Plain) (hsound : s.Sound w.files w.cwd)
    (hnone : s.NoIdentity w) (k : Nat) :
    ∃ rs w', (resolveRepeatedly s (k + 1)).run w = (.ok rs, w') ∧
      ∀ id, rs.head? = some (.ok id) → rs = List.replicate (k + 1) (.ok id) ∧ s.Holds id w' ∧
        ∃ bytes, id.text = uuidOfBytes bytes := by
  rcases h₁ : (resolve s false).run w with ⟨r, w₁⟩
  obtain ⟨rs, w₂, h₂⟩ := resolveRepeatedly_ok (s := s) k w₁
  refine ⟨r :: rs, w₂, resolveRepeatedly_succ_run h₁ h₂, fun id hid => ?_⟩
  simp only [List.head?_cons, Option.some.injEq] at hid
  subst hid
  -- the first call stored a new identifier; every later one reads it back
  obtain ⟨-, hheld, huuid⟩ := resolve_fresh hs hsound (load_run_none hnone) h₁
  obtain ⟨w₃, h₃, hlo⟩ := resolveRepeatedly_held hheld k
  rw [h₂] at h₃
  simp only [Prod.mk.injEq, Except.ok.injEq] at h₃
  obtain ⟨rfl, rfl⟩ := h₃
  exact ⟨rfl, hheld.of_logOnly hlo, huuid⟩

/-- **After a regeneration, every resolution answers the new identifier**, a UUID. -/
theorem resolveRepeatedly_after_regenerate (hs : s.Plain) (hsound : s.Sound w.files w.cwd)
    (h : (resolve s true).run w = (.ok id, w')) (k : Nat) :
    (∃ bytes, id.text = uuidOfBytes bytes) ∧
      ∃ w'', (resolveRepeatedly s k).run w' = (.ok (List.replicate k (.ok id)), w'') ∧
        s.Holds id w'' := by
  obtain ⟨-, hheld, huuid⟩ := holds_of_regenerate hs hsound h
  obtain ⟨w'', hrun, hlo⟩ := resolveRepeatedly_held hheld k
  exact ⟨huuid, w'', hrun, hheld.of_logOnly hlo⟩

end Store.MachineIdentity

end HostAgent
