import HostAgent.Store.Basic
import HostAgent.Text.Utf8
import HostAgent.Text.Hex

/-!
# `HostAgent.Store.Identity` — the host's machine identifier

The identifier lives in the `machine-id` record. `load` reads it as text (ill-formed UTF-8
replaced), trimmed; a missing or blank record is no identifier. `resolve` returns the stored
identifier, or generates a random UUID version 4, stores it and reports it; with `regenerate` the
old record is removed first and a new identifier is always made.
-/

namespace HostAgent.Store

open HostAgent.Host

/-- The host's identifier. -/
structure MachineIdentity where
  text : String
  deriving Repr, DecidableEq, Inhabited

namespace MachineIdentity

/-- Sixteen bytes as a UUID of version 4: the version nibble set to 4, the variant bits to
`10`, written as lower-case hex groups of 8, 4, 4, 4 and 12 digits. -/
def uuidOfBytes (bytes : List UInt8) : String :=
  let b := bytes.toArray
  let at_ (i : Nat) : UInt8 := b.getD i 0
  let fixed := (List.range 16).map fun i =>
    if i == 6 then (at_ i &&& 0x0F) ||| 0x40
    else if i == 8 then (at_ i &&& 0x3F) ||| 0x80
    else at_ i
  let hex := fun (lo hi : Nat) => Text.Hex.encode ((fixed.drop lo).take (hi - lo))
  hex 0 4 ++ "-" ++ hex 4 6 ++ "-" ++ hex 6 8 ++ "-" ++ hex 8 10 ++ "-" ++ hex 10 16

/-- A fresh random identifier. -/
def generate : Agent MachineIdentity := do
  pure ⟨uuidOfBytes (← Agent.random128)⟩

/-- The stored identifier, if the record holds one. -/
def load (s : StateStore) : Agent (Option MachineIdentity) := do
  let some bytes ← s.readRecord .machineId | return none
  let id := Text.trim (Text.decodeLossy bytes)
  pure (if id.isEmpty then none else some ⟨id⟩)

/-- The stored identifier, or a new one that is stored. -/
def resolve (s : StateStore) (regenerate : Bool) : Agent MachineIdentity := do
  if regenerate then
    s.deleteRecord .machineId
  else if let some existing ← load s then
    Agent.debug ("Using existing machine id " ++ existing.text)
    return existing
  let identity ← generate
  s.writeRecord .machineId identity.text.toUTF8
  Agent.info ("Generated new machine id " ++ identity.text)
  pure identity

end MachineIdentity

end HostAgent.Store
