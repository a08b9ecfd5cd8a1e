import HostAgent.Host.World

/-!
# `HostAgent.Store.Cache` — the cache directory

`CacheDir.clear` removes every entry inside the cache directory and keeps the directory: a
directory entry with all it holds, anything else (a file or a link) by itself, in the directory's
order, reporting each. A missing directory is empty. It answers how many entries it removed.
-/

namespace HostAgent.Store

open HostAgent.Host

/-- The directory where collection runs leave their files. -/
structure CacheDir where
  path : String
  deriving Repr, DecidableEq, Inhabited

/-- Remove each of the named entries of a directory, counting them. -/
def CacheDir.removeEach (c : CacheDir) : List String → Nat → Agent Nat
  | [], n => pure n
  | name :: rest, n => do
    let entry := Path.join c.path name
    let isDir ← Agent.query fun t cwd =>
      match t.lstat cwd entry with
      | .ok node => node.isDir
      | .error _ => false
    if isDir then Agent.change fun t cwd => t.removeDirAll cwd entry
    else Agent.change fun t cwd => t.removeFile cwd entry
    Agent.debug ("Removed cached " ++ entry)
    c.removeEach rest (n + 1)

/-- Empty the cache directory; answers the number of entries removed. -/
def CacheDir.clear (c : CacheDir) : Agent Nat := do
  let names ← match ← Agent.query fun t cwd => t.readDir cwd c.path with
    | .ok names => pure names
    | .error .notFound => return 0
    | .error e => throw (.io e)
  let removed ← c.removeEach names 0
  if removed > 0 then
    Agent.debug ("Deleted " ++ toString removed ++ " cached file(s) from " ++ c.path)
  pure removed

end HostAgent.Store
