/-!
# `HostAgent.Host.IoError` — why a file system call failed

Each constructor is one error number of the host's system interface, or one of the two failures
that come from reading rather than from the system: bytes that are not UTF-8 where text was
expected, and an error that carries only a text of its own. `IoError.message` gives the text the
agent prints for each: the system's description followed by `(os error N)`.
-/

namespace HostAgent.Host

/-- Why a file system call failed. -/
inductive IoError where
  /-- `ENOENT`: a component of the path does not exist. -/
  | notFound
  /-- `EACCES`: the file may not be opened or run. -/
  | permissionDenied
  /-- `ENOEXEC`: the file is not a program the system can start. -/
  | execFormat
  /-- `EEXIST`: the name is already taken. -/
  | alreadyExists
  /-- `ENOTDIR`: a component used as a directory is not one. -/
  | notADirectory
  /-- `EISDIR`: a directory where a file was expected. -/
  | isADirectory
  /-- `EINVAL`: for instance a directory moved below itself. -/
  | invalidArgument
  /-- `ENOTEMPTY`: a directory that still has entries. -/
  | directoryNotEmpty
  /-- `ELOOP`: too many symbolic links while resolving a path. -/
  | tooManyLinks
  /-- `ENOSPC`: the device has no room for what is written. -/
  | noSpace
  /-- `ENXIO`: the device does not exist, such as a terminal a process does not have. -/
  | noDevice
  /-- Text was expected and the bytes are not UTF-8. -/
  | invalidUtf8
  /-- An error that carries only its text. -/
  | other (text : String)
  deriving Repr, DecidableEq, Inhabited

namespace IoError

/-- The system's error number, for the errors that have one. -/
def code? : IoError → Option Nat
  | notFound => some 2
  | execFormat => some 8
  | permissionDenied => some 13
  | alreadyExists => some 17
  | notADirectory => some 20
  | isADirectory => some 21
  | invalidArgument => some 22
  | directoryNotEmpty => some 39
  | tooManyLinks => some 40
  | noSpace => some 28
  | noDevice => some 6
  | invalidUtf8 => none
  | other _ => none

/-- The system's description of an error number. -/
def description : IoError → String
  | notFound => "No such file or directory"
  | execFormat => "Exec format error"
  | permissionDenied => "Permission denied"
  | alreadyExists => "File exists"
  | notADirectory => "Not a directory"
  | isADirectory => "Is a directory"
  | invalidArgument => "Invalid argument"
  | directoryNotEmpty => "Directory not empty"
  | tooManyLinks => "Too many levels of symbolic links"
  | noSpace => "No space left on device"
  | noDevice => "No such device or address"
  | invalidUtf8 => "stream did not contain valid UTF-8"
  | other text => text

/-- The text of an error: its description, and `(os error N)` after it when it has a number. -/
def message (e : IoError) : String :=
  match e.code? with
  | some n => e.description ++ " (os error " ++ toString n ++ ")"
  | none => e.description

/-- Whether the error says that the path names nothing. -/
def isNotFound : IoError → Bool
  | notFound => true
  | _ => false

end IoError

end HostAgent.Host
