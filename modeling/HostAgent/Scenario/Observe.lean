import HostAgent.Scenario.Setup
import HostAgent.Time.Rfc3339
import HostAgent.Text.Utf8
import HostAgent.Text.Blank
import HostAgent.Json.Writer

/-!
# `HostAgent.Scenario.Observe` — what an answer shows of a world

* `listing` — every entry below `T`, sorted by path: directories, links with their targets,
  files with their mode and content. A marker file whose bytes are not what the request planted
  shows `<rfc3339>` when its trimmed text is an RFC 3339 timestamp and `<written:not-rfc3339>`
  otherwise; a file over 4096 bytes shows its size; a temporary file `.tmpXXXXXX` is listed as
  `.tmp*`.
* `logLines` — the events since a point of the journal as `LEVEL message`, with the upload's
  JSON complaint cut after its first words, the collection time written `<t>`, and each run of
  cache removals sorted.
* `faultJson` — a fault as its kind and message; a serialization fault keeps only its first
  words, and a settings file that cannot be parsed only its path.
* `mask` — the answer text with `T` written `<tmp>` and each UUID that the request did not
  contain written `<uuid-N>`, numbered by first appearance.
-/

namespace HostAgent.Scenario

open HostAgent.Json HostAgent.Host HostAgent.Time

/-- The names of marker files. -/
def markerNames : List String := [".registered", ".unregistered", ".lastupload"]

/-- Whether a name is that of a temporary file: `.tmp` and six more characters. -/
def isTempName (name : String) : Bool := name.startsWith ".tmp" && name.length == 10

/-- Permission bits as three octal digits. -/
def modeText (mode : Nat) : String :=
  String.ofList [Char.ofNat (48 + mode / 64 % 8), Char.ofNat (48 + mode / 8 % 8),
    Char.ofNat (48 + mode % 8)]

/-- What the listing shows of a file's bytes. -/
def contentText (name : String) (bytes : ByteArray) (planted : Option ByteArray) : String :=
  if markerNames.contains name && planted != some bytes then
    let text := Text.trim (Text.decodeLossy bytes)
    match Instant.ofRfc3339 text with
    | .ok _ => "<rfc3339>"
    | .error _ => "<written:not-rfc3339>"
  else if bytes.size > 4096 then "<" ++ toString bytes.size ++ " bytes>"
  else Text.decodeLossy bytes

/-- One entry of the listing. -/
def entryJson (rel : Location) (n : Node) (planted : List (String × ByteArray))
    (dirModes : Bool) : String × Value :=
  let name := rel.getLastD ""
  let shownRel := if isTempName name then rel.dropLast ++ [".tmp*"] else rel
  let path := "/".intercalate shownRel
  let fields := match n with
    | .dir mode => [("path", .str path), ("type", .str "dir")] ++
        (if dirModes then [("mode", .str (modeText mode))] else [])
    | .link target => [("path", .str path), ("type", .str "symlink"), ("target", .str target)]
    -- no request can make a device inside `T`; it would read as an empty file
    | .device _ => [("path", .str path), ("type", .str "file"), ("mode", .str (modeText 0o666)),
        ("content", .str "")]
    | .file bytes mode =>
      let plantedBytes := (planted.find? (·.1 == "/".intercalate rel)).map (·.2)
      [("path", .str path), ("type", .str "file"), ("mode", .str (modeText mode)),
        ("content", .str (contentText name bytes plantedBytes))]
  (path, .obj fields)

/-- The listing of `T`. -/
def listing (t : FileTree) (planted : List (String × ByteArray)) (dirModes : Bool) : Value :=
  let entries := (t.below tmpLocation).map fun (rel, n) => entryJson rel n planted dirModes
  .arr ((entries.mergeSort fun a b => decide (a.1 ≤ b.1)).map (·.2))

/-- Whether `s` starts with `p`, and what follows. -/
def afterPrefix? (p s : String) : Option String :=
  if s.startsWith p then some (String.ofList (s.toList.drop p.length)) else none

/-- A message with its collection time written `<t>`. -/
def maskElapsed (message : String) : String :=
  match afterPrefix? "Collected " message with
  | some rest =>
    let digits := rest.toList.takeWhile Char.isDigit
    let after := rest.toList.drop digits.length
    if !digits.isEmpty && " bytes in ".toList.isPrefixOf after then
      "Collected " ++ String.ofList digits ++ " bytes in <t>s"
    else message
  | none => message

/-- A message as the answer shows it. -/
def normalizeMessage (message : String) : String :=
  if message.startsWith "Upload response is not valid JSON" then "Upload response is not valid JSON"
  else maskElapsed message

/-- Sort each run of cache-removal lines. -/
def sortRemovals (lines : List String) : List String :=
  let isRemoval (l : String) := l.startsWith "DEBUG Removed cached "
  let rec go : Nat → List String → List String
    | 0, ls => ls
    | _ + 1, [] => []
    | fuel + 1, l :: rest =>
      if isRemoval l then
        let run := (l :: rest).takeWhile isRemoval
        (run.mergeSort fun a b => decide (a ≤ b)) ++ go fuel ((l :: rest).drop run.length)
      else l :: go fuel rest
  go (lines.length + 1) lines

/-- The journal's events from index `start` on, as answer lines. -/
def logLines (w : World) (start : Nat) : List String :=
  sortRemovals ((w.journal.toList.drop start).map fun e =>
    e.level.label ++ " " ++ normalizeMessage e.message)

/-- The message of a settings file that cannot be parsed, cut after its path. -/
def cutAfterPath (message : String) : String :=
  let marks := ["Failed to parse config file ", "Failed to parse removal config "]
  match marks.find? (fun m => (message.splitOn m).length > 1) with
  | some m =>
    match message.splitOn m with
    | before :: after :: _ => before ++ m ++ ((after.splitOn ": ").headD after)
    | _ => message
  | none => message

/-- A fault's message as the answer shows it. -/
def shownMessage (f : Fault) : String :=
  match f with
  | .serialization _ => "Serialization error"
  | .config _ => cutAfterPath f.message
  | _ => f.message

/-- A fault as the answer shows it. -/
def faultJson (f : Fault) : Value :=
  .obj [("error", .str f.kind), ("message", .str (shownMessage f))]

/-- Whether a character is a lower-case hexadecimal digit. -/
def isLowerHex (c : Char) : Bool := ('0' ≤ c ∧ c ≤ '9') || ('a' ≤ c ∧ c ≤ 'f')

/-- The UUID at the head of some text, if one is there. -/
def uuidAt? (cs : List Char) : Option String :=
  let groups := [8, 4, 4, 4, 12]
  let shape := [false].intercalate (groups.map fun n => List.replicate n true)
  let head := cs.take shape.length
  if head.length == shape.length &&
      (head.zip shape).all (fun (c, hex) => if hex then isLowerHex c else c == '-') then
    some (String.ofList head)
  else none

/-- Replace UUIDs that `input` does not contain, numbering them by first appearance. -/
def maskUuids (input : String) : Nat → List Char → List String → List Char
  | 0, cs, _ => cs
  | _ + 1, [], _ => []
  | fuel + 1, c :: rest, seen =>
    match uuidAt? (c :: rest) with
    | some u =>
      if (input.splitOn u).length > 1 then c :: maskUuids input fuel rest seen
      else
        let (index, seen) := match seen.idxOf? u with
          | some i => (i + 1, seen)
          | none => (seen.length + 1, seen ++ [u])
        ("<uuid-" ++ toString index ++ ">").toList ++ maskUuids input fuel ((c :: rest).drop 36) seen
    | none => c :: maskUuids input fuel rest seen

/-- The answer text with `T` and new UUIDs masked. -/
def mask (input text : String) : String :=
  let t := text.replace tmpRoot tmpMark
  String.ofList (maskUuids input (t.length + 1) t.toList [])

end HostAgent.Scenario
