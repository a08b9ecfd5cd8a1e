/-!
# `HostAgent.Shell.Fields` — field splitting

The results of unquoted expansions are cut into fields at the characters of `IFS`; the text of
the word itself and quoted parts are never cut. With `IFS` empty nothing is cut. Otherwise,
for the characters of `IFS`:

* the blanks among them (space, tab, newline) are IFS white space: a run of it ends the field
  being built, and at the start of an expansion before any field text it is skipped;
* every other character of `IFS` ends a field, an empty one when nothing stands before it (so
  `a::b:` gives `a`, the empty field and `b`); white space around it belongs to the same
  delimiter;
* a field ends up in the result when something started it — text, or a quoted empty string.

`read` cuts a line the same way into as many fields as it has names less one; the last name
takes the rest of the line, without the IFS white space around it and without one trailing
delimiter when only one field is left.

Characters are kept with a mark that is `true` when the character was quoted: quoted
characters are not cut, and they stand for themselves in patterns.
-/

namespace HostAgent.Shell

/-- Whether a character is IFS white space for a given `IFS`. -/
def isIfsBlank (ifs : String) (c : Char) : Bool :=
  (c == ' ' || c == '\t' || c == '\n') && ifs.toList.contains c

/-- Fields being built: those finished, the current one (in reverse), whether the current one
exists, and whether IFS white space just ended a field (a delimiter that follows joins it). -/
structure Fields where
  done : List (List (Char × Bool)) := []
  current : List (Char × Bool) := []
  started : Bool := false
  afterBlank : Bool := false

namespace Fields

/-- Add text that is not cut: `quoted` text, or unquoted text of the word itself. -/
def addText (f : Fields) (t : String) (quoted : Bool) : Fields :=
  { f with current := (t.toList.map fun c => (c, quoted)).reverse ++ f.current, started := true,
           afterBlank := false }

/-- Close the current field, if it exists. -/
def close (f : Fields) : Fields :=
  if f.started then { done := f.done ++ [f.current.reverse], current := [], started := false }
  else { f with afterBlank := false }

/-- Add one character of an expansion's result, cut at the characters of `ifs`. -/
def addSplitChar (ifs : String) (f : Fields) (c : Char) : Fields :=
  if !ifs.toList.contains c then
    { f with current := (c, false) :: f.current, started := true, afterBlank := false }
  else if isIfsBlank ifs c then
    if f.started then { f.close with afterBlank := true } else f
  else if f.started then f.close
  else if f.afterBlank then { f with afterBlank := false }
  else { done := f.done ++ [[]], current := [], started := false }

/-- Add the result of an unquoted expansion, cut at the characters of `ifs`; with `ifs` empty
it is added whole. -/
def addSplit (ifs : String) (f : Fields) (t : String) : Fields :=
  if ifs.isEmpty then
    if t.isEmpty then f else f.addText t false
  else (t.toList.foldl (addSplitChar ifs) { f with afterBlank := false })

/-- The finished fields, each character marked `true` when it was quoted. -/
def finishMarked (f : Fields) : List (List (Char × Bool)) := f.close.done

/-- The finished fields. -/
def finish (f : Fields) : List String := f.finishMarked.map fun cs => String.ofList (cs.map (·.1))

end Fields

/-- IFS white space dropped from both ends of a marked text (quoted characters stay). -/
def trimIfsBlanks (ifs : String) (cs : List (Char × Bool)) : List (Char × Bool) :=
  let blank (p : Char × Bool) : Bool := !p.2 && isIfsBlank ifs p.1
  ((cs.dropWhile blank).reverse.dropWhile blank).reverse

/-- Cut a line for `read` into fields for `n` names: the first fields, cut at the characters of
`ifs` (quoted characters never cut), and, when fields are left for the last name, the rest of
the line. -/
def readFields (ifs : String) (n : Nat) (line : List (Char × Bool)) : List String :=
  let text (cs : List (Char × Bool)) : String := String.ofList (cs.map (·.1))
  let isDelim (p : Char × Bool) : Bool := !p.2 && ifs.toList.contains p.1
  let isBlank (p : Char × Bool) : Bool := !p.2 && isIfsBlank ifs p.1
  -- skip a delimiter: white space, at most one other IFS character, white space
  let skipDelim (cs : List (Char × Bool)) : List (Char × Bool) :=
    let cs := cs.dropWhile isBlank
    match cs with
    | p :: rest => if isDelim p && !isBlank p then rest.dropWhile isBlank else cs
    | [] => []
  let rec go : Nat → List (Char × Bool) → List String
    | 0, _ => []
    | 1, cs =>
      let rest := trimIfsBlanks ifs cs
      -- one field left: a single trailing delimiter goes too
      let body := rest.takeWhile (fun p => !isDelim p)
      if body.length + 1 == rest.length && (rest.getLast?.map isDelim).getD false then [text body]
      else [text rest]
    | k + 1, cs =>
      let field := cs.takeWhile (fun p => !isDelim p)
      text field :: go k (skipDelim (cs.drop field.length))
  if ifs.isEmpty then
    match n with
    | 0 => []
    | n + 1 => text line :: List.replicate n ""
  else go n (line.dropWhile isBlank)

end HostAgent.Shell
