import HostAgent.Shell.Utility.Core

/-!
# `HostAgent.Shell.Utility.Sort` — `sort` and `uniq`

`sort` orders the lines of its inputs by keys. A key is a part of the line: from a field and a
character in it to another (`-k F[.C][opts][,F[.C][opts]]`), fields being cut at a separator
(`-t`) or, by default, before each run of blanks, the blanks belonging to the field after them.
Keys compare as bytes, or as numbers (`-n`, `-g`, `-h`), with case folded (`-f`), some bytes
ignored (`-d`, `-i`) or reversed (`-r`); a key without options of its own takes the global
ones. Lines whose keys are all equal are ordered by their bytes, unless `-s` or `-u` asks
otherwise; `-u` keeps the first line of each run of equal ones. The sort is stable, and its
output ends every line with a newline.

`uniq` writes each run of adjacent equal lines once (`-c` counts them, `-d` keeps only runs of
several, `-u` only single lines), comparing lines after skipping fields (`-f`) and characters
(`-s`), up to a number of characters (`-w`), with case folded (`-i`).
-/

namespace HostAgent.Shell

open HostAgent.Host

namespace Utility

open Getopt

/-- How a key compares. -/
structure KeyOrder where
  blanks : Bool := false
  dictionary : Bool := false
  fold : Bool := false
  numeric : Bool := false
  general : Bool := false
  human : Bool := false
  printable : Bool := false
  reverse : Bool := false
  deriving Repr

/-- Whether a key has an ordering option of its own. -/
def KeyOrder.given (o : KeyOrder) : Bool :=
  o.blanks || o.dictionary || o.fold || o.numeric || o.general || o.human || o.printable || o.reverse

/-- Add an option letter to an ordering; `none` for a letter that is not one. -/
def KeyOrder.add (o : KeyOrder) (c : Char) : Option KeyOrder :=
  match c with
  | 'b' => some { o with blanks := true }
  | 'd' => some { o with dictionary := true }
  | 'f' => some { o with fold := true }
  | 'n' => some { o with numeric := true }
  | 'g' => some { o with general := true }
  | 'h' => some { o with human := true }
  | 'i' => some { o with printable := true }
  | 'r' => some { o with reverse := true }
  | 'M' | 'R' | 'V' => some o
  | _ => none

/-- A sort key: the field and character it starts at (counted from 0), whether blanks before
the start are skipped, the field it ends in and the character it ends after (`0` for the end
of the field; no end field for the end of the line), whether blanks before the end are skipped,
and how it compares. -/
structure SortKey where
  startField : Nat
  startChar : Nat
  skipStart : Bool
  endField : Option Nat
  endChar : Nat
  skipEnd : Bool
  order : KeyOrder

/-- Whether a byte is a blank for `sort`: space or tab. -/
def isSortBlank (b : UInt8) : Bool := b == 32 || b == 9

/-- Skip `n` fields from the start of a line: with a separator, past `n` separators; by
default past `n` runs of blanks and non-blanks. -/
def skipFields (tab : Option UInt8) : Nat → List UInt8 → List UInt8
  | 0, bs => bs
  | n + 1, bs =>
    match tab with
    | some t =>
      let rest := bs.dropWhile (· != t)
      skipFields tab n (rest.drop 1)
    | none =>
      let rest := (bs.dropWhile isSortBlank).dropWhile (fun b => !isSortBlank b)
      skipFields tab n rest

/-- The part of a line a key covers. -/
def keyText (tab : Option UInt8) (k : SortKey) (line : List UInt8) : List UInt8 :=
  let lim := line.length
  -- the start
  let atField := skipFields tab k.startField line
  let atField := if k.skipStart then atField.dropWhile isSortBlank else atField
  let start := lim - atField.length + k.startChar
  let start := min start lim
  -- the end
  let stop := match k.endField with
    | none => lim
    | some ef =>
      let words := if k.endChar == 0 then ef + 1 else ef
      let rec skipEnd : Nat → List UInt8 → List UInt8
        | 0, bs => bs
        | n + 1, bs =>
          match tab with
          | some t =>
            let rest := bs.dropWhile (· != t)
            if n > 0 || k.endChar != 0 then skipEnd n (rest.drop 1) else rest
          | none => skipEnd n ((bs.dropWhile isSortBlank).dropWhile (fun b => !isSortBlank b))
      let at_ := skipEnd words line
      let at_ := if k.endChar != 0 && k.skipEnd then at_.dropWhile isSortBlank else at_
      let pos := lim - at_.length
      if k.endChar != 0 then min lim (pos + k.endChar) else pos
  if stop ≤ start then [] else (line.drop start).take (stop - start)

/-- A number as `sort -n` reads the start of a key: blanks, a minus sign, digits with a
decimal point; the value as a ratio (`0` when no digits stand there). -/
def leadingNumber (bs : List UInt8) : Int × Nat :=
  let bs := bs.dropWhile isSortBlank
  let (negative, body) := match bs with
    | 45 :: rest => (true, rest)
    | _ => (false, bs)
  let isDigit (b : UInt8) : Bool := 48 ≤ b && b ≤ 57
  let whole := body.takeWhile isDigit
  let rest := body.drop whole.length
  let frac := match rest with
    | 46 :: more => more.takeWhile isDigit
    | _ => []
  let n : Nat := (whole ++ frac).foldl (fun v b => 10 * v + (b.toNat - 48)) 0
  ((if negative then -(n : Int) else n), Nat.pow 10 frac.length)

/-- A number as `sort -g` reads it: like `-n`, with an exponent; `none` when no number stands
there (such keys sort first). -/
def generalNumber (bs : List UInt8) : Option (Int × Nat) :=
  let bs := bs.dropWhile isSortBlank
  let (negative, body) := match bs with
    | 45 :: rest => (true, rest)
    | 43 :: rest => (false, rest)
    | _ => (false, bs)
  let isDigit (b : UInt8) : Bool := 48 ≤ b && b ≤ 57
  let whole := body.takeWhile isDigit
  let rest := body.drop whole.length
  let frac := match rest with
    | 46 :: more => more.takeWhile isDigit
    | _ => []
  if whole.isEmpty && frac.isEmpty then none
  else
    let afterFrac := match rest with
      | 46 :: more => more.drop frac.length
      | _ => rest
    let (expNeg, expDigits) := match afterFrac with
      | 101 :: 45 :: more | 69 :: 45 :: more => (true, more.takeWhile isDigit)
      | 101 :: 43 :: more | 69 :: 43 :: more => (false, more.takeWhile isDigit)
      | 101 :: more | 69 :: more => (false, more.takeWhile isDigit)
      | _ => (false, [])
    let e : Nat := expDigits.foldl (fun v b => 10 * v + (b.toNat - 48)) 0
    let e := min e 400
    let n : Nat := (whole ++ frac).foldl (fun v b => 10 * v + (b.toNat - 48)) 0
    let signed : Int := if negative then -(n : Int) else n
    if expNeg then some (signed, Nat.pow 10 (frac.length + e))
    else
      let scale := Nat.pow 10 e
      let den := Nat.pow 10 frac.length
      some (signed * scale, den)

/-- The power a human-readable size suffix stands for (`K` 1, `M` 2, ...), `0` for none. -/
def suffixPower (b : UInt8) : Nat :=
  match b with
  | 75 | 107 => 1
  | 77 => 2
  | 71 => 3
  | 84 => 4
  | 80 => 5
  | 69 => 6
  | 90 => 7
  | 89 => 8
  | _ => 0

/-- Compare two ratios. -/
def compareRatio (a : Int × Nat) (b : Int × Nat) : Ordering :=
  compare (a.1 * (b.2 : Int)) (b.1 * (a.2 : Int))

/-- Compare two texts byte by byte, a shorter one first when it is a beginning of the other. -/
def compareBytes : List UInt8 → List UInt8 → Ordering
  | [], [] => .eq
  | [], _ => .lt
  | _, [] => .gt
  | a :: as, b :: bs => if a < b then .lt else if b < a then .gt else compareBytes as bs

/-- Compare two keys as an ordering asks, before any reversal. -/
def compareKey (o : KeyOrder) (a b : List UInt8) : Ordering :=
  if o.numeric then compareRatio (leadingNumber a) (leadingNumber b)
  else if o.general then
    match generalNumber a, generalNumber b with
    | none, none => .eq
    | none, some _ => .lt
    | some _, none => .gt
    | some x, some y => compareRatio x y
  else if o.human then
    let power (bs : List UInt8) : Nat :=
      let bs := (bs.dropWhile isSortBlank).dropWhile (· == 45)
      let rest := bs.dropWhile fun x => (48 ≤ x && x ≤ 57) || x == 46
      suffixPower (rest.headD 0)
    let sign (bs : List UInt8) : Int := if (bs.dropWhile isSortBlank).head? == some 45 then -1 else 1
    match compare (sign a * power a) (sign b * power b) with
    | .eq => compareRatio (leadingNumber a) (leadingNumber b)
    | other => other
  else
    let keep (x : UInt8) : Bool :=
      (!o.dictionary || isSortBlank x || (48 ≤ x && x ≤ 57) || (65 ≤ x && x ≤ 90) ||
        (97 ≤ x && x ≤ 122)) && (!o.printable || (32 ≤ x && x < 127))
    let fold (x : UInt8) : UInt8 := if o.fold && 97 ≤ x && x ≤ 122 then x - 32 else x
    compareBytes ((a.filter keep).map fold) ((b.filter keep).map fold)

/-- How `sort` is asked to order lines. -/
structure SortPlan where
  keys : List SortKey
  tab : Option UInt8
  order : KeyOrder
  stable : Bool
  unique : Bool

/-- Compare two lines by the keys, without the last resort. -/
def SortPlan.compareKeys (p : SortPlan) (a b : List UInt8) : Ordering :=
  let keys := if p.keys.isEmpty then
      [{ startField := 0, startChar := 0, skipStart := p.order.blanks, endField := none, endChar := 0,
         skipEnd := false, order := p.order : SortKey }]
    else p.keys
  keys.foldl (fun acc k =>
    match acc with
    | .eq =>
      let o := if k.order.given then k.order else p.order
      let r := compareKey o (keyText p.tab k a) (keyText p.tab k b)
      if o.reverse then r.swap else r
    | other => other) .eq

/-- Compare two lines: the keys, then (unless stable or unique) their bytes. -/
def SortPlan.compareLines (p : SortPlan) (a b : List UInt8) : Ordering :=
  match p.compareKeys a b with
  | .eq =>
    if p.stable || p.unique then .eq
    else
      let r := compareBytes a b
      if p.order.reverse then r.swap else r
  | other => other

/-- Read a field position `F[.C]` and the option letters after it; the field, the character,
whether `.C` was given, the options, and the text left. -/
def readPosition (cs : List Char) (o : KeyOrder) :
    Option (Nat × Nat × Bool × KeyOrder × Bool × List Char) :=
  let ds := cs.takeWhile Char.isDigit
  if ds.isEmpty then none
  else
    let field : Nat := ds.foldl (fun v c => 10 * v + (c.toNat - 48)) 0
    let rest := cs.drop ds.length
    let (char, hasChar, rest) := match rest with
      | '.' :: more =>
        let cd := more.takeWhile Char.isDigit
        (cd.foldl (fun (v : Nat) (c : Char) => 10 * v + (c.toNat - 48)) 0, true, more.drop cd.length)
      | _ => (0, false, rest)
    let letters := rest.takeWhile (· != ',')
    let (order, blanks) := letters.foldl (fun (acc : Option KeyOrder × Bool) c =>
      match acc.1 with
      | some o => if c == 'b' then (some o, true) else (o.add c, acc.2)
      | none => (none, acc.2)) (some o, false)
    order.map fun ord => (field, char, hasChar, ord, blanks, rest.drop letters.length)

/-- Read a key given to `-k`; the message when it is not one. -/
def readKey (spec : String) : Except String SortKey :=
  let bad (why : String) : Except String SortKey :=
    .error ("invalid number at field start: invalid count at start of " ++ quoteAlways spec ++ why)
  match readPosition spec.toList {} with
  | none => bad ""
  | some (f1, c1, hasC1, o1, b1, rest) =>
    if f1 == 0 then .error ("field number is zero: invalid field specification " ++ quoteAlways spec)
    else if hasC1 && c1 == 0 then
      .error ("character offset is zero: invalid field specification " ++ quoteAlways spec)
    else
      let start := { startField := f1 - 1, startChar := if hasC1 then c1 - 1 else 0, skipStart := b1,
                     endField := none, endChar := 0, skipEnd := false, order := o1 : SortKey }
      match rest with
      | [] => .ok start
      | ',' :: more =>
        match readPosition more o1 with
        | some (f2, c2, _, o2, b2, []) =>
          if f2 == 0 then .error ("field number is zero: invalid field specification " ++ quoteAlways spec)
          else .ok { start with endField := some (f2 - 1), endChar := c2, skipEnd := b2, order := o2 }
        | _ => .error ("invalid number after ',': invalid count at start of " ++
            quoteAlways (String.ofList more))
      | _ => .error ("stray character in field spec: invalid field specification " ++ quoteAlways spec)

/-- The options of `sort`. -/
def sortSpec : Spec :=
  { opts := [flag "b" 'b' "ignore-leading-blanks", flag "d" 'd' "dictionary-order",
      flag "f" 'f' "ignore-case", flag "g" 'g' "general-numeric-sort", flag "i" 'i' "ignore-nonprinting",
      flag "M" 'M' "month-sort", flag "h" 'h' "human-numeric-sort", flag "n" 'n' "numeric-sort",
      flag "R" 'R' "random-sort", longOnly "random-source" "random-source" .required,
      flag "r" 'r' "reverse", longOnly "sort" "sort" .required, flag "V" 'V' "version-sort",
      longOnly "batch-size" "batch-size" .required,
      { key := "c", short := some 'c', long := some "check", arg := .optional },
      { key := "C", short := some 'C' }, longOnly "compress" "compress-program" .required,
      longFlag "debug" "debug", longOnly "files0" "files0-from" .required,
      withArg "k" 'k' "key", flag "m" 'm' "merge", withArg "o" 'o' "output", flag "s" 's' "stable",
      withArg "S" 'S' "buffer-size", withArg "t" 't' "field-separator",
      withArg "T" 'T' "temporary-directory", longOnly "parallel" "parallel" .required,
      flag "u" 'u' "unique", flag "z" 'z' "zero-terminated"] ++ standard }

/-- Keep the first line of each run of lines equal by the keys. -/
def dedupBy (eq : List UInt8 → List UInt8 → Bool) : List (List UInt8) → List (List UInt8)
  | [] => []
  | l :: rest =>
    let rec go : List UInt8 → List (List UInt8) → List (List UInt8)
      | _, [] => []
      | prev, x :: xs => if eq prev x then go prev xs else x :: go x xs
    l :: go l rest

/-- `sort`: the lines of its inputs in order. -/
def sort (inv : Invocation) : UtilM :=
  withOptions inv sortSpec 2 fun p => do
    let global : KeyOrder := ["b", "d", "f", "g", "h", "i", "n", "r"].foldl (fun o k =>
      if p.has k then (o.add (k.toList.headD ' ')).getD o else o) {}
    let tabText := p.last? "t"
    let tab : Except String (Option UInt8) := match tabText with
      | none => .ok none
      | some t =>
        match Octets.toBytes t with
        | [b] => .ok (some b)
        | [] => .error "empty tab"
        | [92, 48] => .ok (some 0)
        | _ => .error ("multi-character tab " ++ quoteAlways t)
    let keys := (p.all "k").mapM readKey
    match tab, keys with
    | .error e, _ => do complain inv e; pure 2
    | _, .error e => do complain inv e; pure 2
    | .ok tab, .ok keys =>
      let plan : SortPlan := { keys, tab, order := global, stable := p.has "s", unique := p.has "u" }
      let names := if p.operands.isEmpty then ["-"] else p.operands
      let sep : UInt8 := if p.has "z" then 0 else 10
      let mut all : List (List UInt8) := []
      for n in names do
        match ← readSource n with
        | .ok bs =>
          let ls := (bs.splitOn sep)
          let ls := if bs.getLast? == some sep || bs.isEmpty then ls.dropLast else ls
          all := all ++ ls
        | .error e =>
          complain inv ("cannot read: " ++ quoteName n ++ ": " ++ e.description)
          return 2
      if p.has "c" || p.has "C" then
        let name := names.headD "-"
        let rec check : Nat → List (List UInt8) → Option (Nat × List UInt8)
          | _, [] | _, [_] => none
          | i, a :: b :: rest =>
            let r := plan.compareLines a b
            if r == .gt || (plan.unique && r == .eq) then some (i + 1, b) else check (i + 1) (b :: rest)
        match check 1 all with
        | some (i, line) =>
          if p.has "c" then
            complain inv ((if name == "-" then "-" else name) ++ ":" ++ toString i ++ ": disorder: " ++
              Octets.ofBytes line)
          return 1
        | none => return 0
      let sorted := all.mergeSort fun a b => plan.compareLines a b != .gt
      let out := if plan.unique then dedupBy (fun a b => plan.compareKeys a b == .eq) sorted else sorted
      let bytes := out.flatMap (· ++ [sep])
      match p.last? "o" with
      | some path =>
        let s ← get
        match s.resolve path true with
        | .ok loc =>
          let mode := match s.files.lookup loc with
            | some (.file _ m) => m
            | _ => s.createMode 0o666
          match s.files.lookup loc with
          | some (.dir _) =>
            complain inv ("open failed: " ++ quoteName path ++ ": Is a directory")
            pure 2
          | _ =>
            State.putNode loc (.file (ByteArray.mk bytes.toArray) mode)
            pure 0
        | .error e =>
          complain inv ("open failed: " ++ quoteName path ++ ": " ++ e.description)
          pure 2
      | none =>
        emit bytes
        closeOutput inv 0

/-! ## `uniq` -/

/-- The part of a line `uniq` compares: after `fields` fields and `chars` characters, at most
`width` characters. -/
def uniqPart (fields chars : Nat) (width : Option Nat) (fold : Bool) (l : List UInt8) : List UInt8 :=
  let afterFields := skipFields none fields l
  let part := afterFields.drop chars
  let part := match width with
    | some w => part.take w
    | none => part
  if fold then part.map fun x => if 97 ≤ x && x ≤ 122 then x - 32 else x else part

/-- Group adjacent lines with equal parts: each group's first line and its size. -/
def groupRuns (part : List UInt8 → List UInt8) : List (List UInt8) → List (List UInt8 × Nat × List (List UInt8))
  | [] => []
  | l :: rest =>
    let same := rest.takeWhile fun x => part x == part l
    (l, same.length + 1, l :: same) :: groupRuns part (rest.drop same.length)
termination_by ls => ls.length
decreasing_by
  simp only [List.length_cons, List.length_drop]
  omega

/-- The options of `uniq`. -/
def uniqSpec : Spec :=
  { opts := [flag "c" 'c' "count", flag "d" 'd' "repeated",
      { key := "D", short := some 'D', long := some "all-repeated", arg := .optional },
      withArg "f" 'f' "skip-fields", longOnly "group" "group" .optional, flag "i" 'i' "ignore-case",
      withArg "s" 's' "skip-chars", flag "u" 'u' "unique", flag "z" 'z' "zero-terminated",
      withArg "w" 'w' "check-chars"] ++ standard }

/-- `uniq [input [output]]`: each run of equal adjacent lines once. -/
def uniq (inv : Invocation) : UtilM :=
  withOptions inv uniqSpec 1 fun p => do
    let number (k : String) : Except String (Option Nat) :=
      match p.last? k with
      | none => .ok none
      | some t => match count? t with
        | some n => .ok (some n)
        | none => .error t
    match number "f", number "s", number "w" with
    | .error t, _, _ => misuse inv (quoteAlways t ++ ": invalid number of fields to skip") 1
    | _, .error t, _ => misuse inv (quoteAlways t ++ ": invalid number of bytes to skip") 1
    | _, _, .error t => misuse inv (quoteAlways t ++ ": invalid number of bytes to compare") 1
    | .ok f, .ok c, .ok w =>
      match p.operands with
      | _ :: _ :: extra :: _ => misuse inv ("extra operand " ++ quoteAlways extra) 1
      | operands =>
        let input := operands.headD "-"
        match ← readSource input with
        | .error e =>
          complain inv (quoteName input ++ ": " ++ e.description)
          pure 1
        | .ok bs =>
          let sep : UInt8 := if p.has "z" then 0 else 10
          let ls := bs.splitOn sep
          let ls := if bs.getLast? == some sep || bs.isEmpty then ls.dropLast else ls
          let part := uniqPart (f.getD 0) (c.getD 0) w (p.has "i")
          let runs := groupRuns part ls
          let keep (n : Nat) : Bool :=
            if p.has "d" || p.has "D" then n > 1 else if p.has "u" then n == 1 else true
          let out := runs.flatMap fun (first, n, members) =>
            if !keep n then []
            else if p.has "D" then members.map (· ++ [sep])
            else
              let countText : List UInt8 :=
                if p.has "c" then
                  let d := toString n
                  Octets.toBytes (String.ofList (List.replicate (7 - d.length) ' ') ++ d ++ " ")
                else []
              [countText ++ first ++ [sep]]
          let bytes := out.flatten
          match operands with
          | [_, output] =>
            let s ← get
            match s.resolve output true with
            | .ok loc =>
              let mode := match s.files.lookup loc with
                | some (.file _ m) => m
                | _ => s.createMode 0o666
              State.putNode loc (.file (ByteArray.mk bytes.toArray) mode)
              pure 0
            | .error e =>
              complain inv (quoteName output ++ ": " ++ e.description)
              pure 1
          | _ =>
            emit bytes
            closeOutput inv 0

end Utility

end HostAgent.Shell
