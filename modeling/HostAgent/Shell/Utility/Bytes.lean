import HostAgent.Shell.Utility.Core

/-!
# `HostAgent.Shell.Utility.Bytes` — `cut`, `tr`, `od` and `cmp`

Utilities that work on the bytes of lines:

* `cut` keeps parts of each line: bytes or characters at some positions (`-b`, `-c`), or fields
  cut at a delimiter (`-f`, `-d`, tab by default), the list being ranges `N`, `N-M`, `N-`, `-M`;
  a line without the delimiter is kept whole unless `-s`;
* `tr` maps the bytes of a first set to those of a second one, deletes (`-d`) or squeezes
  (`-s`) them; a set has escapes, ranges `a-z`, classes `[:alpha:]`, repetitions `[c*n]`;
* `od` writes bytes as octal, hexadecimal or decimal numbers, or characters, sixteen a line
  after the offset; a line like the one before it is written as `*`;
* `cmp` says where two files first differ.
-/

namespace HostAgent.Shell

open HostAgent.Host

namespace Utility

open Getopt

/-! ## `cut` -/

/-- A range of positions, counted from 1; no end for "to the end of the line". -/
structure Span where
  lo : Nat
  hi : Option Nat

/-- Whether a position is in some ranges. -/
def inSpans (spans : List Span) (i : Nat) : Bool :=
  spans.any fun s => s.lo ≤ i && (s.hi.map fun h => decide (i ≤ h)).getD true

/-- Read a list of ranges; the message when it is not one. `fields` chooses the words of the
messages. -/
def readSpans (fields : Bool) (text : String) : Except String (List Span) :=
  let what := if fields then "fields" else "byte/character positions"
  let parts := (text.splitOn ",").flatMap (·.splitOn " ")
  parts.foldlM (fun acc part =>
    let num (t : String) : Except String (Option Nat) :=
      if t.isEmpty then .ok none
      else match count? t with
        | some n => .ok (some n)
        | none =>
          .error (if fields then "invalid field value " ++ quoteAlways t
            else "invalid byte/character position " ++ quoteAlways t)
    match part.splitOn "-" with
    | [one] => do
      match ← num one with
      | some 0 => throw (what ++ " are numbered from 1")
      | some n => pure (acc ++ [{ lo := n, hi := some n }])
      | none => throw (if fields then "invalid field value " ++ quoteAlways part
          else "invalid byte/character position " ++ quoteAlways part)
    | [a, b] => do
      let lo ← num a
      let hi ← num b
      match lo, hi with
      | none, none => throw ("invalid range with no endpoint: -")
      | some 0, _ => throw (what ++ " are numbered from 1")
      | _, some 0 => throw (what ++ " are numbered from 1")
      | some l, some h =>
        if h < l then throw "invalid decreasing range" else pure (acc ++ [{ lo := l, hi := some h }])
      | some l, none => pure (acc ++ [{ lo := l, hi := none }])
      | none, some h => pure (acc ++ [{ lo := 1, hi := some h }])
    | _ => throw (if fields then "invalid field range" else "invalid byte or character range")) []

/-- The options of `cut`. -/
def cutSpec : Spec :=
  { opts := [withArg "b" 'b' "bytes", withArg "c" 'c' "characters", withArg "d" 'd' "delimiter",
      withArg "f" 'f' "fields", { key := "n", short := some 'n' }, longFlag "complement" "complement",
      flag "s" 's' "only-delimited", longOnly "od" "output-delimiter" .required,
      flag "z" 'z' "zero-terminated"] ++ standard }

/-- `cut`: parts of each line of the inputs. -/
def cut (inv : Invocation) : UtilM :=
  withOptions inv cutSpec 1 fun p => do
    let lists := ["b", "c", "f"].filter p.has
    match lists with
    | [] => misuse inv "you must specify a list of bytes, characters, or fields" 1
    | _ :: _ :: _ => misuse inv "only one type of list may be specified" 1
    | [kind] =>
      let fields := kind == "f"
      if !fields && p.has "d" then
        return (← misuse inv "an input delimiter may be specified only when operating on fields" 1)
      if !fields && p.has "s" then
        return (← misuse inv "suppressing non-delimited lines makes sense\n\tonly when operating on fields" 1)
      let delim := match p.last? "d" with
        | some d => Octets.toBytes d
        | none => [9]
      if delim.length > 1 then return (← misuse inv "the delimiter must be a single character" 1)
      let delim := delim.headD 0
      match readSpans fields ((p.last? kind).getD "") with
      | .error e => misuse inv e 1
      | .ok spans =>
        let complement := p.has "complement"
        let keep (i : Nat) : Bool := inSpans spans i != complement
        let sep : UInt8 := if p.has "z" then 0 else 10
        let outDelim := match p.last? "od" with
          | some d => Octets.toBytes d
          | none => [delim]
        let names := if p.operands.isEmpty then ["-"] else p.operands
        let (read, failed) ← readInputs inv names plainReport
        for (_, bs) in read do
          let ls := bs.splitOn sep
          let ls := if bs.getLast? == some sep || bs.isEmpty then ls.dropLast else ls
          for l in ls do
            if fields then
              if !l.contains delim then
                if !p.has "s" then emit (l ++ [sep])
              else
                let cells := l.splitOn delim
                let kept := (cells.zipIdx.filter fun (_, i) => keep (i + 1)).map (·.1)
                let joined := match kept with
                  | [] => []
                  | c :: rest => rest.foldl (fun acc x => acc ++ outDelim ++ x) c
                emit (joined ++ [sep])
            else
              let chosen := l.zipIdx.filter fun (_, i) => keep (i + 1)
              -- with an output delimiter, it stands between separate ranges
              let out := match p.last? "od" with
                | none => chosen.map (·.1)
                | some _ =>
                  (chosen.foldl (fun (acc : List UInt8 × Option Nat) (b, i) =>
                    match acc.2 with
                    | some prev => if i == prev + 1 then (acc.1 ++ [b], some i) else (acc.1 ++ outDelim ++ [b], some i)
                    | none => (acc.1 ++ [b], some i)) ([], none)).1
              emit (out ++ [sep])
        closeOutput inv (if failed then 1 else 0)

/-! ## `tr` -/

/-- One element of a `tr` set. -/
inductive SetItem where
  /-- A byte. -/
  | byte (b : UInt8)
  /-- A range of bytes. -/
  | range (lo hi : UInt8)
  /-- A character class. -/
  | cls (name : String)
  /-- `[c*n]`: a byte repeated, as often as needed to fill the set when `n` is absent. -/
  | repeat (b : UInt8) (n : Option Nat)
  deriving Repr

/-- The bytes of a character class, in order. -/
def classBytes (name : String) : Option (List UInt8) :=
  let all := (List.range 256).map (·.toUInt8)
  let pick (p : UInt8 → Bool) : Option (List UInt8) := some (all.filter p)
  let upper (b : UInt8) : Bool := 65 ≤ b && b ≤ 90
  let lower (b : UInt8) : Bool := 97 ≤ b && b ≤ 122
  let digit (b : UInt8) : Bool := 48 ≤ b && b ≤ 57
  match name with
  | "upper" => pick upper
  | "lower" => pick lower
  | "digit" => pick digit
  | "alpha" => pick fun b => upper b || lower b
  | "alnum" => pick fun b => upper b || lower b || digit b
  | "xdigit" => pick fun b => digit b || (65 ≤ b && b ≤ 70) || (97 ≤ b && b ≤ 102)
  | "space" => pick fun b => b == 32 || (9 ≤ b && b ≤ 13)
  | "blank" => pick fun b => b == 32 || b == 9
  | "punct" => pick fun b => 33 ≤ b && b ≤ 126 && !(upper b || lower b || digit b)
  | "print" => pick fun b => 32 ≤ b && b ≤ 126
  | "graph" => pick fun b => 33 ≤ b && b ≤ 126
  | "cntrl" => pick fun b => b < 32 || b == 127
  | _ => none

/-- The byte a backslash escape stands for in a `tr` set, and the bytes after it. -/
def trEscape (bs : List UInt8) : UInt8 × List UInt8 :=
  let isOct (b : UInt8) : Bool := 48 ≤ b && b ≤ 55
  match bs with
  | [] => (92, [])
  | b :: rest =>
    if isOct b then
      let ds := (b :: rest).takeWhile isOct |>.take 3
      let v : Nat := ds.foldl (fun acc (d : UInt8) => 8 * acc + (d.toNat - 48)) 0
      if v > 255 then
        let ds2 := ds.take 2
        ((ds2.foldl (fun (acc : Nat) (d : UInt8) => 8 * acc + (d.toNat - 48)) 0).toUInt8, (b :: rest).drop 2)
      else (v.toUInt8, (b :: rest).drop ds.length)
    else
      let v : UInt8 := match b with
        | 97 => 7
        | 98 => 8
        | 102 => 12
        | 110 => 10
        | 114 => 13
        | 116 => 9
        | 118 => 11
        | other => other
      (v, rest)

/-- Read one byte of a set, escapes taken. -/
def trByte (bs : List UInt8) : Option (UInt8 × List UInt8) :=
  match bs with
  | [] => none
  | 92 :: rest => some (trEscape rest)
  | b :: rest => some (b, rest)

/-- Read the items of a set. -/
def trItems : Nat → List UInt8 → Except String (List SetItem)
  | 0, _ => .ok []
  | _, [] => .ok []
  | fuel + 1, bs =>
    -- a class `[:name:]`
    match bs with
    | 91 :: 58 :: rest =>
      let name := rest.takeWhile (· != 58)
      let after := rest.drop name.length
      match after with
      | 58 :: 93 :: more => do
        let n := Octets.ofBytes name
        if (classBytes n).isNone then throw ("invalid character class " ++ quoteAlways n)
        pure (.cls n :: (← trItems fuel more))
      | _ => literal fuel bs
    | 91 :: 61 :: c :: 61 :: 93 :: more => do pure (.byte c :: (← trItems fuel more))
    | 91 :: rest =>
      -- a repetition `[c*n]`
      match trByte rest with
      | some (c, 42 :: more) =>
        let ds := more.takeWhile (· != 93)
        match more.drop ds.length with
        | 93 :: after =>
          let n := ds.foldl (fun acc d => if ds.headD 0 == 48 then 8 * acc + (d.toNat - 48)
            else 10 * acc + (d.toNat - 48)) 0
          if !ds.all (fun d => 48 ≤ d && d ≤ 57) then
            .error (quoteAlways (Octets.ofBytes ds) ++ ": invalid repeat count in " ++
              quoteAlways "[c*n]" ++ " construct")
          else do pure (.repeat c (if ds.isEmpty || n == 0 then none else some n) :: (← trItems fuel after))
        | _ => literal fuel bs
      | _ => literal fuel bs
    | _ => literal fuel bs
where
  literal (fuel : Nat) (bs : List UInt8) : Except String (List SetItem) :=
    match trByte bs with
    | none => .ok []
    | some (a, rest) =>
      match rest with
      | 45 :: more =>
        match trByte more with
        | some (b, after) =>
          if b < a then
            .error ("range-endpoints of '" ++ Octets.ofBytes [a] ++ "-" ++ Octets.ofBytes [b] ++
              "' are in reverse collating sequence order")
          else do pure (.range a b :: (← trItems fuel after))
        | none => do pure (.byte a :: .byte 45 :: [])
      | _ => do pure (.byte a :: (← trItems fuel rest))

/-- The bytes of a set; a repetition without a count fills up to `fill` bytes. -/
def expandSet (items : List SetItem) (fill : Nat) : List UInt8 :=
  let fixed := items.foldl (fun n i => n + match i with
    | .byte _ => 1
    | .range lo hi => hi.toNat - lo.toNat + 1
    | .cls name => ((classBytes name).getD []).length
    | .repeat _ (some k) => k
    | .repeat _ none => 0) 0
  items.flatMap fun i => match i with
    | .byte b => [b]
    | .range lo hi => (List.range (hi.toNat - lo.toNat + 1)).map fun k => (lo.toNat + k).toUInt8
    | .cls name => (classBytes name).getD []
    | .repeat b (some k) => List.replicate k b
    | .repeat b none => List.replicate (fill - fixed) b

/-- Drop each byte of a set that repeats the one before it. -/
def squeezeIn (set : List UInt8) (bs : List UInt8) : List UInt8 :=
  (bs.foldl (fun (acc : List UInt8 × Option UInt8) b =>
    if acc.2 == some b && set.contains b then acc else (b :: acc.1, some b)) ([], none)).1.reverse

/-- The options of `tr`. -/
def trSpec : Spec :=
  { opts := [flag "c" 'c' "complement", { key := "c", short := some 'C' }, flag "d" 'd' "delete",
      flag "s" 's' "squeeze-repeats", flag "t" 't' "truncate-set1"] ++ standard }

/-- `tr set1 [set2]`: standard input with bytes mapped, deleted or squeezed. -/
def tr (inv : Invocation) : UtilM :=
  withOptions inv trSpec 1 fun p => do
    let delete := p.has "d"
    let squeeze := p.has "s"
    let complement := p.has "c"
    let translating := !delete && p.operands.length ≥ 2
    match p.operands with
    | [] => misuse inv "missing operand" 1
    | [one] =>
      if !delete && !squeeze then
        misuse inv ("missing operand after " ++ quoteAlways one ++
          "\nTwo strings must be given when translating.") 1
      else run p delete squeeze complement translating one none
    | [one, two] =>
      if delete && !squeeze then
        misuse inv ("extra operand " ++ quoteAlways two ++
          "\nOnly one string may be given when deleting without squeezing repeats.") 1
      else run p delete squeeze complement translating one (some two)
    | _ :: _ :: extra :: _ => misuse inv ("extra operand " ++ quoteAlways extra) 1
where
  run (p : Parsed) (delete squeeze complement translating : Bool) (one : String)
      (two : Option String) : UtilM := do
    let b1 := Octets.toBytes one
    let b2 := (two.map Octets.toBytes).getD []
    match trItems (b1.length + 1) b1, trItems (b2.length + 1) b2 with
    | .error e, _ | _, .error e => do complain inv e; pure 1
    | .ok items1, .ok items2 =>
      let set1 := expandSet items1 0
      let set1 := if complement then
          ((List.range 256).map (·.toUInt8)).filter fun b => !set1.contains b
        else set1
      let set2 := expandSet items2 set1.length
      let set1 := if p.has "t" then set1.take set2.length else set1
      let input ← (do
        match ← State.readAll with
        | some bs => pure bs
        | none => pure [])
      let out :=
        if delete then
          let kept := input.filter fun b => !set1.contains b
          if squeeze then squeezeIn set2 kept else kept
        else if translating then
          if set2.isEmpty then input
          else
            let last := set2.getLast?.getD 0
            -- the last mapping of a byte counts, as in a table filled in order
            let image (b : UInt8) : UInt8 :=
              match (set1.zipIdx.reverse.find? (·.1 == b)) with
              | some (_, i) => set2.getD i last
              | none => b
            let mapped := input.map image
            if squeeze then squeezeIn set2 mapped else mapped
        else squeezeIn set1 input
      emit out
      closeOutput inv 0

/-! ## `od` -/

/-- An output type of `od`: a letter (`a`, `c`, `d`, `o`, `u`, `x`) and a size in bytes. -/
structure OdType where
  letter : Char
  size : Nat

/-- The width of one value of a type. -/
def OdType.width (t : OdType) : Nat :=
  match t.letter, t.size with
  | 'x', n => 2 * n
  | 'o', 1 => 3
  | 'o', 2 => 6
  | 'o', 4 => 11
  | 'o', _ => 22
  | 'u', 1 => 3
  | 'u', 2 => 5
  | 'u', 4 => 10
  | 'u', _ => 20
  | 'd', 1 => 4
  | 'd', 2 => 6
  | 'd', 4 => 11
  | 'd', _ => 20
  | _, _ => 3

/-- Read a type of `-t`: a letter, then a size (a number, or `C`, `S`, `I`, `L`). -/
def readOdTypes (spec : String) : Option (List OdType) :=
  let rec go : Nat → List Char → Option (List OdType)
    | 0, _ => some []
    | _, [] => some []
    | fuel + 1, c :: rest =>
      if c == 'a' || c == 'c' then do
        let more ← go fuel rest
        pure ({ letter := c, size := 1 } :: more)
      else if "doux".toList.contains c then
        let ds := rest.takeWhile Char.isDigit
        let (size, after) :=
          if !ds.isEmpty then (some (ds.foldl (fun v d => 10 * v + (d.toNat - 48)) 0), rest.drop ds.length)
          else match rest with
            | 'C' :: more => (some 1, more)
            | 'S' :: more => (some 2, more)
            | 'I' :: more => (some 4, more)
            | 'L' :: more => (some 8, more)
            | _ => (some 4, rest)
        match size with
        | some n => if [1, 2, 4, 8].contains n then do
            let more ← go fuel after
            pure ({ letter := c, size := n } :: more)
          else none
        | none => none
      else none
  go (spec.length + 1) spec.toList

/-- The names `od -a` gives the control bytes and space. -/
def asciiNames : List String :=
  ["nul", "soh", "stx", "etx", "eot", "enq", "ack", "bel", "bs", "ht", "nl", "vt", "ff", "cr", "so",
    "si", "dle", "dc1", "dc2", "dc3", "dc4", "nak", "syn", "etb", "can", "em", "sub", "esc", "fs",
    "gs", "rs", "us", "sp"]

/-- Digits of a number in a base, padded with zeros to a width. -/
def padDigits (base : Nat) (width : Nat) (n : Nat) : String :=
  let ds := Nat.toDigits base n
  String.ofList (List.replicate (width - ds.length) '0' ++ ds)

/-- The text of one value. -/
def odValue (t : OdType) (bytes : List UInt8) : String :=
  let n : Nat := bytes.reverse.foldl (fun v b => 256 * v + b.toNat) 0
  match t.letter with
  | 'x' => padDigits 16 t.width n
  | 'o' => padDigits 8 t.width n
  | 'u' => toString n
  | 'd' =>
    let bits := 8 * t.size
    if n ≥ Nat.pow 2 (bits - 1) then "-" ++ toString (Nat.pow 2 bits - n) else toString n
  | 'a' =>
    let b := (bytes.headD 0).toNat % 128
    if b < asciiNames.length then asciiNames.getD b "" else if b == 127 then "del"
    else String.singleton (Char.ofNat b)
  | _ =>
    let b := (bytes.headD 0).toNat
    match b with
    | 0 => "\\0"
    | 7 => "\\a"
    | 8 => "\\b"
    | 9 => "\\t"
    | 10 => "\\n"
    | 11 => "\\v"
    | 12 => "\\f"
    | 13 => "\\r"
    | _ => if 32 ≤ b && b < 127 then String.singleton (Char.ofNat b) else padDigits 8 3 b

/-- Cut bytes into pieces of a size, the last one filled with zeros. -/
def chunks (size : Nat) (bs : List UInt8) : List (List UInt8) :=
  let rec go : Nat → List UInt8 → List (List UInt8)
    | 0, _ => []
    | _, [] => []
    | fuel + 1, bs =>
      let piece := bs.take size
      (piece ++ List.replicate (size - piece.length) 0) :: go fuel (bs.drop size)
  go (bs.length + 1) bs

/-- The options of `od`. -/
def odSpec : Spec :=
  { opts := [withArg "A" 'A' "address-radix", withArg "j" 'j' "skip-bytes", withArg "N" 'N' "read-bytes",
      withArg "t" 't' "format", flag "v" 'v' "output-duplicates",
      { key := "w", short := some 'w', long := some "width", arg := .optional },
      longOnly "endian" "endian" .required, { key := "S", short := some 'S', long := some "strings", arg := .optional },
      longFlag "traditional" "traditional",
      { key := "ta", short := some 'a' }, { key := "tb", short := some 'b' }, { key := "tc", short := some 'c' },
      { key := "td", short := some 'd' }, { key := "ti", short := some 'i' }, { key := "tl", short := some 'l' },
      { key := "to", short := some 'o' }, { key := "ts", short := some 's' }, { key := "tx", short := some 'x' }] ++
      standard }

/-- `od`: the bytes of the inputs as numbers or characters, a block a line. -/
def od (inv : Invocation) : UtilM :=
  withOptions inv odSpec 1 fun p => do
    let radix := (p.last? "A").getD "o"
    if !(["d", "o", "x", "n"].contains radix) then
      return (← misuse inv ("invalid output address radix '" ++ radix ++
        "'; it must be one character from [doxn]") 1)
    -- the types, in the order given
    let shortcut (k : String) : Option OdType := match k with
      | "ta" => some { letter := 'a', size := 1 }
      | "tb" => some { letter := 'o', size := 1 }
      | "tc" => some { letter := 'c', size := 1 }
      | "td" => some { letter := 'u', size := 2 }
      | "ti" => some { letter := 'd', size := 4 }
      | "tl" => some { letter := 'd', size := 8 }
      | "to" => some { letter := 'o', size := 2 }
      | "ts" => some { letter := 'd', size := 2 }
      | "tx" => some { letter := 'x', size := 2 }
      | _ => none
    let mut given : List OdType := []
    for (k, v) in p.opts do
      if k == "t" then
        match readOdTypes (v.getD "") with
        | some ts => given := given ++ ts
        | none => return (← misuse inv ("invalid type string " ++ quoteAlways (v.getD "")) 1)
      else match shortcut k with
        | some t => given := given ++ [t]
        | none => pure ()
    let types := if given.isEmpty then [{ letter := 'o', size := 2 : OdType }] else given
    let skip := ((p.last? "j").bind sizedCount?).getD 0
    let limit := (p.last? "N").bind sizedCount?
    let names := if p.operands.isEmpty then ["-"] else p.operands
    let (read, failed) ← readInputs inv names plainReport
    let data := (read.flatMap (·.2)).drop skip
    let data := match limit with
      | some n => data.take n
      | none => data
    let perLine := 16
    let blockWidths := types.map fun t => (t.width + 1) * (perLine / t.size)
    let lineWidth := blockWidths.foldl max 0
    let address (n : Nat) : String :=
      match radix with
      | "d" => padDigits 10 7 n
      | "x" => padDigits 16 6 n
      | "n" => ""
      | _ => padDigits 8 7 n
    let addrWidth := (address 0).length
    let blocks := (List.range ((data.length + perLine - 1) / perLine)).map fun i =>
      data.drop (i * perLine) |>.take perLine
    let mut out : String := ""
    let mut prev : Option (List UInt8) := none
    let mut starred := false
    let mut offset := skip
    for b in blocks do
      if !p.has "v" && prev == some b && b.length == perLine then
        if !starred then out := out ++ "*\n"
        starred := true
      else
        starred := false
        let mut first := true
        for (t, bw) in types.zip blockWidths do
          let values := (chunks t.size b).map (odValue t)
          let fields := perLine / t.size
          let pad := lineWidth - bw
          -- padding spread over the fields the way the columns of several types line up
          let cells := values.zipIdx.map fun (v, i) =>
            let k := fields - i
            let nextPad := pad * (k - 1) / fields
            let remaining := pad * k / fields
            let w := remaining - nextPad + t.width
            " " ++ String.ofList (List.replicate (w - v.length) ' ') ++ v
          let lead := if first then address offset else String.ofList (List.replicate addrWidth ' ')
          out := out ++ lead ++ String.join cells ++ "\n"
          first := false
      prev := some b
      offset := offset + b.length
    if radix != "n" then out := out ++ address offset ++ "\n"
    emitText out
    closeOutput inv (if failed then 1 else 0)

/-! ## `cmp` -/

/-- The options of `cmp`. -/
def cmpSpec : Spec :=
  { opts := [flag "b" 'b' "print-bytes", withArg "i" 'i' "ignore-initial", flag "l" 'l' "verbose",
      withArg "n" 'n' "bytes", flag "s" 's' "quiet", longFlag "s" "silent"] ++ standard }

/-- `cmp a b`: nothing and status 0 when the files are the same, where they first differ and
status 1 otherwise, status 2 when one cannot be read. -/
def cmp (inv : Invocation) : UtilM :=
  withOptions inv cmpSpec 2 fun p => do
    match p.operands with
    | [] => misuse inv "missing operand after 'cmp'" 2
    | _ :: _ :: _ :: extra :: _ => misuse inv ("invalid --ignore-initial value " ++ quoteAlways extra) 2
    | a :: rest =>
      let b := rest.headD "-"
      match ← readSource a with
      | .error e => do complain inv (a ++ ": " ++ e.description); pure 2
      | .ok x =>
        match ← readSource b with
        | .error e => do complain inv (b ++ ": " ++ e.description); pure 2
        | .ok y =>
          let limit := (p.last? "n").bind count?
          let (x, y) := match limit with
            | some n => (x.take n, y.take n)
            | none => (x, y)
          let silent := p.has "s"
          let pairs := x.zip y
          match pairs.zipIdx.find? (fun ((u, v), _) => u != v) with
          | some ((u, v), i) =>
            if p.has "l" then
              for ((u2, v2), j) in pairs.zipIdx do
                if u2 != v2 then
                  emitText (toString (j + 1) ++ " " ++ padDigits 8 3 u2.toNat ++ " " ++ padDigits 8 3 v2.toNat ++ "\n")
              pure 1
            else
              if !silent then
                let line := (x.take i).count 10 + 1
                let extra := if p.has "b" then
                    " is " ++ padDigits 8 3 u.toNat ++ " " ++ String.singleton (Char.ofNat u.toNat) ++
                    " " ++ padDigits 8 3 v.toNat ++ " " ++ String.singleton (Char.ofNat v.toNat)
                  else ""
                emitText (a ++ " " ++ b ++ " differ: byte " ++ toString (i + 1) ++ ", line " ++
                  toString line ++ extra ++ "\n")
              pure 1
          | none =>
            if x.length == y.length then pure 0
            else
              let (shorter, short) := if x.length < y.length then (a, x) else (b, y)
              if !silent then
                if short.isEmpty then complain inv ("EOF on " ++ shorter ++ " which is empty")
                else
                  complain inv ("EOF on " ++ shorter ++ " after byte " ++ toString short.length ++
                    ", line " ++ toString (short.count 10 + (if short.getLast? == some 10 then 0 else 1)))
              pure 1

end Utility

end HostAgent.Shell
