import HostAgent.Toml.Value

/-!
# `HostAgent.Toml.Document` — assembling a TOML document from its lines

The reader hands over key/value pairs and table headers in order; this module puts them into one
tree and refuses what TOML forbids. A section is the keys after one header (the first section has
no header); it is built apart from the tree and joined to it at the next header or at the end.

* A dotted key `a.b.c = v` creates the tables `a` and `b` when they are missing (marked implicit
  and dotted); it may pass through a table only while that table is implicit, and a plain key may
  not be added to a dotted table, nor a dotted key to a table that is not dotted.
* A key is defined once per table.
* A header `[a.b]` may take over a table that earlier headers created on their way, never one that
  a header or a dotted key defined; `[[a.b]]` adds one table to an array of tables.
* Inline tables and arrays are values: nothing outside them can extend them.

`Item` is the tree while it is built; `Item.toValue` gives the finished value.
-/

namespace HostAgent.Toml

/-- A node of a document under construction. -/
inductive Item where
  /-- A finished value. -/
  | value (v : Value)
  /-- A table of the document, with whether it was only created on the way (`implicit`) and
  whether a dotted key created it. -/
  | table (items : List (String × Item)) (implicit dotted : Bool)
  /-- An array of tables, the last one open for extension. -/
  | tables (elems : List (List (String × Item)))
  /-- An inline table, with whether a dotted key inside its parent created it. -/
  | inline (items : List (String × Item)) (dotted : Bool)
  deriving Inhabited

/-- The entries of a table under construction. -/
abbrev Items := List (String × Item)

/-- Why a document cannot be assembled. -/
inductive BuildError where
  /-- A key defined twice, or a table defined twice. -/
  | duplicateKey (key : String)
  /-- A key used as a table that holds something else. -/
  | wrongType (key : String)
  deriving Repr, DecidableEq

namespace Items

/-- The entry of a key. -/
def get? (items : Items) (k : String) : Option Item := (items.find? (·.1 == k)).map (·.2)

/-- Set the entry of a key, in place when it exists and at the end otherwise. -/
def put (items : Items) (k : String) (it : Item) : Items :=
  if items.any (·.1 == k) then items.map fun (k', old) => if k' == k then (k', it) else (k', old)
  else items ++ [(k, it)]

/-- Remove the entry of a key. -/
def remove (items : Items) (k : String) : Items := items.filter (·.1 != k)

end Items

mutual
/-- The finished value of a node. -/
def Item.toValue : Item → Value
  | .value v => v
  | .table items _ _ => .table (Item.fieldsOf items)
  | .tables elems => .array (Item.tablesOf elems)
  | .inline items _ => .table (Item.fieldsOf items)

/-- The finished fields of a table. -/
def Item.fieldsOf : List (String × Item) → List (String × Value)
  | [] => []
  | (k, it) :: rest => (k, it.toValue) :: Item.fieldsOf rest

/-- The finished tables of an array of tables. -/
def Item.tablesOf : List (List (String × Item)) → List Value
  | [] => []
  | t :: rest => .table (Item.fieldsOf t) :: Item.tablesOf rest
end

/-- Change the table at `path` below a table of the document, creating missing tables as
implicit ones (dotted ones when `dotted`). `f` gets the target's entries and its dotted mark. -/
def descend (dotted : Bool) (f : Items → Bool → Except BuildError (Items × β)) :
    Items → Bool → List String → Except BuildError (Items × β)
  | items, mark, [] => f items mark
  | items, _, k :: rest =>
    match items.get? k with
    | none => do
      let (sub, r) ← descend dotted f [] dotted rest
      pure (items.put k (.table sub true dotted), r)
    | some (.table sub imp dot) =>
      if dotted && !imp then .error (.duplicateKey k)
      else do
        let (sub', r) ← descend dotted f sub dot rest
        pure (items.put k (.table sub' imp dot), r)
    | some (.tables elems) =>
      match elems.getLast? with
      | some last => do
        let (sub, r) ← descend dotted f last false rest
        pure (items.put k (.tables (elems.dropLast ++ [sub])), r)
      | none => .error (.wrongType k)
    | some _ => .error (.wrongType k)

/-- Change the table at `path` inside an inline table, creating missing tables as dotted ones. -/
def descendInline (f : Items → Bool → Except BuildError (Items × β)) :
    Items → Bool → List String → Except BuildError (Items × β)
  | items, mark, [] => f items mark
  | items, _, k :: rest =>
    match items.get? k with
    | none => do
      let (sub, r) ← descendInline f [] true rest
      pure (items.put k (.inline sub true), r)
    | some (.inline sub dot) => do
      let (sub', r) ← descendInline f sub dot rest
      pure (items.put k (.inline sub' dot), r)
    | some _ => .error (.wrongType k)

/-- Add `key = it` at the end of dotted path `path`, refusing a mix of plain and dotted keys and
a second definition. -/
def define (path : List String) (key : String) (it : Item) (items : Items) (mark : Bool) :
    Except BuildError (Items × Unit) :=
  if mark == path.isEmpty then .error (.duplicateKey key)
  else if (items.get? key).isSome then .error (.duplicateKey key)
  else .ok (items.put key it, ())

/-- Add a dotted key and its value to an inline table under construction. -/
def inlineKeyval (items : Items) (path : List String) (key : String) (it : Item) :
    Except BuildError Items := do
  let (items, _) ← descendInline (define path key it) items false path
  pure items

/-- A document under construction: the tree so far and the open section. -/
structure Builder where
  /-- The tree without the open section. -/
  root : Items := []
  /-- The entries of the open section. -/
  current : Items := []
  /-- The header of the open section; empty for the first section. -/
  path : List String := []
  /-- Whether the open section is an element of an array of tables. -/
  isArray : Bool := false
  deriving Inhabited

namespace Builder

/-- Add a dotted key and its value to the open section. -/
def keyval (b : Builder) (path : List String) (key : String) (it : Item) :
    Except BuildError Builder := do
  let (current, _) ← descend true (define path key it) b.current false path
  pure { b with current }

/-- Join the open section to the tree. -/
def finalize (b : Builder) : Except BuildError Builder := do
  match b.path.getLast? with
  | none => pure { b with root := b.root ++ b.current, current := [] }
  | some key =>
    let attach (items : Items) (_ : Bool) : Except BuildError (Items × Unit) :=
      if b.isArray then
        match items.get? key with
        | none => .ok (items.put key (.tables [b.current]), ())
        | some (.tables es) => .ok (items.put key (.tables (es ++ [b.current])), ())
        | some _ => .error (.duplicateKey key)
      else
        match items.get? key with
        | none => .ok (items.put key (.table b.current false false), ())
        | some (.table _ true _) => .ok (items.put key (.table b.current false false), ())
        | some _ => .error (.duplicateKey key)
    let (root, _) ← descend false attach b.root false b.path.dropLast
    pure { b with root, current := [], path := [], isArray := false }

/-- Open the section of a table header. -/
def header (b : Builder) (path : List String) : Except BuildError Builder := do
  let b ← b.finalize
  match path.getLast? with
  | none => .error (.wrongType "")
  | some key =>
    let take (items : Items) (_ : Bool) : Except BuildError (Items × Items) :=
      match items.get? key with
      | none => .ok (items, [])
      | some (.table sub true false) => .ok (items.remove key, sub)
      | some _ => .error (.duplicateKey key)
    let (root, current) ← descend false take b.root false path.dropLast
    pure { root, current, path, isArray := false }

/-- Open the section of an array-of-tables header. -/
def arrayHeader (b : Builder) (path : List String) : Except BuildError Builder := do
  let b ← b.finalize
  match path.getLast? with
  | none => .error (.wrongType "")
  | some key =>
    let make (items : Items) (_ : Bool) : Except BuildError (Items × Unit) :=
      match items.get? key with
      | none => .ok (items.put key (.tables []), ())
      | some (.tables _) => .ok (items, ())
      | some _ => .error (.duplicateKey key)
    let (root, _) ← descend false make b.root false path.dropLast
    pure { root, current := [], path, isArray := true }

/-- Close the last section and give the document's table. -/
def finish (b : Builder) : Except BuildError Value := do
  let b ← b.finalize
  pure (.table (Item.fieldsOf b.root))

end Builder

end HostAgent.Toml
