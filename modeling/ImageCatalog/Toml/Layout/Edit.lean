import ImageCatalog.Toml.Layout.Sheet
import ImageCatalog.Toml.Editor

/-!
# Editing a sheet

`Sheet.set` gives a top-level key a new value, keeping the layout of the
rest of the document; `editor` is the sheet as an `Editor`, the one the
settings file is saved with.

* A key that has a plain value keeps its line: the text before and after the
  value (indentation, spacing, comment) stays and only the value changes.
* A new plain key goes after the last entry that is not a table (blank lines
  do not count) and before the first table; the entry before it gets a line
  end if it has none.
* A record becomes a table and a list of records an array of tables; they go
  at the end, after a blank line unless one is already there. When a key
  changes between a plain value and a table, its old entries are removed and
  the new one goes before the next table.

New values are written in the usual way: texts in double quotes with `\b`,
`\t`, `\n`, `\f`, `\r`, `\"`, `\\` and `\u00XX` for other control
characters, truth values as `true` and `false`, lists as `[a, b]`, records
inside lists as `{k = v}`. Inside a new table, plain values come before the
tables under it.
-/

namespace ImageCatalog.Toml.Layout

open ImageCatalog.Config

/-! ## Writing new values -/

/-- A key as written: bare when it may be, quoted otherwise. -/
def keyText (k : String) : String :=
  if !k.isEmpty && k.toList.all isBareKeyChar then k else "\"" ++ escapeBasic k ++ "\""

/-- How a value is placed: a plain value, a table, or an array of tables. -/
inductive Placement where
  | plain
  | table
  | series
  deriving BEq

/-- The placement of a value: records are tables, non-empty lists of records
arrays of tables. -/
def placementOf : Value → Placement
  | .table _ => .table
  | .list xs => if !xs.isEmpty && xs.all (fun x => match x with | .table _ => true | _ => false) then .series else .plain
  | _ => .plain

mutual
/-- The text of a value written inline. -/
def inlineText : Value → Except Problem String
  | .none => throw (.unconvertible "NoneType")
  | .bool b => pure (if b then "true" else "false")
  | .int n => pure (toString n)
  | .decimal m s => pure (Text.floatText m s)
  | .infinite neg => pure (if neg then "-inf" else "inf")
  | .notANumber => pure "nan"
  | .str s => pure ("\"" ++ escapeBasic s ++ "\"")
  | .list xs => do
    let items ← itemTexts xs
    if !xs.isEmpty && xs.all (fun x => match x with | .table _ => true | _ => false) then
      pure (String.join (← recordBodies xs))
    else pure ("[" ++ ", ".intercalate items ++ "]")
  | .table es => do pure ("\x7b" ++ ", ".intercalate (← pairTexts es) ++ "\x7d")

/-- The inline texts of list items. -/
def itemTexts : List Value → Except Problem (List String)
  | [] => pure []
  | v :: rest => do pure ((← inlineText v) :: (← itemTexts rest))

/-- The inline texts of record entries. -/
def pairTexts : List (String × Value) → Except Problem (List String)
  | [] => pure []
  | (k, v) :: rest => do pure ((keyText k ++ " = " ++ (← inlineText v)) :: (← pairTexts rest))

/-- The plain lines of records written one after the other. -/
def recordBodies : List Value → Except Problem (List String)
  | [] => pure []
  | .table es :: rest => do pure ((← plainLines es) :: (← recordBodies rest))
  | _ :: rest => recordBodies rest

/-- The `k = v` lines of the plain entries of a record. -/
def plainLines : List (String × Value) → Except Problem String
  | [] => pure ""
  | (k, v) :: rest => do
    let line ← if placementOf v == .plain then pure (keyText k ++ " = " ++ (← inlineText v) ++ "\n") else pure ""
    pure (line ++ (← plainLines rest))
end

mutual
/-- A new table at `path`: its header (left out when its only entry is a
table) and its body. -/
def tableBlock (path indent : String) : List (String × Value) → Except Problem String
  | es => do
    let onlyTable := match es with
      | [(_, v)] => placementOf v != .plain
      | _ => false
    let header := if !onlyTable then indent ++ "[" ++ path ++ "]\n" else if indent == "\n" then "\n" else ""
    pure (header ++ (← plainLines es) ++ (← nestedBlocks path false es))

/-- The tables and arrays of tables of a record's entries, each after a
blank line unless it is the record's first entry. -/
def nestedBlocks (path : String) (started : Bool) : List (String × Value) → Except Problem String
  | [] => pure ""
  | (k, v) :: rest => do
    let indent := if started then "\n" else ""
    let sub := path ++ "." ++ keyText k
    let block ← match v with
      | .table es => tableBlock sub indent es
      | .list xs => if placementOf v == .series then seriesBlock sub indent xs else pure ""
      | _ => pure ""
    pure (block ++ (← nestedBlocks path true rest))

/-- A new array of tables at `path`; elements after the first follow a blank
line. -/
def seriesBlock (path firstIndent : String) : List Value → Except Problem String
  | [] => pure ""
  | .table es :: rest => do
    let head := firstIndent ++ "[[" ++ path ++ "]]\n"
    pure (head ++ (← plainLines es) ++ (← nestedBlocks path false es) ++ (← seriesBlock path "\n" rest))
  | _ :: rest => seriesBlock path firstIndent rest
end

/-! ## Placing entries -/

namespace Entry

/-- The key of an entry, if it has one. -/
def key? : Entry → Option String
  | .pair k .. | .dotted k _ | .table k .. => some k
  | _ => none

/-- Whether an entry is a table (dotted lines make tables too). -/
def isTable : Entry → Bool
  | .dotted .. | .table .. => true
  | _ => false

/-- Whether an entry is blank or ends with a blank line. -/
def endsBlank : Entry → Bool
  | .blank _ => true
  | .table _ _ _ b _ => b
  | _ => false

/-- Whether an entry's own line ends with a line end. -/
def hasLineEnd : Entry → Bool
  | .pair _ _ _ back => back.endsWith "\n"
  | .note t => t.endsWith "\n"
  | .dotted .. | .blank _ => true
  | .table _ _ _ _ e => e
  | .gone => false

/-- The entry with a line end added to its line. -/
def withLineEnd : Entry → Entry
  | .pair k f v b => .pair k f v (b ++ "\n")
  | .note t => .note (t ++ "\n")
  | .table k t s b _ => .table k (t ++ "\n") s b true
  | e => e

end Entry

namespace Sheet

/-- Where a new plain entry goes: after the last entry before the first table
that is neither blank nor removed. -/
def plainSlot (sh : Sheet) : Nat :=
  let rec go : List Entry → Nat → Nat → Nat
    | [], _, last => last
    | e :: rest, i, last =>
      match e with
      | .gone | .blank _ => go rest (i + 1) last
      | .table .. => last
      | _ => go rest (i + 1) (i + 1)
  go sh.entries.toList 0 0

/-- Inserts an entry at `i`; the entry before it gets a line end unless it
has one, is blank, or the new entry is a table. -/
def insertAt (sh : Sheet) (i : Nat) (e : Entry) (isTable : Bool) : Sheet :=
  let es := sh.entries
  let es := if i > 0 then
      match es[i - 1]? with
      | some prev =>
        if prev.endsBlank || isTable || prev.hasLineEnd then es else es.setIfInBounds (i - 1) prev.withLineEnd
      | none => es
    else es
  ⟨es.insertIdxIfInBounds i e⟩

/-- The last entry that was not removed. -/
def lastKept (sh : Sheet) : Option Entry := sh.entries.toList.reverse.find? (· != .gone)

/-- The entry for a new key; a table starts with a blank line when `apart`. -/
def entryFor (apart : Bool) (k : String) (v : Value) : Except Problem Entry := do
  let indent := if apart then "\n" else ""
  match v with
  | .table es => pure (.table k (← tableBlock (keyText k) indent es) false false true)
  | .list xs =>
    if placementOf v == .series then pure (.table k (← seriesBlock (keyText k) indent xs) true false true)
    else pure (.pair k (keyText k ++ " = ") (← inlineText v) "\n")
  | _ => pure (.pair k (keyText k ++ " = ") (← inlineText v) "\n")

/-- Whether a table added at the end needs a blank line before it. -/
def needsGap (sh : Sheet) : Bool :=
  !sh.entries.isEmpty && !((sh.lastKept.map Entry.endsBlank).getD false)

/-- Adds a key that the sheet does not have. -/
def append (sh : Sheet) (k : String) (v : Value) : Except Problem Sheet := do
  let e ← entryFor sh.needsGap k v
  if placementOf v == .plain && !sh.entries.isEmpty then
    let slot := sh.plainSlot
    if slot < sh.entries.size then return sh.insertAt slot e false
    let es := match sh.entries.back? with
      | some last =>
        if last.endsBlank || last.hasLineEnd then sh.entries else sh.entries.pop.push last.withLineEnd
      | none => sh.entries
    return ⟨es.push e⟩
  pure ⟨sh.entries.push e⟩

/-- Gives a top-level key a value. -/
def set (sh : Sheet) (k : String) (v : Value) : Except Problem Sheet := do
  match sh.entries.findIdx? (·.key? == some k) with
  | none => sh.append k v
  | some i =>
    -- later entries of the same key are removed
    let es := sh.entries.mapIdx fun j e => if j > i && e.key? == some k then .gone else e
    let sh : Sheet := ⟨es⟩
    let old := es[i]?.getD .gone
    let newIsTable := placementOf v != .plain
    if newIsTable != old.isTable then
      let sh : Sheet := ⟨sh.entries.setIfInBounds i .gone⟩
      let e ← entryFor false k v
      match (sh.entries.toList.drop i).findIdx? Entry.isTable with
      | some j => pure (sh.insertAt (i + j) e newIsTable)
      | none => sh.append k v
    else
      match old with
      | .pair _ front _ back => pure ⟨sh.entries.setIfInBounds i (.pair k front (← inlineText v) back)⟩
      | _ =>
        let e ← entryFor false k v
        pure ⟨sh.entries.setIfInBounds i e⟩

end Sheet

/-- The editor of sheets: a text is taken in by `Sheet.read`, keys are given
values by `Sheet.set`, and a sheet is written back as it stands. -/
def editor : Editor Sheet where
  empty := {}
  parse text := (Sheet.read text).mapError (·.message)
  set sh k v := (sh.set k v).mapError (·.message)
  dump := Sheet.render

end ImageCatalog.Toml.Layout
