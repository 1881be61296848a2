import ImageCatalog.Pattern.Parse
import ImageCatalog.Pattern.Classes

/-!
# Matching patterns

`Regex.compile` reads a pattern and checks what only the whole pattern can
show: every look-behind has one fixed width, and a template pattern has no
repetition. `Regex.search` finds the leftmost match, trying the ways of
matching in the pattern's order of preference; `Regex.replaceAll` replaces
the matches from left to right.

The matcher is one step function over a machine: the current thread holds
what is left to match (a list of goals), the position and the captured
groups; the choice stack holds the threads to resume when the current one
fails. Atomic groups and assertions cut the stack back to where they began.
It runs on explicit fuel, which bounds the number of steps and grows with the
length of the text.
-/

namespace ImageCatalog.Pattern

/-- A pattern ready to match. -/
structure Regex where
  items : List Item
  flags : Nat
  widths : GroupWidths

/-- The number of groups of a pattern, the whole match (group 0) included. -/
def Regex.groupCount (r : Regex) : Nat := r.widths.size

/-- The name of a repetition in the template check. -/
def RepeatMode.opName : RepeatMode → String
  | .greedy => "MAX_REPEAT"
  | .lazy => "MIN_REPEAT"
  | .possessive => "POSSESSIVE_REPEAT"

mutual
/-- The first check failure of an item, in the order the pattern is laid
out: a look-behind of variable width, or a repetition in a template. -/
def Item.checkFault (gw : GroupWidths) (flags : Nat) : Item → Option String
  | .branch alts => altsCheckFault gw flags alts
  | .group _ add del body => seqCheckFault gw (combineFlags flags add del) body
  | .atomic body => seqCheckFault gw flags body
  | .rep _ _ mode body =>
    if hasFlag flags flagTemplate then some ("internal: unsupported template operator " ++ mode.opName)
    else seqCheckFault gw flags body
  | .assert behind _ body =>
    let (lo, hi) := seqWidth gw body
    if behind && lo != hi then some "look-behind requires fixed-width pattern"
    else seqCheckFault gw flags body
  | .cond _ yes no =>
    match seqCheckFault gw flags yes with
    | some e => some e
    | none =>
      match no with
      | some n => seqCheckFault gw flags n
      | none => none
  | _ => none

/-- The first check failure of a list of alternatives. -/
def altsCheckFault (gw : GroupWidths) (flags : Nat) : List (List Item) → Option String
  | [] => none
  | a :: rest =>
    match seqCheckFault gw flags a with
    | some e => some e
    | none => altsCheckFault gw flags rest

/-- The first check failure of a sequence. -/
def seqCheckFault (gw : GroupWidths) (flags : Nat) : List Item → Option String
  | [] => none
  | it :: rest =>
    match it.checkFault gw flags with
    | some e => some e
    | none => seqCheckFault gw flags rest
end

/-- Reads and checks a pattern, with `flags` as the starting flags. -/
def Regex.compile (pattern : String) (flags : Nat) : Except PatternError Regex := do
  let (items, settled, widths) ← parsePattern pattern flags
  match seqCheckFault widths settled items with
  | some msg => throw { msg := msg }
  | none => pure { items := items, flags := settled, widths := widths }

/-! ## The machine -/

/-- What is left to match, one goal at a time. -/
inductive Goal where
  /-- Match these items, in a mode given by the flags. -/
  | items (flags : Nat) (rest : List Item)
  /-- Group `g`, begun at `start`, ends here. -/
  | close (g start : Nat)
  /-- A repetition has matched its body `count` times; the last optional
  round began at `last`. -/
  | round (flags lo hi : Nat) (lazy : Bool) (body : List Item) (count : Nat) (last : Option Nat)
  /-- An atomic part is done: forget the choices made since `depth`. -/
  | cut (depth : Nat)
  /-- A positive assertion held: go back to `pos`, forget its choices. -/
  | lookDone (pos depth : Nat)
  /-- A negative assertion's body matched, so the assertion fails. -/
  | lookFail (depth : Nat)
  /-- The match must not end where it began. -/
  | nonEmpty (start : Nat)

/-- A thread: goals, position and captured groups. -/
structure Thread where
  goals : List Goal
  pos : Nat
  caps : Array (Option (Nat × Nat))

/-- The outcome of one step. -/
inductive StepResult where
  | found (t : Thread)
  | failed
  | next (cur : Thread) (stack : List Thread)

/-- The subject being matched and the pattern's group widths. -/
structure Subject where
  chars : Array Char
  widths : GroupWidths

/-- Resumes the most recent choice, if any. -/
def backtrack : List Thread → StepResult
  | [] => .failed
  | t :: rest => .next t rest

/-- The choice stack cut back to `depth` entries. -/
def cutTo (stack : List Thread) (depth : Nat) : List Thread :=
  stack.drop (stack.length - depth)

/-- The code point at a position, if inside the subject. -/
def Subject.at? (s : Subject) (i : Nat) : Option Nat := (s.chars[i]?).map Char.toNat

/-- Whether an anchor holds at a position. -/
def Subject.anchorHolds (s : Subject) (m : Mode) (a : Anchor) (pos : Nat) : Bool :=
  let n := s.chars.size
  let wordAt (i : Nat) : Bool := match s.at? i with
    | some c => m.isWord c
    | none => false
  let before := pos > 0 && wordAt (pos - 1)
  let here := pos < n && wordAt pos
  match a with
  | .beginning => pos == 0 || (m.multiline && s.at? (pos - 1) == some 10 && pos > 0)
  | .ending =>
    if m.multiline then pos == n || s.at? pos == some 10
    else pos == n || (pos + 1 == n && s.at? pos == some 10)
  | .beginningString => pos == 0
  | .endString => pos == n
  | .boundary => n != 0 && before != here
  | .nonBoundary => n != 0 && before == here

/-- Whether the text of a captured span appears again at `pos`; the length
matched is the span's length. -/
def Subject.repeats (s : Subject) (m : Mode) (span : Nat × Nat) (pos : Nat) : Bool :=
  let (a, b) := span
  let len := b - a
  pos + len ≤ s.chars.size &&
    (List.range len).all fun k =>
      match s.at? (a + k), s.at? (pos + k) with
      | some x, some y => if m.ignoreCase then m.lower x == m.lower y else x == y
      | _, _ => false

/-- A thread that consumed one character accepted by `ok`, or a failure. -/
def Subject.consume (s : Subject) (t : Thread) (goals : List Goal) (stack : List Thread)
    (ok : Nat → Bool) : StepResult :=
  match s.at? t.pos with
  | some c => if ok c then .next { t with goals := goals, pos := t.pos + 1 } stack else backtrack stack
  | none => backtrack stack

/-- One step of the machine. -/
def Subject.step (s : Subject) (t : Thread) (stack : List Thread) : StepResult :=
  match t.goals with
  | [] => .found t
  | .items _ [] :: rest => .next { t with goals := rest } stack
  | .items f (it :: more) :: rest =>
    let m := Mode.ofFlags f
    let after := Goal.items f more :: rest
    match it with
    | .lit c => s.consume t after stack (m.acceptsLit c)
    | .notLit c => s.consume t after stack (fun n => !m.acceptsLit c n)
    | .any => s.consume t after stack m.acceptsAny
    | .set negate ms => s.consume t after stack (m.acceptsSet negate ms)
    | .anchor a =>
      if s.anchorHolds m a t.pos then .next { t with goals := after } stack else backtrack stack
    | .branch [] => .next { t with goals := after } stack
    | .branch (first :: others) =>
      let alts := others.map fun alt => { t with goals := Goal.items f alt :: after }
      .next { t with goals := Goal.items f first :: after } (alts ++ stack)
    | .group index add del body =>
      let inner := Goal.items (combineFlags f add del) body
      match index with
      | some g => .next { t with goals := inner :: Goal.close g t.pos :: after } stack
      | none => .next { t with goals := inner :: after } stack
    | .rep lo hi mode body =>
      let start := Goal.round f lo hi (mode == .lazy) body 0 none
      if mode == .possessive then
        .next { t with goals := start :: Goal.cut stack.length :: after } stack
      else .next { t with goals := start :: after } stack
    | .atomic body =>
      .next { t with goals := Goal.items f body :: Goal.cut stack.length :: after } stack
    | .backref g =>
      match t.caps.getD g none with
      | some span =>
        if s.repeats m span t.pos then
          .next { t with goals := after, pos := t.pos + (span.2 - span.1) } stack
        else backtrack stack
      | none => backtrack stack
    | .assert behind negated body =>
      let width := (seqWidth s.widths body).1
      let start := if behind then (if width ≤ t.pos then some (t.pos - width) else none) else some t.pos
      match start, negated with
      | none, false => backtrack stack
      | none, true => .next { t with goals := after } stack
      | some p, false =>
        .next { t with goals := [Goal.items f body, Goal.lookDone t.pos stack.length] ++ after, pos := p } stack
      | some p, true =>
        let resume := { t with goals := after }
        .next { t with goals := [Goal.items f body, Goal.lookFail stack.length], pos := p }
          (resume :: stack)
    | .cond g yes no =>
      let arm := if (t.caps.getD g none).isSome then yes else no.getD []
      .next { t with goals := Goal.items f arm :: after } stack
  | .close g start :: rest =>
    .next { t with goals := rest, caps := t.caps.setIfInBounds g (some (start, t.pos)) } stack
  | .round f lo hi lazy body count last :: rest =>
    let again := Goal.items f body :: Goal.round f lo hi lazy body (count + 1) (some t.pos) :: rest
    if count < lo then
      .next { t with goals := Goal.items f body :: Goal.round f lo hi lazy body (count + 1) last :: rest } stack
    else if (count < hi || hi == maxRepeat) && last != some t.pos then
      if lazy then .next { t with goals := rest } ({ t with goals := again } :: stack)
      else .next { t with goals := again } ({ t with goals := rest } :: stack)
    else .next { t with goals := rest } stack
  | .cut depth :: rest => .next { t with goals := rest } (cutTo stack depth)
  | .lookDone pos depth :: rest => .next { t with goals := rest, pos := pos } (cutTo stack depth)
  | .lookFail depth :: _ => backtrack (cutTo stack depth)
  | .nonEmpty start :: rest =>
    if t.pos == start then backtrack stack else .next { t with goals := rest } stack

/-- Runs the machine for at most `fuel` steps; `none` when every choice
failed or the fuel ran out. -/
def Subject.run (s : Subject) : Nat → Thread → List Thread → Option Thread
  | 0, _, _ => none
  | fuel + 1, t, stack =>
    match s.step t stack with
    | .found done => some done
    | .failed => none
    | .next t' stack' => s.run fuel t' stack'

/-- The steps allowed for one attempt to match in a text of `size`
characters: a fixed allowance and sixteen steps more for each character, so
that an attempt whose work grows in step with the text always ends. -/
def attemptFuel (size : Nat) : Nat := 4194304 + 16 * size

/-- A match: where it begins and ends, and the spans of the groups. -/
structure Match where
  start : Nat
  stop : Nat
  groups : Array (Option (Nat × Nat))

/-- The text of group `g` of a match, empty if the group did not take part. -/
def Match.groupText (mt : Match) (chars : Array Char) (g : Nat) : String :=
  match mt.groups.getD g none with
  | some (a, b) => String.ofList ((chars.extract a b).toList)
  | none => ""

/-- Tries to match at `start`; with `advance`, an empty match is refused. -/
def Regex.matchAt (r : Regex) (chars : Array Char) (start : Nat) (advance : Bool) : Option Match :=
  let s : Subject := { chars := chars, widths := r.widths }
  let goals := [Goal.items r.flags r.items] ++ (if advance then [Goal.nonEmpty start] else [])
  let caps : Array (Option (Nat × Nat)) := Array.replicate r.groupCount none
  match s.run (attemptFuel chars.size) { goals := goals, pos := start, caps := caps } [] with
  | some t => some { start := start, stop := t.pos, groups := t.caps.set! 0 (some (start, t.pos)) }
  | none => none

/-- Whether the pattern begins with an anchor at the start of the text, so
that no later position can match. -/
def Regex.anchoredAtStart (r : Regex) : Bool :=
  match r.items with
  | .anchor .beginning :: _ => true
  | .anchor .beginningString :: _ => true
  | _ => false

/-- The leftmost match at or after `from`; with `advance`, a match at `from`
itself must not be empty. -/
def Regex.searchFrom (r : Regex) (chars : Array Char) (start : Nat) (advance : Bool) : Option Match :=
  match r.matchAt chars start advance with
  | some mt => some mt
  | none =>
    if r.anchoredAtStart then none
    else
      ((List.range (chars.size - start)).map (start + · + 1)).findSome? fun p => r.matchAt chars p false

/-- The leftmost match in a text. -/
def Regex.search (r : Regex) (text : String) : Option Match :=
  r.searchFrom text.toList.toArray 0 false

/-- Whether the pattern matches somewhere in a text. -/
def Regex.occursIn (r : Regex) (text : String) : Bool := (r.search text).isSome

/-- Replaces every match, from left to right, with `f` of the match; after
an empty match the next one must not be empty at the same place. -/
def Regex.replaceAll (r : Regex) (text : String) (f : Array Char → Match → String) : String :=
  let chars := text.toList.toArray
  let rec go (fuel : Nat) (start done : Nat) (advance : Bool) (acc : String) : String :=
    match fuel with
    | 0 => acc ++ String.ofList (chars.extract done chars.size).toList
    | fuel + 1 =>
      if start > chars.size then acc ++ String.ofList (chars.extract done chars.size).toList
      else
        match r.searchFrom chars start advance with
        | none => acc ++ String.ofList (chars.extract done chars.size).toList
        | some mt =>
          let acc := acc ++ String.ofList (chars.extract done mt.start).toList ++ f chars mt
          go fuel mt.stop mt.stop (mt.stop == mt.start) acc
  go (2 * chars.size + 2) 0 0 false ""

end ImageCatalog.Pattern
