/-!
# Patterns

The abstract syntax of regular expression patterns: literals, character
sets, anchors, alternation, groups, repetition, atomic groups, back
references, look-around assertions and conditional groups. Groups carry the
flags they switch on and off, so that a later pass can give every node its
own matching mode.

`Seq.width` is the least and greatest length of text a sequence can match,
capped at the largest repetition count; a look-behind needs a sequence whose
two widths agree.
-/

namespace ImageCatalog.Pattern

/-- The largest repetition count, which also stands for "no limit". -/
def maxRepeat : Nat := 4294967295

/-- Group numbers stay below this bound. -/
def maxGroups : Nat := 1073741823

/-! ## Flags, as bits -/

/-- Flag bits: template, ignore case, locale, multi-line, dot-all, unicode,
verbose, debug, ASCII. -/
def flagTemplate : Nat := 1
def flagIgnoreCase : Nat := 2
def flagLocale : Nat := 4
def flagMultiline : Nat := 8
def flagDotAll : Nat := 16
def flagUnicode : Nat := 32
def flagVerbose : Nat := 64
def flagDebug : Nat := 128
def flagAscii : Nat := 256

/-- The flags that choose the character classes. -/
def typeFlags : Nat := flagAscii ||| flagLocale ||| flagUnicode

/-- The flags that may only be set for the whole pattern. -/
def globalFlags : Nat := flagDebug ||| flagTemplate

/-- Whether `flags` has the bit `f`. -/
def hasFlag (flags f : Nat) : Bool := flags &&& f != 0

/-- The flag of an inline flag letter. -/
def flagOfLetter : Char → Option Nat
  | 'i' => some flagIgnoreCase
  | 'L' => some flagLocale
  | 'm' => some flagMultiline
  | 's' => some flagDotAll
  | 'x' => some flagVerbose
  | 'a' => some flagAscii
  | 't' => some flagTemplate
  | 'u' => some flagUnicode
  | _ => none

/-! ## Syntax -/

/-- The character classes of escapes such as `\d`. -/
inductive Category where
  | digit | notDigit | space | notSpace | word | notWord
  deriving BEq, Repr, Inhabited, DecidableEq

/-- A member of a character set. -/
inductive Member where
  | lit (c : Nat)
  | range (lo hi : Nat)
  | category (k : Category)
  deriving BEq, Repr, Inhabited, DecidableEq

/-- Zero-width positions: line or text start and end, word boundaries. -/
inductive Anchor where
  | beginning | ending | beginningString | endString | boundary | nonBoundary
  deriving BEq, Repr, Inhabited, DecidableEq

/-- How a repetition chooses its count: most first, fewest first, or most
with no giving back. -/
inductive RepeatMode where
  | greedy | lazy | possessive
  deriving BEq, Repr, Inhabited, DecidableEq

/-- A pattern item. -/
inductive Item where
  | lit (c : Nat)
  | notLit (c : Nat)
  | any
  | set (negate : Bool) (members : List Member)
  | anchor (a : Anchor)
  | branch (alternatives : List (List Item))
  | group (index : Option Nat) (addFlags delFlags : Nat) (body : List Item)
  | rep (min max : Nat) (mode : RepeatMode) (body : List Item)
  | atomic (body : List Item)
  | backref (index : Nat)
  | assert (behind negated : Bool) (body : List Item)
  | cond (index : Nat) (yes : List Item) (no : Option (List Item))
  deriving Repr, Inhabited

/-- The width of a group, by group number. -/
abbrev GroupWidths := Array (Option (Nat × Nat))

/-- A width pair capped at the repetition limit. -/
def capWidth (w : Nat × Nat) : Nat × Nat := (min w.1 (maxRepeat - 1), min w.2 maxRepeat)

mutual
/-- Least and greatest width of an item; the width of every inner sequence
is capped. -/
def Item.widthRaw (gw : GroupWidths) : Item → Nat × Nat
  | .lit _ | .notLit _ | .any | .set _ _ => (1, 1)
  | .anchor _ | .assert _ _ _ => (0, 0)
  | .branch alts => altWidths gw (maxRepeat - 1) 0 alts
  | .group _ _ _ body => capWidth (seqWidthRaw gw body)
  | .atomic body => capWidth (seqWidthRaw gw body)
  | .rep lo hi _ body =>
    let (i, j) := capWidth (seqWidthRaw gw body)
    (i * lo, j * hi)
  | .backref g => ((gw.getD g none).getD (0, 0))
  | .cond _ yes no =>
    let (i, j) := capWidth (seqWidthRaw gw yes)
    match no with
    | some n => let (l, h) := capWidth (seqWidthRaw gw n); (min i l, max j h)
    | none => (0, j)

/-- Least and greatest width of alternatives, starting from `i` and `j`. -/
def altWidths (gw : GroupWidths) (i j : Nat) : List (List Item) → Nat × Nat
  | [] => (i, j)
  | a :: rest =>
    let (l, h) := capWidth (seqWidthRaw gw a)
    altWidths gw (min i l) (max j h) rest

/-- Least and greatest width of a sequence: the sum over its items. -/
def seqWidthRaw (gw : GroupWidths) : List Item → Nat × Nat
  | [] => (0, 0)
  | it :: rest =>
    let (a, b) := it.widthRaw gw
    let (c, d) := seqWidthRaw gw rest
    (a + c, b + d)
end

/-- Least and greatest width of a sequence, capped at the repetition limit. -/
def seqWidth (gw : GroupWidths) (items : List Item) : Nat × Nat :=
  capWidth (seqWidthRaw gw items)

/-- The kinds of pattern errors: a malformed pattern, a repetition count
beyond the limit, and flags that cannot be used together. -/
inductive PatternErrorKind where
  | malformed | tooLarge | badFlags
  deriving BEq, Repr, Inhabited

/-- Why a pattern cannot be used, and where (a character offset), if known. -/
structure PatternError where
  msg : String
  pos : Option Nat := none
  kind : PatternErrorKind := .malformed
  deriving Repr, Inhabited

/-- The report of a pattern error: the message, the position, and the line
and column when the pattern spans several lines. -/
def PatternError.render (e : PatternError) (pattern : String) : String :=
  match e.pos with
  | none => e.msg
  | some p =>
    let before := pattern.toList.take p
    let base := e.msg ++ " at position " ++ toString p
    if pattern.toList.contains '\n' then
      let line := before.count '\n' + 1
      let lastNl := (before.reverse.findIdx? (· == '\n')).map (fun k => before.length - 1 - k)
      let col := match lastNl with
        | some i => p - i
        | none => p + 1
      base ++ " (line " ++ toString line ++ ", column " ++ toString col ++ ")"
    else base

end ImageCatalog.Pattern
