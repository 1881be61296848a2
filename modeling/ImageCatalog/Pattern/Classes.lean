import ImageCatalog.Pattern.Syntax
import ImageCatalog.Pattern.Fold
import ImageCatalog.Text.Blank
import ImageCatalog.Text.Digit
import ImageCatalog.Text.Word

/-!
# Which characters a pattern item accepts

A node of a pattern matches in a mode read off the flags in force at that
node: whether case is ignored, whether the character classes are ASCII or
Unicode ones, and how `^`, `$` and `.` treat line ends.

Ignoring case compares simple lower cases. A literal matches the characters
whose lower case is its own lower case or one of that letter's fold partners.
A set that holds a cased member is tested on the lower case of the character:
its literals and ranges stand for the lower cases of their characters and
their fold partners. Characters beyond the basic plane in such a set are
compared as written, or, for a range, by the lower and upper case of the
character.
-/

namespace ImageCatalog.Pattern

open ImageCatalog.Text

/-- The matching mode of a node. -/
structure Mode where
  ignoreCase : Bool
  ascii : Bool
  multiline : Bool
  dotAll : Bool
  deriving BEq, Repr

/-- The mode given by a set of flags. -/
def Mode.ofFlags (f : Nat) : Mode :=
  { ignoreCase := hasFlag f flagIgnoreCase, ascii := hasFlag f flagAscii,
    multiline := hasFlag f flagMultiline, dotAll := hasFlag f flagDotAll }

/-- The flags of a group's body: the group's own flags switched on and off;
a group that names a class kind replaces the kind in force. -/
def combineFlags (flags add del : Nat) : Nat :=
  let base := if add &&& typeFlags != 0 then flags - (flags &&& typeFlags) else flags
  let on := base ||| add
  on - (on &&& del)

/-- The character of a code point. -/
def codeChar (n : Nat) : Char := Char.ofNat n

/-- Whether a code point belongs to a character class. -/
def Category.test (ascii : Bool) (k : Category) (n : Nat) : Bool :=
  let c := codeChar n
  let digit := if ascii then 0x30 ≤ n && n ≤ 0x39 else n < 0x110000 && isDecimalDigit c
  let space := if ascii then n == 32 || (9 ≤ n && n ≤ 13) else n < 0x110000 && isBlank c
  let word := if ascii then n < 128 && (c.isAlphanum || c == '_') else n < 0x110000 && isWordChar c
  match k with
  | .digit => digit
  | .notDigit => !digit
  | .space => space
  | .notSpace => !space
  | .word => word
  | .notWord => !word

/-- Whether a code point has a case, in a mode. -/
def Mode.cased (m : Mode) (n : Nat) : Bool :=
  if m.ascii then n < 128 && isAsciiLetter n else isCased n

/-- The lower case of a code point, in a mode. -/
def Mode.lower (m : Mode) (n : Nat) : Nat :=
  if m.ascii then asciiLower n else lowerCode n

/-- The fold partners of a lower-case code point, in a mode. -/
def Mode.partners (m : Mode) (n : Nat) : List Nat :=
  if m.ascii then [] else foldPartners n

/-- Whether a literal `c` accepts the code point `n`. -/
def Mode.acceptsLit (m : Mode) (c n : Nat) : Bool :=
  if !m.ignoreCase || !m.cased c then n == c
  else
    let lo := m.lower c
    let y := m.lower n
    y == lo || (m.partners lo).contains y

/-- The code points whose lower case is `z`, in a mode. -/
def Mode.lowerSources (m : Mode) (z : Nat) : List Nat :=
  if m.ascii then
    (if 0x61 ≤ z && z ≤ 0x7A then [z - 32] else []) ++ (if 0x41 ≤ z && z ≤ 0x5A then [] else [z])
  else
    (if lowerCode z == z then [z] else []) ++ lowerPreimages z

/-- An upper case of a code point beyond the basic plane: a character whose
lower case it is, if any. -/
def Mode.upperOf (m : Mode) (y : Nat) : Nat :=
  match (m.lowerSources y).filter (· != y) with
  | u :: _ => u
  | [] => y

/-- The end of the basic plane, where the folded table of a set stops. -/
def planeEnd : Nat := 0x10000

/-- Whether a range of code points holds a cased one, in a mode. -/
def Mode.rangeCased (m : Mode) (lo hi : Nat) : Bool :=
  if m.ascii then
    (lo ≤ 0x5A && 0x41 ≤ hi) || (lo ≤ 0x7A && 0x61 ≤ hi)
  else
    Pattern.casedRanges.ranges.any fun (a, b) => lo ≤ b && a ≤ hi

/-- Whether a set member makes the set compare lower cases. -/
def Mode.memberCased (m : Mode) : Member → Bool
  | .lit c => m.lower c ≥ planeEnd || m.cased c
  | .range lo hi => hi ≥ planeEnd || m.rangeCased lo hi
  | .category _ => false

/-- Whether a member accepts the code point `n`, compared as written. -/
def Member.acceptsPlain (ascii : Bool) : Member → Nat → Bool
  | .lit c, n => n == c
  | .range lo hi, n => lo ≤ n && n ≤ hi
  | .category k, n => k.test ascii n

/-- Whether a member accepts the lower-cased code point `y`, for a set that
compares lower cases. -/
def Mode.memberAcceptsLower (m : Mode) : Member → Nat → Bool
  | .lit c, y =>
    let lo := m.lower c
    if lo ≥ planeEnd then y == c else y == lo || (m.partners lo).contains y
  | .range a b, y =>
    let bmpHi := min b (planeEnd - 1)
    let inTable := a ≤ bmpHi && (y :: m.partners y).any fun z =>
      (m.lowerSources z).any fun i => a ≤ i && i ≤ bmpHi
    let beyond := b ≥ planeEnd &&
      ((a ≤ y && y ≤ b) || (let u := m.upperOf y; a ≤ u && u ≤ b))
    inTable || beyond
  | .category k, y => k.test m.ascii y

/-- Whether a set accepts the code point `n`. -/
def Mode.acceptsSet (m : Mode) (negate : Bool) (ms : List Member) (n : Nat) : Bool :=
  let found :=
    if m.ignoreCase && ms.any m.memberCased then
      let y := m.lower n
      ms.any fun mem => m.memberAcceptsLower mem y
    else ms.any fun mem => mem.acceptsPlain m.ascii n
  found != negate

/-- Whether `.` accepts a code point. -/
def Mode.acceptsAny (m : Mode) (n : Nat) : Bool := m.dotAll || n != 10

/-- Whether a code point is a word character, in a mode. -/
def Mode.isWord (m : Mode) (n : Nat) : Bool := Category.test m.ascii .word n

end ImageCatalog.Pattern
