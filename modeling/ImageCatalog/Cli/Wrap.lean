import ImageCatalog.Text.Word
import ImageCatalog.Text.Digit

/-!
# Wrapping help text

Help pages are laid out in lines of at most 78 characters. A paragraph is
cut into pieces — runs of blanks, and words, where a word may also end
after a hyphen between letters (`golden-` `web`, but not `vm-1234`) or
before a double dash that follows a word — and the pieces are put on lines greedily:
a line takes pieces while they fit, blanks at the start of a later line and
at the end of any line are dropped, and a piece longer than a whole line is
cut.

A help text is a sequence of paragraphs separated by empty lines. A
paragraph whose first line is a backspace character keeps its lines as they
are; any other paragraph is joined into one line (its first line's indent
becomes the paragraph's indent) and wrapped.
-/

namespace ImageCatalog.Cli

/-- A character of a word that is no digit. -/
def isLetterChar (c : Char) : Bool := Text.isWordChar c && !Text.isDecimalDigit c

/-- A character after which a double dash counts as a dash between words. -/
def isWordPunct (c : Char) : Bool := Text.isWordChar c || "!\"'&.,?".toList.contains c

/-- A blank for wrapping. -/
def isWrapBlank (c : Char) : Bool := c == ' ' || c == '\t' || c == '\n' || c == '\x0b' || c == '\x0c' || c == '\r'

/-- Whether the characters from `p` on are two or more dashes and a word
character. -/
def dashesThenWord (s : Array Char) (p : Nat) : Bool :=
  let q := (List.range (s.size - p)).find? (fun k => s[p + k]? != some '-') |>.map (p + ·) |>.getD s.size
  q ≥ p + 2 && (s[q]?.map Text.isWordChar).getD false

/-- Whether a word may end after the hyphen at `p`: it joins two letters
before it (or a letter, a hyphen and a letter) to a letter, maybe a
hyphen, and a letter after it. -/
def breaksAfterHyphen (s : Array Char) (p : Nat) : Bool :=
  let w (i : Nat) : Bool := (s[i]?.map isLetterChar).getD false
  s[p]? == some '-' &&
    ((p ≥ 2 && w (p - 1) && w (p - 2)) || (p ≥ 3 && w (p - 1) && s[p - 2]? == some '-' && w (p - 3))) &&
    w (p + 1) && (w (p + 2) || (s[p + 2]? == some '-' && w (p + 3)))

/-- Where the piece that starts at `start` ends, for a piece that is not
blank. -/
def wordEnd (s : Array Char) (start : Nat) : Nat :=
  if start ≥ 1 && (s[start - 1]?.map isWordPunct).getD false && dashesThenWord s start then
    (List.range (s.size - start)).find? (fun k => s[start + k]? != some '-') |>.map (start + ·) |>.getD s.size
  else
    let rec go : Nat → Nat → Nat
      | 0, p => p
      | fuel + 1, p =>
        if p ≥ s.size || (s[p]?.map isWrapBlank).getD true then p
        else if breaksAfterHyphen s p then p + 1
        else if (s[p - 1]?.map isWordPunct).getD false && dashesThenWord s p then p
        else go fuel (p + 1)
    go s.size (start + 1)

/-- The pieces of a text, from `start` on. -/
def pieces (s : Array Char) : Nat → Nat → List String
  | 0, _ => []
  | fuel + 1, start =>
    if start ≥ s.size then []
    else
      let stop :=
        if (s[start]?.map isWrapBlank).getD false then
          (List.range (s.size - start)).find? (fun k => !((s[start + k]?.map isWrapBlank).getD false))
            |>.map (start + ·) |>.getD s.size
        else wordEnd s start
      let stop := max stop (start + 1)
      String.ofList (s.extract start stop).toList :: pieces s fuel stop

/-- Whether a piece is blank. -/
def isBlankPiece (p : String) : Bool := p.toList.all isWrapBlank

/-- Lines made of pieces: each line starts with its indent (the first with
`first`, later ones with `rest`) and holds at most `width` characters. -/
def fillLines (width : Nat) (first rest : String) : Nat → List String → Bool → List String
  | 0, _, _ => []
  | _, [], _ => []
  | fuel + 1, chunks, started =>
    let indent := if started then rest else first
    let room := width - indent.length
    let chunks := match chunks with
      | c :: cs => if started && isBlankPiece c then cs else chunks
      | [] => []
    -- take pieces while they fit
    let rec take : List String → Nat → List String → List String × List String
      | [], _, acc => (acc.reverse, [])
      | c :: cs, len, acc => if len + c.length ≤ room then take cs (len + c.length) (c :: acc) else (acc.reverse, c :: cs)
    let (line, left) := take chunks 0 []
    -- a piece too long for any line is cut
    let (line, left) := match left with
      | c :: cs =>
        if c.length > room then
          let used := (line.map String.length).foldl (· + ·) 0
          let space := max (room - used) 1
          (line ++ [String.ofList (c.toList.take space)], String.ofList (c.toList.drop space) :: cs)
        else (line, left)
      | [] => (line, left)
    let line := match line.getLast? with
      | some c => if isBlankPiece c then line.dropLast else line
      | none => line
    let rest' := fillLines width first rest fuel left (started || !line.isEmpty)
    if line.isEmpty then rest' else (indent ++ String.join line) :: rest'

/-- A text wrapped to `width` with the given indents. -/
def fill (width : Nat) (first rest : String) (text : String) : String :=
  let s := text.toList.toArray
  let ps := pieces s (s.size + 1) 0
  "\n".intercalate (fillLines width first rest (ps.length + s.size + 1) ps false)

/-- A paragraph of a help text: its indent, whether its lines are kept as
they are, and its text. -/
structure Paragraph where
  indent : Nat
  keep : Bool
  text : String

/-- The paragraphs of a help text. -/
def paragraphs (text : String) : List Paragraph :=
  let lines := text.splitOn "\n"
  let flush (buf : List String) (indent : Nat) (acc : List Paragraph) : List Paragraph :=
    match buf with
    | [] => acc
    | b :: bs =>
      if b.trimAscii.toString == "\x08" then acc ++ [⟨indent, true, "\n".intercalate bs⟩]
      else acc ++ [⟨indent, false, " ".intercalate buf⟩]
  let (acc, buf, indent) := lines.foldl (fun (acc, buf, indent) line =>
    if line.isEmpty then (flush buf (indent.getD 0) acc, [], none)
    else
      match indent with
      | none =>
        let stripped := String.ofList (line.toList.dropWhile isWrapBlank)
        (acc, buf ++ [stripped], some (line.length - stripped.length))
      | some i => (acc, buf ++ [line], some i)) (([] : List Paragraph), ([] : List String), (none : Option Nat))
  flush buf (indent.getD 0) acc

/-- A text with each tab replaced by the spaces up to the next column that
is a multiple of 8; columns count from each line end. -/
def expandTabs (text : String) : String :=
  let (out, _) := text.toList.foldl (fun (acc : List Char × Nat) c =>
    let (out, col) := acc
    if c == '\t' then
      let n := 8 - col % 8
      (List.replicate n ' ' ++ out, col + n)
    else if c == '\n' || c == '\r' then (c :: out, 0)
    else (c :: out, col + 1)) ([], 0)
  String.ofList out.reverse

/-- A help text laid out with `indent` spaces before every line. -/
def layoutText (width indent : Nat) (text : String) : String :=
  "\n\n".intercalate ((paragraphs (expandTabs text)).map fun p =>
    let pad := String.ofList (List.replicate (indent + p.indent) ' ')
    if p.keep then
      if p.text.isEmpty then "" else "\n".intercalate ((p.text.splitOn "\n").map (pad ++ ·))
    else fill width pad pad p.text)

/-- Where the first paragraph of a help text is cut for a list of
commands: after a word that ends a sentence, or at a word beyond `limit`
characters (or one that reaches it and is not the last). -/
inductive Cut where
  | whole
  | sentence (count : Nat)
  | tooLong (index total : Nat)

/-- Scans the words of a first paragraph for its `Cut`. -/
def findCut (limit : Nat) : List String → Nat → Nat → Cut
  | [], _, _ => .whole
  | w :: ws, i, total =>
    let total := total + w.length + (if i > 0 then 1 else 0)
    if total > limit then .tooLong i total
    else if w.endsWith "." then .sentence (i + 1)
    else if total == limit && !ws.isEmpty then .tooLong i total
    else findCut limit ws (i + 1) total

/-- How many words stay before `...`: words are taken off the end until the
text with `...` fits. -/
def wordsBeforeEllipsis (words : List String) (limit : Nat) : Nat → Nat → Nat → Nat
  | 0, i, _ => i
  | fuel + 1, i, total =>
    if i == 0 then 0
    else
      let total := total - ((words.getD i "").length + 1)
      if total ≤ limit then i else wordsBeforeEllipsis words limit fuel (i - 1) total

/-- The first sentence of a help text, for a list of commands: the first
paragraph's words up to the first that ends with a period, or cut with
`...` to fit in `limit` characters. -/
def shortHelp (text : String) (limit : Nat) : String :=
  let first := (text.splitOn "\n\n").headD ""
  let words := (first.split (fun c => c == ' ' || c == '\n' || c == '\t' || c == '\r' || c == '\x0b' || c == '\x0c')).toList.map (·.toString) |>.filter (!·.isEmpty)
  let words := match words with
    | w :: ws => if w == "\x08" then ws else words
    | [] => []
  match findCut limit words 0 0 with
  | .whole => " ".intercalate words
  | .sentence n => " ".intercalate (words.take n)
  | .tooLong i total =>
    " ".intercalate (words.take (wordsBeforeEllipsis words limit (i + 1) i (total + 3))) ++ "..."

/-- Rows of two columns: the first padded to the widest (at most 30), then
two spaces and the second, which wraps. -/
def columns (width indent : Nat) (rows : List (String × String)) : String :=
  let widest := (rows.map (·.1.length)).foldl max 0
  let firstCol := min widest 30 + 2
  let pad (n : Nat) := String.ofList (List.replicate n ' ')
  String.join (rows.map fun (a, b) =>
    let head := pad indent ++ a
    if b.isEmpty then head ++ "\n"
    else
      let lead := if a.length ≤ firstCol - 2 then head ++ pad (firstCol - a.length)
        else head ++ "\n" ++ pad (firstCol + indent)
      let textWidth := max (width - firstCol - 2) 10
      let lines := (layoutText textWidth 0 b).splitOn "\n"
      match lines with
      | l :: ls => lead ++ l ++ "\n" ++ String.join (ls.map (pad (firstCol + indent) ++ · ++ "\n"))
      | [] => lead ++ "\n")

end ImageCatalog.Cli
