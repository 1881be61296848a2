import ImageCatalog.Redact

/-!
# The secret patterns, compiled

`Redact.secretRegexes` compiles the four patterns of secrets when it is used.
This module says what they compile to (`secretRegexes_eq`): each pattern is a
first group holding a key (a name and a separator) and a second group holding
a run of value characters, matched ignoring case.

It then says, in terms of characters, which characters the sets of these
patterns accept (`acceptsSet_quote`, `acceptsSet_blank`, ...), and what the
letters of the names accept: a letter ignoring case accepts only characters
that are neither blanks, quotes, `:`, `=`, brackets, `&`, `,` nor `)`
(`isPlain_of_nameLetter`), because each of those is its own lower case.
-/

namespace ImageCatalog.Pattern

/-! ## Comparing items -/

mutual
/-- Whether two items are the same, for the items literals, sets,
repetitions, groups and alternatives are made of; any other item is unlike
every item. -/
def Item.same : Item → Item → Bool
  | .lit a, .lit b => a == b
  | .set n ms, .set n' ms' => n == n' && decide (ms = ms')
  | .branch as, .branch bs => Item.sameAlts as bs
  | .group i a d body, .group i' a' d' body' =>
    decide (i = i') && a == a' && d == d' && Item.sameSeq body body'
  | .rep lo hi m body, .rep lo' hi' m' body' =>
    lo == lo' && hi == hi' && decide (m = m') && Item.sameSeq body body'
  | _, _ => false

/-- Whether two sequences of items are the same, item by item. -/
def Item.sameSeq : List Item → List Item → Bool
  | [], [] => true
  | a :: as, b :: bs => a.same b && Item.sameSeq as bs
  | _, _ => false

/-- Whether two lists of alternatives are the same, alternative by
alternative. -/
def Item.sameAlts : List (List Item) → List (List Item) → Bool
  | [], [] => true
  | a :: as, b :: bs => Item.sameSeq a b && Item.sameAlts as bs
  | _, _ => false
end

mutual
theorem Item.eq_of_same (a b : Item) (h : a.same b = true) : a = b := by
  cases a <;> cases b <;>
    simp only [Item.same, Bool.and_eq_true, beq_iff_eq, decide_eq_true_eq, reduceCtorEq] at h
  case lit.lit => rw [h]
  case set.set => rw [h.1, h.2]
  case branch.branch => rw [Item.eq_of_sameAlts _ _ h]
  case group.group => rw [h.1.1.1, h.1.1.2, h.1.2, Item.eq_of_sameSeq _ _ h.2]
  case rep.rep => rw [h.1.1.1, h.1.1.2, h.1.2, Item.eq_of_sameSeq _ _ h.2]

theorem Item.eq_of_sameSeq (a b : List Item) (h : Item.sameSeq a b = true) : a = b := by
  cases a <;> cases b <;> simp only [Item.sameSeq, Bool.and_eq_true, reduceCtorEq] at h
  case nil.nil => rfl
  case cons.cons => rw [Item.eq_of_same _ _ h.1, Item.eq_of_sameSeq _ _ h.2]

theorem Item.eq_of_sameAlts (a b : List (List Item)) (h : Item.sameAlts a b = true) : a = b := by
  cases a <;> cases b <;> simp only [Item.sameAlts, Bool.and_eq_true, reduceCtorEq] at h
  case nil.nil => rfl
  case cons.cons => rw [Item.eq_of_sameSeq _ _ h.1, Item.eq_of_sameAlts _ _ h.2]
end

end ImageCatalog.Pattern

namespace ImageCatalog.Redact

open Pattern Text

/-! ## The four patterns -/

/-- The flags of the secret patterns: case is ignored, classes are Unicode's. -/
def secretFlags : Nat := flagIgnoreCase ||| flagUnicode

/-- The mode the secret patterns match in. -/
def secretMode : Mode := Mode.ofFlags secretFlags

/-- `["']`: a quote. -/
def quoteItem : Item := .set false [.lit 34, .lit 39]

/-- `\s`: a blank. -/
def blankItem : Item := .set false [.category .space]

/-- `["']?\s*[:=]\s*["']?`: what stands between a name and its value. -/
def separatorItems : List Item :=
  [.rep 0 1 .greedy [quoteItem], .rep 0 maxRepeat .greedy [blankItem], .set false [.lit 58, .lit 61],
    .rep 0 maxRepeat .greedy [blankItem], .rep 0 1 .greedy [quoteItem]]

/-- The code points of a word. -/
def codes (w : String) : List Nat := w.toList.map Char.toNat

/-- A word as literals. -/
def wordItems (w : List Nat) : List Item := w.map .lit

/-- The characters that end a value: blanks, quotes, `&`, `,` and `)`. -/
def valueStops : List Member := [.category .space, .lit 34, .lit 39, .lit 38, .lit 44, .lit 41]

/-- The characters that end a credential after a scheme: blanks and quotes. -/
def credentialStops : List Member := [.category .space, .lit 34, .lit 39]

/-- `[^a-zA-Z]`: a character that is no letter. -/
def notLetterItem : Item := .set true [.range 97 122, .range 65 90]

/-- A secret pattern: its key as the first group, then a run of characters
outside `stops` as the second. `keyWidth` is the least width of the key. -/
def secretRegex (key : List Item) (stops : List Member) (keyWidth : Nat) : Regex where
  items := [.group (some 1) 0 0 key, .group (some 2) 0 0 [.rep 1 maxRepeat .greedy [.set true stops]]]
  flags := secretFlags
  widths := #[none, some (keyWidth, maxRepeat), some (1, maxRepeat)]

/-- The session header, `x-vcloud-authorization`. -/
def sessionRegex : Regex :=
  secretRegex (wordItems (codes "x-vcloud-authorization") ++ separatorItems) valueStops 23

/-- An authorization header with its `Basic` or `Bearer` scheme. -/
def authorizationRegex : Regex :=
  secretRegex (wordItems (codes "Authorization") ++ separatorItems ++
    [.branch [wordItems (codes "Basic"), wordItems (codes "Bearer")],
      .rep 1 maxRepeat .greedy [blankItem]]) credentialStops 20

/-- A password assignment. -/
def passwordRegex : Regex :=
  secretRegex (wordItems (codes "password") ++ separatorItems) valueStops 9

/-- A token assignment, the name not part of a longer word. -/
def tokenRegex : Regex :=
  secretRegex (notLetterItem :: wordItems (codes "token") ++ separatorItems) valueStops 7

theorem Regex.eq_of_parts {r r' : Regex} (h : (r.items, r.flags, r.widths) = (r'.items, r'.flags, r'.widths)) :
    r = r' := by
  cases r
  cases r'
  simp only [Prod.mk.injEq] at h
  rw [h.1, h.2.1, h.2.2]

/-- The secret patterns compile to the four regular expressions above. -/
theorem secretRegexes_eq :
    secretRegexes = [sessionRegex, authorizationRegex, passwordRegex, tokenRegex] := by
  -- items have no decidable equality: they are compared by `Item.sameAlts`, the rest by `decide`
  have hparts : Item.sameAlts (secretRegexes.map Regex.items)
        ([sessionRegex, authorizationRegex, passwordRegex, tokenRegex].map Regex.items) = true ∧
      secretRegexes.map (fun r => (r.flags, r.widths)) =
        [sessionRegex, authorizationRegex, passwordRegex, tokenRegex].map (fun r => (r.flags, r.widths)) := by
    decide +kernel
  have hitems := Item.eq_of_sameAlts _ _ hparts.1
  have hzip : ∀ l : List Regex, l.map (fun r => (r.items, r.flags, r.widths)) =
      (l.map Regex.items).zip (l.map fun r => (r.flags, r.widths)) := fun _ => List.zip_map'.symm
  refine (List.map_inj_right (f := fun r => (r.items, r.flags, r.widths))
    (fun r r' h => Regex.eq_of_parts h)).1 ?_
  rw [hzip, hzip, hitems, hparts.2]

/-! ## Characters -/

/-- A quote, `"` or `'`. -/
def isQuote (c : Char) : Bool := c == '"' || c == '\''

/-- The sign between a name and its value, `:` or `=`. -/
def isAssign (c : Char) : Bool := c == ':' || c == '='

/-- A character of a value: no blank, quote, `&`, `,` or `)`. -/
def isValueChar (c : Char) : Bool := !(isBlank c || isQuote c || c == '&' || c == ',' || c == ')')

/-- A character of a credential after its scheme: no blank and no quote. -/
def isCredentialChar (c : Char) : Bool := !(isBlank c || isQuote c)

/-- A character that stands for itself in a value of every kind and never in
a separator or the marker's brackets: no blank, quote, `:`, `=`, bracket, `&`,
`,` or `)`. -/
def isPlain (c : Char) : Bool :=
  !(isBlank c || isQuote c || isAssign c || c == '[' || c == ']' || c == '&' || c == ',' || c == ')')

theorem beq_eq_toNat_beq (c d : Char) : (c == d) = (c.toNat == d.toNat) := by
  by_cases h : c = d
  · subst h
    simp
  · have hne : c.toNat ≠ d.toNat := fun e => h (Char.toNat_inj.mp e)
    rw [beq_false_of_ne h, beq_false_of_ne hne]

theorem toNat_lt_planes (c : Char) : c.toNat < 0x110000 := by
  have h := c.valid
  simp only [UInt32.isValidChar, Nat.isValidChar] at h
  change c.val.toNat < 0x110000
  omega

@[simp] theorem codeChar_toNat (c : Char) : codeChar c.toNat = c := Char.ofNat_toNat c

@[simp] theorem secretMode_ignoreCase : secretMode.ignoreCase = true := by decide

@[simp] theorem secretMode_ascii : secretMode.ascii = false := by decide

theorem isQuote_eq (c : Char) : isQuote c = (c.toNat == 34 || c.toNat == 39) := by
  simp only [isQuote, beq_eq_toNat_beq]
  rfl

theorem isAssign_eq (c : Char) : isAssign c = (c.toNat == 58 || c.toNat == 61) := by
  simp only [isAssign, beq_eq_toNat_beq]
  rfl

/-- A set of members compared as written: it accepts what one of its members
accepts. -/
theorem acceptsSet_uncased {neg : Bool} {ms : List Member} (h : ms.any secretMode.memberCased = false)
    (n : Nat) : secretMode.acceptsSet neg ms n = ((ms.any fun mem => mem.acceptsPlain false n) != neg) := by
  simp only [Mode.acceptsSet, h, Bool.and_false, Bool.false_eq_true, if_false, secretMode_ascii]

theorem space_test (c : Char) : Category.test false .space c.toNat = isBlank c := by
  simp [Category.test, toNat_lt_planes]

theorem acceptsSet_quote (c : Char) :
    secretMode.acceptsSet false [.lit 34, .lit 39] c.toNat = isQuote c := by
  rw [acceptsSet_uncased (by decide +kernel), isQuote_eq]
  simp [Member.acceptsPlain]

theorem acceptsSet_assign (c : Char) :
    secretMode.acceptsSet false [.lit 58, .lit 61] c.toNat = isAssign c := by
  rw [acceptsSet_uncased (by decide +kernel), isAssign_eq]
  simp [Member.acceptsPlain]

theorem acceptsSet_blank (c : Char) :
    secretMode.acceptsSet false [.category .space] c.toNat = isBlank c := by
  rw [acceptsSet_uncased (by simp [Mode.memberCased])]
  simp [Member.acceptsPlain, space_test]

theorem acceptsSet_valueStops (c : Char) :
    secretMode.acceptsSet true valueStops c.toNat = isValueChar c := by
  rw [acceptsSet_uncased (by decide +kernel)]
  simp only [valueStops, List.any_cons, List.any_nil, Member.acceptsPlain, space_test, Bool.or_false,
    Bool.bne_true, isValueChar, isQuote_eq, beq_eq_toNat_beq, Bool.or_assoc]
  rfl

theorem acceptsSet_credentialStops (c : Char) :
    secretMode.acceptsSet true credentialStops c.toNat = isCredentialChar c := by
  rw [acceptsSet_uncased (by decide +kernel)]
  simp only [credentialStops, List.any_cons, List.any_nil, Member.acceptsPlain, space_test,
    Bool.or_false, Bool.bne_true, isCredentialChar, isQuote_eq]

/-! ## Letters, ignoring case -/

/-- The characters that are not plain, as code points: the blanks, the quotes,
`:`, `=`, the brackets, `&`, `,` and `)`. -/
def fixedCodes : List Nat :=
  [9, 10, 11, 12, 13, 0x1C, 0x1D, 0x1E, 0x1F, 0x20, 0x85, 0xA0, 0x1680,
    0x2000, 0x2001, 0x2002, 0x2003, 0x2004, 0x2005, 0x2006, 0x2007, 0x2008, 0x2009, 0x200A,
    0x2028, 0x2029, 0x202F, 0x205F, 0x3000, 34, 39, 58, 61, 91, 93, 38, 44, 41]

theorem mem_fixedCodes {c : Char} (h : isPlain c = false) : c.toNat ∈ fixedCodes := by
  simp only [isPlain, isBlank, isQuote_eq, isAssign_eq, beq_eq_toNat_beq, Bool.not_eq_false',
    Bool.or_eq_true, Bool.and_eq_true, decide_eq_true_eq, beq_iff_eq] at h
  simp only [fixedCodes, List.mem_cons, List.not_mem_nil, or_false]
  have : ('['.toNat = 91) ∧ (']'.toNat = 93) ∧ ('&'.toNat = 38) ∧ (','.toNat = 44) ∧ (')'.toNat = 41) :=
    by decide
  omega

/-- A character that is not plain is its own lower case. -/
theorem lower_of_isPlain_false {c : Char} (h : isPlain c = false) :
    secretMode.lower c.toNat = c.toNat := by
  have hfixed : fixedCodes.all (fun n => secretMode.lower n == n) = true := by decide +kernel
  simpa using List.all_eq_true.1 hfixed _ (mem_fixedCodes h)

/-- The code points of the names and schemes of the secret patterns. -/
def nameCodes : List Nat :=
  codes "x-vcloud-authorization" ++ codes "Authorization" ++ codes "password" ++ codes "token" ++
    codes "Basic" ++ codes "Bearer"

/-- What a literal accepts, ignoring case: a character whose lower case is the
literal's, or one of its fold partners. -/
theorem lower_of_acceptsLit {a n : Nat} (ha : secretMode.cased a = true)
    (h : secretMode.acceptsLit a n = true) :
    secretMode.lower n ∈ secretMode.lower a :: secretMode.partners (secretMode.lower a) := by
  simp only [Mode.acceptsLit, secretMode_ignoreCase, ha, Bool.not_true, Bool.or_self,
    Bool.false_eq_true, if_false, Bool.or_eq_true, beq_iff_eq, List.contains_iff_mem] at h
  simpa using h

/-- A letter of a name, ignoring case, accepts only plain characters. -/
theorem isPlain_of_nameLetter {a : Nat} (ha : a ∈ nameCodes) {c : Char}
    (h : secretMode.acceptsLit a c.toNat = true) : isPlain c = true := by
  have hnames : nameCodes.all (fun a => if secretMode.cased a then
      (secretMode.lower a :: secretMode.partners (secretMode.lower a)).all (fun y => isPlain (Char.ofNat y))
      else isPlain (Char.ofNat a)) = true := by decide +kernel
  have hletter := List.all_eq_true.1 hnames a ha
  cases hplain : isPlain c
  · have hlower := lower_of_isPlain_false hplain
    cases hcased : secretMode.cased a
    · simp only [Mode.acceptsLit, secretMode_ignoreCase, hcased, Bool.not_false, Bool.or_true,
        if_true, beq_iff_eq] at h
      simp only [hcased, Bool.false_eq_true, if_false] at hletter
      rw [← h, Char.ofNat_toNat, hplain] at hletter
      exact absurd hletter (by decide)
    · have hy := lower_of_acceptsLit hcased h
      rw [hlower] at hy
      simp only [hcased, if_true, List.all_eq_true] at hletter
      have := hletter _ hy
      rw [Char.ofNat_toNat, hplain] at this
      exact absurd this (by decide)
  · rfl
end ImageCatalog.Redact
