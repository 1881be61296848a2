import ImageCatalog.Document
import ImageCatalog.Xml.Writer

/-!
# Reading back escaped text

`escapeMarkup` writes `&`, `<`, `>` and `"` as references and every other
character as it is. This module says what the reader makes of text written so,
in a double-quoted attribute value and in character data, step by step.

The reader does not give the text back unchanged in every case. Line ends are
read as line feeds: a carriage return, alone or before a line feed, is one line
feed (`lineFeeds`). In an attribute value every blank is then read as a space
(`spaceBlanks`), so a tab or a line feed written as it is in a value comes back
as a space.

Main results:

* `Written`: a written form of a text, each character as it is or as the
  reference `escapeMarkup` writes for it; `written_escapeMarkup` and
  `written_plain` give the two kinds the request templates use.
* `scanTag_value_written`, `normalizeValue_written`: a value written so is
  scanned whole and read as `spaceBlanks` of its text; `valueRead_of_forall`
  and `textRead_of_not_mem` say when the text comes back unchanged.
* `readContent_written`: character data written so is read as `lineFeeds` of
  its text, one step per character read.
* `readContent_openRoot`, `readContent_openChild`, `readContent_emptyChild`,
  `readContent_closeChild`, `readContent_closeRoot`: one step of the content
  reader on a start tag or an end tag, from what the tag scanner, the
  attribute checks and the name resolution return.
* `readDocument_of_readContent`: a document that is its root element is read
  as the content reader reads that element.
-/

namespace ImageCatalog.Xml

/-! ## Written forms -/

/-- The characters `escapeMarkup` writes for `c`. -/
def escapedChar (c : Char) : List Char :=
  if c = '&' then "&amp;".toList
  else if c = '<' then "&lt;".toList
  else if c = '>' then "&gt;".toList
  else if c = '"' then "&quot;".toList
  else [c]

/-- The characters written as references. -/
def Escaped (c : Char) : Prop := c = '&' ∨ c = '<' ∨ c = '>' ∨ c = '"'

/-- Characters that may stand as they are between double quotes. -/
def ValueChar (c : Char) : Prop := isXmlChar c = true ∧ c ≠ '<' ∧ c ≠ '&' ∧ c ≠ '"'

/-- A character that stands as it is and is no blank but a space: the test
to run on a literal. -/
def isPlainValueChar (c : Char) : Bool :=
  isXmlChar c && c != '<' && c != '&' && c != '"' && c != '\t' && c != '\n' && c != '\r'

theorem isPlainValueChar_spec {c : Char} (h : isPlainValueChar c = true) :
    ValueChar c ∧ c ≠ '\t' ∧ c ≠ '\n' ∧ c ≠ '\r' := by
  simp only [isPlainValueChar, Bool.and_eq_true, bne_iff_ne, ne_eq] at h
  exact ⟨⟨h.1.1.1.1.1.1, h.1.1.1.1.1.2, h.1.1.1.1.2, h.1.1.1.2⟩, h.1.1.2, h.1.2, h.2⟩

/-- `w` is written for the text `s`: each character stands as it is, or as
the reference `escapeMarkup` writes for it. -/
inductive Written : List Char → List Char → Prop
  | nil : Written [] []
  | char {c : Char} {w s : List Char} : ValueChar c → Written w s → Written (c :: w) (c :: s)
  | ref {c : Char} {w s : List Char} : Escaped c → Written w s → Written (escapedChar c ++ w) (c :: s)

theorem foldl_toList_flatMap {f : String → Char → String} {g : Char → List Char}
    (hf : ∀ acc c, (f acc c).toList = acc.toList ++ g c) (l : List Char) (acc : String) :
    (l.foldl f acc).toList = acc.toList ++ l.flatMap g := by
  induction l generalizing acc with
  | nil => simp
  | cons c l ih => rw [List.foldl_cons, ih, hf, List.flatMap_cons, List.append_assoc]

theorem escapeMarkup_toList (s : String) :
    (escapeMarkup s).toList = s.toList.flatMap escapedChar := by
  rw [escapeMarkup, String.foldl_eq_foldl_toList, foldl_toList_flatMap (g := escapedChar) ?step]
  · simp
  case step =>
    intro acc c
    split <;> simp_all [escapedChar]

theorem escapedChar_of_not_escaped {c : Char} (h : ¬ Escaped c) : escapedChar c = [c] := by
  simp only [Escaped, not_or] at h
  simp [escapedChar, h]

/-- A text of document characters is written by `escapeMarkup`. -/
theorem written_flatMap_escapedChar {s : List Char} (hs : ∀ c ∈ s, isXmlChar c = true) :
    Written (s.flatMap escapedChar) s := by
  induction s with
  | nil => exact .nil
  | cons c s ih =>
    have ih := ih fun x hx => hs x (List.mem_cons_of_mem c hx)
    rw [List.flatMap_cons]
    by_cases hc : Escaped c
    · exact .ref hc ih
    · rw [escapedChar_of_not_escaped hc]
      have hv : ValueChar c := by
        simp only [Escaped, not_or] at hc
        exact ⟨hs c List.mem_cons_self, hc.2.1, hc.1, hc.2.2.2⟩
      exact .char hv ih

theorem written_escapeMarkup {s : String} (hs : ∀ c ∈ s.toList, isXmlChar c = true) :
    Written (escapeMarkup s).toList s.toList := by
  rw [escapeMarkup_toList]
  exact written_flatMap_escapedChar hs

/-- Characters that may stand as they are stand for themselves. -/
theorem written_plain {l : List Char} (hl : ∀ c ∈ l, ValueChar c) : Written l l := by
  induction l with
  | nil => exact .nil
  | cons c l ih => exact .char (hl c List.mem_cons_self) (ih fun x hx => hl x (List.mem_cons_of_mem c hx))

theorem plain_of_all {l : List Char} (h : l.all isPlainValueChar = true) :
    ∀ c ∈ l, ValueChar c ∧ c ≠ '\t' ∧ c ≠ '\n' ∧ c ≠ '\r' :=
  fun c hc => isPlainValueChar_spec (List.all_eq_true.mp h c hc)

/-- A literal of plain characters is written for itself. -/
theorem written_literal {l : List Char} (hl : l.all isPlainValueChar = true) : Written l l :=
  written_plain fun c hc => (plain_of_all hl c hc).1

theorem gt_not_mem_flatMap_escapedChar (s : List Char) : '>' ∉ s.flatMap escapedChar := by
  simp only [List.mem_flatMap, not_exists, not_and]
  intro c _
  by_cases hc : Escaped c
  · rcases hc with rfl | rfl | rfl | rfl <;> decide
  · rw [escapedChar_of_not_escaped hc]
    simp only [Escaped, not_or] at hc
    simpa using Ne.symm hc.2.2.1

theorem gt_not_mem_escapeMarkup (s : String) : '>' ∉ (escapeMarkup s).toList := by
  rw [escapeMarkup_toList]
  exact gt_not_mem_flatMap_escapedChar _

/-- The first character of a written form is the first of its text, unless
it opens a reference. -/
theorem Written.head {w s : List Char} (hw : Written w s) {d : Char} (hd : w.head? = some d)
    (hamp : d ≠ '&') : s.head? = some d := by
  cases hw with
  | nil => simp at hd
  | char _ _ => simpa using hd
  | ref hc _ =>
    rcases hc with rfl | rfl | rfl | rfl <;> simp [escapedChar] at hd <;> exact absurd hd.symm hamp

theorem Written.nil_right {w : List Char} (hw : Written w []) : w = [] := by
  cases hw
  rfl

/-- A written form is at least as long as its text. -/
theorem Written.length_le {w s : List Char} (hw : Written w s) : s.length ≤ w.length := by
  induction hw with
  | nil => exact Nat.le_refl _
  | char _ _ ih => simpa using ih
  | @ref c _ _ hc _ ih =>
    have : 1 ≤ (escapedChar c).length := by rcases hc with rfl | rfl | rfl | rfl <;> decide
    simp only [List.length_cons, List.length_append]
    omega

/-! ## Line ends and blanks -/

/-- Text as the reader returns it: a carriage return, alone or before a line
feed, is one line feed. -/
def lineFeeds : List Char → List Char
  | '\r' :: '\n' :: rest => '\n' :: lineFeeds rest
  | c :: rest => (if c = '\r' then '\n' else c) :: lineFeeds rest
  | [] => []

/-- An attribute value as the reader returns it: line ends as in text, then
every blank a space. -/
def spaceBlanks (s : List Char) : List Char :=
  (lineFeeds s).map fun c => if isXmlSpace c then ' ' else c

/-- The attribute value the reader returns for a written text. -/
def valueRead (s : List Char) : String := String.ofList (spaceBlanks s)

/-- The text the reader returns for written character data: none when there
is none. -/
def textRead (s : List Char) : Option String :=
  if s = [] then none else some (String.ofList (lineFeeds s))

@[simp] theorem lineFeeds_nil : lineFeeds [] = [] := by
  simp [lineFeeds]

theorem lineFeeds_crlf (rest : List Char) : lineFeeds ('\r' :: '\n' :: rest) = '\n' :: lineFeeds rest := by
  simp [lineFeeds]

theorem lineFeeds_cons {c : Char} {rest : List Char} (h : c = '\r' → rest.head? ≠ some '\n') :
    lineFeeds (c :: rest) = (if c = '\r' then '\n' else c) :: lineFeeds rest := by
  rw [lineFeeds.eq_2]
  rintro rest' rfl rfl
  simp at h

theorem lineFeeds_eq_nil {s : List Char} : lineFeeds s = [] ↔ s = [] := by
  fun_cases lineFeeds s <;> simp

theorem length_lineFeeds_le (s : List Char) : (lineFeeds s).length ≤ s.length := by
  fun_induction lineFeeds s <;> simp <;> omega

/-- Text without carriage returns is read as it is. -/
theorem lineFeeds_of_not_mem {s : List Char} (h : '\r' ∉ s) : lineFeeds s = s := by
  induction s with
  | nil => rfl
  | cons c s ih =>
    have hc : c ≠ '\r' := fun hc => h (hc ▸ List.mem_cons_self)
    rw [lineFeeds_cons (fun hc' => absurd hc' hc), if_neg hc, ih fun h' => h (List.mem_cons_of_mem c h')]

/-- A value without blanks other than spaces is read as it is. -/
theorem spaceBlanks_of_forall {s : List Char} (h : ∀ c ∈ s, c ≠ '\t' ∧ c ≠ '\n' ∧ c ≠ '\r') :
    spaceBlanks s = s := by
  have hcr : '\r' ∉ s := fun hm => (h _ hm).2.2 rfl
  rw [spaceBlanks, lineFeeds_of_not_mem hcr]
  refine (List.map_congr_left fun c hc => ?_).trans (List.map_id s)
  obtain ⟨ht, hn, hr⟩ := h c hc
  by_cases hs : isXmlSpace c = true
  · simp only [isXmlSpace, Bool.or_eq_true, beq_iff_eq] at hs
    rcases hs with ((rfl | rfl) | rfl) | rfl <;> simp_all
  · simp [hs]

/-- A text without tabs and line ends is read back from a value as it is. -/
theorem valueRead_of_forall {s : String} (h : ∀ c ∈ s.toList, c ≠ '\t' ∧ c ≠ '\n' ∧ c ≠ '\r') :
    valueRead s.toList = s := by
  rw [valueRead, spaceBlanks_of_forall h, String.ofList_toList]

/-- A text without carriage returns is read back from character data as it
is, unless it is empty. -/
theorem textRead_of_not_mem {s : String} (h : '\r' ∉ s.toList) (hs : s ≠ "") :
    textRead s.toList = some s := by
  rw [textRead, if_neg (by simpa using hs), lineFeeds_of_not_mem h, String.ofList_toList]

/-! ## Attribute values -/

section Value

variable {start : Nat} {elem : List Char} {attrs : List RawAttr} {name : List Char}
  {namePos valuePos : Nat}

theorem scanTag_value_char {c : Char} (hc : ValueChar c) (acc rest : List Char) (pos : Nat) :
    scanTag start elem attrs (.value name namePos '"' acc none valuePos) (c :: rest) pos =
      scanTag start elem attrs (.value name namePos '"' (c :: acc) none valuePos) rest (pos + 1) := by
  obtain ⟨hx, hlt, hamp, hq⟩ := hc
  rw [scanTag]
  simp [hx, hlt, hamp, hq]

theorem scanTag_value_ref {c : Char} (hc : Escaped c) (acc rest : List Char) (pos : Nat) :
    scanTag start elem attrs (.value name namePos '"' acc none valuePos) (escapedChar c ++ rest) pos =
      scanTag start elem attrs (.value name namePos '"' ((escapedChar c).reverse ++ acc) none valuePos)
        rest (pos + (escapedChar c).length) := by
  rcases hc with rfl | rfl | rfl | rfl <;> rfl

/-- A written value is scanned whole, as it is written. -/
theorem scanTag_value_written {w s : List Char} (hw : Written w s) (acc rest : List Char) (pos : Nat) :
    scanTag start elem attrs (.value name namePos '"' acc none valuePos) (w ++ rest) pos =
      scanTag start elem attrs (.value name namePos '"' (w.reverse ++ acc) none valuePos) rest
        (pos + w.length) := by
  induction hw generalizing acc pos with
  | nil => rfl
  | char hc _ ih =>
    rw [List.cons_append, scanTag_value_char hc, ih]
    simp [Nat.add_assoc, Nat.add_comm 1]
  | ref hc _ ih =>
    rw [List.append_assoc, scanTag_value_ref hc, ih]
    simp [Nat.add_assoc]

/-- The closing quote of the last value and `>` end a start tag. -/
theorem scanTag_value_closeStart (acc rest : List Char) (pos : Nat) :
    scanTag start elem attrs (.value name namePos '"' acc none valuePos) ('"' :: '>' :: rest) pos =
      .ok (⟨elem, (⟨name, namePos, acc.reverse, valuePos⟩ :: attrs).reverse, false⟩, rest, pos + 2) :=
  rfl

/-- The closing quote of the last value and `/>` end an empty-element tag. -/
theorem scanTag_value_closeEmpty (acc rest : List Char) (pos : Nat) :
    scanTag start elem attrs (.value name namePos '"' acc none valuePos) ('"' :: '/' :: '>' :: rest) pos =
      .ok (⟨elem, (⟨name, namePos, acc.reverse, valuePos⟩ :: attrs).reverse, true⟩, rest, pos + 3) :=
  rfl

end Value

section Normalize

variable (decls : Declarations) (tagStart : Nat)

theorem normalizeValue_char (acc : String) {c : Char} {rest : List Char} (pos : Nat) (hamp : c ≠ '&')
    (hcr : c = '\r' → rest.head? ≠ some '\n') :
    normalizeValue decls tagStart acc (c :: rest) pos =
      normalizeValue decls tagStart (acc.push (if isXmlSpace c then ' ' else c)) rest (pos + 1) := by
  rw [normalizeValue.eq_4 _ _ _ _ _ _ hamp]
  rintro rest' rfl rfl
  simp at hcr

theorem normalizeValue_entity (acc : String) (entity : List Char) {c : Char}
    (hc : predefinedEntity (String.ofList entity) = some c) {rest : List Char} {pos : Nat}
    (hscan : scanRef pos .amp [] (entity ++ ';' :: rest) (pos + 1) =
      .ok (.entity (String.ofList entity), rest, pos + entity.length + 2)) :
    normalizeValue decls tagStart acc ('&' :: (entity ++ ';' :: rest)) pos =
      normalizeValue decls tagStart (acc ++ String.singleton c) rest (pos + entity.length + 2) := by
  rw [normalizeValue.eq_2, hscan]
  simp only [resolveRef, hc]
  rw [if_pos (by simp; omega)]
  rfl

theorem normalizeValue_ref (acc : String) {c : Char} (hc : Escaped c) (rest : List Char) (pos : Nat) :
    normalizeValue decls tagStart acc (escapedChar c ++ rest) pos =
      normalizeValue decls tagStart (acc ++ String.singleton c) rest (pos + (escapedChar c).length) := by
  rcases hc with rfl | rfl | rfl | rfl
  · exact normalizeValue_entity decls tagStart acc "amp".toList rfl rfl
  · exact normalizeValue_entity decls tagStart acc "lt".toList rfl rfl
  · exact normalizeValue_entity decls tagStart acc "gt".toList rfl rfl
  · exact normalizeValue_entity decls tagStart acc "quot".toList rfl rfl

theorem push_append_ofList (acc : String) (c : Char) (l : List Char) :
    acc.push c ++ String.ofList l = acc ++ String.ofList (c :: l) := by
  rw [← String.toList_inj]
  simp

theorem append_singleton_append_ofList (acc : String) (c : Char) (l : List Char) :
    acc ++ String.singleton c ++ String.ofList l = acc ++ String.ofList (c :: l) := by
  rw [← String.toList_inj]
  simp

/-- A written value is read as its text with its line ends and blanks
normalized. -/
theorem normalizeValue_written {w s : List Char} (hw : Written w s) (acc : String) (pos : Nat) :
    normalizeValue decls tagStart acc w pos = .ok (acc ++ valueRead s) := by
  induction s using lineFeeds.induct generalizing w acc pos with
  | case1 rest ih =>
    -- a carriage return before a line feed: both stand as they are
    cases hw with
    | ref hc _ => simp [Escaped] at hc
    | char _ hw =>
      cases hw with
      | ref hc _ => simp [Escaped] at hc
      | char _ hw =>
        rw [normalizeValue.eq_3, ih hw, valueRead, valueRead, push_append_ofList]
        simp [spaceBlanks, lineFeeds_crlf, isXmlSpace]
  | case2 c rest hne ih =>
    have hcr : c = '\r' → rest.head? ≠ some '\n' := by
      rintro rfl hh
      obtain ⟨rest', rfl⟩ : ∃ rest', rest = '\n' :: rest' := by
        cases rest with
        | nil => simp at hh
        | cons d rest' => simp at hh; exact ⟨rest', hh ▸ rfl⟩
      exact hne rest' rfl rfl
    have hsb : spaceBlanks (c :: rest) = (if isXmlSpace c then ' ' else c) :: spaceBlanks rest := by
      rw [spaceBlanks, lineFeeds_cons hcr, List.map_cons, spaceBlanks]
      congr 1
      by_cases h : c = '\r' <;> simp [h, isXmlSpace]
    cases hw with
    | char hc hw =>
      rw [normalizeValue_char decls tagStart acc pos hc.2.2.1 ?_, ih hw, valueRead, valueRead,
        push_append_ofList, hsb]
      intro hr hh
      exact hcr hr (hw.head hh (by decide))
    | ref hc hw =>
      have hsp : isXmlSpace c = false := by
        rcases hc with rfl | rfl | rfl | rfl <;> rfl
      rw [normalizeValue_ref decls tagStart acc hc, ih hw, valueRead, valueRead,
        append_singleton_append_ofList, hsb, hsp]
      rfl
  | case3 =>
    rw [hw.nil_right, normalizeValue.eq_1]
    simp [valueRead, spaceBlanks]

/-- A value of characters that stand as they are, with no blank but spaces,
is read as it is written. -/
theorem normalizeValue_plain {l : List Char} (hl : ∀ c ∈ l, ValueChar c ∧ c ≠ '\t' ∧ c ≠ '\n' ∧ c ≠ '\r')
    (pos : Nat) : normalizeValue decls tagStart "" l pos = .ok (String.ofList l) := by
  rw [normalizeValue_written decls tagStart (written_plain fun c hc => (hl c hc).1), valueRead,
    spaceBlanks_of_forall fun c hc => (hl c hc).2]
  simp

/-- A literal value is read as it is written. -/
theorem normalizeValue_literal {l : List Char} (hl : l.all isPlainValueChar = true) (pos : Nat) :
    normalizeValue decls tagStart "" l pos = .ok (String.ofList l) :=
  normalizeValue_plain decls tagStart (fun c hc => isPlainValueChar_spec (List.all_eq_true.mp hl c hc)) pos

end Normalize

/-! ## Character data -/

section Text

variable (decls : Declarations) (fuel : Nat) (stack : List OpenElement)

theorem readContent_char (pending : List Char) {c : Char} {rest : List Char} (pos : Nat)
    (hc : isXmlChar c = true) (hlt : c ≠ '<') (hamp : c ≠ '&')
    (hbr : c = ']' → ∀ t, rest ≠ ']' :: '>' :: t) (hcr : c = '\r' → rest.head? ≠ some '\n') :
    readContent decls (fuel + 1) stack pending (c :: rest) pos =
      readContent decls fuel stack ((if c = '\r' then '\n' else c) :: pending) rest (pos + 1) := by
  rw [readContent.eq_17 _ _ _ _ _ _ _ (fun _ h => absurd h hlt) (fun _ h => absurd h hlt)
    (fun _ h => absurd h hlt) (fun _ _ h => absurd h hlt) (fun h => absurd h hlt) hamp
    (fun t h hr => hbr h t hr) (fun t h hr => hcr h (by simp [hr]))]
  by_cases hr : c = '\r'
  · simp [hr]
  · simp [hr, hc]

theorem readContent_entity (pending : List Char) (entity : List Char) {c : Char}
    (hc : predefinedEntity (String.ofList entity) = some c) {rest : List Char} {pos : Nat}
    (hscan : scanRef pos .amp [] (entity ++ ';' :: rest) (pos + 1) =
      .ok (.entity (String.ofList entity), rest, pos + entity.length + 2)) :
    readContent decls (fuel + 1) stack pending ('&' :: (entity ++ ';' :: rest)) pos =
      readContent decls fuel stack (c :: pending) rest (pos + entity.length + 2) := by
  rw [readContent.eq_14, hscan]
  simp [resolveRef, hc]

theorem readContent_ref (pending : List Char) {c : Char} (hc : Escaped c) (rest : List Char) (pos : Nat) :
    readContent decls (fuel + 1) stack pending (escapedChar c ++ rest) pos =
      readContent decls fuel stack (c :: pending) rest (pos + (escapedChar c).length) := by
  rcases hc with rfl | rfl | rfl | rfl
  · exact readContent_entity decls fuel stack pending "amp".toList rfl rfl
  · exact readContent_entity decls fuel stack pending "lt".toList rfl rfl
  · exact readContent_entity decls fuel stack pending "gt".toList rfl rfl
  · exact readContent_entity decls fuel stack pending "quot".toList rfl rfl

/-- Written character data followed by markup is read as its text with its
line ends normalized, one step for each character read. A written form with
no `>` cannot end a character data section by mistake. -/
theorem readContent_written {w s : List Char} (hw : Written w s) (hgt : '>' ∉ w) (fuel : Nat)
    (pending rest : List Char) (pos : Nat) :
    readContent decls (fuel + (lineFeeds s).length) stack pending (w ++ '<' :: rest) pos =
      readContent decls fuel stack ((lineFeeds s).reverse ++ pending) ('<' :: rest) (pos + w.length) := by
  induction s using lineFeeds.induct generalizing w fuel pending pos with
  | case1 s ih =>
    -- a carriage return before a line feed: one step
    cases hw with
    | ref hc _ => simp [Escaped] at hc
    | char _ hw =>
      cases hw with
      | ref hc _ => simp [Escaped] at hc
      | char _ hw =>
        have hgt' : '>' ∉ _ := fun h => hgt (List.mem_cons_of_mem _ (List.mem_cons_of_mem _ h))
        rw [lineFeeds_crlf, List.length_cons, ← Nat.add_assoc, List.cons_append, List.cons_append,
          readContent.eq_16, ih hw hgt']
        simp [Nat.add_assoc, Nat.add_comm 2]
  | case2 c s hne ih =>
    have hcr : c = '\r' → s.head? ≠ some '\n' := by
      rintro rfl hh
      obtain ⟨s', rfl⟩ : ∃ s', s = '\n' :: s' := by
        cases s with
        | nil => simp at hh
        | cons d s' => simp at hh; exact ⟨s', hh ▸ rfl⟩
      exact hne s' rfl rfl
    rw [lineFeeds_cons hcr, List.length_cons, ← Nat.add_assoc]
    cases hw with
    | char hc hw =>
      have hgt' : '>' ∉ _ := fun h => hgt (List.mem_cons_of_mem _ h)
      rw [List.cons_append, readContent_char decls _ stack pending pos hc.1 hc.2.1 hc.2.2.1 ?br ?cr,
        ih hw hgt']
      · simp [Nat.add_assoc, Nat.add_comm 1]
      case br =>
        -- a `]` is followed by another `]` and a `>` only if the text writes `>`
        rintro - t ht
        cases hw with
        | nil => simp at ht
        | char _ hw' =>
          cases hw' with
          | nil => simp at ht
          | char _ _ => simp at ht; exact hgt' (by simp [ht.2.1])
          | ref hc' _ => rcases hc' with rfl | rfl | rfl | rfl <;> simp [escapedChar] at ht
        | ref hc' _ => rcases hc' with rfl | rfl | rfl | rfl <;> simp [escapedChar] at ht
      case cr =>
        intro hr hh
        cases hw with
        | nil => simp at hh
        | char hd hw' => exact hcr hr (by simpa using hh)
        | ref hc' _ => rcases hc' with rfl | rfl | rfl | rfl <;> simp [escapedChar] at hh
    | ref hc hw =>
      have hgt' : '>' ∉ _ := fun h => hgt (List.mem_append_right _ h)
      have hr : c ≠ '\r' := by rcases hc with rfl | rfl | rfl | rfl <;> decide
      rw [List.append_assoc, readContent_ref decls _ stack pending hc, ih hw hgt', if_neg hr]
      simp [Nat.add_assoc]
  | case3 =>
    rw [hw.nil_right]
    simp

end Text

/-! ## Attribute checks -/

section Attrs

variable {decls : Declarations} {start : Nat} {seen : List (List Char)} {scope : Scope}
  {kept : List (List Char × String)} {a : RawAttr} {v : String}

theorem checkAttrs_nil : checkAttrs decls start seen scope kept [] = .ok (scope, kept.reverse) := rfl

/-- A declaration of the default namespace changes the scope. -/
theorem checkAttrs_default (rest : List RawAttr) (hseen : seen.contains a.name = false)
    (hname : a.name = "xmlns".toList) (hv : normalizeValue decls start "" a.value a.valuePos = .ok v)
    {scope' : Scope} (hbind : bindNamespace scope none v start = .ok scope') :
    checkAttrs decls start seen scope kept (a :: rest) =
      checkAttrs decls start (a.name :: seen) scope' kept rest := by
  rw [checkAttrs.eq_2, hseen, hv]
  simp [hname, hbind]

/-- A declaration of a prefix changes the scope. -/
theorem checkAttrs_declare (rest : List RawAttr) (hseen : seen.contains a.name = false)
    {p : String} (hsplit : splitPrefix a.name = some ("xmlns", p))
    (hv : normalizeValue decls start "" a.value a.valuePos = .ok v)
    {scope' : Scope} (hbind : bindNamespace scope (some p) v start = .ok scope') :
    checkAttrs decls start seen scope kept (a :: rest) =
      checkAttrs decls start (a.name :: seen) scope' kept rest := by
  have hname : (a.name == "xmlns".toList) = false := by
    rw [beq_eq_false_iff_ne]
    intro h
    rw [h, show splitPrefix "xmlns".toList = none from rfl] at hsplit
    cases hsplit
  rw [checkAttrs.eq_2, hseen, hv]
  simp only [Bool.false_eq_true, if_false, hname, hsplit, hbind]

theorem splitPrefix_ne_xmlns {raw : List Char} (h : splitPrefix raw = none) (p : String) :
    splitPrefix raw ≠ some ("xmlns", p) := by
  rw [h]
  exact Option.some_ne_none _ ∘ Eq.symm

theorem splitPrefix_ne_xmlns_of_eq {raw : List Char} {q loc : String} (h : splitPrefix raw = some (q, loc))
    (hq : q ≠ "xmlns") (p : String) : splitPrefix raw ≠ some ("xmlns", p) := by
  rw [h]
  intro heq
  exact hq (Prod.mk.inj (Option.some.inj heq)).1

/-- Any other attribute is kept with its value. -/
theorem checkAttrs_keep (rest : List RawAttr) (hseen : seen.contains a.name = false)
    (hname : (a.name == "xmlns".toList) = false) (hsplit : ∀ p, splitPrefix a.name ≠ some ("xmlns", p))
    (hv : normalizeValue decls start "" a.value a.valuePos = .ok v) :
    checkAttrs decls start seen scope kept (a :: rest) =
      checkAttrs decls start (a.name :: seen) scope ((a.name, v) :: kept) rest := by
  rw [checkAttrs.eq_2, hseen, hv]
  -- the fallback of the prefix match is taken by `hsplit`
  simp only [Bool.false_eq_true, if_false, hname]

/-- An attribute name without a prefix names no namespace. -/
theorem resolveAttrs_plain {acc : List (QName × String)} {raw : List Char}
    (rest : List (List Char × String)) (h : splitPrefix raw = none) :
    resolveAttrs scope start acc ((raw, v) :: rest) =
      resolveAttrs scope start ((QName.plain (String.ofList raw), v) :: acc) rest := by
  rw [resolveAttrs.eq_2, h]

/-- A prefixed attribute name takes the namespace bound to its prefix. -/
theorem resolveAttrs_prefixed {acc : List (QName × String)} {raw : List Char} {p loc uri : String}
    (rest : List (List Char × String)) (h : splitPrefix raw = some (p, loc))
    (hl : scope.lookup p = some uri) (hfresh : acc.any (·.1 == ⟨some uri, loc⟩) = false) :
    resolveAttrs scope start acc ((raw, v) :: rest) =
      resolveAttrs scope start ((⟨some uri, loc⟩, v) :: acc) rest := by
  rw [resolveAttrs.eq_2, h]
  simp only [hl, hfresh, Bool.false_eq_true, if_false]

end Attrs

/-! ## Tags -/

section Tags

variable {decls : Declarations} {fuel : Nat} {c : Char} {rest more : List Char} {pos pos' : Nat}
  {tag : RawTag} {scope : Scope} {kept : List (List Char × String)} {attrs : List (QName × String)}
  {name : QName}

theorem not_markup_of_isNameStart (hc : isNameStart c = true) : c ≠ '/' ∧ c ≠ '!' ∧ c ≠ '?' := by
  refine ⟨?_, ?_, ?_⟩ <;> rintro rfl <;> simp [isNameStart] at hc

/-- The start tag of the root opens it, with the bindings it declares. -/
theorem readContent_openRoot (hc : isNameStart c = true)
    (hscan : scanTag pos [] [] (.elemName [c] 0) rest (pos + 2) = .ok (tag, more, pos'))
    (hattrs : checkAttrs decls pos [] Scope.initial [] tag.attrs = .ok (scope, kept))
    (hres : resolveAttrs scope pos [] kept = .ok attrs)
    (hname : resolveElement scope tag.name pos = .ok name) (hopen : tag.empty = false) :
    readContent decls (fuel + 1) [] [] ('<' :: c :: rest) pos =
      readContent decls fuel [⟨tag.name, name, attrs, none, #[], scope⟩] [] more pos' := by
  obtain ⟨h₁, h₂, h₃⟩ := not_markup_of_isNameStart hc
  rw [readContent.eq_12 _ _ _ _ _ _ _ h₁ h₂ h₃]
  simp [hc, flushText, hscan, hattrs, hres, hname, hopen]

/-- A start tag inside an element opens a child, in the scope of its parent. -/
theorem readContent_openChild {o : OpenElement} {outer : List OpenElement} (hc : isNameStart c = true)
    (hscan : scanTag pos [] [] (.elemName [c] 0) rest (pos + 2) = .ok (tag, more, pos'))
    (hattrs : checkAttrs decls pos [] o.scope [] tag.attrs = .ok (scope, kept))
    (hres : resolveAttrs scope pos [] kept = .ok attrs)
    (hname : resolveElement scope tag.name pos = .ok name) (hopen : tag.empty = false) :
    readContent decls (fuel + 1) (o :: outer) [] ('<' :: c :: rest) pos =
      readContent decls fuel (⟨tag.name, name, attrs, none, #[], scope⟩ :: o :: outer) [] more pos' := by
  obtain ⟨h₁, h₂, h₃⟩ := not_markup_of_isNameStart hc
  rw [readContent.eq_12 _ _ _ _ _ _ _ h₁ h₂ h₃]
  simp [hc, flushText, hscan, hattrs, hres, hname, hopen]

/-- An empty-element tag inside an element adds a finished child. -/
theorem readContent_emptyChild {o : OpenElement} {outer : List OpenElement} (hc : isNameStart c = true)
    (hscan : scanTag pos [] [] (.elemName [c] 0) rest (pos + 2) = .ok (tag, more, pos'))
    (hattrs : checkAttrs decls pos [] o.scope [] tag.attrs = .ok (scope, kept))
    (hres : resolveAttrs scope pos [] kept = .ok attrs)
    (hname : resolveElement scope tag.name pos = .ok name) (hempty : tag.empty = true) :
    readContent decls (fuel + 1) (o :: outer) [] ('<' :: c :: rest) pos =
      readContent decls fuel (addChild (o :: outer) (OpenElement.close ⟨tag.name, name, attrs, none, #[], scope⟩))
        [] more pos' := by
  obtain ⟨h₁, h₂, h₃⟩ := not_markup_of_isNameStart hc
  rw [readContent.eq_12 _ _ _ _ _ _ _ h₁ h₂ h₃]
  simp [hc, flushText, hscan, hattrs, hres, hname, hempty]

/-- The end tag of an element inside another closes it into a child of the
other. -/
theorem readContent_closeChild {o o' : OpenElement} {outer : List OpenElement} {pending : List Char}
    (hflush : flushText (o :: outer) pending = o' :: outer)
    (hend : scanEndTag pos [] .first rest (pos + 2) = .ok (o'.raw, more, pos')) (houter : outer ≠ []) :
    readContent decls (fuel + 1) (o :: outer) pending ('<' :: '/' :: rest) pos =
      readContent decls fuel (addChild outer o'.close) [] more pos' := by
  rw [readContent.eq_3]
  -- the fallback of the match on the outer elements is taken by `houter`
  simp only [hflush, hend, bne_self_eq_false, Bool.false_eq_true, if_false]

/-- The end tag of the root closes it and ends the content. -/
theorem readContent_closeRoot {o o' : OpenElement} {pending : List Char}
    (hflush : flushText [o] pending = [o'])
    (hend : scanEndTag pos [] .first rest (pos + 2) = .ok (o'.raw, more, pos')) :
    readContent decls (fuel + 1) [o] pending ('<' :: '/' :: rest) pos = .ok (o'.close, more, pos') := by
  rw [readContent.eq_3]
  simp [hflush, hend]

/-- Pending text of an element that has no text and no child yet becomes its
text; none when there is no text. -/
theorem flushText_text {o : OpenElement} {outer : List OpenElement} (s : List Char)
    (htext : o.text = none) (hchildren : o.children = #[]) :
    flushText (o :: outer) (lineFeeds s).reverse = { o with text := textRead s } :: outer := by
  by_cases hs : s = []
  · subst hs
    simp [flushText, textRead, ← htext]
  · have hl : lineFeeds s ≠ [] := fun h => hs (lineFeeds_eq_nil.mp h)
    obtain ⟨d, l, hdl⟩ : ∃ d l, (lineFeeds s).reverse = d :: l := by
      cases h : (lineFeeds s).reverse with
      | nil => exact absurd (List.reverse_eq_nil_iff.mp h) hl
      | cons d l => exact ⟨d, l, rfl⟩
    have hne : (String.ofList (lineFeeds s)).isEmpty = false := by
      simpa [String.isEmpty_iff, ← String.toList_inj] using hl
    simp only [flushText, hdl]
    rw [← hdl, List.reverse_reverse]
    simp [OpenElement.addText, hne, hchildren, htext, hs, textRead]

/-- An element inside another that holds only written character data: its
start tag, its text and its end tag are read as a child with that text, one
step for each tag and for each character read. -/
theorem readContent_textElement {o : OpenElement} {outer : List OpenElement} {raw openRest closeRest w s : List Char}
    (hc : isNameStart c = true)
    (hopen : ∀ r p, scanTag p [] [] (.elemName [c] 0) (openRest ++ r) (p + 2) =
      .ok (⟨raw, [], false⟩, r, p + 2 + openRest.length))
    (hname : ∀ p, resolveElement o.scope raw p = .ok name) (hw : Written w s) (hgt : '>' ∉ w)
    (hclose : ∀ r p, scanEndTag p [] .first (closeRest ++ r) (p + 2) = .ok (raw, r, p + 2 + closeRest.length)) :
    readContent decls (fuel + (lineFeeds s).length + 1 + 1) (o :: outer) []
        ('<' :: c :: (openRest ++ (w ++ ('<' :: '/' :: (closeRest ++ rest))))) pos =
      readContent decls fuel
        (addChild (o :: outer) (.mk name [] (textRead s) [] none))
        [] rest (pos + 2 + openRest.length + w.length + 2 + closeRest.length) := by
  -- the start tag opens the child in the scope of its parent
  rw [readContent_openChild hc (hopen _ pos) checkAttrs_nil rfl (hname pos) rfl]
  -- its text is pending when the end tag comes
  rw [Nat.add_assoc fuel, Nat.add_comm _ 1, ← Nat.add_assoc, readContent_written decls _ hw hgt,
    List.append_nil]
  -- the end tag closes it with that text
  rw [readContent_closeChild (flushText_text s rfl rfl) (hclose _ _) (List.cons_ne_nil o outer)]
  rfl

end Tags

/-! ## Documents -/

/-- A document that opens with its root element is read as the content reader
reads that element, when nothing follows it. -/
theorem readDocument_of_readContent {input : String} {c : Char} {rest : List Char} {root : Element}
    (hinput : input.toList = '<' :: c :: rest) (hc : isNameStart c = true)
    (h : ∃ pos, readContent {} (input.toList.length + 1) [] [] ('<' :: c :: rest) 0 = .ok (root, [], pos)) :
    readDocument input = .ok root := by
  obtain ⟨pos, h⟩ := h
  -- the prolog reader takes its last branch on `<` and a name start: the
  -- facts that `c` opens no other markup are in context for `simp`
  obtain ⟨-, h₂, h₃⟩ := not_markup_of_isNameStart hc
  unfold readDocument
  simp only [hinput, List.length_cons] at h ⊢
  rw [readProlog.eq_def]
  simp [isXmlSpace, hc, h, readEpilog]

/-- The same for a response body. -/
theorem parseDocument_of_readContent {input : String} {c : Char} {rest : List Char} {root : Element}
    (hinput : input.toList = '<' :: c :: rest) (hc : isNameStart c = true)
    (h : ∃ pos, readContent {} (input.toList.length + 1) [] [] ('<' :: c :: rest) 0 = .ok (root, [], pos)) :
    parseDocument input = .ok root := by
  rw [parseDocument, readDocument_of_readContent hinput hc h]

end ImageCatalog.Xml
