import ImageCatalog.Proofs.Toml.Scalars

/-!
# Key/value lines, written and read back

A line `key = value` with a key that may be written bare and a truth value,
an integer or a text (`PlainLine`), each written as TOML writes it
(`simpleText`). The strict reader reads a document of such lines back as the
table of their pairs.

* `readTable_lines`: a document of lines with distinct keys reads as the table
  of their pairs. One line is one statement (`readStatements_text`), and a
  document is read line after line (`readStatements_lines`).
-/

namespace ImageCatalog.Config

/-- A truth value, an integer or a text: the kinds of value a setting holds,
each written as one token. -/
inductive Value.Simple : Value → Prop
  | bool (b : Bool) : Value.Simple (.bool b)
  | int (n : Int) : Value.Simple (.int n)
  | str (s : String) : Value.Simple (.str s)

theorem Value.Simple.isNone_eq {v : Value} (h : v.Simple) : v.isNone = false := by
  cases h <;> rfl

end ImageCatalog.Config

namespace ImageCatalog.Toml

open ImageCatalog.Config

/-! ## Simple values -/

/-- The text of a truth value, an integer or a text in a line; the other kinds
of value are not written here. -/
def simpleText : Value → Option String
  | .bool b => some (if b then "true" else "false")
  | .int n => some (toString n)
  | .str s => some ("\"" ++ escapeBasic s ++ "\"")
  | _ => none

/-- The inline text of each kind of simple value. -/
inductive InlineForm : Value → String → Prop
  | bool (b : Bool) : InlineForm (.bool b) (if b then "true" else "false")
  | int (n : Int) : InlineForm (.int n) (toString n)
  | str (s : String) : InlineForm (.str s) ("\"" ++ escapeBasic s ++ "\"")

theorem InlineForm.of_simpleText {v : Value} {t : String} (ht : simpleText v = some t) : InlineForm v t := by
  cases v <;> simp only [simpleText, reduceCtorEq, Option.some.injEq] at ht <;> subst ht
  case bool b => exact .bool b
  case int n => exact .int n
  case str s => exact .str s

theorem InlineForm.simple {v : Value} {t : String} (h : InlineForm v t) : v.Simple := by
  cases h <;> constructor

/-- Exactly the simple values have a text. -/
theorem simpleText_isSome_iff {v : Value} : (simpleText v).isSome ↔ v.Simple := by
  constructor
  · intro h
    obtain ⟨t, ht⟩ := Option.isSome_iff_exists.1 h
    exact (InlineForm.of_simpleText ht).simple
  · intro hv
    cases hv <;> rfl

/-- A simple value is read back from its text, up to the line end after it. -/
theorem readValue_simpleText {v : Value} {t : String} (ht : simpleText v = some t)
    (P R : List Char) (fuel : Nat) :
    readValue (P ++ t.toList ++ '\n' :: R).toArray (fuel + 1) P.length = .ok (P.length + t.toList.length, v) := by
  cases InlineForm.of_simpleText ht with
  | bool b => exact readValue_bool b P ('\n' :: R) fuel
  | int n => exact readValue_int n P R fuel
  | str s => exact readValue_str s P R fuel

/-- The text of a simple value starts with a character that is not a blank. -/
theorem simpleText_head {v : Value} {t : String} (ht : simpleText v = some t) :
    ∃ c rest, t.toList = c :: rest ∧ isBlank c = false := by
  cases InlineForm.of_simpleText ht with
  | bool b => cases b <;> exact ⟨_, _, rfl, rfl⟩
  | int n =>
    obtain ⟨c, rest, hcs, hc⟩ := toString_int_head n
    refine ⟨c, rest, hcs, ?_⟩
    rcases hc with rfl | hc
    · rfl
    · simp [isBlank, ne_of_isDigit hc (by decide : (' ' : Char).isDigit = false),
        ne_of_isDigit hc (by decide : ('\t' : Char).isDigit = false)]
  | str s => exact ⟨'"', (escapeBasic s).toList ++ ['"'], by simp, rfl⟩

/-- The text of a simple value holds no carriage return. -/
theorem cr_not_mem_simpleText {v : Value} {t : String} (ht : simpleText v = some t) :
    '\r' ∉ t.toList := by
  cases InlineForm.of_simpleText ht with
  | bool b => cases b <;> decide
  | int n =>
    rw [toString_int_toList]
    intro hmem
    rcases List.mem_append.1 hmem with hmem | hmem
    · split at hmem <;> simp at hmem
    · exact absurd (isDigit_of_mem_toDigits_ten hmem) (by decide)
  | str s =>
    simp only [String.toList_append, escapeBasic_toList, List.mem_append, List.mem_flatMap, not_or]
    refine ⟨⟨by decide, ?_⟩, by decide⟩
    rintro ⟨c, -, hc⟩
    exact cr_not_mem_escapeChar c hc

theorem isContainer_simple {v : Value} (hv : v.Simple) : isContainer v = false := by
  cases hv <;> rfl

/-! ## Keys -/

/-- A key that may be written bare. -/
def IsBareKey (k : String) : Prop := k.toList ≠ [] ∧ ∀ c ∈ k.toList, isBareKeyChar c = true

theorem isBlank_of_isBareKeyChar {c : Char} (h : isBareKeyChar c = true) : isBlank c = false := by
  cases hb : isBlank c
  · rfl
  · simp only [isBlank, Bool.or_eq_true, beq_iff_eq] at hb
    rcases hb with rfl | rfl <;> simp [isBareKeyChar] at h

/-- A bare key, followed by a blank and an equals sign. -/
theorem readKey_bare {k : String} (hk : IsBareKey k) (P R : List Char) :
    readKey (P ++ k.toList ++ ' ' :: '=' :: R).toArray P.length = .ok (P.length + k.toList.length + 1, [k]) := by
  obtain ⟨hne, hbare⟩ := hk
  obtain ⟨c, cs, hcs⟩ : ∃ c cs, k.toList = c :: cs := List.exists_cons_of_ne_nil hne
  have h0 : (P ++ k.toList ++ ' ' :: '=' :: R).toArray[P.length]? = some c := by
    rw [hcs]
    simp
  have hend := skipWhile_run isBareKeyChar P k.toList (' ' :: '=' :: R) hbare (by simp [isBareKeyChar])
  have hsp := skipWhile_run isBlank (P ++ k.toList) [' '] ('=' :: R) (by simp [isBlank]) (by simp [isBlank])
  have hslice : slice (P ++ k.toList ++ ' ' :: '=' :: R).toArray P.length (P.length + k.toList.length) = k := by
    simp [slice]
  have heq : (P ++ k.toList ++ ' ' :: '=' :: R).toArray[P.length + k.toList.length + 1]? = some '=' := by
    have := getElem?_append_toArray (P ++ k.toList ++ [' ']) ('=' :: R) 0
    simp only [List.append_assoc, List.length_append, List.length_singleton, List.singleton_append,
      Nat.add_zero, List.getElem?_cons_zero] at this
    rw [List.append_assoc, Nat.add_assoc]
    exact this
  simp only [List.append_assoc, List.length_append, List.singleton_append] at hsp
  simp only [List.append_assoc] at hend hslice heq h0 ⊢
  generalize (P ++ (k.toList ++ ' ' :: '=' :: R)).toArray = s at hend hsp hslice heq h0 ⊢
  have hc : isBareKeyChar c = true := hbare c (by simp [hcs])
  unfold readKey readKeyPart
  simp only [h0, hc, if_true, hend, hslice, pure, Except.pure, bind, Except.bind]
  -- after the key and its blank comes the equals sign, not a dot
  rw [hsp, readKeyRest]
  simp [heq, pure, Except.pure]

/-! ## Lines -/

/-- A key/value line: a key written bare, and a truth value, an integer or a
text in its written form. -/
structure PlainLine where
  key : String
  value : Value
  inline : String
  bare : IsBareKey key
  written : simpleText value = some inline

namespace PlainLine

theorem simple (l : PlainLine) : l.value.Simple :=
  (InlineForm.of_simpleText l.written).simple

/-- The line without its line end. -/
def body (l : PlainLine) : String := l.key ++ " = " ++ l.inline

/-- The text of the line, with its line end. -/
def text (l : PlainLine) : String := l.body ++ "\n"

/-- The entry the line gives a table. -/
def pair (l : PlainLine) : String × Value := (l.key, l.value)

theorem text_toList (l : PlainLine) : l.text.toList = l.body.toList ++ ['\n'] := by
  simp [text]

/-- A key, an equals sign and a value: the pair of a line, read up to its line end. -/
theorem readPair_body (l : PlainLine) (P R : List Char) (fuel : Nat) :
    readPair (P ++ l.body.toList ++ '\n' :: R).toArray (fuel + 2) P.length =
      .ok (P.length + l.body.toList.length, [l.key], l.value) := by
  obtain ⟨c, rest, hc, hcb⟩ := simpleText_head l.written
  have hsrc : P ++ l.body.toList ++ '\n' :: R =
      P ++ l.key.toList ++ ' ' :: '=' :: (' ' :: l.inline.toList ++ '\n' :: R) := by
    simp [body]
  have hkey := readKey_bare l.bare P (' ' :: l.inline.toList ++ '\n' :: R)
  have heq : (P ++ l.key.toList ++ ' ' :: '=' :: (' ' :: l.inline.toList ++ '\n' :: R)).toArray[P.length +
      l.key.toList.length + 1]? = some '=' := by
    have := getElem?_append_toArray (P ++ l.key.toList ++ [' ']) ('=' :: ' ' :: l.inline.toList ++ '\n' :: R) 0
    simp only [List.append_assoc, List.length_append, List.length_singleton, Nat.add_zero,
      List.getElem?_cons_zero, List.cons_append] at this ⊢
    rw [Nat.add_assoc]
    exact this
  have hsp := skipWhile_run isBlank (P ++ l.key.toList ++ [' ', '=']) [' '] (l.inline.toList ++ '\n' :: R)
    (by simp [isBlank]) (by rw [hc]; simpa using hcb)
  have hval := readValue_simpleText l.written (P ++ l.key.toList ++ [' ', '=', ' ']) R fuel
  rw [hsrc]
  simp only [List.append_assoc, List.cons_append, List.nil_append, List.length_append,
    List.length_cons, List.length_nil, Nat.zero_add, Nat.reduceAdd] at hkey heq hsp hval ⊢
  rw [readPair]
  simp only [hkey, bind, Except.bind, heq, bne_self_eq_false, Bool.false_eq_true, if_false]
  rw [show P.length + l.key.toList.length + 1 + 1 = P.length + (l.key.toList.length + 2) by omega, hsp,
    show P.length + (l.key.toList.length + 2) + 1 = P.length + (l.key.toList.length + 3) by omega, hval]
  simp only [pure, Except.pure, Except.ok.injEq, Prod.mk.injEq, and_true]
  simp [body]
  omega

end PlainLine

/-- A new key at the top of a document with no header goes at the end of the root table. -/
theorem assign_new (d : Progress) (hh : d.header = []) (p : Nat) (k : String) {v : Value}
    (hv : isContainer v = false) (hk : d.root.lookup k = none) :
    d.assign p [k] v = .ok { d with root := d.root ++ [(k, v)] } := by
  simp [Progress.assign, hh, Marks.has, Table.updateAt, Table.addEntry, hk, hv, pure, Except.pure,
    bind, Except.bind]

/-- A key/value statement at a key character: the pair is read and assigned,
and the blanks after it are skipped. -/
theorem statement_pair {s : Src} {fuel pos p : Nat} {c : Char} {key : List String} {v : Value}
    {d d' : Progress} (hc : isBareKeyChar c = true) (hpair : readPair s fuel pos = .ok (p, key, v))
    (hassign : d.assign p key v = .ok d') :
    d.statement s fuel pos c = .ok (skipWhile s isBlank p, d') := by
  simp [Progress.statement, hc, hpair, hassign, bind, Except.bind, pure, Except.pure]

/-- One step of the statement loop over a statement that ends its line:
reading goes on after the line end. -/
theorem readStatements_step {s : Src} {fuel n pos p : Nat} {c : Char} {d d' : Progress}
    (hstart : skipWhile s isBlank pos = pos) (hc : s[pos]? = some c) (hnl : c ≠ '\n')
    (hst : d.statement s fuel pos c = .ok (p, d')) (hend : s[p]? = some '\n') :
    readStatements s fuel (n + 1) pos d = readStatements s fuel n (p + 1) d' := by
  have hhash : (some '\n' == some '#') = false := rfl
  rw [readStatements]
  simp only [hstart, hc]
  simp [hst, bind, Except.bind, skipComment, hend, hhash, pure, Except.pure]

namespace PlainLine

/-- Reading the statement of one written line: the pair joins the root table,
and reading goes on after the line end. -/
theorem readStatements_text (l : PlainLine) (P R : List Char) (fuel n : Nat) (d : Progress)
    (hh : d.header = []) (hk : d.root.lookup l.key = none) :
    readStatements (P ++ l.text.toList ++ R).toArray (fuel + 2) (n + 1) P.length d =
      readStatements (P ++ l.text.toList ++ R).toArray (fuel + 2) n (P.length + l.text.toList.length)
        { d with root := d.root ++ [l.pair] } := by
  obtain ⟨c, cs, hcs⟩ : ∃ c cs, l.key.toList = c :: cs := List.exists_cons_of_ne_nil l.bare.1
  have hc : isBareKeyChar c = true := l.bare.2 c (by simp [hcs])
  have hline : P ++ l.text.toList ++ R = P ++ l.body.toList ++ '\n' :: R := by
    simp [text_toList]
  have hlen : l.text.toList.length = l.body.toList.length + 1 := by
    simp [text_toList]
  have hpair := readPair_body l P R fuel
  have h0 : (P ++ l.body.toList ++ '\n' :: R).toArray[P.length]? = some c := by
    simp [body, hcs]
  have hstart : skipWhile (P ++ l.body.toList ++ '\n' :: R).toArray isBlank P.length = P.length := by
    simpa using skipWhile_run isBlank P [] (l.body.toList ++ '\n' :: R) (by simp)
      (by simp [body, hcs, isBlank_of_isBareKeyChar hc])
  have hnl : (P ++ l.body.toList ++ '\n' :: R).toArray[P.length + l.body.toList.length]? = some '\n' := by
    simp
  have hend : skipWhile (P ++ l.body.toList ++ '\n' :: R).toArray isBlank (P.length + l.body.toList.length) =
      P.length + l.body.toList.length := by
    simpa using skipWhile_run isBlank (P ++ l.body.toList) [] ('\n' :: R) (by simp) (by simp [isBlank])
  rw [hline, hlen]
  generalize (P ++ l.body.toList ++ '\n' :: R).toArray = s at hpair h0 hstart hnl hend ⊢
  -- the line starts with its key, so it is a statement and not an empty line
  have hkey : c ≠ '\n' := by
    rintro rfl
    simp [isBareKeyChar] at hc
  rw [readStatements_step hstart h0 hkey
    (statement_pair hc hpair (assign_new d hh _ l.key (isContainer_simple l.simple) hk)) (by rw [hend]; exact hnl),
    hend, Nat.add_assoc]
  rfl

theorem lookup_eq_none_of_not_mem {t : Table} {k : String} (h : k ∉ t.map Prod.fst) : t.lookup k = none := by
  rw [List.lookup_eq_none_iff]
  intro p hp
  rw [bne_iff_ne]
  rintro rfl
  exact h (List.mem_map_of_mem hp)

/-- Reading written lines one after the other: each pair joins the root table
in turn. The keys of the lines are new to the table and to each other. -/
theorem readStatements_lines (ls : List PlainLine) (P : List Char) (fuel n : Nat) (d : Progress)
    (hh : d.header = []) (hkeys : (d.root.map Prod.fst ++ ls.map key).Nodup) (hn : ls.length < n) :
    readStatements (P ++ (String.join (ls.map text)).toList).toArray (fuel + 2) n P.length d =
      .ok { d with root := d.root ++ ls.map pair } := by
  induction ls generalizing P d n with
  | nil =>
    obtain ⟨n, rfl⟩ : ∃ m, n = m + 1 := ⟨n - 1, by simp at hn; omega⟩
    have hend : skipWhile (P ++ []).toArray isBlank P.length = P.length := by
      simpa using skipWhile_run isBlank P [] [] (by simp) (by simp)
    have hnone : (P ++ []).toArray[P.length]? = none := by simp
    simp only [List.map_nil, String.join_nil, String.toList_empty, List.append_nil] at hend hnone ⊢
    rw [readStatements]
    simp only [hend, hnone, pure, Except.pure]
  | cons l ls ih =>
    obtain ⟨n, rfl⟩ : ∃ m, n = m + 1 := ⟨n - 1, by simp at hn; omega⟩
    have hfresh : d.root.lookup l.key = none := by
      apply lookup_eq_none_of_not_mem
      intro hmem
      simp only [List.map_cons] at hkeys
      exact (List.nodup_append.1 hkeys).2.2 _ hmem _ List.mem_cons_self rfl
    have hstep := readStatements_text l P (String.join (ls.map text)).toList fuel n d hh hfresh
    have hrest := ih (P ++ l.text.toList) n { d with root := d.root ++ [l.pair] } hh
      (by simpa [pair] using hkeys) (by simp at hn; omega)
    simp only [List.map_cons, String.join_cons, String.toList_append, ← List.append_assoc]
    rw [hstep]
    simp only [List.length_append] at hrest
    rw [hrest]
    simp

theorem cr_not_mem_text (l : PlainLine) : '\r' ∉ l.text.toList := by
  have hkey : '\r' ∉ l.key.toList := fun h => absurd (l.bare.2 _ h) (by decide)
  simp only [text, body, String.toList_append, List.mem_append, not_or]
  exact ⟨⟨⟨hkey, by decide⟩, cr_not_mem_simpleText l.written⟩, by decide⟩

theorem length_le_join (ls : List PlainLine) : ls.length ≤ (String.join (ls.map text)).toList.length := by
  induction ls with
  | nil => simp
  | cons l ls ih =>
    simp only [List.map_cons, String.join_cons, String.toList_append, List.length_append, List.length_cons]
    have : 0 < l.text.toList.length := by simp [text_toList]
    omega

end PlainLine

theorem crlfToLf_of_not_mem {l : List Char} (h : '\r' ∉ l) : crlfToLf l = l := by
  induction l with
  | nil => rfl
  | cons c l ih =>
    have hc : c ≠ '\r' := fun hc => h (hc ▸ List.mem_cons_self)
    rw [crlfToLf.eq_2 c l (fun _ h' _ => hc h'), ih fun h' => h (List.mem_cons_of_mem _ h')]

/-- A document of written lines with distinct keys reads as the table of their pairs. -/
theorem readTable_lines (ls : List PlainLine) (hkeys : (ls.map PlainLine.key).Nodup) :
    readTable (String.join (ls.map PlainLine.text)) = .ok (ls.map PlainLine.pair) := by
  -- written lines hold no carriage return, so the line ends stay as they are
  have hcr : '\r' ∉ (String.join (ls.map PlainLine.text)).toList := by
    induction ls with
    | nil => simp
    | cons l ls ih =>
      simp only [List.map_cons, String.join_cons, String.toList_append, List.mem_append, not_or]
      exact ⟨l.cr_not_mem_text, ih (List.nodup_cons.1 hkeys).2⟩
  have hlen := PlainLine.length_le_join ls
  have hrun := PlainLine.readStatements_lines ls [] (3 * (String.join (ls.map PlainLine.text)).toList.length + 1)
    ((String.join (ls.map PlainLine.text)).toList.length + 1) {} rfl (by simpa using hkeys) (by omega)
  unfold readTable
  simp only [crlfToLf_of_not_mem hcr, List.size_toArray]
  simp only [List.nil_append, List.length_nil] at hrun
  rw [show 3 * (String.join (ls.map PlainLine.text)).toList.length + 3 =
    3 * (String.join (ls.map PlainLine.text)).toList.length + 1 + 2 by omega, hrun]

end ImageCatalog.Toml
