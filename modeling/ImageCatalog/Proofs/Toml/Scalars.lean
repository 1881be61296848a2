import ImageCatalog.Toml.Reader

/-!
# Reading back written values

The reader walks a document by position, so every lemma here is stated at the
position `P.length` of a text `P ++ written ++ rest`: what comes before does
not matter, and what comes after matters only through its first character.
The lemma for one item is then used again for the next one, with the item
moved into `P`.

The leaves come first: the characters at a position, runs of characters, and
patterns. Then the three kinds of value a setting holds, each as it is
written in a line, followed by a line end.

* `readValue_str`: a text in double quotes, with every character written by
  `escapeChar` (`readBasicFrom_written` for the body, one character at a time:
  a plain run, or an escape read by `readEscape_written`).
* `readValue_int`: an integer as `toString` writes it. It is no date
  (`matchMoment_int`) and no time (`matchTime_int`), its digits end at the line
  end (`matchNumber_int`), and `integerValue` gives it back
  (`integerValue_toString`).
* `readValue_bool`: `true` and `false`.
-/

namespace ImageCatalog.Toml

/-! ## Positions, runs and patterns -/

theorem getElem?_append_toArray (P R : List Char) (i : Nat) :
    (P ++ R).toArray[P.length + i]? = R[i]? := by
  simp [List.getElem?_append_right]

theorem extract_append_toArray (P M R : List Char) :
    ((P ++ M ++ R).toArray.extract P.length (P.length + M.length)).toList = M := by
  simp

/-- The text from `start` up to a position: the end of `P`. -/
theorem slice_eq_drop (P R : List Char) {start : Nat} (hstart : start ≤ P.length) :
    slice (P ++ R).toArray start P.length = String.ofList (P.drop start) := by
  simp only [slice, List.extract_toArray, List.toList_toArray, List.extract_eq_take_drop,
    List.drop_append_of_le_length hstart]
  rw [List.take_append_of_le_length (by simp), List.take_of_length_le (by simp)]

/-- Skipping a run of characters that pass `p`, up to one that does not. -/
theorem skipWhile_run (p : Char → Bool) (P run R : List Char) (hrun : ∀ c ∈ run, p c = true)
    (hstop : ∀ c, R.head? = some c → p c = false) :
    skipWhile (P ++ run ++ R).toArray p P.length = P.length + run.length := by
  induction run generalizing P with
  | nil =>
    rw [skipWhile]
    split
    · next h =>
      cases R with
      | nil => simp at h
      | cons c R =>
        have hc : (P ++ [] ++ c :: R).toArray[P.length] = c := by simp
        rw [hc, if_neg (by simp [hstop c rfl])]
        rfl
    · rfl
  | cons c run ih =>
    have hlt : P.length < (P ++ c :: run ++ R).toArray.size := by simp
    have hc : (P ++ c :: run ++ R).toArray[P.length] = c := by simp
    rw [skipWhile, dif_pos hlt, hc, if_pos (hrun c (by simp))]
    have := ih (P ++ [c]) (fun d hd => hrun d (by simp [hd]))
    simp only [List.append_assoc, List.cons_append, List.nil_append, List.length_append,
      List.length_cons, List.length_nil, Nat.zero_add] at this ⊢
    rw [this]
    omega

/-- A run of digits, up to a character that is neither a digit nor an underscore. -/
theorem digitRunFrom_run (P ds R : List Char) (hds : ∀ c ∈ ds, c.isDigit = true)
    (hstop : ∀ c, R.head? = some c → c.isDigit = false ∧ c ≠ '_') :
    digitRunFrom (P ++ ds ++ R).toArray Char.isDigit P.length = P.length + ds.length := by
  induction ds generalizing P with
  | nil =>
    rw [digitRunFrom]
    split
    · next h =>
      cases R with
      | nil => simp at h
      | cons c R =>
        have hc : (P ++ [] ++ c :: R).toArray[P.length] = c := by simp
        obtain ⟨hd, hu⟩ := hstop c rfl
        rw [hc, if_neg (by simp [hd]), if_neg (by simp [hu])]
        rfl
    · rfl
  | cons c ds ih =>
    have hlt : P.length < (P ++ c :: ds ++ R).toArray.size := by simp
    have hc : (P ++ c :: ds ++ R).toArray[P.length] = c := by simp
    rw [digitRunFrom, dif_pos hlt, hc, if_pos (hds c (by simp))]
    have := ih (P ++ [c]) (fun d hd => hds d (by simp [hd]))
    simp only [List.append_assoc, List.cons_append, List.nil_append, List.length_append,
      List.length_cons, List.length_nil, Nat.zero_add] at this ⊢
    rw [this]
    omega

theorem startsAt_append (P R : List Char) (pat : String) :
    startsAt (P ++ pat.toList ++ R).toArray P.length pat = true := by
  unfold startsAt
  rw [List.all_eq_true]
  rintro ⟨c, i⟩ hmem
  rw [List.mem_zipIdx_iff_getElem?] at hmem
  have hi : i < pat.toList.length := (List.getElem?_eq_some_iff.1 hmem).1
  simp only [beq_iff_eq]
  rw [List.append_assoc, getElem?_append_toArray, List.getElem?_append_left hi]
  exact hmem

/-- No triple quote starts where the second or third character is not a quote. -/
theorem startsAt_tripleQuote_of_ne {s : Src} {pos : Nat}
    (h : s[pos + 1]? ≠ some '"' ∨ s[pos + 2]? ≠ some '"') : startsAt s pos "\"\"\"" = false := by
  have hpat : "\"\"\"".toList.zipIdx = [('"', 0), ('"', 1), ('"', 2)] := by decide
  unfold startsAt
  rw [hpat]
  rcases h with h | h <;> simp [h]

/-! ## Texts -/

theorem escapeBasic_toList (s : String) :
    (escapeBasic s).toList = s.toList.flatMap fun c => (escapeChar c).toList := by
  have h : ∀ (l : List Char) (acc : String), (l.foldl (fun acc c => acc ++ escapeChar c) acc).toList =
      acc.toList ++ l.flatMap fun c => (escapeChar c).toList := by
    intro l
    induction l with
    | nil => simp
    | cons c l ih => intro acc; simp [ih]
  unfold escapeBasic
  simpa using h s.toList ""

/-- The four hexadecimal digits of a `\u` escape of an ASCII character, and
the number they stand for. -/
theorem hexDigits_small : ∀ n < 128,
    (List.replicate (4 - (Nat.toDigits 16 n).length) '0' ++ Nat.toDigits 16 n).length = 4 ∧
    (List.replicate (4 - (Nat.toDigits 16 n).length) '0' ++ Nat.toDigits 16 n).all isHexDigit ∧
    digitsValue 16 (List.replicate (4 - (Nat.toDigits 16 n).length) '0' ++ Nat.toDigits 16 n) = n := by
  decide +kernel

/-- A character of a basic text is written as itself, when it is neither a
quote, a backslash nor a control character, or as an escape. -/
theorem escapeChar_cases (c : Char) :
    (escapeChar c = String.singleton c ∧ c ≠ '"' ∧ c ≠ '\\' ∧ illegalInLine c = false) ∨
    ∃ rest, (escapeChar c).toList = '\\' :: rest := by
  unfold escapeChar
  split
  -- the seven characters with an escape of their own
  case h_1 | h_2 | h_3 | h_4 | h_5 | h_6 | h_7 => exact .inr ⟨_, rfl⟩
  · next h1 h2 h3 h4 h5 h6 h7 =>
    split
    · exact .inr ⟨'u' :: (Text.hexDigits 4 c.toNat).toList, by simp⟩
    · next hctl =>
      refine .inl ⟨rfl, h6, h7, ?_⟩
      simp only [illegalInLine, isControl, Bool.and_eq_false_iff]
      left
      simpa using hctl

/-- A code below 128 written as `\u` and four hexadecimal digits is read
back as its character. -/
theorem readEscape_unicode (n : Nat) (hn : n < 128) (P R : List Char) :
    readEscape (P ++ ("\\u" ++ Text.hexDigits 4 n).toList ++ R).toArray P.length false =
      .ok (P.length + ("\\u" ++ Text.hexDigits 4 n).toList.length, String.singleton (Char.ofNat n)) := by
  obtain ⟨hlen, hhex, hval⟩ := hexDigits_small n hn
  generalize hds : List.replicate (4 - (Nat.toDigits 16 n).length) '0' ++ Nat.toDigits 16 n = ds
    at hlen hhex hval
  have hlist : ("\\u" ++ Text.hexDigits 4 n).toList = '\\' :: 'u' :: ds := by
    simp [Text.hexDigits, hds]
  have hsrc : P ++ ("\\u" ++ Text.hexDigits 4 n).toList ++ R = (P ++ ['\\', 'u']) ++ ds ++ R := by
    simp [hlist]
  have hext := extract_append_toArray (P ++ ['\\', 'u']) ds R
  simp only [List.length_append, List.length_cons, List.length_nil, hlen, Nat.zero_add,
    Nat.reduceAdd] at hext
  have hu : (P ++ ['\\', 'u'] ++ ds ++ R).toArray[P.length + 1]? = some 'u' := by
    simp
  -- a code below 128 is a Unicode scalar value
  have hscalar : (decide (n ≤ 0xD7FF) || (decide (0xE000 ≤ n) && decide (n ≤ 0x10FFFF))) = true := by
    simp only [Bool.or_eq_true, decide_eq_true_eq]
    omega
  rw [hsrc, hlist]
  simp only [readEscape, readHexChar, Bool.false_and, Bool.false_eq_true, if_false, hu,
    Nat.add_assoc, Nat.reduceAdd, hext, hlen, hhex, hval]
  simp [hscalar, pure, Except.pure, hlen]

/-- An escape is read as the character it stands for. -/
theorem readEscape_written (c : Char) (hc : (escapeChar c).toList.head? = some '\\') (P R : List Char) :
    readEscape (P ++ (escapeChar c).toList ++ R).toArray P.length false =
      .ok (P.length + (escapeChar c).toList.length, String.singleton c) := by
  unfold escapeChar at hc ⊢
  split at hc
  case h_8 h1 h2 h3 h4 h5 h6 h7 =>
    by_cases hctl : (decide (c.toNat < 32) || c.toNat == 127) = true
    · -- a control character, written as `\u` and four hexadecimal digits
      rw [if_pos hctl] at hc ⊢
      have hsmall : c.toNat < 128 := by
        simp only [Bool.or_eq_true, decide_eq_true_eq, beq_iff_eq] at hctl
        omega
      rw [readEscape_unicode c.toNat hsmall, Char.ofNat_toNat]
    · rw [if_neg hctl] at hc
      simp at hc
      exact absurd hc.symm (Ne.symm h7)
  all_goals simp [readEscape, pure, Except.pure]

/-! ### The loop over a basic text

One lemma for each thing a step of `readBasicFrom` can meet on a one-line
text: the closing quote, a plain character, an escape. -/

theorem readBasicFrom_close {s : Src} {pos : Nat} (hq : s[pos]? = some '"') (fuel start : Nat)
    (acc : String) :
    readBasicFrom s false (fuel + 1) pos start acc = .ok (pos + 1, acc ++ slice s start pos) := by
  rw [readBasicFrom, hq]
  rfl

theorem readBasicFrom_plain {s : Src} {pos : Nat} {c : Char} (hc : s[pos]? = some c) (hq : c ≠ '"')
    (hb : c ≠ '\\') (hill : illegalInLine c = false) (fuel start : Nat) (acc : String) :
    readBasicFrom s false (fuel + 1) pos start acc = readBasicFrom s false fuel (pos + 1) start acc := by
  rw [readBasicFrom, hc]
  simp [hq, hb, hill]

theorem readBasicFrom_escape {s : Src} {pos p : Nat} {e : String} (hb : s[pos]? = some '\\')
    (he : readEscape s pos false = .ok (p, e)) (fuel start : Nat) (acc : String) :
    readBasicFrom s false (fuel + 1) pos start acc =
      readBasicFrom s false fuel p p (acc ++ slice s start pos ++ e) := by
  rw [readBasicFrom, hb]
  simp [he, bind, Except.bind]

/-- The body of a basic text, up to its closing quote: every character as
`escapeChar` writes it. The induction is on the characters; the plain run
since `start` is taken into `acc` at each escape and at the end. -/
theorem readBasicFrom_written (cs P post : List Char) (start : Nat) (acc : String) (fuel : Nat)
    (hstart : start ≤ P.length) (hfuel : (cs.flatMap fun c => (escapeChar c).toList).length < fuel) :
    readBasicFrom (P ++ (cs.flatMap fun c => (escapeChar c).toList) ++ '"' :: post).toArray false fuel
        P.length start acc =
      .ok (P.length + (cs.flatMap fun c => (escapeChar c).toList).length + 1,
        acc ++ String.ofList (P.drop start ++ cs)) := by
  induction cs generalizing P start acc fuel with
  | nil =>
    obtain ⟨fuel, rfl⟩ : ∃ f, fuel = f + 1 := ⟨fuel - 1, by simp at hfuel; omega⟩
    have hq : (P ++ [] ++ '"' :: post).toArray[P.length]? = some '"' := by simp
    simp only [List.flatMap_nil] at hq ⊢
    rw [readBasicFrom_close hq]
    simp [slice_eq_drop _ _ hstart]
  | cons c cs ih =>
    obtain ⟨fuel, rfl⟩ : ∃ f, fuel = f + 1 := ⟨fuel - 1, by simp at hfuel; omega⟩
    simp only [List.flatMap_cons, List.length_append] at hfuel ⊢
    rcases escapeChar_cases c with ⟨hplain, hq, hb, hill⟩ | ⟨rest, hrest⟩
    · -- a character written as itself extends the plain run
      have hc : (P ++ ((escapeChar c).toList ++ (cs.flatMap fun c => (escapeChar c).toList)) ++
          '"' :: post).toArray[P.length]? = some c := by
        simp [hplain]
      rw [readBasicFrom_plain hc hq hb hill]
      have hone : (escapeChar c).toList.length = 1 := by simp [hplain]
      have := ih (P ++ [c]) start acc fuel (by simp; omega) (by omega)
      simp only [hplain, String.toList_singleton, List.append_assoc, List.length_append,
        List.length_singleton, List.cons_append] at this ⊢
      rw [this, List.drop_append_of_le_length hstart]
      simp only [List.append_assoc, List.singleton_append]
      congr 2
      omega
    · -- an escape is read as the character it stands for, and a new run starts after it
      have hbs : (P ++ ((escapeChar c).toList ++ (cs.flatMap fun c => (escapeChar c).toList)) ++
          '"' :: post).toArray[P.length]? = some '\\' := by
        simp [hrest]
      have hread := readEscape_written c (by rw [hrest]; rfl) P
        ((cs.flatMap fun c => (escapeChar c).toList) ++ '"' :: post)
      simp only [List.append_assoc] at hread hbs ⊢
      rw [readBasicFrom_escape hbs hread, slice_eq_drop _ _ hstart]
      have hlong : 1 ≤ (escapeChar c).toList.length := by rw [hrest]; simp
      have := ih (P ++ (escapeChar c).toList) (P ++ (escapeChar c).toList).length
        (acc ++ String.ofList (P.drop start) ++ String.singleton c) fuel (Nat.le_refl _) (by omega)
      simp only [List.length_append, List.append_assoc] at this ⊢
      have hnil : (P ++ (escapeChar c).toList).drop (P.length + (escapeChar c).toList.length) = [] :=
        List.drop_of_length_le (by simp)
      rw [this, hnil]
      simp only [List.nil_append, Nat.add_assoc, Except.ok.injEq, Prod.mk.injEq, true_and]
      apply String.toList_injective
      simp

/-- No character is written with a carriage return. -/
theorem cr_not_mem_escapeChar (c : Char) : '\r' ∉ (escapeChar c).toList := by
  unfold escapeChar
  split
  any_goals decide
  next h1 h2 h3 h4 h5 h6 h7 =>
  split
  · next hctl =>
    have hsmall : c.toNat < 128 := by
      simp only [Bool.or_eq_true, decide_eq_true_eq, beq_iff_eq] at hctl
      omega
    have hhex := (hexDigits_small c.toNat hsmall).2.1
    intro hmem
    simp only [Text.hexDigits, String.toList_append, String.toList_ofList] at hmem
    rcases List.mem_append.1 hmem with hmem | hmem
    · revert hmem; decide
    · exact absurd (List.all_eq_true.1 hhex _ hmem) (by decide)
  · simpa using fun h => h5 h.symm

/-- A written text does not start with a quote: the body of `""` is empty,
and no other body starts a triple quote. -/
theorem escaped_head_ne_quote (str : String) :
    (str.toList.flatMap fun c => (escapeChar c).toList).head? ≠ some '"' := by
  cases str.toList with
  | nil => simp
  | cons c cs =>
    rcases escapeChar_cases c with ⟨hplain, hq, -, -⟩ | ⟨rest, hrest⟩
    · simp [hplain, hq]
    · simp [hrest]

/-- A text in double quotes, with its characters escaped, is read back. -/
theorem readValue_str (str : String) (P R : List Char) (fuel : Nat) :
    readValue (P ++ ("\"" ++ escapeBasic str ++ "\"").toList ++ '\n' :: R).toArray (fuel + 1) P.length =
      .ok (P.length + ("\"" ++ escapeBasic str ++ "\"").toList.length, .str str) := by
  have htext : ("\"" ++ escapeBasic str ++ "\"").toList =
      '"' :: (str.toList.flatMap fun c => (escapeChar c).toList) ++ ['"'] := by
    simp [escapeBasic_toList]
  rw [htext]
  generalize hE : (str.toList.flatMap fun c => (escapeChar c).toList) = E
  have hhead : E.head? ≠ some '"' := hE ▸ escaped_head_ne_quote str
  have hsrc : P ++ ('"' :: E ++ ['"']) ++ '\n' :: R = (P ++ ['"']) ++ E ++ '"' :: '\n' :: R := by simp
  have h0 : ((P ++ ['"']) ++ E ++ '"' :: '\n' :: R).toArray[P.length]? = some '"' := by simp
  -- an empty text is followed by its closing quote and the line end, a longer
  -- one starts with a character other than a quote: no triple quote opens it
  have hthree : startsAt ((P ++ ['"']) ++ E ++ '"' :: '\n' :: R).toArray P.length "\"\"\"" = false := by
    apply startsAt_tripleQuote_of_ne
    cases E with
    | nil => exact .inr (by simp)
    | cons e E => exact .inl (by simpa using hhead)
  have hbody := readBasicFrom_written str.toList (P ++ ['"']) ('\n' :: R) (P ++ ['"']).length ""
    ((P ++ ['"']) ++ E ++ '"' :: '\n' :: R).toArray.size.succ (Nat.le_refl _) (by rw [hE]; simp; omega)
  rw [hE] at hbody
  rw [hsrc, readValue, h0]
  simp only [hthree, Bool.false_eq_true, if_false, readBasic]
  simp only [List.length_append, List.length_singleton] at hbody ⊢
  rw [hbody]
  simp [Functor.map, Except.map]
  omega

/-! ## Integers -/

theorem ne_of_isDigit {c d : Char} (hc : c.isDigit = true) (hd : d.isDigit = false) : c ≠ d := by
  rintro rfl
  simp [hc] at hd

theorem isDigit_of_mem_toDigits_ten {m : Nat} {c : Char} (h : c ∈ Nat.toDigits 10 m) : c.isDigit = true :=
  Nat.isDigit_of_mem_toDigits (by decide) (by decide) h

/-- The decimal digits of a positive number start with a nonzero digit. -/
theorem toDigits_head_ne_zero {n : Nat} (hn : 0 < n) :
    ∃ d ds, Nat.toDigits 10 n = d :: ds ∧ d ≠ '0' := by
  induction n using Nat.base_induction 10 (by decide) with
  | single m hm =>
    refine ⟨m.digitChar, [], Nat.toDigits_of_lt_base hm, ?_⟩
    simpa using Nat.pos_iff_ne_zero.1 hn
  | digit m k hk hm ih =>
    obtain ⟨d, ds, hds, hd⟩ := ih hm
    refine ⟨d, ds ++ Nat.toDigits 10 k, ?_, hd⟩
    rw [← Nat.toDigits_append_toDigits (by decide) hm hk, hds, List.cons_append]

theorem toString_int_toList (n : Int) :
    (toString n).toList = (if n < 0 then ['-'] else []) ++ Nat.toDigits 10 n.natAbs := by
  cases n with
  | ofNat m => simp [toString, Int.repr]
  | negSucc m => simp [toString, Int.repr, Int.negSucc_lt_zero]

/-- The text of an integer starts with a minus or a digit. -/
theorem toString_int_head (n : Int) :
    ∃ c rest, (toString n).toList = c :: rest ∧ (c = '-' ∨ c.isDigit = true) := by
  rw [toString_int_toList]
  by_cases hn : n < 0
  · exact ⟨'-', Nat.toDigits 10 n.natAbs, by simp [hn], .inl rfl⟩
  · cases h : Nat.toDigits 10 n.natAbs with
    | nil => exact absurd h Nat.toDigits_ne_nil
    | cons d ds => exact ⟨d, ds, by simp [hn], .inr (isDigit_of_mem_toDigits_ten (by rw [h]; simp))⟩

theorem digit_one_to_nine {c : Char} (h : c.isDigit = true) (h0 : c ≠ '0') :
    ('1' ≤ c && c ≤ '9') = true := by
  have h0' : c.toNat ≠ 48 := fun h' => h0 (Char.toNat_inj.1 h')
  simp only [Char.isDigit, Bool.and_eq_true, decide_eq_true_eq, UInt32.le_iff_toNat_le, Char.toNat_val] at h
  simp only [Bool.and_eq_true, decide_eq_true_eq, Char.le_def, UInt32.le_iff_toNat_le, Char.toNat_val]
  simp only [Char.reduceToNat] at h ⊢
  omega

theorem isDigit_of_le {c : Char} (lo hi : Char) (hlo : '0' ≤ lo) (hhi : hi ≤ '9')
    (h : (decide (lo ≤ c) && decide (c ≤ hi)) = true) : c.isDigit = true := by
  simp only [Bool.and_eq_true, decide_eq_true_eq, Char.le_def, UInt32.le_iff_toNat_le,
    Char.toNat_val] at h hlo hhi
  simp only [Char.isDigit, Bool.and_eq_true, decide_eq_true_eq, UInt32.le_iff_toNat_le, Char.toNat_val]
  simp only [Char.reduceToNat] at hlo hhi ⊢
  omega

/-- The digits of a number without sign, up to a line end: a whole number,
with no fraction and no exponent. A leading zero stands alone. -/
theorem matchNumber_unsigned (P : List Char) (d : Char) (ds R : List Char) (hd : d.isDigit = true)
    (hd0 : d ≠ '0' ∨ ds = []) (hds : ∀ c ∈ ds, c.isDigit = true) :
    matchNumber (P ++ d :: ds ++ '\n' :: R).toArray P.length = some (P.length + 1 + ds.length, false) := by
  have hrun : digitRunFrom (P ++ d :: ds ++ '\n' :: R).toArray Char.isDigit (P.length + 1) =
      P.length + 1 + ds.length := by
    simpa using digitRunFrom_run (P ++ [d]) ds ('\n' :: R) hds (by simp)
  have h0 : (P ++ d :: ds ++ '\n' :: R).toArray[P.length]? = some d := by simp
  have hnl : (P ++ d :: ds ++ '\n' :: R).toArray[P.length + 1 + ds.length]? = some '\n' := by
    rw [show P.length + 1 + ds.length = (P ++ d :: ds).length + 0 by simp; omega]
    exact getElem?_append_toArray (P ++ d :: ds) ('\n' :: R) 0
  generalize (P ++ d :: ds ++ '\n' :: R).toArray = s at h0 hnl hrun ⊢
  have hsign : (d == '+' || d == '-') = false := by
    simp [ne_of_isDigit hd (by decide : ('+' : Char).isDigit = false),
      ne_of_isDigit hd (by decide : ('-' : Char).isDigit = false)]
  unfold matchNumber
  simp only [h0, charIs, hsign, Bool.false_eq_true, if_false]
  by_cases hz : d = '0'
  · obtain rfl : ds = [] := hd0.resolve_left (fun h => h hz)
    subst hz
    simp only [List.length_nil, Nat.add_zero] at hnl
    simp [hnl]
  · have hnz := digit_one_to_nine hd hz
    simp [hz, hnz, hrun, hnl]

/-- A minus and the digits of a positive number, up to a line end. -/
theorem matchNumber_negative (P : List Char) (d : Char) (ds R : List Char) (hd : d.isDigit = true)
    (hd0 : d ≠ '0') (hds : ∀ c ∈ ds, c.isDigit = true) :
    matchNumber (P ++ '-' :: d :: ds ++ '\n' :: R).toArray P.length =
      some (P.length + 2 + ds.length, false) := by
  have hrun : digitRunFrom (P ++ '-' :: d :: ds ++ '\n' :: R).toArray Char.isDigit (P.length + 2) =
      P.length + 2 + ds.length := by
    simpa using digitRunFrom_run (P ++ ['-', d]) ds ('\n' :: R) hds (by simp)
  have h0 : (P ++ '-' :: d :: ds ++ '\n' :: R).toArray[P.length]? = some '-' := by simp
  have h1 : (P ++ '-' :: d :: ds ++ '\n' :: R).toArray[P.length + 1]? = some d := by simp
  have hnl : (P ++ '-' :: d :: ds ++ '\n' :: R).toArray[P.length + 2 + ds.length]? = some '\n' := by
    rw [show P.length + 2 + ds.length = (P ++ '-' :: d :: ds).length + 0 by simp; omega]
    exact getElem?_append_toArray (P ++ '-' :: d :: ds) ('\n' :: R) 0
  generalize (P ++ '-' :: d :: ds ++ '\n' :: R).toArray = s at h0 h1 hnl hrun ⊢
  have hnz := digit_one_to_nine hd hd0
  unfold matchNumber
  simp [h0, h1, charIs, hd0, hnz, hrun, hnl]

/-- A guard of the option monad passes exactly when its condition holds. -/
theorem guard_option (p : Prop) [Decidable p] : (guard p : Option Unit) = if p then some () else none :=
  rfl

/-- No date starts where four digits are not followed by a dash. -/
theorem matchMoment_none {s : Src} {pos : Nat}
    (h : (∀ i < 4, charIs s (pos + i) Char.isDigit = true) → s[pos + 4]? ≠ some '-') :
    matchMoment s pos = none := by
  unfold matchMoment
  simp only [↓guard_option]
  by_cases h4 : ((List.range 4).all fun i => charIs s (pos + i) Char.isDigit) = true
  · have hdash := h fun i hi => List.all_eq_true.1 h4 i (List.mem_range.2 hi)
    simp [h4, hdash]
  · simp [h4]

theorem twoDigits_digits {s : Src} {pos : Nat} {first second : Char → Bool} {v : Nat}
    (hf : ∀ c, first c = true → c.isDigit = true) (hs : ∀ c, second c = true → c.isDigit = true)
    (h : twoDigits s pos first second = some v) :
    charIs s pos Char.isDigit = true ∧ charIs s (pos + 1) Char.isDigit = true := by
  unfold twoDigits at h
  split at h
  · next a b ha hb =>
    by_cases hab : (first a && second b) = true
    · rw [Bool.and_eq_true] at hab
      simp [charIs, ha, hb, hf a hab.1, hs b hab.2]
    · simp [hab] at h
  · simp at h

theorem matchHour_digits {s : Src} {pos : Nat} {v : Nat} (h : matchHour s pos = some v) :
    charIs s pos Char.isDigit = true ∧ charIs s (pos + 1) Char.isDigit = true := by
  unfold matchHour at h
  split at h
  · next v' h' =>
    refine twoDigits_digits (fun c hc => ?_) (fun c hc => hc) h'
    simp only [Bool.or_eq_true, beq_iff_eq] at hc
    rcases hc with rfl | rfl <;> rfl
  · refine twoDigits_digits (fun c hc => ?_) (fun c hc => isDigit_of_le '0' '3' (by decide) (by decide) hc) h
    simp only [beq_iff_eq] at hc
    subst hc
    rfl

/-- No time starts where two digits are not followed by a colon. -/
theorem matchTime_none {s : Src} {pos : Nat}
    (h : (∀ i < 2, charIs s (pos + i) Char.isDigit = true) → s[pos + 2]? ≠ some ':') :
    matchTime s pos = none := by
  unfold matchTime
  simp only [↓guard_option]
  cases hh : matchHour s pos with
  | none => simp
  | some v =>
    obtain ⟨h0, h1⟩ := matchHour_digits hh
    have hcolon := h fun i hi => by
      rcases i with _ | _ | i
      · exact h0
      · exact h1
      · omega
    simp [hcolon]

/-- On decimal digits, `digitsValue` is the library's `Nat.ofDigitChars`. -/
theorem digitsValue_of_digits (D : List Char) (hD : ∀ c ∈ D, c.isDigit = true) :
    digitsValue 10 D = Nat.ofDigitChars 10 D 0 := by
  -- both fold the digits from the left; the induction carries any start value
  have h : ∀ (D : List Char) (init : Nat), (∀ c ∈ D, c.isDigit = true) →
      D.foldl (fun n c => n * 10 + (if c.isDigit then c.toNat - 48 else if c ≤ 'F' then c.toNat - 55
        else c.toNat - 87)) init = Nat.ofDigitChars 10 D init := by
    intro D
    induction D with
    | nil => intro init _; rfl
    | cons c D ih =>
      intro init hD
      rw [List.foldl_cons, Nat.ofDigitChars_cons, if_pos (hD c (by simp)), Nat.mul_comm,
        ih _ fun d hd => hD d (by simp [hd])]
      rfl
  unfold digitsValue
  exact h D 0 hD

theorem digitsValue_ten_toDigits (m : Nat) : digitsValue 10 (Nat.toDigits 10 m) = m := by
  rw [digitsValue_of_digits _ fun c hc => isDigit_of_mem_toDigits_ten hc, Nat.ofDigitChars_ten_toDigits]

/-- An integer is read back from the text `toString` gives it. -/
theorem integerValue_toString (n : Int) : integerValue (toString n) = n := by
  have hval := digitsValue_ten_toDigits n.natAbs
  have hdig : ∀ c ∈ Nat.toDigits 10 n.natAbs, c.isDigit = true := fun c hc => isDigit_of_mem_toDigits_ten hc
  have hkeep : (Nat.toDigits 10 n.natAbs).filter (· != '_') = Nat.toDigits 10 n.natAbs := by
    rw [List.filter_eq_self]
    intro c hc
    simpa using ne_of_isDigit (hdig c hc) (by decide : ('_' : Char).isDigit = false)
  unfold integerValue
  rw [toString_int_toList]
  by_cases hn : n < 0
  · simp only [hn, if_true, List.singleton_append, List.filter_cons, hkeep]
    simp only [bne_iff_ne, ne_eq, show ('-' : Char) ≠ '_' by decide, not_false_eq_true, if_true]
    rw [hval]
    omega
  · -- the digits alone: no base prefix and no sign can match
    simp only [hn, if_false, List.nil_append, hkeep]
    split
    · next ds h => exact absurd (hdig 'x' (by rw [h]; simp)) (by decide)
    · next ds h => exact absurd (hdig 'o' (by rw [h]; simp)) (by decide)
    · next ds h => exact absurd (hdig 'b' (by rw [h]; simp)) (by decide)
    · next ds h => exact absurd (hdig '-' (by rw [h]; simp)) (by decide)
    · next ds h => exact absurd (hdig '+' (by rw [h]; simp)) (by decide)
    · rw [hval]
      omega

/-- From the start of an integer written before a line end, a run of `k`
digits is followed by a digit or the line end. -/
theorem int_text_after_digits (n : Int) (P R : List Char) {k : Nat} (hk : 0 < k)
    (hdig : ∀ i < k, charIs (P ++ (toString n).toList ++ '\n' :: R).toArray (P.length + i) Char.isDigit = true) :
    ∃ c, (P ++ (toString n).toList ++ '\n' :: R).toArray[P.length + k]? = some c ∧
      (c.isDigit = true ∨ c = '\n') := by
  have hat : ∀ i, (P ++ (toString n).toList ++ '\n' :: R).toArray[P.length + i]? =
      ((toString n).toList ++ '\n' :: R)[i]? := by
    intro i
    rw [List.append_assoc]
    exact getElem?_append_toArray P _ i
  simp only [charIs, hat] at hdig
  rw [hat]
  rw [toString_int_toList] at hdig ⊢
  by_cases hn : n < 0
  · have := hdig 0 hk
    simp [hn] at this
  · simp only [hn, if_false, List.nil_append] at hdig ⊢
    have hD : ∀ c ∈ Nat.toDigits 10 n.natAbs, c.isDigit = true := fun c hc => isDigit_of_mem_toDigits_ten hc
    rcases Nat.lt_trichotomy k (Nat.toDigits 10 n.natAbs).length with hlt | heq | hgt
    · refine ⟨(Nat.toDigits 10 n.natAbs)[k], by simp [List.getElem?_append_left hlt], .inl (hD _ (by simp))⟩
    · exact ⟨'\n', by simp [heq], .inr rfl⟩
    · have := hdig _ hgt
      simp at this

theorem matchMoment_int (n : Int) (P R : List Char) :
    matchMoment (P ++ (toString n).toList ++ '\n' :: R).toArray P.length = none := by
  apply matchMoment_none
  intro hdig
  obtain ⟨c, hc, hcd⟩ := int_text_after_digits n P R (by decide) hdig
  rw [hc]
  rintro ⟨⟩
  revert hcd
  decide

theorem matchTime_int (n : Int) (P R : List Char) :
    matchTime (P ++ (toString n).toList ++ '\n' :: R).toArray P.length = none := by
  apply matchTime_none
  intro hdig
  obtain ⟨c, hc, hcd⟩ := int_text_after_digits n P R (by decide) hdig
  rw [hc]
  rintro ⟨⟩
  revert hcd
  decide

theorem matchNumber_int (n : Int) (P R : List Char) :
    matchNumber (P ++ (toString n).toList ++ '\n' :: R).toArray P.length =
      some (P.length + (toString n).toList.length, false) := by
  have hD : ∀ c ∈ Nat.toDigits 10 n.natAbs, c.isDigit = true := fun c hc => isDigit_of_mem_toDigits_ten hc
  rw [toString_int_toList]
  by_cases hn : n < 0
  · obtain ⟨d, ds, hds, hd0⟩ := toDigits_head_ne_zero (Int.natAbs_pos.2 (by omega) : 0 < n.natAbs)
    rw [hds] at hD
    simp only [hn, if_true, hds, List.singleton_append, List.length_cons]
    rw [matchNumber_negative P d ds R (hD d (by simp)) hd0 fun c hc => hD c (by simp [hc])]
    congr 2
    omega
  · simp only [hn, if_false, List.nil_append]
    obtain ⟨d, ds, hds⟩ : ∃ d ds, Nat.toDigits 10 n.natAbs = d :: ds := by
      cases h : Nat.toDigits 10 n.natAbs with
      | nil => exact absurd h Nat.toDigits_ne_nil
      | cons d ds => exact ⟨d, ds, rfl⟩
    -- only zero is written with a leading zero, and then alone
    have hd0 : d ≠ '0' ∨ ds = [] := by
      by_cases hz : n.natAbs = 0
      · rw [hz, Nat.toDigits_zero] at hds
        simp only [List.cons.injEq] at hds
        exact .inr hds.2.symm
      · obtain ⟨d', ds', hds', hd'⟩ := toDigits_head_ne_zero (Nat.pos_of_ne_zero hz)
        rw [hds'] at hds
        simp only [List.cons.injEq] at hds
        exact .inl (hds.1 ▸ hd')
    rw [hds] at hD ⊢
    rw [matchNumber_unsigned P d ds R (hD d (by simp)) hd0 fun c hc => hD c (by simp [hc])]
    simp only [List.length_cons]
    congr 2
    omega

theorem readScalar_int (n : Int) (P R : List Char) :
    readScalar (P ++ (toString n).toList ++ '\n' :: R).toArray P.length =
      .ok (P.length + (toString n).toList.length, .int n) := by
  have hslice : slice (P ++ (toString n).toList ++ '\n' :: R).toArray P.length
      (P.length + (toString n).toList.length) = toString n := by
    simp [slice]
  unfold readScalar
  rw [matchMoment_int, matchTime_int, matchNumber_int]
  simp only [hslice, integerValue_toString, Bool.false_eq_true, if_false]
  rfl

/-- An integer, as `toString` writes it, is read back. -/
theorem readValue_int (n : Int) (P R : List Char) (fuel : Nat) :
    readValue (P ++ (toString n).toList ++ '\n' :: R).toArray (fuel + 1) P.length =
      .ok (P.length + (toString n).toList.length, .int n) := by
  obtain ⟨c, rest, hcs, hc⟩ := toString_int_head n
  -- a minus or a digit opens no text, truth value, array or table
  have hopen : c ≠ '"' ∧ c ≠ '\'' ∧ c ≠ 't' ∧ c ≠ 'f' ∧ c ≠ '[' ∧ c ≠ '{' := by
    rcases hc with rfl | hc
    · decide
    · exact ⟨ne_of_isDigit hc (by decide), ne_of_isDigit hc (by decide), ne_of_isDigit hc (by decide),
        ne_of_isDigit hc (by decide), ne_of_isDigit hc (by decide), ne_of_isDigit hc (by decide)⟩
  obtain ⟨hq, ha, ht, hf, hb, hbr⟩ := hopen
  have h0 : (P ++ (toString n).toList ++ '\n' :: R).toArray[P.length]? = some c := by
    rw [hcs]
    simp
  have hscalar := readScalar_int n P R
  generalize (P ++ (toString n).toList ++ '\n' :: R).toArray = s at h0 hscalar ⊢
  rw [readValue, h0]
  split
  · next h => exact absurd (Option.some.inj h) hq
  · next h => exact absurd (Option.some.inj h) ha
  · next h => exact absurd (Option.some.inj h) ht
  · next h => exact absurd (Option.some.inj h) hf
  · next h => exact absurd (Option.some.inj h) hb
  · next h => exact absurd (Option.some.inj h) hbr
  · exact hscalar

/-! ## Truth values -/

/-- `true` and `false` are read back. -/
theorem readValue_bool (b : Bool) (P R : List Char) (fuel : Nat) :
    readValue (P ++ (if b then "true" else "false").toList ++ R).toArray (fuel + 1) P.length =
      .ok (P.length + (if b then "true" else "false").toList.length, .bool b) := by
  cases b with
  | true =>
    have h0 : (P ++ "true".toList ++ R).toArray[P.length]? = some 't' := by simp
    rw [if_pos rfl, readValue, h0]
    simp only [startsAt_append, if_true]
    rfl
  | false =>
    have h0 : (P ++ "false".toList ++ R).toArray[P.length]? = some 'f' := by simp
    rw [if_neg Bool.false_ne_true, readValue, h0]
    simp only [startsAt_append, if_true]
    rfl

end ImageCatalog.Toml
