import Mathlib
import ImageCatalog.Text.Integer

/-!
# Integer literals

An integer literal is white space, an optional sign, a numeral and white space
again. A numeral is decimal digits of any script with single underscores
between them, `d (_? d)*`, and its value is its digits read in base ten. The
white space is Unicode's `White_Space`, and a literal has at most `maxDigits`
digits.

`Numeral cs ds` says that the characters `cs` are a numeral whose digits have
the values `ds`, and `IsIntegerLiteral s k` that the text `s` is a literal of
value `k`.

Main results:

* `readDigits_numeral` and `exists_numeral_of_readDigits`: the digit reader
  takes exactly the numerals, adding their digits to its accumulator in base
  ten.
* `parseInteger?_literal`: a literal reads as its numeral under its sign,
  whatever white space surrounds it; a numeral of more than `maxDigits` digits
  reads as nothing, whatever its value (`parseInteger?_numeral`).
* `parseInteger?_eq_some_iff`: a text reads as the integer `k` exactly when it
  is a literal of value `k`.
-/

namespace ImageCatalog.Text

/-! ## The grammar -/

/-- The sign a literal may start with. -/
inductive Sign where
  | unsigned
  | plus
  | minus
  deriving DecidableEq, Repr

namespace Sign

/-- How a sign is written. -/
def text : Sign → List Char
  | unsigned => []
  | plus => ['+']
  | minus => ['-']

/-- The integer a sign makes of a magnitude. -/
def apply : Sign → Nat → Int
  | minus, n => -(n : Int)
  | _, n => n

end Sign

/-- `Numeral cs ds`: the characters `cs` are decimal digits with single
underscores between them, and `ds` are the values of those digits in order. -/
inductive Numeral : List Char → List Nat → Prop
  | digit {c : Char} {v : Nat} : digitValue? c = some v → Numeral [c] [v]
  | cons {c : Char} {v : Nat} {cs : List Char} {ds : List Nat} :
      digitValue? c = some v → Numeral cs ds → Numeral (c :: cs) (v :: ds)
  | sep {c : Char} {v : Nat} {cs : List Char} {ds : List Nat} :
      digitValue? c = some v → Numeral cs ds → Numeral (c :: '_' :: cs) (v :: ds)

/-- `s` is an integer literal of value `k`: white space, a sign, a numeral of
at most `maxDigits` digits and white space, and `k` is the numeral's digits
read in base ten under the sign. -/
def IsIntegerLiteral (s : String) (k : Int) : Prop :=
  ∃ (pre : List Char) (sign : Sign) (cs : List Char) (ds : List Nat) (post : List Char),
    s.toList = pre ++ sign.text ++ cs ++ post ∧
      (∀ c ∈ pre, isWhiteSpace c = true) ∧ (∀ c ∈ post, isWhiteSpace c = true) ∧
      Numeral cs ds ∧ ds.length ≤ maxDigits ∧ k = sign.apply (Nat.ofDigits 10 ds.reverse)

/-! ## Characters -/

/-- The underscore is no digit. -/
theorem digitValue?_underscore : digitValue? '_' = none := rfl

theorem digitValue?_minus : digitValue? '-' = none := rfl

theorem digitValue?_plus : digitValue? '+' = none := rfl

theorem ne_underscore_of_digitValue? {c : Char} {v : Nat} (h : digitValue? c = some v) :
    c ≠ '_' := by
  rintro rfl
  simp [digitValue?_underscore] at h

/-- The runs of digits beyond ASCII lie clear of the white space: below the
Ogham space mark U+1680, between it and the spaces from U+2000 on, or above the
ideographic space U+3000. -/
theorem digitZeros_clear : ∀ z ∈ digitZeros.toList, z = 0x30 ∨ (0x660 ≤ z ∧ z + 10 ≤ 0x1680) ∨
    (0x1680 < z ∧ z + 10 ≤ 0x2000) ∨ 0x3000 < z := by
  decide

/-- A digit's code point: `'0'` to `'9'`, or beyond ASCII in a run of ten from
one of the zeros. -/
theorem toNat_of_digitValue? {c : Char} {v : Nat} (h : digitValue? c = some v) :
    (48 ≤ c.toNat ∧ c.toNat ≤ 57) ∨
      (0x80 ≤ c.toNat ∧ ∃ z ∈ digitZeros.toList, z ≤ c.toNat ∧ c.toNat < z + 10) := by
  simp only [digitValue?] at h
  by_cases hascii : c.toNat < 0x80
  · rw [if_pos hascii] at h
    split at h
    · next hd =>
      simp only [Char.le_def, UInt32.le_iff_toNat_le] at hd
      exact .inl hd
    · cases h
  · rw [if_neg hascii] at h
    split at h
    · next z hz =>
      exact .inr ⟨by omega, z, Array.mem_def.mp (Array.mem_of_find?_eq_some hz),
        by simpa using Array.find?_some hz⟩
    · cases h

/-- No digit is white space. -/
theorem isWhiteSpace_of_digitValue? {c : Char} {v : Nat} (h : digitValue? c = some v) :
    isWhiteSpace c = false := by
  rw [Bool.eq_false_iff]
  intro hw
  simp only [isWhiteSpace, isBlank, Bool.and_eq_true, Bool.or_eq_true, Bool.not_eq_true',
    decide_eq_true_eq, beq_iff_eq, Bool.and_eq_false_iff, decide_eq_false_iff_not] at hw
  rcases toNat_of_digitValue? h with hascii | ⟨hlarge, z, hz, hlo, hhi⟩
  · omega
  · rcases digitZeros_clear z hz with hz | hz | hz | hz <;> omega

theorem isWhiteSpace_minus : isWhiteSpace '-' = false := rfl

theorem isWhiteSpace_plus : isWhiteSpace '+' = false := rfl

/-! ## Numerals -/

namespace Numeral

variable {cs : List Char} {ds : List Nat}

/-- A numeral starts with a digit. -/
theorem head (h : Numeral cs ds) : ∃ c v rest, cs = c :: rest ∧ digitValue? c = some v := by
  cases h with
  | digit hc => exact ⟨_, _, [], rfl, hc⟩
  | cons hc _ => exact ⟨_, _, _, rfl, hc⟩
  | sep hc _ => exact ⟨_, _, _, rfl, hc⟩

/-- A numeral ends with a digit. -/
theorem last (h : Numeral cs ds) : ∃ init c v, cs = init ++ [c] ∧ digitValue? c = some v := by
  induction h with
  | digit hc => exact ⟨[], _, _, rfl, hc⟩
  | @cons c _ _ _ _ _ ih =>
    obtain ⟨init, d, w, rfl, hd⟩ := ih
    exact ⟨c :: init, d, w, rfl, hd⟩
  | @sep c _ _ _ _ _ ih =>
    obtain ⟨init, d, w, rfl, hd⟩ := ih
    exact ⟨c :: '_' :: init, d, w, rfl, hd⟩

/-- A numeral has one digit for each of its characters that is no underscore. -/
theorem length_filter (h : Numeral cs ds) : (cs.filter (· != '_')).length = ds.length := by
  induction h with
  | digit hc => simp [ne_underscore_of_digitValue? hc]
  | cons hc _ ih => simp [ne_underscore_of_digitValue? hc, ih]
  | sep hc _ ih => simp [ne_underscore_of_digitValue? hc, ih]

/-- Leading zeros before a digit make a numeral of that digit's value. -/
theorem zeros_append {c : Char} {v : Nat} (hc : digitValue? c = some v) (n : Nat) :
    Numeral (List.replicate n '0' ++ [c]) (List.replicate n 0 ++ [v]) := by
  induction n with
  | zero => exact .digit hc
  | succ n ih => exact .cons rfl ih

end Numeral

/-- Accumulating digits in base ten shifts the accumulator past them and adds
their value. -/
theorem foldl_digits (ds : List Nat) (acc : Nat) :
    ds.foldl (fun a d => a * 10 + d) acc = acc * 10 ^ ds.length + Nat.ofDigits 10 ds.reverse := by
  induction ds generalizing acc with
  | nil => simp
  | cons d ds ih =>
    rw [List.foldl_cons, ih, List.reverse_cons, Nat.ofDigits_append, Nat.ofDigits_singleton,
      List.length_reverse, List.length_cons]
    ring

/-! ## Reading numerals -/

theorem readDigits_digit {c : Char} {v : Nat} (h : digitValue? c = some v) (acc : Nat) (b : Bool)
    (rest : List Char) : readDigits acc b (c :: rest) = readDigits (acc * 10 + v) true rest := by
  simp [readDigits, ne_underscore_of_digitValue? h, h]

theorem readDigits_sep {d : Char} {v : Nat} (h : digitValue? d = some v) (acc : Nat)
    (rest : List Char) : readDigits acc true ('_' :: d :: rest) = readDigits acc false (d :: rest) := by
  simp [readDigits, h]

/-- The reader takes a numeral whole, from either state, adding its digits to
the accumulator in base ten. -/
theorem readDigits_numeral {cs : List Char} {ds : List Nat} (h : Numeral cs ds) (acc : Nat)
    (b : Bool) : readDigits acc b cs = some (ds.foldl (fun a d => a * 10 + d) acc) := by
  induction h generalizing acc b with
  | digit hc => rw [readDigits_digit hc]; rfl
  | cons hc _ ih => rw [readDigits_digit hc, ih]; rfl
  | sep hc hn ih =>
    obtain ⟨d, w, rest, rfl, hd⟩ := hn.head
    rw [readDigits_digit hc, readDigits_sep hd, ih]
    rfl

/-- What the reader has taken when it stops, by the state it started in: a
numeral, or, after a digit, nothing or an underscore and a numeral. -/
def ReadFrom (afterDigit : Bool) (cs : List Char) (ds : List Nat) : Prop :=
  Numeral cs ds ∨ (afterDigit = true ∧ (cs = [] ∧ ds = [] ∨ ∃ r, cs = '_' :: r ∧ Numeral r ds))

/-- What the reader accepts is what `ReadFrom` describes, its digits added to
the accumulator. -/
theorem readDigits_sound {acc : Nat} {b : Bool} {cs : List Char} {n : Nat}
    (h : readDigits acc b cs = some n) :
    ∃ ds, ReadFrom b cs ds ∧ n = ds.foldl (fun a d => a * 10 + d) acc := by
  fun_induction readDigits acc b cs generalizing n with
  | case1 acc =>
    cases h
    exact ⟨[], .inr ⟨rfl, .inl ⟨rfl, rfl⟩⟩, rfl⟩
  | case3 acc c hc d tail hd ih =>
    -- an underscore is taken only before a digit, and then the reader starts afresh
    obtain ⟨ds, hread | ⟨hfalse, -⟩, rfl⟩ := ih h
    · rw [beq_iff_eq] at hc
      subst hc
      exact ⟨ds, .inr ⟨rfl, .inr ⟨_, rfl, hread⟩⟩, rfl⟩
    · cases hfalse
  | case7 acc b c rest hc v hv ih =>
    obtain ⟨ds, hread, rfl⟩ := ih h
    refine ⟨v :: ds, .inl ?_, rfl⟩
    rcases hread with hnum | ⟨-, ⟨rfl, rfl⟩ | ⟨r, rfl, hnum⟩⟩
    · exact .cons hv hnum
    · exact .digit hv
    · exact .sep hv hnum
  | case2 | case4 | case5 | case6 | case8 => cases h

/-- Started afresh, the reader accepts numerals only. -/
theorem exists_numeral_of_readDigits {acc : Nat} {cs : List Char} {n : Nat}
    (h : readDigits acc false cs = some n) :
    ∃ ds, Numeral cs ds ∧ n = ds.foldl (fun a d => a * 10 + d) acc := by
  obtain ⟨ds, hnum | ⟨hfalse, -⟩, rfl⟩ := readDigits_sound h
  · exact ⟨ds, hnum, rfl⟩
  · cases hfalse

/-- A numeral reads as its value when it has at most `maxDigits` digits, and
as nothing otherwise. -/
theorem readNumeral_numeral {cs : List Char} {ds : List Nat} (h : Numeral cs ds) :
    readNumeral cs = if ds.length ≤ maxDigits then some (Nat.ofDigits 10 ds.reverse) else none := by
  rw [readNumeral, h.length_filter, readDigits_numeral h, foldl_digits]
  simp

theorem exists_numeral_of_readNumeral {cs : List Char} {n : Nat} (h : readNumeral cs = some n) :
    ∃ ds, Numeral cs ds ∧ ds.length ≤ maxDigits ∧ n = Nat.ofDigits 10 ds.reverse := by
  unfold readNumeral at h
  split at h
  · next hlen =>
    obtain ⟨ds, hnum, rfl⟩ := exists_numeral_of_readDigits h
    rw [hnum.length_filter] at hlen
    exact ⟨ds, hnum, hlen, by simp [foldl_digits]⟩
  · cases h

/-! ## Trimming -/

/-- A list is what a predicate takes from its front, what is left after the
predicate is taken from both ends, and what it takes from the back. -/
theorem eq_takeWhile_append_rdropWhile {α : Type} (p : α → Bool) (l : List α) :
    l = l.takeWhile p ++ (l.dropWhile p).rdropWhile p ++ (l.dropWhile p).rtakeWhile p := by
  rw [List.append_assoc, List.rdropWhile_append_rtakeWhile, List.takeWhile_append_dropWhile]

/-- Taking a predicate from both ends of a body between such elements leaves
the body, when it starts and ends with elements outside the predicate. -/
theorem rdropWhile_dropWhile_between {α : Type} {p : α → Bool} {pre body post : List α}
    (hpre : ∀ x ∈ pre, p x = true) (hpost : ∀ x ∈ post, p x = true)
    (hhead : ∃ a rest, body = a :: rest ∧ p a = false)
    (hlast : ∃ init z, body = init ++ [z] ∧ p z = false) :
    ((pre ++ body ++ post).dropWhile p).rdropWhile p = body := by
  obtain ⟨a, rest, hb, ha⟩ := hhead
  obtain ⟨init, z, hb', hz⟩ := hlast
  have hfront : (pre ++ body ++ post).dropWhile p = body ++ post := by
    rw [List.append_assoc, List.dropWhile_append_of_pos hpre, hb, List.cons_append,
      List.dropWhile_cons_of_neg (by simp [ha])]
  have hback : (body ++ post).reverse.dropWhile p = body.reverse := by
    rw [List.reverse_append, List.dropWhile_append_of_pos (by simpa using hpost), hb',
      List.reverse_append, List.reverse_singleton, List.singleton_append,
      List.dropWhile_cons_of_neg (by simp [hz])]
  rw [hfront, List.rdropWhile, hback, List.reverse_reverse]

/-! ## Reading literals -/

/-- The reader casts a numeral's value to an integer before it applies the
sign: it gives an integer exactly when the numeral reads. -/
theorem map_cast_eq_some {x : Option Nat} {f : Int → Int} {k : Int}
    (h : Option.map f (x >>= fun a => pure (a : Int)) = some k) : ∃ n, x = some n ∧ k = f n := by
  simp only [Option.pure_def, Option.bind_eq_bind, Option.map_bind, Function.comp_apply,
    Option.map_some] at h
  obtain ⟨n, hn, hk⟩ := Option.bind_eq_some_iff.mp h
  exact ⟨n, hn, (Option.some.inj hk).symm⟩

/-- A sign and characters that read as a numeral, between white space, make a
literal of the value read. -/
theorem isIntegerLiteral_of_read {s : String} {pre rest post : List Char} {f : Int → Int} {k : Int}
    (sign : Sign) (hs : s.toList = pre ++ (sign.text ++ rest) ++ post)
    (hpre : ∀ c ∈ pre, isWhiteSpace c = true) (hpost : ∀ c ∈ post, isWhiteSpace c = true)
    (hf : ∀ n : Nat, f n = sign.apply n)
    (h : Option.map f (readNumeral rest >>= fun a => pure (a : Int)) = some k) :
    IsIntegerLiteral s k := by
  obtain ⟨n, hn, rfl⟩ := map_cast_eq_some h
  obtain ⟨ds, hnum, hlen, rfl⟩ := exists_numeral_of_readNumeral hn
  exact ⟨pre, sign, rest, ds, post, by simpa using hs, hpre, hpost, hnum, hlen, hf _⟩

/-- A literal reads as its numeral under its sign, whatever white space
surrounds it. -/
theorem parseInteger?_literal {s : String} {pre post cs : List Char} {sign : Sign} {ds : List Nat}
    (hs : s.toList = pre ++ sign.text ++ cs ++ post)
    (hpre : ∀ c ∈ pre, isWhiteSpace c = true) (hpost : ∀ c ∈ post, isWhiteSpace c = true)
    (hnum : Numeral cs ds) : parseInteger? s = (readNumeral cs).map sign.apply := by
  obtain ⟨c, v, rest, hcs, hc⟩ := hnum.head
  obtain ⟨init, z, w, hcs', hz⟩ := hnum.last
  -- the body starts with the sign or the first digit and ends with the last digit
  have hbody : ((s.toList.dropWhile isWhiteSpace).reverse.dropWhile isWhiteSpace).reverse =
      sign.text ++ cs := by
    rw [hs, List.append_assoc pre]
    refine rdropWhile_dropWhile_between hpre hpost ?_ ⟨sign.text ++ init, z, by simp [hcs'],
      isWhiteSpace_of_digitValue? hz⟩
    cases sign with
    | unsigned => exact ⟨c, rest, hcs, isWhiteSpace_of_digitValue? hc⟩
    | plus => exact ⟨'+', cs, rfl, isWhiteSpace_plus⟩
    | minus => exact ⟨'-', cs, rfl, isWhiteSpace_minus⟩
  simp only [parseInteger?]
  rw [hbody]
  cases sign with
  | minus => cases h : readNumeral cs <;> simp [Sign.text, Sign.apply, h]
  | plus => cases h : readNumeral cs <;> simp [Sign.text, Sign.apply, h]
  | unsigned =>
    -- a digit is neither sign, so the numeral reads as it stands
    subst hcs
    simp only [Sign.text, List.nil_append]
    split
    · next heq =>
      obtain ⟨rfl, -⟩ := List.cons.inj heq
      simp [digitValue?_minus] at hc
    · next heq =>
      obtain ⟨rfl, -⟩ := List.cons.inj heq
      simp [digitValue?_plus] at hc
    · cases readNumeral (c :: rest) <;> rfl

/-- A text that reads as an integer is a literal of that value. -/
theorem isIntegerLiteral_of_parseInteger? {s : String} {k : Int} (h : parseInteger? s = some k) :
    IsIntegerLiteral s k := by
  have hsplit := eq_takeWhile_append_rdropWhile isWhiteSpace s.toList
  have hpre : ∀ c ∈ s.toList.takeWhile isWhiteSpace, isWhiteSpace c = true :=
    fun _ => List.mem_takeWhile_imp
  have hpost : ∀ c ∈ (s.toList.dropWhile isWhiteSpace).rtakeWhile isWhiteSpace,
      isWhiteSpace c = true := fun _ => List.mem_rtakeWhile_imp
  simp only [parseInteger?] at h
  rw [List.rdropWhile] at hsplit
  generalize ((s.toList.dropWhile isWhiteSpace).reverse.dropWhile isWhiteSpace).reverse = body
    at h hsplit
  -- the body is a sign and a numeral, or a numeral alone
  split at h
  · exact isIntegerLiteral_of_read .minus hsplit hpre hpost (fun _ => rfl) h
  · exact isIntegerLiteral_of_read .plus hsplit hpre hpost (fun _ => rfl) h
  · exact isIntegerLiteral_of_read .unsigned hsplit hpre hpost (fun _ => rfl) h

/-- A text reads as the integer `k` exactly when it is a literal of value `k`. -/
theorem parseInteger?_eq_some_iff (s : String) (k : Int) :
    parseInteger? s = some k ↔ IsIntegerLiteral s k := by
  refine ⟨isIntegerLiteral_of_parseInteger?, ?_⟩
  rintro ⟨pre, sign, cs, ds, post, hs, hpre, hpost, hnum, hlen, rfl⟩
  rw [parseInteger?_literal hs hpre hpost hnum, readNumeral_numeral hnum, if_pos hlen]
  rfl

/-- A text reads as nothing exactly when it is no literal. -/
theorem parseInteger?_eq_none_iff (s : String) : parseInteger? s = none ↔ ∀ k, ¬ IsIntegerLiteral s k := by
  simp only [← parseInteger?_eq_some_iff]
  cases parseInteger? s <;> simp

instance (s : String) (k : Int) : Decidable (IsIntegerLiteral s k) :=
  decidable_of_iff _ (parseInteger?_eq_some_iff s k)

example : IsIntegerLiteral "\u3000+0_4\u0085" 4 := by decide

example : ¬ IsIntegerLiteral "\u001C4" 4 := by decide

/-- A numeral alone reads as its value when it has at most `maxDigits` digits,
and as nothing otherwise. -/
theorem parseInteger?_numeral {cs : List Char} {ds : List Nat} (h : Numeral cs ds) :
    parseInteger? (String.ofList cs) =
      if ds.length ≤ maxDigits then some ((Nat.ofDigits 10 ds.reverse : Nat) : Int) else none := by
  have hs : (String.ofList cs).toList = [] ++ Sign.unsigned.text ++ cs ++ [] := by
    simp [Sign.text]
  rw [parseInteger?_literal hs (by simp) (by simp) h, readNumeral_numeral h]
  split <;> rfl

end ImageCatalog.Text
