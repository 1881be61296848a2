/-!
# Decimal numbers as text

`floatText` writes a decimal number `mantissa × 10^(-scale)` as a double
precision number is written: its significant digits (at most seventeen),
positional between `1e-4` and `1e16` with at least one digit after the point,
scientific (`1e+16`, `2.5e-05`) outside that, and `inf` beyond the largest
double.
-/

namespace ImageCatalog.Text

/-- The decimal digits of a natural number. -/
def decimalDigits (n : Nat) : List Char := (toString n).toList

/-- Drops trailing zero digits, counting them. -/
def stripZeros : List Char → List Char × Nat
  | ds =>
    let kept := (ds.reverse.dropWhile (· == '0')).reverse
    (kept, ds.length - kept.length)

/-- Rounds a digit string to `keep` digits, half up; the flag tells
whether the rounding carried into a new leading digit. -/
def roundDigits (ds : List Char) (keep : Nat) : List Char × Bool :=
  let head := ds.take keep
  let up := match ds[keep]? with
    | some d => d ≥ '5'
    | none => false
  if !up then (head, false)
  else
    let n := head.foldl (fun acc d => acc * 10 + (d.toNat - 48)) 0 + 1
    let out := decimalDigits n
    if out.length > head.length then (out.take keep, true) else (out, false)

/-- The exponent of scientific notation: a sign and at least two digits. -/
def exponentText (e : Int) : String :=
  let digits := toString e.natAbs
  (if e < 0 then "-" else "+") ++ (if digits.length < 2 then "0" ++ digits else digits)

/-- The text of a decimal number `mantissa × 10^(-scale)`, as a double is
written. -/
def floatText (mantissa : Int) (scale : Nat) : String :=
  let sign := if mantissa < 0 then "-" else ""
  if mantissa == 0 then "0.0"
  else
    let raw := decimalDigits mantissa.natAbs
    -- the value is 0.raw × 10^point
    let point : Int := (raw.length : Int) - scale
    let (rounded, carried) := if raw.length > 17 then roundDigits raw 17 else (raw, false)
    let point := if carried then point + 1 else point
    let (ds, _) := stripZeros rounded
    let exp := point - 1
    if exp > 308 || (exp == 308 && String.ofList ds > "17976931348623157") then sign ++ "inf"
    else if -4 ≤ exp && exp < 16 then
      let body :=
        if point ≤ 0 then "0." ++ String.ofList (List.replicate point.natAbs '0') ++ String.ofList ds
        else if point.toNat ≥ ds.length then
          String.ofList ds ++ String.ofList (List.replicate (point.toNat - ds.length) '0') ++ ".0"
        else String.ofList (ds.take point.toNat) ++ "." ++ String.ofList (ds.drop point.toNat)
      sign ++ body
    else
      let lead := String.ofList (ds.take 1)
      let rest := String.ofList (ds.drop 1)
      sign ++ lead ++ (if rest.isEmpty then "" else "." ++ rest) ++ "e" ++ exponentText exp

end ImageCatalog.Text
