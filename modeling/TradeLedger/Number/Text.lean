import TradeLedger.Number.Shortest
/-!
# Number text

A JSON number is the shortest decimal that reads back as the value, positional from `1e-6` to
below `1e21` and in exponent form outside (`1e-7`, `1e+21`); negative zero keeps its sign. A
fixed-point text rounds the exact value to a given number of places, ties to even.

## Main definitions

* `Float.toJsonText?`, `Float.toFixed`: the two texts.
-/

namespace TradeLedger

/-- Decisions of a printer built on the shortest digits: the exponent range (of the leading
digit) printed positionally, and the least number of exponent digits for each sign. -/
structure NumberLayout where
  positionalFrom : Int
  positionalBelow : Int
  minExpDigitsPos : Nat
  minExpDigitsNeg : Nat

/-- Text of the decimal `d` in positional notation. -/
def Digits.positional (d : Digits) : String :=
  let ds := d.digitChars
  if 0 ≤ d.exp then String.ofList (ds ++ List.replicate d.exp.toNat '0')
  else
    let frac := (-d.exp).toNat
    if frac < ds.length then
      String.ofList (ds.take (ds.length - frac) ++ '.' :: ds.drop (ds.length - frac))
    else String.ofList ('0' :: '.' :: List.replicate (frac - ds.length) '0' ++ ds)

/-- Pad a digit list on the left with zeros to at least `n` digits. -/
def padDigits (n : Nat) (ds : List Char) : List Char :=
  List.replicate (n - ds.length) '0' ++ ds

/-- Text of the decimal `d` as a leading digit, fraction and exponent. -/
def Digits.scientific (d : Digits) (layout : NumberLayout) : String :=
  let ds := d.digitChars
  let x := d.lead
  let mant := match ds with
    | [] => ['0']
    | [c] => [c]
    | c :: rest => c :: '.' :: rest
  let expDigits := Nat.toDigits 10 x.natAbs
  let expPart :=
    if x < 0 then '-' :: padDigits layout.minExpDigitsNeg expDigits
    else '+' :: padDigits layout.minExpDigitsPos expDigits
  String.ofList (mant ++ 'e' :: expPart)

namespace Binary64

/-- JSON numbers: positional for leading-digit exponents `-6` through `20`, otherwise two
exponent digits at least when positive and one when negative. -/
def jsonLayout : NumberLayout := ⟨-6, 21, 2, 1⟩

/-- Text of a value under a layout; `none` for NaN and the infinities. -/
def layoutText (layout : NumberLayout) : Binary64 → Option String
  | .nan => none
  | .infinite _ => none
  | .finite neg m e =>
    let sign := if neg then "-" else ""
    if m = 0 then some (sign ++ "0")
    else
      let d := shortest m e
      let x := d.lead
      if layout.positionalFrom ≤ x ∧ x < layout.positionalBelow then some (sign ++ d.positional)
      else some (sign ++ d.scientific layout)

/-- `m * 2 ^ e * 10 ^ places`, rounded to the nearest natural number, ties to even. -/
def scaledRound (m : Nat) (e : Int) (places : Nat) : Nat :=
  let (tn, td) := pow2Ratio e
  roundHalfEven (m * tn * Nat.pow 10 places) td

/-- Fixed-point text with `places` digits after the point. -/
def fixedText (places : Nat) : Binary64 → String
  | .nan => "NaN"
  | .infinite neg => if neg then "-Inf" else "+Inf"
  | .finite neg m e =>
    let n := scaledRound m e places
    let ds := padDigits (places + 1) (Nat.toDigits 10 n)
    let intPart := ds.take (ds.length - places)
    let frac := ds.drop (ds.length - places)
    let body := if places = 0 then String.ofList intPart
      else String.ofList (intPart ++ '.' :: frac)
    (if neg then "-" else "") ++ body

end Binary64

/-- The JSON text of a finite float; `none` for NaN and the infinities. -/
def Float.toJsonText? (x : Float) : Option String :=
  Binary64.layoutText Binary64.jsonLayout (Binary64.ofFloat x)

/-- Fixed-point text of a float with `places` digits after the point. -/
def Float.toFixed (x : Float) (places : Nat) : String :=
  Binary64.fixedText places (Binary64.ofFloat x)

end TradeLedger
