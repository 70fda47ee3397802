import LiveConsole.Number.Shortest

/-! Written forms of floating-point numbers. -/
namespace LiveConsole.Number

/- How a finite number is laid out: the choice between two equally near decimals, whether a whole
number ends in `.0`, and the decimal exponents of the leading digit that are written out in full
(all of them when there is no limit). -/
structure FloatFormat where
  tie : Tie
  keepsPoint : Bool
  positional : Option (Int × Int)
  deriving DecidableEq, Repr

def plainFormat : FloatFormat := ⟨.larger, false, none⟩

def jsonFormat : FloatFormat := ⟨.even, true, some (-5, 15)⟩

def zeros (n : Nat) : String := String.ofList (List.replicate n '0')

def positionalText (keepsPoint : Bool) (digits : List Char) (point : Int) : String :=
  if point ≤ 0 then "0." ++ zeros (-point).toNat ++ String.ofList digits
  else if digits.length ≤ point.toNat then
    String.ofList digits ++ zeros (point.toNat - digits.length) ++ (if keepsPoint then ".0" else "")
  else String.ofList (digits.take point.toNat) ++ "." ++ String.ofList (digits.drop point.toNat)

def exponentText (digits : List Char) (exponent : Int) : String :=
  let fraction := digits.drop 1
  String.ofList (digits.take 1) ++ (if fraction.isEmpty then "" else "." ++ String.ofList fraction)
    ++ "e" ++ (if exponent < 0 then "-" else "+") ++ toString exponent.natAbs

def FloatFormat.magnitudeText (format : FloatFormat) (b : Binary) : String :=
  if b.significand = 0 then (if format.keepsPoint then "0.0" else "0")
  else
    let decimal := (b.shortest format.tie).trimmed
    let digits := Nat.toDigits 10 decimal.digits
    let point := digits.length + decimal.exponent
    match format.positional with
    | none => positionalText format.keepsPoint digits point
    | some (least, greatest) =>
        if least ≤ point - 1 ∧ point - 1 ≤ greatest then
          positionalText format.keepsPoint digits point
        else exponentText digits (point - 1)

def signText (negative : Bool) : String := if negative then "-" else ""

def plainText (x : Float) : String :=
  match FloatParts.of x with
  | .notANumber => "NaN"
  | .infinite negative => signText negative ++ "inf"
  | .finite negative b => signText negative ++ plainFormat.magnitudeText b

def jsonText? (x : Float) : Option String :=
  match FloatParts.of x with
  | .notANumber | .infinite _ => none
  | .finite negative b => some (signText negative ++ jsonFormat.magnitudeText b)

end LiveConsole.Number
