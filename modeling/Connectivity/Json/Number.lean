import Connectivity.Text.DoublePrecision
/-! Which number literals are too large to be a number at all: those that a double precision number
can only render as infinite. -/
namespace Connectivity.Json.Number

structure Parts where
  whole : List Char
  fraction : List Char
  exponent : Int

def exponentValue : List Char → Int
  | '-' :: ds => -(Nat.ofDigitChars 10 ds 0 : Int)
  | '+' :: ds => Nat.ofDigitChars 10 ds 0
  | ds => Nat.ofDigitChars 10 ds 0

def parts (literal : List Char) : Parts :=
  let body := if literal.head? = some '-' then literal.drop 1 else literal
  let isMark (c : Char) : Bool := c == 'e' || c == 'E'
  let mantissa := body.takeWhile (fun c => !isMark c)
  { whole := mantissa.takeWhile (· != '.')
    fraction := (mantissa.dropWhile (· != '.')).drop 1
    exponent := exponentValue ((body.dropWhile (fun c => !isMark c)).drop 1) }

/-- The leading digits that fit 64 bits, and how many follow. -/
def significand : Nat → List Char → Nat × Nat
  | n, [] => (n, 0)
  | n, d :: ds =>
    let next := n * 10 + (d.toNat - '0'.toNat)
    if next < 0x10000000000000000 then significand next ds else (n, (d :: ds).length)

/-- The digits that fit 64 bits are scaled by a power of ten, both rounded to double precision.
Digits of the whole part that do not fit count as zeros, those of the fraction not at all. -/
def overflows (literal : List Char) : Bool :=
  let p := parts literal
  let (whole, dropped) := significand 0 p.whole
  let (mantissa, unread) := significand whole p.fraction
  let scale : Int := p.exponent + dropped + unread - p.fraction.length
  if mantissa = 0 || scale < 0 then false
  else if 308 < scale then true
  else
    DoublePrecision.infinite
      ≤ DoublePrecision.round mantissa * DoublePrecision.round (Nat.pow 10 scale.toNat)

end Connectivity.Json.Number
