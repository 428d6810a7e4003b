import Connectivity.Text.Decimal
/-! Double precision, as far as the size of numbers goes. From `infinite` on a whole number can only be
rendered as infinite. -/
namespace Connectivity.DoublePrecision

def infinite : Nat := Nat.pow 2 1024 - Nat.pow 2 970

/-- Rounded to 53 binary digits, a half going to the even neighbour. -/
def round (n : Nat) : Nat :=
  let excess := n.log2 + 1 - 53
  let unit := Nat.pow 2 excess
  let kept := n / unit
  let rest := n % unit
  let up := unit < 2 * rest || unit == 2 * rest && kept % 2 == 1
  if excess = 0 then n else (if up then kept + 1 else kept) * unit

def exceeds (digits : List Char) (exponent : Int) : Bool :=
  let significant := digits.dropWhile (· == '0')
  let magnitude := (significant.length : Int) + exponent
  if significant.isEmpty || magnitude ≤ 308 then false
  else if 310 ≤ magnitude then true
  else if 0 ≤ exponent then infinite ≤ Decimal.value significant * Nat.pow 10 exponent.toNat
  else infinite * Nat.pow 10 (-exponent).toNat ≤ Decimal.value significant

end Connectivity.DoublePrecision
