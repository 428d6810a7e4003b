import Connectivity.Text.DoublePrecision
import Connectivity.Text.Hexadecimal
import Connectivity.Toml.Tree
/-! TOML values without quotes or brackets: booleans, integers, floats, points in time. Each is one
run of characters; only a date and a time may stand on both sides of a blank. -/
namespace Connectivity.Toml

def isLexemeChar (c : Char) : Bool := c.isAlphanum || "+-._:".toList.contains c

/-- Digits in a row, where one underscore may stand between two. -/
def grouped? (isDigit : Char → Bool) : List Char → Option (List Char)
  | [] => none
  | [c] => if isDigit c then some [c] else none
  | c :: '_' :: rest => if isDigit c then (grouped? isDigit rest).map (c :: ·) else none
  | c :: rest => if isDigit c then (grouped? isDigit rest).map (c :: ·) else none

/-- Without a sign, and without a zero in front of other digits. -/
def decimal? (cs : List Char) : Option (List Char) :=
  match grouped? Char.isDigit cs with
  | some ('0' :: _ :: _) => none
  | found => found

def unsigned (cs : List Char) : Bool × List Char :=
  match cs with
  | '-' :: rest => (true, rest)
  | '+' :: rest => (false, rest)
  | _ => (false, cs)

def isOctalDigit (c : Char) : Bool := '0' ≤ c && c ≤ '7'
def isBinaryDigit (c : Char) : Bool := c == '0' || c == '1'

/-- Integers have 64 bits, one of them for the sign. -/
def bounded? (n : Int) : Option Int :=
  if -0x8000000000000000 ≤ n ∧ n < 0x8000000000000000 then some n else none

/-- Other bases than ten take no sign. -/
def integer? (cs : List Char) : Option Int :=
  match cs with
  | '0' :: 'x' :: ds =>
    ((grouped? Hexadecimal.isDigit ds).bind Hexadecimal.value?).bind (fun n => bounded? n)
  | '0' :: 'o' :: ds =>
    (grouped? isOctalDigit ds).bind (fun ds => bounded? (Nat.ofDigitChars 8 ds 0))
  | '0' :: 'b' :: ds =>
    (grouped? isBinaryDigit ds).bind (fun ds => bounded? (Nat.ofDigitChars 2 ds 0))
  | _ =>
    let (negative, ds) := unsigned cs
    (decimal? ds).bind (fun ds =>
      bounded? (if negative then -(Decimal.value ds : Int) else Decimal.value ds))

def isExponentMark (c : Char) : Bool := c == 'e' || c == 'E'

def exponent? (cs : List Char) : Option Int :=
  match cs with
  | [] => some 0
  | _ :: cs =>
    let (negative, ds) := unsigned cs
    (grouped? Char.isDigit ds).map (fun ds =>
      if negative then -(Decimal.value ds : Int) else Decimal.value ds)

def fraction? (cs : List Char) : Option (List Char) :=
  match cs with
  | [] => some []
  | _ :: ds => grouped? Char.isDigit ds

/-- A float has a point or an exponent. A positive one may not be too large. -/
def isFloat (cs : List Char) : Bool :=
  let (negative, body) := unsigned cs
  if body = "inf".toList ∨ body = "nan".toList then true
  else
    let mantissa := body.takeWhile (fun c => !isExponentMark c)
    let whole := mantissa.takeWhile (· != '.')
    match decimal? whole, fraction? (mantissa.dropWhile (· != '.')),
      exponent? (body.dropWhile (fun c => !isExponentMark c)) with
    | some ds, some fs, some e =>
      whole.length < body.length
        && (negative || !DoublePrecision.exceeds (ds ++ fs) (e - fs.length))
    | _, _, _ => false

def isPair (limit : Nat) (a b : Char) : Bool :=
  a.isDigit && b.isDigit && Decimal.value [a, b] ≤ limit

def daysIn (year month : Nat) : Nat :=
  if month = 2 then
    if year % 4 = 0 ∧ (year % 100 ≠ 0 ∨ year % 400 = 0) then 29 else 28
  else if month = 4 ∨ month = 6 ∨ month = 9 ∨ month = 11 then 30
  else 31

def afterDate? : List Char → Option (List Char)
  | y₁ :: y₂ :: y₃ :: y₄ :: '-' :: m₁ :: m₂ :: '-' :: d₁ :: d₂ :: rest =>
    let month := Decimal.value [m₁, m₂]
    let days := daysIn (Decimal.value [y₁, y₂, y₃, y₄]) month
    if [y₁, y₂, y₃, y₄].all Char.isDigit && isPair 12 m₁ m₂ && month != 0
        && isPair days d₁ d₂ && [d₁, d₂] != ['0', '0'] then some rest
    else none
  | _ => none

/-- Digits after a point divide a second; a point without digits is left. -/
def afterFraction (cs : List Char) : List Char :=
  match cs with
  | '.' :: c :: rest => if c.isDigit then rest.dropWhile Char.isDigit else cs
  | _ => cs

/-- Hour, minute and second, and what follows them. A minute may have a leap second. -/
def afterTime? : List Char → Option (List Char)
  | h₁ :: h₂ :: ':' :: m₁ :: m₂ :: ':' :: s₁ :: s₂ :: rest =>
    if isPair 23 h₁ h₂ && isPair 59 m₁ m₂ && isPair 60 s₁ s₂ then some (afterFraction rest)
    else none
  | _ => none

def isOffset : List Char → Bool
  | [] => true
  | ['Z'] => true
  | ['z'] => true
  | [sign, h₁, h₂, ':', m₁, m₂] =>
    (sign == '+' || sign == '-') && isPair 23 h₁ h₂ && isPair 59 m₁ m₂
  | _ => false

def isMoment (cs : List Char) : Bool :=
  match afterDate? cs with
  | some [] => true
  | some (mark :: rest) =>
    (mark == 'T' || mark == 't' || mark == ' ') && (afterTime? rest).any isOffset
  | none => (afterTime? cs).any List.isEmpty

def lexeme (cs : List Char) : List Char × List Char :=
  let first := cs.takeWhile isLexemeChar
  match cs.dropWhile isLexemeChar with
  | ' ' :: c :: rest =>
    if (afterDate? first).any List.isEmpty && c.isDigit then
      (first ++ ' ' :: (c :: rest).takeWhile isLexemeChar, (c :: rest).dropWhile isLexemeChar)
    else (first, ' ' :: c :: rest)
  | rest => (first, rest)

def scalar? (cs : List Char) : Option Toml :=
  if cs = "true".toList then some (.bool true)
  else if cs = "false".toList then some (.bool false)
  else if isMoment cs then some .moment
  else if isFloat cs then some .float
  else (integer? cs).map .integer

end Connectivity.Toml
