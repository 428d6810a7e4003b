import Connectivity.Json.Tree
import Connectivity.Text.Hexadecimal
/-! Reading JSON from text. Every reader gives what it found and what is left of the text;
nothing is left where the text stopped being JSON. -/
namespace Connectivity.Json

def isBlank (c : Char) : Bool := c == ' ' || c == '\t' || c == '\n' || c == '\r'

def skipBlanks (cs : List Char) : List Char := cs.dropWhile isBlank

/-- One unit of a string: a character, or a code unit written as four hexadecimal digits. -/
inductive StringUnit where
  | char (c : Char)
  | code (n : Nat)

def shortEscape? : Char → Option Char
  | '"' => some '"'
  | '\\' => some '\\'
  | '/' => some '/'
  | 'b' => some '\x08'
  | 'f' => some '\x0c'
  | 'n' => some '\n'
  | 'r' => some '\r'
  | 't' => some '\t'
  | _ => none

/-- The units up to the closing quote; `none` if a unit is malformed or the quote is missing. -/
def stringUnits : List Char → Option (List StringUnit × List Char)
  | [] => none
  | '"' :: rest => some ([], rest)
  | '\\' :: 'u' :: a :: b :: c :: d :: rest => do
    let n ← Hexadecimal.value? [a, b, c, d]
    let (units, rest) ← stringUnits rest
    return (.code n :: units, rest)
  | '\\' :: e :: rest => do
    let c ← shortEscape? e
    let (units, rest) ← stringUnits rest
    return (.char c :: units, rest)
  | c :: rest =>
    if c.toNat < 0x20 || c == '\\' then none
    else do
      let (units, rest) ← stringUnits rest
      return (.char c :: units, rest)

def isHighHalf (n : Nat) : Bool := 0xD800 ≤ n && n < 0xDC00
def isLowHalf (n : Nat) : Bool := 0xDC00 ≤ n && n < 0xE000

/-- A high half goes with the low half right after it; any other half is alone. -/
def joinUnits : List StringUnit → Option (List Char)
  | [] => some []
  | .char c :: rest => (joinUnits rest).map (c :: ·)
  | .code n :: rest =>
    if isLowHalf n then none
    else if isHighHalf n then
      match rest with
      | .code m :: rest =>
        if isLowHalf m then
          (joinUnits rest).map (Char.ofNat (0x10000 + (n - 0xD800) * 0x400 + (m - 0xDC00)) :: ·)
        else none
      | _ => none
    else (joinUnits rest).map (Char.ofNat n :: ·)

/-- The string after an opening quote: `none` if it is malformed; its text is `none` if half of a
pair stands alone in it. -/
def readString (cs : List Char) : Option (Option String × List Char) :=
  (stringUnits cs).map (fun r => ((joinUnits r.1).map String.ofList, r.2))

def takeDigits (cs : List Char) : List Char × List Char :=
  (cs.takeWhile Char.isDigit, cs.dropWhile Char.isDigit)

def readInteger (cs : List Char) : Option (List Char × List Char) :=
  match takeDigits cs with
  | ([], _) => none
  | ('0' :: _ :: _, _) => none
  | found => some found

def readFraction (cs : List Char) : Option (List Char × List Char) :=
  match cs with
  | '.' :: rest =>
    match takeDigits rest with
    | ([], _) => none
    | (ds, rest) => some ('.' :: ds, rest)
  | _ => some ([], cs)

def readExponent (cs : List Char) : Option (List Char × List Char) :=
  match cs with
  | e :: rest =>
    if e == 'e' || e == 'E' then
      let (sign, rest) := match rest with
        | '+' :: rest => (['+'], rest)
        | '-' :: rest => (['-'], rest)
        | _ => ([], rest)
      match takeDigits rest with
      | ([], _) => none
      | (ds, rest) => some (e :: sign ++ ds, rest)
    else some ([], cs)
  | [] => some ([], cs)

def readNumber (cs : List Char) : Option (List Char × List Char) := do
  let (sign, cs) := match cs with
    | '-' :: rest => (['-'], rest)
    | _ => ([], cs)
  let (whole, cs) ← readInteger cs
  let (fraction, cs) ← readFraction cs
  let (exponent, cs) ← readExponent cs
  return (sign ++ whole ++ fraction ++ exponent, cs)

mutual

def readValue : Nat → List Char → Json × Option (List Char)
  | 0, _ => (.broken, none)
  | fuel + 1, cs =>
    match skipBlanks cs with
    | '{' :: cs =>
      match skipBlanks cs with
      | '}' :: rest => (.object [], some rest)
      | cs =>
        let (members, rest) := readMembers fuel cs
        (.object members, rest)
    | '[' :: cs =>
      match skipBlanks cs with
      | ']' :: rest => (.array [], some rest)
      | cs =>
        let (items, rest) := readItems fuel cs
        (.array items, rest)
    | '"' :: cs =>
      match readString cs with
      | some (some s, rest) => (.string s, some rest)
      | some (none, rest) => (.halfPair, some rest)
      | none => (.broken, none)
    | 'n' :: 'u' :: 'l' :: 'l' :: rest => (.null, some rest)
    | 't' :: 'r' :: 'u' :: 'e' :: rest => (.bool true, some rest)
    | 'f' :: 'a' :: 'l' :: 's' :: 'e' :: rest => (.bool false, some rest)
    | cs =>
      match readNumber cs with
      | some (literal, rest) => (.number literal, some rest)
      | none => (.broken, none)

def readItems : Nat → List Char → List Json × Option (List Char)
  | 0, _ => ([.broken], none)
  | fuel + 1, cs =>
    match readValue fuel cs with
    | (v, none) => ([v], none)
    | (v, some cs) =>
      match skipBlanks cs with
      | ',' :: cs =>
        let (items, rest) := readItems fuel cs
        (v :: items, rest)
      | ']' :: rest => ([v], some rest)
      | _ => ([v, .broken], none)

def readMembers : Nat → List Char → List (Option String × Json) × Option (List Char)
  | 0, _ => ([(none, .broken)], none)
  | fuel + 1, cs =>
    match skipBlanks cs with
    | '"' :: cs =>
      match readString cs with
      | none => ([(none, .broken)], none)
      | some (key, cs) =>
        match skipBlanks cs with
        | ':' :: cs =>
          match readValue fuel cs with
          | (v, none) => ([(key, v)], none)
          | (v, some cs) =>
            match skipBlanks cs with
            | ',' :: cs =>
              let (members, rest) := readMembers fuel cs
              ((key, v) :: members, rest)
            | '}' :: rest => ([(key, v)], some rest)
            | _ => ([(key, v), (none, .broken)], none)
        | _ => ([(key, .broken)], none)
    | _ => ([(none, .broken)], none)

end

/-- The first value of a text and what follows it. -/
def read (cs : List Char) : Json × Option (List Char) := readValue (2 * cs.length + 2) cs

end Connectivity.Json
