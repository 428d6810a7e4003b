import Connectivity.Text.Hexadecimal
/-! TOML strings. Between double quotes a backslash escapes, between apostrophes it stands for
itself. Three marks in place of one allow line ends. -/
namespace Connectivity.Toml

def isPlain (c : Char) : Bool := c == '\t' || (0x20 ≤ c.toNat && c.toNat != 0x7F)

def isBlank (c : Char) : Bool := c == ' ' || c == '\t'

def skipBlanks (cs : List Char) : List Char := cs.dropWhile isBlank

def afterLineEnd? : List Char → Option (List Char)
  | '\n' :: rest => some rest
  | '\r' :: '\n' :: rest => some rest
  | _ => none

def shortEscape? : Char → Option Char
  | '"' => some '"'
  | '\\' => some '\\'
  | 'b' => some '\x08'
  | 't' => some '\t'
  | 'n' => some '\n'
  | 'f' => some '\x0c'
  | 'r' => some '\r'
  | _ => none

def ofHex? (ds : List Char) : Option Char :=
  (Hexadecimal.value? ds).bind (fun n => if n.isValidChar then some (Char.ofNat n) else none)

structure StringForm where
  mark : Char
  lines : Bool
  deriving DecidableEq, Repr

namespace StringForm

def escapes (f : StringForm) : Bool := f.mark == '"'

/-- Up to two marks may stand before the three that close the string. -/
def closing (f : StringForm) (cs : List Char) : List Char × List Char :=
  match cs with
  | a :: b :: rest =>
    if a = f.mark ∧ b = f.mark then ([a, b], rest)
    else if a = f.mark then ([a], b :: rest)
    else ([], cs)
  | [a] => if a = f.mark then ([a], []) else ([], cs)
  | [] => ([], [])

/-- The text up to the closing mark, and what follows it. After a backslash at a line end blanks and
line ends are skipped. -/
def body (f : StringForm) : Bool → List Char → Option (List Char × List Char)
  | _, [] => none
  | skipping, c :: rest =>
    let found (c : Char) (more : Option (List Char × List Char)) : Option (List Char × List Char) :=
      more.map (fun r => (c :: r.1, r.2))
    if c = '\n' then
      if skipping then body f true rest
      else if f.lines then found '\n' (body f false rest)
      else none
    else if c = '\r' then
      match rest with
      | '\n' :: rest =>
        if skipping then body f true rest
        else if f.lines then found '\n' (body f false rest)
        else none
      | _ => none
    else if skipping && isBlank c then body f true rest
    else if c = f.mark then
      if !f.lines then some ([], rest)
      else match rest with
        | a :: b :: more =>
          if a = f.mark ∧ b = f.mark then some (f.closing more)
          else found c (body f false (a :: b :: more))
        | _ => none
    else if c = '\\' ∧ f.escapes then
      match rest with
      | 'u' :: x₁ :: x₂ :: x₃ :: x₄ :: more => do
        let e ← ofHex? [x₁, x₂, x₃, x₄]
        found e (body f false more)
      | 'U' :: x₁ :: x₂ :: x₃ :: x₄ :: x₅ :: x₆ :: x₇ :: x₈ :: more => do
        let e ← ofHex? [x₁, x₂, x₃, x₄, x₅, x₆, x₇, x₈]
        found e (body f false more)
      | e :: more =>
        if f.lines && (afterLineEnd? (skipBlanks (e :: more))).isSome then body f true (e :: more)
        else do
          let e ← shortEscape? e
          found e (body f false more)
      | [] => none
    else if isPlain c then found c (body f false rest)
    else none

end StringForm

def line? (cs : List Char) : Option (List Char × List Char) :=
  match cs with
  | '"' :: rest => StringForm.body ⟨'"', false⟩ false rest
  | '\'' :: rest => StringForm.body ⟨'\'', false⟩ false rest
  | _ => none

/-- Any string, and what follows it. A line end right after three marks is left out. -/
def text? (cs : List Char) : Option (List Char × List Char) :=
  match cs with
  | '"' :: '"' :: '"' :: rest => StringForm.body ⟨'"', true⟩ false ((afterLineEnd? rest).getD rest)
  | '\'' :: '\'' :: '\'' :: rest =>
    StringForm.body ⟨'\'', true⟩ false ((afterLineEnd? rest).getD rest)
  | _ => line? cs

end Connectivity.Toml
