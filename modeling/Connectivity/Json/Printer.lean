import Connectivity.Json.Tree
/-! JSON values as text: without blanks, or with one member to a line. What is broken has no
text. -/
namespace Connectivity.Json

def hexDigit (n : Nat) : Char := Nat.digitChar n

/-- The quote, the backslash and the control characters are escaped, all else stands for itself. -/
def escaped (c : Char) : List Char :=
  match c with
  | '"' => ['\\', '"']
  | '\\' => ['\\', '\\']
  | '\x08' => ['\\', 'b']
  | '\x0c' => ['\\', 'f']
  | '\n' => ['\\', 'n']
  | '\r' => ['\\', 'r']
  | '\t' => ['\\', 't']
  | c =>
    if c.toNat < 0x20 then ['\\', 'u', '0', '0', hexDigit (c.toNat / 16), hexDigit (c.toNat % 16)]
    else [c]

def quoted (s : String) : List Char := '"' :: s.toList.flatMap escaped ++ ['"']

mutual

def print : Json → List Char
  | .null => ['n', 'u', 'l', 'l']
  | .bool true => ['t', 'r', 'u', 'e']
  | .bool false => ['f', 'a', 'l', 's', 'e']
  | .number literal => literal
  | .string s => quoted s
  | .array [] => ['[', ']']
  | .array (v :: rest) => '[' :: v.print ++ printItems rest
  | .object [] => ['{', '}']
  | .object ((k, v) :: rest) => '{' :: quoted (k.getD "") ++ ':' :: v.print ++ printMembers rest
  | .halfPair => []
  | .broken => []

def printItems : List Json → List Char
  | [] => [']']
  | v :: rest => ',' :: v.print ++ printItems rest

def printMembers : List (Option String × Json) → List Char
  | [] => ['}']
  | (k, v) :: rest => ',' :: quoted (k.getD "") ++ ':' :: v.print ++ printMembers rest

end

def text (v : Json) : String := String.ofList v.print

/-- An object with one member to a line, indented by two blanks. Members hold no blanks. -/
def printLines : List (String × Json) → List Char
  | [] => ['{', '}']
  | first :: rest =>
    let line (m : String × Json) : List Char := ' ' :: ' ' :: quoted m.1 ++ ':' :: ' ' :: m.2.print
    '{' :: '\n' :: line first ++ rest.flatMap (fun m => ',' :: '\n' :: line m) ++ ['\n', '}']

end Connectivity.Json
