import Connectivity.Text.Unprintable
/-! Text shown in a message: between double quotes, on one line, every character visible. -/
namespace Connectivity.Quoted

def hexDigits (n : Nat) : List Char := Nat.toDigits 16 n

def shown (c : Char) : List Char :=
  match c with
  | '"' => ['\\', '"']
  | '\\' => ['\\', '\\']
  | '\n' => ['\\', 'n']
  | '\t' => ['\\', 't']
  | '\r' => ['\\', 'r']
  | '\x00' => ['\\', '0']
  | c => if Unprintable.holds c then "\\u\x7b".toList ++ hexDigits c.toNat ++ ['}'] else [c]

def ofString (s : String) : String := String.ofList ('"' :: s.toList.flatMap shown ++ ['"'])

end Connectivity.Quoted
