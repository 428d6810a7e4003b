import Connectivity.Text.Decimal
/-! JSON values as a text shows them. Reading a text never fails: where it stops being JSON the
value is `broken`, and nothing is read beyond that point. So whoever uses a value in the order of
the text meets its faults in that order too. -/
namespace Connectivity

/-- A number keeps its literal. A key is `none` if no text can be made of it. -/
inductive Json where
  | null
  | bool (b : Bool)
  | number (literal : List Char)
  | string (s : String)
  | array (items : List Json)
  | object (members : List (Option String × Json))
  /-- A string with an escape for one half of a surrogate pair. -/
  | halfPair
  | broken
  deriving Inhabited

namespace Json

def natural (n : Nat) : Json := .number (Decimal.digits n)

def ofOption {α : Type} (f : α → Json) : Option α → Json
  | some a => f a
  | none => .null

def record (members : List (String × Json)) : Json :=
  .object (members.map (fun m => (some m.1, m.2)))

mutual

def isWhole : Json → Bool
  | .broken => false
  | .array items => allWhole items
  | .object members => allMembersWhole members
  | _ => true

def allWhole : List Json → Bool
  | [] => true
  | v :: rest => v.isWhole && allWhole rest

def allMembersWhole : List (Option String × Json) → Bool
  | [] => true
  | (_, v) :: rest => v.isWhole && allMembersWhole rest

end

end Json

end Connectivity
