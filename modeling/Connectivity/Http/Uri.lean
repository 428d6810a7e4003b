import Connectivity.Text.Hexadecimal
import Connectivity.Text.Parts
/-! The parts of a request target: path segments and query pairs, with their escapes undone. -/
namespace Connectivity.Uri

/-- An escape that is not two hexadecimal digits stands for itself. -/
def unescape : List Char → List UInt8
  | '%' :: a :: b :: rest =>
    match Hexadecimal.digit? a, Hexadecimal.digit? b with
    | some x, some y => UInt8.ofNat (16 * x + y) :: unescape rest
    | _, _ => 37 :: unescape (a :: b :: rest)
  | c :: rest => String.utf8EncodeChar c ++ unescape rest
  | [] => []

def text? (cs : List Char) : Option String := String.fromUTF8? ⟨(unescape cs).toArray⟩

def cut (mark : Char) (cs : List Char) : List Char × List Char :=
  (cs.takeWhile (· != mark), (cs.dropWhile (· != mark)).drop 1)

/-- The path and the query of a target; a fragment is no part of either. -/
def ofTarget (target : String) : List Char × List Char := cut '?' (cut '#' target.toList).1

def segmentsBelow (base : List Char) (path : List Char) : Option (List (List Char)) :=
  if base.isPrefixOf path then
    match path.drop base.length with
    | '/' :: rest => some (splitOn '/' rest)
    | _ => none
  else none

def formText? (cs : List Char) : Option String :=
  text? (cs.map (fun c => if c = '+' then ' ' else c))

/-- The pairs of a query, in order. A text that is not one is `none`. -/
def pairs (query : List Char) : List (Option String × Option String) :=
  ((splitOn '&' query).filter (fun part => !part.isEmpty)).map (fun part =>
    let (key, value) := cut '=' part
    (formText? key, formText? value))

def flag? (pairs : List (Option String × Option String)) (name : String) : Option Bool :=
  match pairs.filter (fun p => p.1 == some name) with
  | [] => some false
  | [(_, some "true")] => some true
  | [(_, some "false")] => some false
  | _ => none

end Connectivity.Uri
