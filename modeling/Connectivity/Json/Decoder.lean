import Connectivity.Json.Number
import Connectivity.Json.Reader
/-! Reading values of a known shape from JSON. A decoder reports the fault that the text shows
first: either the text is not JSON, or it is JSON of another shape. -/
namespace Connectivity.Json

inductive Fault where
  | malformed
  | mismatched
  deriving DecidableEq, Repr

abbrev Decoder (α : Type) := Json → Except Fault α

/-- The fault of finding `v` where something else is wanted. An array or an object is not read any
further; a scalar has to be well formed first. -/
def faultOf (v : Json) : Fault :=
  match v with
  | .broken => .malformed
  | .halfPair => .malformed
  | .number literal => if Number.overflows literal then .malformed else .mismatched
  | _ => .mismatched

def decodeBool : Decoder Bool
  | .bool b => .ok b
  | v => .error v.faultOf

def decodeString : Decoder String
  | .string s => .ok s
  | v => .error v.faultOf

/-- An integer without sign, point or exponent, up to `limit`. -/
def decodeNatural (limit : Nat) : Decoder Nat
  | .number literal =>
    match (Decimal.natural? literal).filter (· ≤ limit) with
    | some n => .ok n
    | none => .error (Json.number literal).faultOf
  | v => .error v.faultOf

def decodeWord8 : Decoder UInt8 := fun v => (decodeNatural 0xFF v).map UInt8.ofNat
def decodeWord16 : Decoder UInt16 := fun v => (decodeNatural 0xFFFF v).map UInt16.ofNat
def decodeWord32 : Decoder UInt32 := fun v => (decodeNatural 0xFFFFFFFF v).map UInt32.ofNat
def decodeWord64 : Decoder UInt64 := fun v => (decodeNatural 0xFFFFFFFFFFFFFFFF v).map UInt64.ofNat

def decodeOption {α : Type} (d : Decoder α) : Decoder (Option α)
  | .null => .ok none
  | v => (d v).map some

def decodeAll {α : Type} (d : Decoder α) : List Json → Except Fault (List α)
  | [] => .ok []
  | v :: rest => do
    let a ← d v
    let as ← decodeAll d rest
    return a :: as

def decodeList {α : Type} (d : Decoder α) : Decoder (List α)
  | .array items => decodeAll d items
  | v => .error v.faultOf

/-- A name out of a list, alone or as the only key of an object, over null. -/
def decodeName {α : Type} (names : List (String × α)) : Decoder α
  | .string s =>
    match names.lookup s with
    | some a => .ok a
    | none => .error .mismatched
  | .object ((some key, v) :: rest) =>
    match names.lookup key with
    | none => .error .mismatched
    | some a =>
      match v with
      | .null => if rest.isEmpty then .ok a else .error .malformed
      | v => .error v.faultOf
  | _ => .error .malformed

/-- A field of a record and what its value has to pass. -/
structure Field where
  name : String
  check : Json → Except Fault Unit

def Field.of {α : Type} (name : String) (d : Decoder α) : Field :=
  ⟨name, fun v => (d v).map (fun _ => ())⟩

/-- The fields met in an object, in the order met. A field met twice is a fault at its second key;
what other keys hold only has to be JSON. -/
def meetMembers (fields : List Field) (met : List (String × Json)) :
    List (Option String × Json) → Except Fault (List (String × Json))
  | [] => .ok met
  | (none, _) :: _ => .error .malformed
  | (some key, v) :: rest =>
    match fields.find? (·.name == key) with
    | none => if v.isWhole then meetMembers fields met rest else .error .malformed
    | some field =>
      if (met.lookup key).isSome then .error .mismatched
      else do
        field.check v
        meetMembers fields (met ++ [(key, v)]) rest

/-- The fields met in an array, which gives them in order and may stop early. -/
def meetItems : List Field → List Json → Except Fault (List (String × Json))
  | _, [] => .ok []
  | [], _ :: _ => .error .malformed
  | field :: fields, v :: rest => do
    field.check v
    let met ← meetItems fields rest
    return (field.name, v) :: met

/-- A record is an object, or the array of its fields. -/
def meet (fields : List Field) : Json → Except Fault (List (String × Json))
  | .object members => meetMembers fields [] members
  | .array items => meetItems fields items
  | v => .error v.faultOf

def needed {α : Type} (met : List (String × Json)) (name : String) (d : Decoder α) :
    Except Fault α :=
  match met.lookup name with
  | some v => d v
  | none => .error .mismatched

def optional {α : Type} (met : List (String × Json)) (name : String) (d : Decoder α) (default : α) :
    Except Fault α :=
  match met.lookup name with
  | some v => d v
  | none => .ok default

/-- A whole text, blanks around the value aside. What is wrong with the value comes before what
follows it. -/
def decodeText {α : Type} (d : Decoder α) (text : String) : Except Fault α := do
  let (v, rest) := read text.toList
  let a ← d v
  match rest with
  | some cs => if (skipBlanks cs).isEmpty then return a else throw .malformed
  | none => throw .malformed

end Connectivity.Json
