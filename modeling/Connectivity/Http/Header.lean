import Connectivity.IdSource
import Connectivity.Text.Decimal
/-! Request headers: who calls, and whether a body is JSON. -/
namespace Connectivity

abbrev Headers := List (String × String)

namespace Headers

/-- The first value under a name, whatever the case of the name. -/
def first? (h : Headers) (name : String) : Option String :=
  (h.find? (fun p => p.1.toLower == name)).map (·.2)

def isVisible (c : Char) : Bool := c == '\t' || (0x20 ≤ c.toNat && c.toNat < 0x7F)

def visible? (h : Headers) (name : String) : Option String :=
  (h.first? name).filter (fun s => s.toList.all isVisible)

end Headers

namespace MediaType

def isTokenChar (c : Char) : Bool := c.isAlphanum || "!#$%&'*+-.^_`|~".toList.contains c

def isQuotedChar (c : Char) : Bool := 0x20 ≤ c.toNat && c.toNat ≠ 0x7F

def afterQuote : List Char → Option (List Char)
  | [] => none
  | '"' :: rest => some rest
  | c :: rest => if isQuotedChar c then afterQuote rest else none

/-- What follows a quoted value and the spaces after it. The value is not empty: a quote that it
begins with belongs to it. -/
def afterQuoted : List Char → Option (List Char)
  | [] => none
  | c :: rest => if isQuotedChar c then (afterQuote rest).map (·.dropWhile (· == ' ')) else none

def areParameters : Nat → List Char → Bool
  | _, [] => true
  | 0, _ => false
  | fuel + 1, ' ' :: rest => areParameters fuel rest
  | fuel + 1, cs =>
    match cs.takeWhile isTokenChar, cs.dropWhile isTokenChar with
    | _ :: _, '=' :: '"' :: rest =>
      match afterQuoted rest with
      | some [] => true
      | some (';' :: rest) => areParameters fuel rest
      | _ => false
    | _ :: _, '=' :: rest =>
      match rest.takeWhile isTokenChar, rest.dropWhile isTokenChar with
      | _, [] => true
      | _ :: _, ';' :: rest => areParameters fuel rest
      | _, _ => false
    | _, _ => false

def equalsIgnoringCase (cs : List Char) (s : String) : Bool := cs.map Char.toLower == s.toList

/-- A subtype and the suffix after its last plus sign; a leading plus sign is part of the
subtype. -/
def splitSuffix (cs : List Char) : List Char × Option (List Char) :=
  let suffix := (cs.reverse.takeWhile (· != '+')).reverse
  let base := cs.take (cs.length - suffix.length - 1)
  if suffix.length < cs.length && !base.isEmpty then (base, some suffix) else (cs, none)

def isJson (s : String) : Bool :=
  let cs := s.toList
  match cs.dropWhile isTokenChar with
  | '/' :: rest =>
    let (base, suffix) := splitSuffix (rest.takeWhile isTokenChar)
    let tail := rest.dropWhile isTokenChar
    let closed := match tail with
      | [] => true
      | ';' :: parameters => !base.isEmpty && areParameters parameters.length parameters
      | _ => false
    closed && equalsIgnoringCase (cs.takeWhile isTokenChar) "application"
      && (equalsIgnoringCase base "json" || suffix.any (equalsIgnoringCase · "json"))
  | _ => false

end MediaType

inductive CallerFault where
  | missingToken
  | wrongToken
  | malformedUid
  deriving DecidableEq, Repr

def CallerFault.message : CallerFault → String
  | missingToken => "missing interface token"
  | wrongToken => "wrong interface token"
  | malformedUid => "malformed uid header"

def tokenHeader : String := "x-netbroker-interface"
def uidHeader : String := "x-netbroker-uid"

/-- The uid of a call that names none. -/
def anonymousUid : Uid := 0xFFFFFFFF

def isMargin (c : Char) : Bool := c == ' ' || c == '\t'

def trimmed (s : String) : String :=
  String.ofList (((s.toList.dropWhile isMargin).reverse.dropWhile isMargin).reverse)

/-- The token is looked at before the uid. -/
def Headers.caller (h : Headers) (token : String) : Except CallerFault Uid :=
  match h.visible? tokenHeader with
  | none => .error .missingToken
  | some given =>
    if given ≠ token then .error .wrongToken
    else match h.first? uidHeader with
      | none => .ok anonymousUid
      | some _ =>
        match (h.visible? uidHeader).bind (fun s => Decimal.count? 0xFFFFFFFF (trimmed s)) with
        | some n => .ok (UInt32.ofNat n)
        | none => .error .malformedUid

def Headers.hasJson (h : Headers) : Bool := (h.visible? "content-type").any MediaType.isJson

end Connectivity
