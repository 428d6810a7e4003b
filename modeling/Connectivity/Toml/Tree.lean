/-! TOML values, and tables as the lines of a document build them up. A key is given a value
once, and a table is defined once, so building is partial. -/
namespace Connectivity

inductive TableOrigin where
  | header
  -- on the way to a table that has a header
  | path
  -- on the way of a dotted key
  | dotted
  | braces
  deriving DecidableEq, Repr

/-- What a float or a point in time says is not kept. Of `tables` under headers of one name the last is
apart from those before it. -/
inductive Toml where
  | string (s : String)
  | integer (n : Int)
  | float
  | moment
  | bool (b : Bool)
  | array (items : List Toml)
  | table (origin : TableOrigin) (entries : List (String × Toml))
  | tables (before : List (List (String × Toml))) (last : List (String × Toml))

abbrev TomlEntries := List (String × Toml)

namespace TableOrigin

/-- The way of a key may go through a table of this origin, if the tables it makes have origin
`made`. -/
def admits (origin made : TableOrigin) : Bool :=
  match origin with
  | path => true
  | dotted => true
  -- closed to dotted keys from elsewhere
  | header => made == path
  | braces => false

end TableOrigin

namespace TomlEntries

def change? (f : Option Toml → Option Toml) (key : String) : TomlEntries → Option TomlEntries
  | [] => (f none).map (fun v => [(key, v)])
  | (k, v) :: rest =>
    if k = key then (f (some v)).map (fun v => (k, v) :: rest)
    else (change? f key rest).map ((k, v) :: ·)

/-- Changes the table at the end of a path. Tables missing on the way are made; of several tables of
one name the way leads through the last. -/
def changeAt? (made : TableOrigin) (f : TableOrigin → TomlEntries → Option TomlEntries) :
    List String → TableOrigin → TomlEntries → Option TomlEntries
  | [], origin, es => f origin es
  | key :: path, _, es => es.change? (fun found => match found with
    | none => (changeAt? made f path made []).map (.table made)
    | some (.table origin inner) =>
      if origin.admits made then (changeAt? made f path origin inner).map (.table origin) else none
    | some (.tables before last) => (changeAt? made f path .header last).map (.tables before)
    | some _ => none) key

def insert? (es : TomlEntries) (key : String) (v : Toml) : Option TomlEntries :=
  es.change? (fun found => match found with
    | none => some v
    | some _ => none) key

def define? (path : List String) (key : String) (v : Toml) (origin : TableOrigin)
    (es : TomlEntries) : Option TomlEntries :=
  changeAt? .dotted
    (fun reached es => if !path.isEmpty && reached != .dotted then none else es.insert? key v)
    path origin es

def openTable? (path : List String) (key : String) (es : TomlEntries) : Option TomlEntries :=
  changeAt? .path
    (fun _ es => es.change? (fun found => match found with
      | none => some (.table .header [])
      -- tables below it were opened before
      | some (.table .path inner) => some (.table .header inner)
      | some _ => none) key)
    path .header es

def openNext? (path : List String) (key : String) (es : TomlEntries) : Option TomlEntries :=
  changeAt? .path
    (fun _ es => es.change? (fun found => match found with
      | none => some (.tables [] [])
      | some (.tables before last) => some (.tables (before ++ [last]) [])
      | some _ => none) key)
    path .header es

end TomlEntries

end Connectivity
