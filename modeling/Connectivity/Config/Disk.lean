import Connectivity.Text.Parts
/-! Files by their paths, as far as a configuration file needs them. -/
namespace Connectivity

/-- A file that is not text keeps nothing. -/
inductive DiskNode where
  | directory
  | file (text : Option String)
  deriving DecidableEq, Repr

/-- The names on the way from the root. -/
abbrev Location := List String

/-- `here` is where relative paths begin. The root itself is always a directory. -/
structure Disk where
  nodes : List (Location × DiskNode) := []
  here : Location := []
  deriving DecidableEq, Repr

namespace Path

/-- One slash joins two parts, unless the first is empty or has one at its end. -/
def join (a b : String) : String :=
  if a.isEmpty || a.endsWith "/" then a ++ b else a ++ "/" ++ b

def isRelative (p : String) : Bool := !p.startsWith "/"

def names (p : String) : List String := (splitOn '/' p.toList).map String.ofList

def stays (name : String) : Bool := name.isEmpty || name == "."

/-- The names that lead to the directory of a path. Those that stay do not count, at the end
neither. -/
def parentNames (p : String) : List String := ((names p).filter (fun n => !stays n)).dropLast

def fileName? (p : String) : Option String :=
  (names p).getLast?.filter (fun n => !stays n && n != "..")

/-- Names and paths have most so many bytes. -/
def nameLimit : Nat := 255
def limit : Nat := 4095

/-- An empty path leads nowhere, and so does one that is too long. -/
def leads (p : String) : Bool := !p.isEmpty && p.utf8ByteSize ≤ limit

def step (l : Location) (name : String) : Location :=
  if stays name then l
  else if name == ".." then l.dropLast
  else l ++ [name]

end Path

namespace Disk

def start (d : Disk) (p : String) : Location := if Path.isRelative p then d.here else []

def node? (d : Disk) (l : Location) : Option DiskNode :=
  if l.isEmpty then some .directory else d.nodes.lookup l

def isDirectory (d : Disk) (l : Location) : Bool := d.node? l == some .directory

def put (d : Disk) (l : Location) (n : DiskNode) : Disk :=
  { d with nodes := (l, n) :: d.nodes.filter (fun e => e.1 != l) }

/-- Where the names lead. Every name, even one that stays, is looked up in a directory. -/
def walk? (d : Disk) (l : Location) : List String → Option Location
  | [] => some l
  | name :: names =>
    if d.isDirectory l && name.utf8ByteSize ≤ Path.nameLimit then walk? d (Path.step l name) names
    else none

def find? (d : Disk) (p : String) : Option DiskNode :=
  if Path.leads p then (d.walk? (d.start p) (Path.names p)).bind d.node? else none

def holds (d : Disk) (p : String) : Bool := (d.find? p).isSome

def text? (d : Disk) (p : String) : Option String :=
  match d.find? p with
  | some (.file text) => text
  | _ => none

/-- Makes the directories missing on the way from `l`, even those that the way leaves again. A file
in the way is a failure. -/
def makeDirectories? (d : Disk) (l : Location) : List String → Option Disk
  | [] => some d
  | name :: names =>
    let next := Path.step l name
    match d.node? next with
    | some .directory => makeDirectories? d next names
    | some (.file _) => none
    | none =>
      if name.utf8ByteSize ≤ Path.nameLimit then makeDirectories? (d.put next .directory) next names
      else none

def makeParent? (d : Disk) (p : String) : Option Disk :=
  d.makeDirectories? (d.start p) (Path.parentNames p)

def write? (d : Disk) (p : String) (text : Option String) : Option Disk := do
  let name ← (Path.fileName? p).filter (fun n => n.utf8ByteSize ≤ Path.nameLimit && Path.leads p)
  let l ← d.walk? (d.start p) (Path.names p).dropLast
  let target := l ++ [name]
  if d.isDirectory l && !d.isDirectory target then some (d.put target (.file text)) else none

end Disk

end Connectivity
