import Connectivity.Toml.Scalar
import Connectivity.Toml.Text
/-! Reading a TOML document: lines of keys and values, comments, and headers that say to which table
the lines after them belong. -/
namespace Connectivity.Toml

def isKeyChar (c : Char) : Bool := c.isAlphanum || c == '_' || c == '-'

def keyPart? (cs : List Char) : Option (String × List Char) :=
  match cs with
  | '"' :: _ => (line? cs).map (fun r => (String.ofList r.1, r.2))
  | '\'' :: _ => (line? cs).map (fun r => (String.ofList r.1, r.2))
  | _ =>
    match cs.takeWhile isKeyChar with
    | [] => none
    | part => some (String.ofList part, cs.dropWhile isKeyChar)

/-- A dotted key of at most `parts` parts, with blanks around each: the way to the last part, that
part, and what follows. -/
def key? : Nat → List Char → Option ((List String × String) × List Char)
  | 0, _ => none
  | parts + 1, cs => do
    let (part, rest) ← keyPart? (skipBlanks cs)
    match skipBlanks rest with
    | '.' :: rest =>
      let ((path, last), rest) ← key? parts rest
      return ((part :: path, last), rest)
    | rest => return (([], part), rest)

/-- Keys have fewer parts than this, and values nest less deep. -/
def depthLimit : Nat := 80

def skipFiller : Bool → List Char → List Char
  | _, [] => []
  | inComment, c :: rest =>
    if inComment && isPlain c then skipFiller true rest
    else if isBlank c || c == '\n' then skipFiller false rest
    else if c = '#' then skipFiller true rest
    else if c = '\r' then
      match rest with
      | '\n' :: rest => skipFiller false rest
      | _ => c :: rest
    else c :: rest

def nextLine? (cs : List Char) : Option (List Char) :=
  let rest := match skipBlanks cs with
    | '#' :: rest => rest.dropWhile isPlain
    | rest => rest
  match rest with
  | [] => some []
  | _ => afterLineEnd? rest

mutual

/-- A value that nests arrays and tables no deeper than `room`. -/
def value? (room : Nat) : Nat → List Char → Option (Toml × List Char)
  | 0, _ => none
  | fuel + 1, cs =>
    match cs with
    | '[' :: rest =>
      match room, skipFiller false rest with
      | 0, _ => none
      | _ + 1, ']' :: rest => some (.array [], rest)
      | room + 1, rest => (items? room fuel rest).map (fun r => (.array r.1, r.2))
    | '{' :: rest =>
      match room, skipBlanks rest with
      | 0, _ => none
      | _ + 1, '}' :: rest => some (.table .braces [], rest)
      | room + 1, rest => (pairs? room fuel [] rest).map (fun r => (.table .braces r.1, r.2))
    | '"' :: _ => (text? cs).map (fun r => (.string (String.ofList r.1), r.2))
    | '\'' :: _ => (text? cs).map (fun r => (.string (String.ofList r.1), r.2))
    | _ =>
      let (word, rest) := lexeme cs
      (scalar? word).map (fun v => (v, rest))

def items? (room : Nat) : Nat → List Char → Option (List Toml × List Char)
  | 0, _ => none
  | fuel + 1, cs => do
    let (v, rest) ← value? room fuel cs
    match skipFiller false rest with
    | ',' :: rest =>
      match skipFiller false rest with
      -- a comma may follow the last item
      | ']' :: rest => return ([v], rest)
      | rest =>
        let (vs, rest) ← items? room fuel rest
        return (v :: vs, rest)
    | ']' :: rest => return ([v], rest)
    | _ => none

def pairs? (room : Nat) : Nat → TomlEntries → List Char → Option (TomlEntries × List Char)
  | 0, _, _ => none
  | fuel + 1, es, cs => do
    let ((path, last), rest) ← key? (depthLimit - 1) cs
    match rest with
    | '=' :: rest =>
      let (v, rest) ← value? room fuel (skipBlanks rest)
      let es ← TomlEntries.define? path last v .braces es
      match skipBlanks rest with
      | ',' :: rest => pairs? room fuel es rest
      | '}' :: rest => return (es, rest)
      | _ => none
    | _ => none

end

/-- A document part way through: all tables, and the way to the one that lines add to. -/
structure Draft where
  root : TomlEntries := []
  here : List String := []

def Draft.define? (d : Draft) (path : List String) (key : String) (v : Toml) : Option Draft :=
  (TomlEntries.changeAt? .path (TomlEntries.define? path key v) d.here .header d.root).map
    (fun root => { d with root })

def header? (opens : List String → String → TomlEntries → Option TomlEntries) (closing : List Char)
    (d : Draft) (cs : List Char) : Option (Draft × List Char) := do
  let ((path, last), rest) ← key? (depthLimit - 1) cs
  let root ← opens path last d.root
  if closing.isPrefixOf rest then
    return ({ root, here := path ++ [last] }, rest.drop closing.length)
  else none

def keyValue? (d : Draft) (cs : List Char) : Option (Draft × List Char) := do
  let ((path, last), rest) ← key? (depthLimit - 1) cs
  match rest with
  | '=' :: rest =>
    let (v, rest) ← value? (depthLimit - 1) (2 * rest.length + 2) (skipBlanks rest)
    let d ← d.define? path last v
    return (d, rest)
  | _ => none

def line (d : Draft) (cs : List Char) : Option (Draft × List Char) :=
  match cs with
  | '#' :: _ => some (d, cs)
  | '[' :: '[' :: rest => header? TomlEntries.openNext? [']', ']'] d rest
  | '[' :: rest => header? TomlEntries.openTable? [']'] d rest
  | _ => keyValue? d cs

def lines? : Nat → Draft → List Char → Option Draft
  | 0, _, _ => none
  | count + 1, d, cs =>
    match skipBlanks cs with
    | [] => some d
    | cs =>
      match afterLineEnd? cs with
      | some rest => lines? count d rest
      | none => do
        let (d, rest) ← line d cs
        let rest ← nextLine? rest
        lines? count d rest

def document? (text : String) : Option TomlEntries :=
  let cs := match text.toList with
    -- a byte order mark
    | '\uFEFF' :: rest => rest
    | cs => cs
  (lines? (cs.length + 1) {} cs).map (·.root)

end Connectivity.Toml
