import Connectivity.Text.Decimal
import Connectivity.Toml.Text
/-! TOML text: sections of keys and values. A string is written in the plainest form that can
hold it. -/
namespace Connectivity.Toml

def printNatural (n : Nat) : List Char := Decimal.digits n

def printFlag (b : Bool) : List Char := if b then "true".toList else "false".toList

def needsEscape (c : Char) : Bool := c != '\n' && !isPlain c

/-- The most marks in a row. `run` is the number of marks right before. -/
def longestRun (mark : Char) (run : Nat) : List Char → Nat
  | [] => run
  | c :: rest =>
    if c = mark then longestRun mark (run + 1) rest else max run (longestRun mark 0 rest)

def formOf (cs : List Char) : StringForm :=
  let lines := cs.contains '\n'
  let controls := cs.any needsEscape
  let backslash := cs.contains '\\'
  let quotes := longestRun '"' 0 cs
  let apostrophes := longestRun '\'' 0 cs
  if !controls && !backslash && quotes = 0 && !lines then ⟨'"', false⟩
  else if !controls && apostrophes = 0 && !lines then ⟨'\'', false⟩
  else if !controls && !backslash && quotes ≤ 2 then ⟨'"', true⟩
  else if !controls && apostrophes ≤ 2 then ⟨'\'', true⟩
  else ⟨'"', lines⟩

def escape (c : Char) : List Char :=
  match c with
  | '"' => ['\\', '"']
  | '\\' => ['\\', '\\']
  | '\x08' => ['\\', 'b']
  | '\t' => ['\\', 't']
  | '\n' => ['\\', 'n']
  | '\x0c' => ['\\', 'f']
  | '\r' => ['\\', 'r']
  | c =>
    let digit (n : Nat) : Char := (Nat.digitChar n).toUpper
    ['\\', 'u', '0', '0', digit (c.toNat / 16), digit (c.toNat % 16)]

/-- Text between quotation marks. In a string of several lines two marks in a row stay as they
are, and so do line feeds. `run` is the number of marks right before. -/
def printEscaped (lines : Bool) (run : Nat) : List Char → List Char
  | [] => []
  | c :: rest =>
    if c = '"' then
      if lines && run < 2 then c :: printEscaped lines (run + 1) rest
      else escape c ++ printEscaped lines 0 rest
    else if lines && c = '\n' then c :: printEscaped lines 0 rest
    else if c = '\\' || c = '\t' || !isPlain c then escape c ++ printEscaped lines 0 rest
    else c :: printEscaped lines 0 rest

/-- A line end is put after three marks if there are lines, so that none of them is lost. -/
def printString (s : String) : List Char :=
  let cs := s.toList
  let f := formOf cs
  let marks := List.replicate (if f.lines then 3 else 1) f.mark
  let lead := if f.lines && cs.contains '\n' then ['\n'] else []
  marks ++ lead ++ (if f.escapes then printEscaped f.lines 0 cs else cs) ++ marks

def printArray (items : List (List Char)) : List Char :=
  '[' :: [',', ' '].intercalate items ++ [']']

def printSection (name : String) (entries : List (String × List Char)) : List Char :=
  '[' :: name.toList ++ [']', '\n']
    ++ entries.flatMap (fun e => e.1.toList ++ [' ', '=', ' '] ++ e.2 ++ ['\n'])

def printSections (sections : List (String × List (String × List Char))) : List Char :=
  ['\n'].intercalate (sections.map (fun s => printSection s.1 s.2))

end Connectivity.Toml
