import Connectivity.Json.Reader
/-! Which texts are JSON, and of which value. The grammar relates a text to what is left of it behind
a value, and knows nothing of how a text is gone through. -/
namespace Connectivity.Json

/-- `cs` is blanks and then `rest`. -/
def Blanks (cs rest : List Char) : Prop :=
  ∃ bs, (∀ b ∈ bs, isBlank b = true) ∧ cs = bs ++ rest

def AreDigits (ds : List Char) : Prop := ds ≠ [] ∧ ∀ d ∈ ds, d.isDigit = true

def IsInteger (ds : List Char) : Prop := AreDigits ds ∧ (ds.head? = some '0' → ds = ['0'])

def IsFraction (cs : List Char) : Prop := cs = [] ∨ ∃ ds, AreDigits ds ∧ cs = '.' :: ds

def IsExponent (cs : List Char) : Prop :=
  cs = [] ∨ ∃ mark sign ds, (mark = 'e' ∨ mark = 'E') ∧ sign ∈ [[], ['+'], ['-']] ∧ AreDigits ds ∧
    cs = mark :: (sign ++ ds)

def IsNumber (literal : List Char) : Prop :=
  ∃ sign whole fraction exponent, sign ∈ [[], ['-']] ∧ IsInteger whole ∧ IsFraction fraction ∧
    IsExponent exponent ∧ literal = sign ++ (whole ++ (fraction ++ exponent))

/-- `cs` is these units, a closing quote, and then `rest`. -/
inductive Units : List Char → List StringUnit → List Char → Prop where
  | close {rest} : Units ('"' :: rest) [] rest
  | plain {c cs units rest} (quote : c ≠ '"') (escape : c ≠ '\\') (visible : 0x20 ≤ c.toNat)
      (more : Units cs units rest) : Units (c :: cs) (.char c :: units) rest
  | short {e c cs units rest} (stands : shortEscape? e = some c) (more : Units cs units rest) :
      Units ('\\' :: e :: cs) (.char c :: units) rest
  | code {p q r s n cs units rest} (stands : Hexadecimal.value? [p, q, r, s] = some n)
      (more : Units cs units rest) :
      Units ('\\' :: 'u' :: p :: q :: r :: s :: cs) (.code n :: units) rest

/-- `cs` is a string, and then `rest`; no text if half of a surrogate pair stands alone in it. -/
def Quotes (cs : List Char) (s : Option String) (rest : List Char) : Prop :=
  ∃ body units, cs = '"' :: body ∧ Units body units rest ∧ s = (joinUnits units).map String.ofList

/-- What a stretch of text may be: a value, or the items of an array or the members of an object up
to where it ends. -/
inductive Part where
  | value (v : Json)
  | items (vs : List Json)
  | members (ms : List (Option String × Json))

inductive Begins : Part → List Char → List Char → Prop where
  | blank {c v cs rest} (blank : isBlank c = true) (more : Begins (.value v) cs rest) :
      Begins (.value v) (c :: cs) rest
  | null {rest} : Begins (.value .null) ('n' :: 'u' :: 'l' :: 'l' :: rest) rest
  | true {rest} : Begins (.value (.bool .true)) ('t' :: 'r' :: 'u' :: 'e' :: rest) rest
  | false {rest} : Begins (.value (.bool .false)) ('f' :: 'a' :: 'l' :: 's' :: 'e' :: rest) rest
  | number {literal rest} (number : IsNumber literal) :
      Begins (.value (.number literal)) (literal ++ rest) rest
  | string {s cs rest} (quotes : Quotes cs (some s) rest) : Begins (.value (.string s)) cs rest
  | halfPair {cs rest} (quotes : Quotes cs none rest) : Begins (.value .halfPair) cs rest
  | noItems {cs rest} (ends : Blanks cs (']' :: rest)) : Begins (.value (.array [])) ('[' :: cs) rest
  | array {vs cs rest} (items : Begins (.items vs) cs rest) :
      Begins (.value (.array vs)) ('[' :: cs) rest
  | noMembers {cs rest} (ends : Blanks cs ('}' :: rest)) :
      Begins (.value (.object [])) ('{' :: cs) rest
  | object {ms cs rest} (members : Begins (.members ms) cs rest) :
      Begins (.value (.object ms)) ('{' :: cs) rest
  | lastItem {v cs more rest} (value : Begins (.value v) cs more) (ends : Blanks more (']' :: rest)) :
      Begins (.items [v]) cs rest
  | nextItem {v vs cs more others rest} (value : Begins (.value v) cs more)
      (comma : Blanks more (',' :: others)) (items : Begins (.items vs) others rest) :
      Begins (.items (v :: vs)) cs rest
  | lastMember {key v cs quoted named held more rest} (starts : Blanks cs quoted)
      (quotes : Quotes quoted key named) (colon : Blanks named (':' :: held))
      (value : Begins (.value v) held more) (ends : Blanks more ('}' :: rest)) :
      Begins (.members [(key, v)]) cs rest
  | nextMember {key v ms cs quoted named held more others rest} (starts : Blanks cs quoted)
      (quotes : Quotes quoted key named) (colon : Blanks named (':' :: held))
      (value : Begins (.value v) held more) (comma : Blanks more (',' :: others))
      (members : Begins (.members ms) others rest) : Begins (.members ((key, v) :: ms)) cs rest

def Denotes (text : String) (v : Json) : Prop :=
  ∃ rest, Begins (.value v) text.toList rest ∧ Blanks rest []

end Connectivity.Json
