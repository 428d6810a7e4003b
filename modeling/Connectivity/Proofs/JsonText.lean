import Connectivity.Json.Printer
import Connectivity.Proofs.JsonTokens
/-! What is printed is JSON. Strings, numerals, arrays and objects are put down as the grammar has
them, whatever stands behind them, and so is an object with one member to a line. -/
namespace Connectivity.Json

variable {c e : Char} {cs chars rest : List Char}

theorem blanks_refl (cs : List Char) : Blanks cs cs := ⟨[], nofun, rfl⟩

theorem Blanks.cons (blanks : Blanks cs rest) (blank : isBlank c = true) : Blanks (c :: cs) rest := by
  obtain ⟨bs, every, rfl⟩ := blanks
  exact ⟨c :: bs, List.forall_mem_cons.2 ⟨blank, every⟩, rfl⟩

/-! Strings. -/

theorem value?_control : ∀ n < 0x20,
    Hexadecimal.value? ['0', '0', hexDigit (n / 16), hexDigit (n % 16)] = some n := by decide

/-- The text `cs` holds these characters up to the closing quote, and then `rest`. -/
def Spells (cs chars rest : List Char) : Prop :=
  ∃ units, Units cs units rest ∧ joinUnits units = some chars

theorem Spells.cons_short (h : Spells cs chars rest) (stands : shortEscape? e = some c) :
    Spells ('\\' :: e :: cs) (c :: chars) rest := by
  obtain ⟨units, begins, joined⟩ := h
  exact ⟨.char c :: units, .short stands begins, by simp [joinUnits, joined]⟩

theorem Spells.cons_control (h : Spells cs chars rest) (control : c.toNat < 0x20) :
    Spells ('\\' :: 'u' :: '0' :: '0' :: hexDigit (c.toNat / 16) :: hexDigit (c.toNat % 16) :: cs)
      (c :: chars) rest := by
  obtain ⟨units, begins, joined⟩ := h
  have low : isLowHalf c.toNat = false := by
    simp only [isLowHalf, Bool.and_eq_false_iff, decide_eq_false_iff_not]
    omega
  have high : isHighHalf c.toNat = false := by
    simp only [isHighHalf, Bool.and_eq_false_iff, decide_eq_false_iff_not]
    omega
  refine ⟨.code c.toNat :: units, .code (value?_control c.toNat control) begins, ?_⟩
  unfold joinUnits
  simp [low, high, joined]

theorem Spells.cons_plain (h : Spells cs chars rest) (quote : c ≠ '"') (escape : c ≠ '\\')
    (visible : ¬ c.toNat < 0x20) : Spells (c :: cs) (c :: chars) rest := by
  obtain ⟨units, begins, joined⟩ := h
  exact ⟨.char c :: units, .plain quote escape (Nat.not_lt.1 visible) begins,
    by simp [joinUnits, joined]⟩

theorem Spells.cons (h : Spells cs chars rest) (c : Char) :
    Spells (escaped c ++ cs) (c :: chars) rest := by
  unfold escaped
  split
  · exact h.cons_short rfl
  · exact h.cons_short rfl
  · exact h.cons_short rfl
  · exact h.cons_short rfl
  · exact h.cons_short rfl
  · exact h.cons_short rfl
  · exact h.cons_short rfl
  · rename_i quote escape _ _ _ _ _
    split
    · rename_i control
      exact h.cons_control control
    · rename_i visible
      exact h.cons_plain quote escape visible

theorem spells_escaped (chars rest : List Char) :
    Spells (chars.flatMap escaped ++ '"' :: rest) chars rest := by
  induction chars with
  | nil => exact ⟨[], .close, rfl⟩
  | cons c chars ih =>
    rw [List.flatMap_cons, List.append_assoc]
    exact ih.cons c

theorem quotes_quoted (s : String) (rest : List Char) : Quotes (quoted s ++ rest) (some s) rest := by
  obtain ⟨units, begins, joined⟩ := spells_escaped s.toList rest
  exact ⟨s.toList.flatMap escaped ++ '"' :: rest, units, by simp [quoted], begins, by simp [joined]⟩

/-! Values. -/

/-- The text of the value, and whatever stands behind it, begins with the value. -/
def Renders (v : Json) (text : List Char) : Prop :=
  ∀ rest, Begins (.value v) (text ++ rest) rest

theorem isNumber_digits (n : Nat) : IsNumber (Decimal.digits n) := by
  refine ⟨[], Decimal.digits n, [], [], by simp, ⟨⟨Decimal.digits_ne_nil n,
    fun _ there => Decimal.isDigit_of_mem_digits there⟩, fun zero => ?_⟩, .inl rfl, .inl rfl, by simp⟩
  cases n with
  | zero => rfl
  | succ n => exact absurd zero (Decimal.head?_digits _ n.succ_pos)

theorem renders_natural (n : Nat) : Renders (.natural n) (natural n).print :=
  fun _ => .number (isNumber_digits n)

theorem renders_string (s : String) : Renders (.string s) (Json.string s).print :=
  fun rest => .string (quotes_quoted s rest)

theorem begins_items {v : Json} {vs : List Json} (each : ∀ w ∈ v :: vs, Renders w w.print)
    (rest : List Char) :
    Begins (.items (v :: vs)) (v.print ++ (printItems vs ++ rest)) rest := by
  induction vs generalizing v with
  | nil => exact .lastItem (each v List.mem_cons_self _) (blanks_refl _)
  | cons w vs ih =>
    have others := ih (fun u there => each u (List.mem_cons_of_mem v there))
    have shape : printItems (w :: vs) ++ rest = ',' :: (w.print ++ (printItems vs ++ rest)) := by
      simp [printItems]
    rw [shape]
    exact .nextItem (each v List.mem_cons_self _) (blanks_refl _) others

theorem renders_array {vs : List Json} (each : ∀ w ∈ vs, Renders w w.print) :
    Renders (.array vs) (Json.array vs).print := by
  intro rest
  cases vs with
  | nil => exact .noItems (blanks_refl _)
  | cons v vs => simpa [print] using Begins.array (begins_items each rest)

/-- The members of an object whose keys are all texts. -/
def recorded (members : List (String × Json)) : List (Option String × Json) :=
  members.map (fun m => (some m.1, m.2))

theorem begins_members {m : String × Json} {members : List (String × Json)}
    (each : ∀ n ∈ m :: members, Renders n.2 n.2.print) (rest : List Char) :
    Begins (.members (recorded (m :: members)))
      (quoted m.1 ++ ':' :: (m.2.print ++ (printMembers (recorded members) ++ rest))) rest := by
  induction members generalizing m with
  | nil =>
    exact .lastMember (blanks_refl _) (quotes_quoted _ _) (blanks_refl _)
      (each m List.mem_cons_self _) (blanks_refl _)
  | cons n members ih =>
    have others := ih (fun k there => each k (List.mem_cons_of_mem m there))
    have shape : printMembers (recorded (n :: members)) ++ rest = ',' ::
        (quoted n.1 ++ ':' :: (n.2.print ++ (printMembers (recorded members) ++ rest))) := by
      simp [printMembers, recorded]
    rw [shape]
    exact .nextMember (blanks_refl _) (quotes_quoted _ _) (blanks_refl _)
      (each m List.mem_cons_self _) (blanks_refl _) others

theorem renders_record {members : List (String × Json)}
    (each : ∀ m ∈ members, Renders m.2 m.2.print) :
    Renders (.record members) (record members).print := by
  intro rest
  cases members with
  | nil => exact .noMembers (blanks_refl _)
  | cons m members =>
    simpa [record, print, recorded] using Begins.object (begins_members each rest)

/-! Objects with one member to a line. -/

def member (m : String × Json) : List Char := quoted m.1 ++ ':' :: ' ' :: m.2.print

/-- The members as they stand between the braces. -/
def lines (ms : List (String × Json)) : List Char :=
  List.intercalate [',', '\n'] (ms.map (fun m => ' ' :: ' ' :: member m))

theorem lines_cons_cons (m next : String × Json) (ms : List (String × Json)) :
    lines (m :: next :: ms) = ' ' :: ' ' :: (member m ++ ',' :: '\n' :: lines (next :: ms)) := by
  simp only [lines, List.map_cons, List.intercalate_cons_cons]
  simp

theorem lines_singleton (m : String × Json) : lines [m] = ' ' :: ' ' :: member m := by simp [lines]

theorem printLines_cons (m : String × Json) (ms : List (String × Json)) :
    printLines (m :: ms) = '{' :: '\n' :: (lines (m :: ms) ++ ['\n', '}']) := by
  have joined : lines (m :: ms) = ' ' :: ' ' :: member m ++ ms.flatMap (fun m =>
      ',' :: '\n' :: ' ' :: ' ' :: quoted m.1 ++ ':' :: ' ' :: m.2.print) := by
    induction ms generalizing m with
    | nil => simp [lines_singleton]
    | cons next ms ih => simp [lines_cons_cons, ih next, member]
  rw [printLines, joined]
  simp [member]

theorem begins_lines {m : String × Json} {ms : List (String × Json)}
    (each : ∀ n ∈ m :: ms, Renders n.2 n.2.print) (rest : List Char) :
    Begins (.members (recorded (m :: ms))) ('\n' :: (lines (m :: ms) ++ '\n' :: '}' :: rest)) rest := by
  have indent (cs : List Char) : Blanks ('\n' :: ' ' :: ' ' :: cs) cs :=
    (((blanks_refl cs).cons rfl).cons rfl).cons rfl
  have spaced (v : Json) {cs more : List Char} (begins : Begins (.value v) cs more) :
      Begins (.value v) (' ' :: cs) more := .blank rfl begins
  induction ms generalizing m with
  | nil =>
    have shape : '\n' :: (lines [m] ++ '\n' :: '}' :: rest) = '\n' :: ' ' :: ' ' ::
        (quoted m.1 ++ ':' :: ' ' :: (m.2.print ++ '\n' :: '}' :: rest)) := by
      simp [lines_singleton, member]
    rw [shape]
    exact .lastMember (indent _) (quotes_quoted _ _) (blanks_refl _)
      (spaced m.2 (each m List.mem_cons_self _)) ((blanks_refl _).cons rfl)
  | cons n ms ih =>
    have others := ih (fun k there => each k (List.mem_cons_of_mem m there))
    have shape : '\n' :: (lines (m :: n :: ms) ++ '\n' :: '}' :: rest) = '\n' :: ' ' :: ' ' ::
        (quoted m.1 ++ ':' :: ' ' :: (m.2.print ++
          ',' :: '\n' :: (lines (n :: ms) ++ '\n' :: '}' :: rest))) := by
      simp [lines_cons_cons, member]
    rw [shape]
    exact .nextMember (indent _) (quotes_quoted _ _) (blanks_refl _)
      (spaced m.2 (each m List.mem_cons_self _)) (blanks_refl _) others

theorem renders_lines {ms : List (String × Json)} (each : ∀ m ∈ ms, Renders m.2 m.2.print) :
    Renders (.record ms) (printLines ms) := by
  intro rest
  cases ms with
  | nil => exact .noMembers (blanks_refl _)
  | cons m ms =>
    have shape : printLines (m :: ms) ++ rest =
        '{' :: '\n' :: (lines (m :: ms) ++ '\n' :: '}' :: rest) := by simp [printLines_cons]
    rw [shape]
    exact .object (begins_lines each rest)

theorem Renders.denotes {v : Json} {text : List Char} (renders : Renders v text) :
    Denotes (String.ofList text) v :=
  ⟨[], by simpa using renders [], blanks_refl []⟩

end Connectivity.Json
