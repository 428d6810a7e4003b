/-! Decimal numerals without a sign, and counts as people write them. -/
namespace Connectivity.Decimal

def digits (n : Nat) : List Char := Nat.toDigits 10 n

def text (n : Nat) : String := String.ofList (digits n)

def value (cs : List Char) : Nat := Nat.ofDigitChars 10 cs 0

/-- One digit at least, and nothing but digits. -/
def natural? (cs : List Char) : Option Nat :=
  if cs ≠ [] ∧ cs.all Char.isDigit then some (value cs) else none

/-- A count up to `limit`. A plus sign may stand in front, then zeros; blanks may not. -/
def count? (limit : Nat) (s : String) : Option Nat :=
  let ds := match s.toList with
    | '+' :: ds => ds
    | ds => ds
  (natural? ds).filter (· ≤ limit)

theorem value_digits (n : Nat) : value (digits n) = n :=
  Nat.ofDigitChars_toDigits (by decide) (by decide)

theorem digits_ne_nil (n : Nat) : digits n ≠ [] := Nat.toDigits_ne_nil

theorem isDigit_of_mem_digits {n : Nat} {c : Char} (h : c ∈ digits n) : c.isDigit = true :=
  Nat.isDigit_of_mem_toDigits (by decide) (by decide) h

theorem natural?_digits (n : Nat) : natural? (digits n) = some n := by
  have every : (digits n).all Char.isDigit = true :=
    List.all_eq_true.2 (fun _ h => isDigit_of_mem_digits h)
  rw [natural?, if_pos ⟨digits_ne_nil n, every⟩, value_digits]

/-- What a digit counts. -/
theorem digitChar_sub {d : Char} (digit : d.isDigit = true) :
    d.toNat - '0'.toNat < 10 ∧ (d.toNat - '0'.toNat).digitChar = d := by
  simp only [Char.isDigit, Bool.and_eq_true, decide_eq_true_eq, ge_iff_le,
    UInt32.le_iff_toNat_le] at digit
  have low : 48 ≤ d.toNat := digit.1
  have high : d.toNat ≤ 57 := digit.2
  have small : d.toNat - 48 < 10 := by omega
  have back : d.toNat = d.toNat - 48 + 48 := by omega
  have each : ∀ k < 10, k.digitChar.toNat = k + 48 := by decide
  exact ⟨small, Char.toNat_inj.1 ((each _ small).trans back.symm)⟩

theorem value_concat (ds : List Char) (d : Char) :
    value (ds ++ [d]) = 10 * value ds + (d.toNat - '0'.toNat) := by
  rw [value, Nat.ofDigitChars_append, Nat.ofDigitChars_cons, Nat.ofDigitChars_nil]
  rfl

/-- Only zero is written with a zero in front. -/
theorem head?_digits (n : Nat) (positive : 0 < n) : (digits n).head? ≠ some '0' := by
  induction n using Nat.strongRecOn with
  | ind n ih =>
    rw [digits, Nat.toDigits_eq_if (by decide)]
    split
    · rename_i small
      have all : ∀ m < 10, 0 < m → [m.digitChar].head? ≠ some '0' := by decide
      exact all n small positive
    · rename_i large
      have shorter : n / 10 < n := Nat.div_lt_self positive (by decide)
      have first := ih (n / 10) shorter (by omega)
      obtain ⟨d, ds, shape⟩ := List.exists_cons_of_ne_nil (digits_ne_nil (n / 10))
      rw [digits] at shape first
      rw [shape] at first ⊢
      exact first

theorem text_injective {m n : Nat} (h : text m = text n) : m = n := by
  have same : digits m = digits n := String.ofList_injective h
  rw [← value_digits m, same, value_digits]

theorem count?_text {limit n : Nat} (h : n ≤ limit) : count? limit (text n) = some n := by
  unfold count?
  have unsigned : ∀ ds, digits n ≠ '+' :: ds := by
    intro ds same
    have sign : ('+').isDigit = true := isDigit_of_mem_digits (same ▸ List.mem_cons_self)
    cases sign
  rw [text, String.toList_ofList]
  split
  · rename_i ds same
    exact absurd same (unsigned ds)
  · simp [natural?_digits, h]

/-- The text is one digit or more, with a plus sign in front or not, and denotes `n`. -/
def Denotes (s : String) (n : Nat) : Prop :=
  ∃ ds, (s.toList = ds ∨ s.toList = '+' :: ds) ∧ ds ≠ [] ∧ (∀ c ∈ ds, c.isDigit = true) ∧
    value ds = n

theorem natural?_eq_some_iff {ds : List Char} {n : Nat} :
    natural? ds = some n ↔ ds ≠ [] ∧ (∀ c ∈ ds, c.isDigit = true) ∧ value ds = n := by
  simp [natural?, List.all_eq_true, and_assoc]

theorem count?_eq_some_iff {limit n : Nat} {s : String} :
    count? limit s = some n ↔ Denotes s n ∧ n ≤ limit := by
  simp only [count?, Option.filter_eq_some_iff, natural?_eq_some_iff, decide_eq_true_eq]
  refine and_congr_left (fun _ => ?_)
  unfold Denotes
  split
  · rename_i ds shape
    constructor
    · exact fun said => ⟨ds, .inr shape, said⟩
    · -- The sign is no digit, so it was not taken for one.
      rintro ⟨es, same | same, some, digits, denotes⟩
      · have sign : ('+').isDigit = true := digits '+' (same ▸ shape ▸ List.mem_cons_self)
        cases sign
      · obtain rfl := (List.cons.inj (shape.symm.trans same)).2
        exact ⟨some, digits, denotes⟩
  · rename_i unsigned
    constructor
    · exact fun said => ⟨_, .inl rfl, said⟩
    · rintro ⟨es, same | same, some, digits, denotes⟩
      · rw [same]
        exact ⟨some, digits, denotes⟩
      · exact absurd same (unsigned es)

end Connectivity.Decimal
