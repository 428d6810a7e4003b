import Mathlib.Data.List.Basic
import Mathlib.Data.List.DropRight
import Mathlib.Data.List.Induction
import Connectivity.Json.Grammar
/-! Blanks, strings and numbers are read off a text just as the grammar has them. For a number that
takes that what follows does not go on with it. -/
namespace Connectivity.Json

variable {cs rest : List Char}

/-! Blanks. -/

theorem blanks_skipBlanks (cs : List Char) : Blanks cs (skipBlanks cs) :=
  ⟨cs.takeWhile isBlank, fun _ there => List.mem_takeWhile_imp there,
    List.takeWhile_append_dropWhile.symm⟩

theorem skipBlanks_cons {c : Char} (dark : isBlank c = false) (cs : List Char) :
    skipBlanks (c :: cs) = c :: cs := List.dropWhile_cons_of_neg (by simp [dark])

theorem skipBlanks_blank {c : Char} (blank : isBlank c = true) (cs : List Char) :
    skipBlanks (c :: cs) = skipBlanks cs := List.dropWhile_cons_of_pos blank

theorem skipBlanks_skipBlanks (cs : List Char) : skipBlanks (skipBlanks cs) = skipBlanks cs :=
  List.dropWhile_idempotent isBlank cs

theorem Blanks.skipBlanks (blanks : Blanks cs rest) : skipBlanks cs = skipBlanks rest := by
  obtain ⟨bs, every, rfl⟩ := blanks
  exact List.dropWhile_append_of_pos every

theorem Blanks.stop {c : Char} (blanks : Blanks cs (c :: rest)) (dark : isBlank c = false) :
    Json.skipBlanks cs = c :: rest := by
  rw [blanks.skipBlanks, skipBlanks_cons dark]

theorem blanks_of_skipBlanks (found : skipBlanks cs = rest) : Blanks cs rest :=
  found ▸ blanks_skipBlanks cs

theorem Blanks.length_le (blanks : Blanks cs rest) : rest.length ≤ cs.length := by
  obtain ⟨bs, -, rfl⟩ := blanks
  simp

/-! Strings. -/

theorem stringUnits_eq_some_iff {units : List StringUnit} :
    stringUnits cs = some (units, rest) ↔ Units cs units rest := by
  constructor
  · intro read
    fun_induction stringUnits cs generalizing units with
    | case1 => cases read
    | case2 => cases read; exact .close
    | case3 p q r s cs ih =>
      simp only [Option.bind_eq_bind, Option.bind_eq_some_iff, Option.pure_def,
        Option.some.injEq] at read
      obtain ⟨n, stands, ⟨units, rest⟩, more, same⟩ := read
      cases same
      exact .code stands (ih more)
    | case4 e cs other ih =>
      simp only [Option.bind_eq_bind, Option.bind_eq_some_iff, Option.pure_def,
        Option.some.injEq] at read
      obtain ⟨c, stands, ⟨units, rest⟩, more, same⟩ := read
      cases same
      exact .short stands (ih more)
    | case5 => cases read
    | case6 c cs quote _ _ fine ih =>
      simp only [Option.bind_eq_bind, Option.bind_eq_some_iff, Option.pure_def,
        Option.some.injEq] at read
      obtain ⟨⟨units, rest⟩, more, same⟩ := read
      cases same
      simp only [Bool.or_eq_true, decide_eq_true_eq, beq_iff_eq, not_or, Nat.not_lt] at fine
      exact .plain quote fine.2 fine.1 (ih more)
  · intro units
    induction units with
    | close => simp [stringUnits]
    | plain quote escape visible more ih =>
      unfold stringUnits
      split <;> simp_all
    | @short e c cs units rest stands more ih =>
      have known : e ≠ 'u' := by
        rintro rfl
        cases stands
      rw [stringUnits]
      · simp [stands, ih]
      · simp [known]
    | code stands more ih => simp [stringUnits, stands, ih]

theorem readString_of_quotes {s : Option String} (quotes : Quotes cs s rest) :
    ∃ body, cs = '"' :: body ∧ readString body = some (s, rest) := by
  obtain ⟨body, units, rfl, units, rfl⟩ := quotes
  exact ⟨body, rfl, by rw [readString, stringUnits_eq_some_iff.2 units]; rfl⟩

theorem quotes_of_readString {body : List Char} {s : Option String}
    (read : readString body = some (s, rest)) : Quotes ('"' :: body) s rest := by
  obtain ⟨⟨units, rest⟩, found, same⟩ := Option.map_eq_some_iff.1 read
  cases same
  exact ⟨body, units, rfl, stringUnits_eq_some_iff.1 found, rfl⟩

theorem Units.shorter {units : List StringUnit} (begins : Units cs units rest) :
    rest.length < cs.length := by
  induction begins with
  | close => simp
  | plain _ _ _ _ ih => simp; omega
  | short _ _ ih => simp; omega
  | code _ _ ih => simp; omega

theorem Quotes.shorter {s : Option String} (quotes : Quotes cs s rest) :
    rest.length < cs.length := by
  obtain ⟨body, units, rfl, units, -⟩ := quotes
  have shorter := units.shorter
  simp
  omega

/-! Numbers. -/

/-- No digit stands in front. -/
def EndsDigits (rest : List Char) : Prop := ∀ c ∈ rest.head?, c.isDigit = false

theorem takeDigits_append {ds : List Char} (digits : ∀ d ∈ ds, d.isDigit = true)
    (ends : EndsDigits rest) : takeDigits (ds ++ rest) = (ds, rest) := by
  have stop : rest.takeWhile Char.isDigit = [] ∧ rest.dropWhile Char.isDigit = rest := by
    cases rest with
    | nil => exact ⟨rfl, rfl⟩
    | cons c rest =>
      have other : c.isDigit = false := ends c rfl
      simp [other]
  simp [takeDigits, List.takeWhile_append_of_pos digits, List.dropWhile_append_of_pos digits, stop]

theorem of_takeDigits {ds : List Char} (taken : takeDigits cs = (ds, rest)) :
    cs = ds ++ rest ∧ ∀ d ∈ ds, d.isDigit = true := by
  cases taken
  exact ⟨List.takeWhile_append_dropWhile.symm, fun _ there => List.mem_takeWhile_imp there⟩

theorem readInteger_append {whole : List Char} (integer : IsInteger whole)
    (ends : EndsDigits rest) : readInteger (whole ++ rest) = some (whole, rest) := by
  obtain ⟨⟨some, digits⟩, lean⟩ := integer
  unfold readInteger
  rw [takeDigits_append digits ends]
  split
  · rename_i none
    exact absurd (congrArg Prod.fst none) some
  · rename_i padded
    have shape := congrArg Prod.fst padded
    simp only at shape
    cases shape.symm.trans (lean (by rw [shape]; rfl))
  · rfl

theorem of_readInteger {whole : List Char} (read : readInteger cs = some (whole, rest)) :
    cs = whole ++ rest ∧ IsInteger whole := by
  unfold readInteger at read
  split at read
  · cases read
  · cases read
  · rename_i some lean
    obtain ⟨shape, digits⟩ := of_takeDigits (Option.some.inj read)
    refine ⟨shape, ⟨?_, digits⟩, fun zero => ?_⟩
    · rintro rfl
      exact some rest (Option.some.inj read)
    · cases whole with
      | nil => cases zero
      | cons d ds =>
        obtain rfl := Option.some.inj zero
        cases ds with
        | nil => rfl
        | cons e ds => exact absurd (Option.some.inj read) (lean e ds rest)

/-- Nothing stands in front that a literal could go on with behind its integer. -/
def EndsNumber (rest : List Char) : Prop :=
  ∀ c ∈ rest.head?, c.isDigit = false ∧ c ≠ '.' ∧ c ≠ 'e' ∧ c ≠ 'E'

theorem EndsNumber.digits (ends : EndsNumber rest) : EndsDigits rest :=
  fun c there => (ends c there).1

theorem readExponent_append {exponent : List Char} (grammatical : IsExponent exponent)
    (ends : EndsNumber rest) : readExponent (exponent ++ rest) = some (exponent, rest) := by
  rcases grammatical with rfl | ⟨mark, sign, ds, marked, signed, ⟨some, digits⟩, rfl⟩
  · cases rest with
    | nil => rfl
    | cons c rest =>
      have other := (ends c rfl).2.2
      simp [readExponent, other]
  · have taken := takeDigits_append digits ends.digits
    have mark : (mark == 'e' || mark == 'E') = true := by simpa using marked
    obtain ⟨d, ds, rfl⟩ := List.exists_cons_of_ne_nil some
    have digit : d.isDigit = true := digits d List.mem_cons_self
    have plus : d ≠ '+' := by rintro rfl; cases digit
    have minus : d ≠ '-' := by rintro rfl; cases digit
    simp only [List.mem_cons, List.not_mem_nil, or_false] at signed
    rcases signed with rfl | rfl | rfl <;> simp_all [readExponent]

theorem of_readExponent {exponent : List Char} (read : readExponent cs = some (exponent, rest)) :
    cs = exponent ++ rest ∧ IsExponent exponent := by
  unfold readExponent at read
  split at read
  · rename_i mark more
    split at read
    · rename_i marked
      have mark : mark = 'e' ∨ mark = 'E' := by simpa using marked
      split at read
      rename_i sign unsigned signed
      have shape : more = sign ++ unsigned ∧ sign ∈ [[], ['+'], ['-']] := by
        split at signed <;> cases signed <;> simp
      split at read
      · cases read
      · rename_i ds left some taken
        cases read
        obtain ⟨rfl, digits⟩ := of_takeDigits taken
        exact ⟨by simp [shape.1], .inr ⟨_, sign, ds, mark, shape.2, ⟨some, digits⟩, rfl⟩⟩
    · cases read
      exact ⟨rfl, .inl rfl⟩
  · cases read
    exact ⟨rfl, .inl rfl⟩

theorem readFraction_append {fraction : List Char} (grammatical : IsFraction fraction)
    (ends : EndsDigits rest) (point : ∀ more, rest ≠ '.' :: more) :
    readFraction (fraction ++ rest) = some (fraction, rest) := by
  rcases grammatical with rfl | ⟨ds, ⟨some, digits⟩, rfl⟩
  · unfold readFraction
    split
    · rename_i more same
      exact absurd same (point more)
    · rfl
  · obtain ⟨d, ds, rfl⟩ := List.exists_cons_of_ne_nil some
    have taken := takeDigits_append digits ends
    rw [List.cons_append, readFraction, taken]

theorem of_readFraction {fraction : List Char} (read : readFraction cs = some (fraction, rest)) :
    cs = fraction ++ rest ∧ IsFraction fraction := by
  unfold readFraction at read
  split at read
  · split at read
    · cases read
    · rename_i ds left some taken
      cases read
      obtain ⟨rfl, digits⟩ := of_takeDigits taken
      exact ⟨rfl, .inr ⟨ds, ⟨some, digits⟩, rfl⟩⟩
  · cases read
    exact ⟨rfl, .inl rfl⟩

theorem IsExponent.head {exponent : List Char} (grammatical : IsExponent exponent)
    (ends : EndsNumber rest) :
    ∀ c ∈ (exponent ++ rest).head?, c.isDigit = false ∧ c ≠ '.' := by
  rcases grammatical with rfl | ⟨mark, sign, ds, marked, -, -, rfl⟩
  · exact fun c first => ⟨(ends c first).1, (ends c first).2.1⟩
  · rintro c ⟨⟩
    rcases marked with rfl | rfl <;> exact ⟨rfl, by decide⟩

theorem IsFraction.head {fraction : List Char} (grammatical : IsFraction fraction)
    (ends : EndsDigits rest) : EndsDigits (fraction ++ rest) := by
  rcases grammatical with rfl | ⟨ds, -, rfl⟩
  · exact ends
  · rintro c ⟨⟩
    rfl

theorem readNumber_append {literal : List Char} (number : IsNumber literal)
    (ends : EndsNumber rest) : readNumber (literal ++ rest) = some (literal, rest) := by
  obtain ⟨sign, whole, fraction, exponent, signed, integer, point, mark, rfl⟩ := number
  have stop := mark.head ends
  have digits : EndsDigits (exponent ++ rest) := fun c first => (stop c first).1
  have first := readInteger_append integer (point.head digits)
  have second := readFraction_append point digits (fun more same =>
    (stop '.' (by rw [same]; rfl)).2 rfl)
  have third := readExponent_append mark ends
  have unsigned : ∀ more, whole ++ (fraction ++ (exponent ++ rest)) ≠ '-' :: more := by
    obtain ⟨⟨some, digits⟩, -⟩ := integer
    obtain ⟨d, ds, rfl⟩ := List.exists_cons_of_ne_nil some
    rintro more ⟨⟩
    exact Bool.noConfusion (digits '-' List.mem_cons_self)
  unfold readNumber
  simp only [List.mem_cons, List.not_mem_nil, or_false] at signed
  rcases signed with rfl | rfl
  · simp [first, second, third]
  · simp [first, second, third]

theorem of_readNumber {literal : List Char} (read : readNumber cs = some (literal, rest)) :
    cs = literal ++ rest ∧ IsNumber literal := by
  unfold readNumber at read
  split at read
  rename_i sign unsigned signed
  have shape : cs = sign ++ unsigned ∧ sign ∈ [[], ['-']] := by
    split at signed <;> cases signed <;> simp
  simp only [Option.bind_eq_bind, Option.bind_eq_some_iff, Option.pure_def, Option.some.injEq] at read
  obtain ⟨⟨whole, a⟩, first, ⟨fraction, b⟩, second, ⟨exponent, c⟩, third, same⟩ := read
  cases same
  obtain ⟨rfl, integer⟩ := of_readInteger first
  obtain ⟨rfl, point⟩ := of_readFraction second
  obtain ⟨rfl, mark⟩ := of_readExponent third
  refine ⟨by simp [shape.1], sign, whole, fraction, exponent, shape.2, integer, point, mark, ?_⟩
  simp

/-- An integer is what its value is written as. -/
theorem IsInteger.digits_value {ds : List Char} (integer : IsInteger ds) :
    Decimal.digits (Decimal.value ds) = ds := by
  induction ds using List.reverseRecOn with
  | nil => exact absurd rfl integer.1.1
  | append_singleton init d ih =>
    obtain ⟨⟨-, all⟩, first⟩ := integer
    obtain ⟨small, back⟩ := Decimal.digitChar_sub (all d (by simp))
    rw [Decimal.value_concat]
    cases shape : init with
    | nil =>
      have zero : Decimal.value [] = 0 := rfl
      rw [zero, Decimal.digits, Nat.mul_zero, Nat.zero_add, Nat.toDigits_of_lt_base small, back]
      rfl
    | cons e es =>
      rw [← shape]
      -- What stands in front of the last digit does not begin with a zero either.
      have other : init.head? ≠ some '0' := by
        intro zero
        have alone := first (by rw [shape] at zero ⊢; exact zero)
        rw [shape] at alone
        simp at alone
      have front : Decimal.digits (Decimal.value init) = init :=
        ih ⟨⟨by simp [shape], fun c there => all c (by simp [there])⟩, fun zero => absurd zero other⟩
      have positive : 0 < Decimal.value init := by
        refine Nat.pos_of_ne_zero (fun zero => other ?_)
        rw [← front, zero]
        rfl
      rw [Decimal.digits, ← Nat.toDigits_append_toDigits (by decide) positive small,
        Nat.toDigits_of_lt_base small, back]
      exact congrArg (· ++ [d]) front

/-- Sign, point and mark are no digits. -/
theorem IsNumber.integer {literal : List Char} (number : IsNumber literal)
    (digits : ∀ c ∈ literal, c.isDigit = true) : IsInteger literal := by
  obtain ⟨sign, whole, fraction, exponent, signed, integer, point, mark, rfl⟩ := number
  have unsigned : sign = [] := by
    simp only [List.mem_cons, List.not_mem_nil, or_false] at signed
    refine signed.resolve_right ?_
    rintro rfl
    exact Bool.noConfusion (digits '-' (by simp))
  have pointless : fraction = [] := by
    refine point.resolve_right ?_
    rintro ⟨ds, -, rfl⟩
    exact Bool.noConfusion (digits '.' (by simp))
  have markless : exponent = [] := by
    refine mark.resolve_right ?_
    rintro ⟨letter, plus, ds, which, -, -, rfl⟩
    have digit := digits letter (by simp)
    rcases which with rfl | rfl <;> cases digit
  simpa [unsigned, pointless, markless] using integer

theorem isBlank_of_isDigit {c : Char} (digit : c.isDigit = true) : isBlank c = false := by
  have other : ∀ d : Char, d.isDigit = false → (c == d) = false := by
    intro d dark
    refine beq_false_of_ne ?_
    rintro rfl
    exact Bool.noConfusion (digit.symm.trans dark)
  simp [isBlank, other ' ' rfl, other '\t' rfl, other '\n' rfl, other '\r' rfl]

/-- No other value begins as a number does. -/
theorem IsNumber.head {literal : List Char} (number : IsNumber literal) :
    ∃ c tail, literal = c :: tail ∧ isBlank c = false ∧ c ∉ ['{', '[', '"', 'n', 't', 'f', ']'] := by
  obtain ⟨sign, whole, fraction, exponent, signed, ⟨⟨some, digits⟩, -⟩, -, -, rfl⟩ := number
  simp only [List.mem_cons, List.not_mem_nil, or_false] at signed
  rcases signed with rfl | rfl
  · obtain ⟨d, ds, rfl⟩ := List.exists_cons_of_ne_nil some
    have digit := digits d List.mem_cons_self
    refine ⟨d, _, rfl, isBlank_of_isDigit digit, fun among => ?_⟩
    simp only [List.mem_cons, List.not_mem_nil, or_false] at among
    rcases among with rfl | rfl | rfl | rfl | rfl | rfl | rfl <;> cases digit
  · exact ⟨'-', _, rfl, rfl, by decide⟩

theorem Blanks.endsNumber (blanks : Blanks cs rest) (ends : EndsNumber rest) : EndsNumber cs := by
  obtain ⟨bs, every, rfl⟩ := blanks
  cases bs with
  | nil => exact ends
  | cons b bs =>
    rintro c ⟨⟩
    have blank := every b List.mem_cons_self
    simp only [isBlank, Bool.or_eq_true, beq_iff_eq] at blank
    rcases blank with ((rfl | rfl) | rfl) | rfl <;> exact ⟨rfl, by decide, by decide, by decide⟩

end Connectivity.Json
