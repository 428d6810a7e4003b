import Connectivity.Proofs.TomlStrings
import Connectivity.Toml.Document
import Mathlib.Data.List.Forall2
import Mathlib.Data.List.TakeWhile
/-! TOML values that were printed are read back: naturals, flags, strings, and arrays of them. -/
namespace Connectivity.Toml

/-- A value is over where the line or the array is, or at the comma before the next item. -/
def IsStop (c : Char) : Prop := c = '\n' ∨ c = ',' ∨ c = ']'

/-- Digits are one run, which is over at a stop. -/
theorem lexeme_word {word : List Char} (run : ∀ c ∈ word, isLexemeChar c = true) {c : Char}
    (stop : IsStop c) (rest : List Char) : lexeme (word ++ c :: rest) = (word, c :: rest) := by
  have ends : isLexemeChar c = false := by rcases stop with rfl | rfl | rfl <;> decide
  have blank : c ≠ ' ' := by rcases stop with rfl | rfl | rfl <;> decide
  have first : (word ++ c :: rest).takeWhile isLexemeChar = word := by
    rw [List.takeWhile_append_of_pos run, List.takeWhile_cons_of_neg (by simp [ends]),
      List.append_nil]
  have after : (word ++ c :: rest).dropWhile isLexemeChar = c :: rest := by
    rw [List.dropWhile_append_of_pos run, List.dropWhile_cons_of_neg (by simp [ends])]
  unfold lexeme
  rw [first, after]
  dsimp only
  split
  · rename_i same
    cases same
    exact absurd rfl blank
  · rfl

section
variable {ds : List Char}

theorem not_mem_digits (digits : ∀ c ∈ ds, c.isDigit = true) {c : Char} (other : c.isDigit = false) :
    c ∉ ds := fun listed => Bool.noConfusion (other.symm.trans (digits c listed))

theorem grouped?_digits (some : ds ≠ []) (digits : ∀ c ∈ ds, c.isDigit = true) :
    grouped? Char.isDigit ds = .some ds := by
  induction ds with
  | nil => exact absurd rfl some
  | cons d rest ih =>
    have first := digits d List.mem_cons_self
    match rest, ih with
    | [], _ => rw [grouped?, if_pos first]
    | e :: more, ih =>
      have later : ∀ c ∈ e :: more, c.isDigit = true :=
        fun c listed => digits c (List.mem_cons_of_mem d listed)
      have mark : e ≠ '_' := by
        rintro rfl
        exact absurd (later '_' List.mem_cons_self) (by decide)
      rw [grouped?, if_pos first, ih (List.cons_ne_nil e more) later]
      · rfl
      · exact fun none => nomatch none
      · exact fun rest same => mark (List.cons.inj same).1

theorem not_isMoment_digits (digits : ∀ c ∈ ds, c.isDigit = true) : isMoment ds = false := by
  have dash : '-' ∉ ds := not_mem_digits digits (by decide)
  have colon : ':' ∉ ds := not_mem_digits digits (by decide)
  have date : afterDate? ds = none := by
    unfold afterDate?
    split
    · simp at dash
    · rfl
  have time : afterTime? ds = none := by
    unfold afterTime?
    split
    · simp at colon
    · rfl
  rw [isMoment, date, time]
  rfl

theorem unsigned_digits (digits : ∀ c ∈ ds, c.isDigit = true) : unsigned ds = (false, ds) := by
  have minus : '-' ∉ ds := not_mem_digits digits (by decide)
  have plus : '+' ∉ ds := not_mem_digits digits (by decide)
  unfold unsigned
  split
  · simp at minus
  · simp at plus
  · rfl

theorem not_isFloat_digits (digits : ∀ c ∈ ds, c.isDigit = true) : isFloat ds = false := by
  have word : ¬ (ds = "inf".toList ∨ ds = "nan".toList) := by
    rintro (rfl | rfl) <;> exact absurd (digits 'n' (by decide)) (by decide)
  have mantissa : ds.takeWhile (fun c => !isExponentMark c) = ds := by
    refine List.takeWhile_eq_self_iff.2 (fun c listed => ?_)
    have digit := digits c listed
    rw [Bool.not_eq_true', isExponentMark, Bool.or_eq_false_iff, beq_eq_false_iff_ne,
      beq_eq_false_iff_ne]
    exact ⟨by rintro rfl; exact absurd digit (by decide), by rintro rfl; exact absurd digit (by decide)⟩
  have whole : ds.takeWhile (· != '.') = ds := by
    refine List.takeWhile_eq_self_iff.2 (fun c listed => bne_iff_ne.2 ?_)
    rintro rfl
    exact absurd (digits '.' listed) (by decide)
  unfold isFloat
  simp only [unsigned_digits digits, if_neg word, mantissa, whole, Nat.lt_irrefl, decide_false,
    Bool.false_and]
  split <;> rfl

end

theorem decimal?_digits (n : Nat) : decimal? (Decimal.digits n) = some (Decimal.digits n) := by
  have read := grouped?_digits (Decimal.digits_ne_nil n) (fun _ => Decimal.isDigit_of_mem_digits)
  unfold decimal?
  rw [read]
  split
  · rename_i same
    rcases Nat.eq_zero_or_pos n with rfl | positive
    · cases same
    · exact absurd (congrArg List.head? (Option.some.inj same)) (Decimal.head?_digits n positive)
  · rfl

theorem bounded?_natural {n : Nat} (small : n < 0x8000000000000000) : bounded? (n : Int) = some n := by
  have low : (-0x8000000000000000 : Int) ≤ n := Int.le_trans (by decide) (Int.natCast_nonneg n)
  have high : (n : Int) < 0x8000000000000000 := Int.ofNat_lt.2 small
  exact if_pos ⟨low, high⟩

theorem integer?_digits {n : Nat} (small : n < 0x8000000000000000) :
    integer? (Decimal.digits n) = some n := by
  have digits : ∀ c ∈ Decimal.digits n, c.isDigit = true := fun _ => Decimal.isDigit_of_mem_digits
  have x : 'x' ∉ Decimal.digits n := not_mem_digits digits (by decide)
  have o : 'o' ∉ Decimal.digits n := not_mem_digits digits (by decide)
  have b : 'b' ∉ Decimal.digits n := not_mem_digits digits (by decide)
  unfold integer?
  split
  · rename_i same
    simp [same] at x
  · rename_i same
    simp [same] at o
  · rename_i same
    simp [same] at b
  · simp only [unsigned_digits digits, decimal?_digits]
    rw [Option.bind_some, Decimal.value_digits, if_neg Bool.false_ne_true]
    exact bounded?_natural small

theorem scalar?_digits {n : Nat} (small : n < 0x8000000000000000) :
    scalar? (Decimal.digits n) = some (.integer n) := by
  have digits : ∀ c ∈ Decimal.digits n, c.isDigit = true := fun _ => Decimal.isDigit_of_mem_digits
  have e : 'e' ∉ Decimal.digits n := not_mem_digits digits (by decide)
  have yes : Decimal.digits n ≠ "true".toList := fun same => e (same ▸ by decide)
  have no : Decimal.digits n ≠ "false".toList := fun same => e (same ▸ by decide)
  rw [scalar?, if_neg yes, if_neg no, not_isMoment_digits digits, not_isFloat_digits digits,
    integer?_digits small]
  rfl

/-- The text is one of the value, which nests arrays no deeper than `depth`. -/
structure Prints (depth : Nat) (text : List Char) (v : Toml) : Prop where
  read : ∀ {room fuel : Nat} {c : Char} (rest : List Char), depth ≤ room → text.length < fuel →
    IsStop c → value? room fuel (text ++ c :: rest) = some (v, c :: rest)
  first : ∃ c more, text = c :: more ∧ c ∉ [' ', '\t', '\n', '\r', '#', ']']

namespace Prints
variable {depth : Nat} {text : List Char} {v : Toml}

theorem mono (prints : Prints depth text v) {deeper : Nat} (le : depth ≤ deeper) :
    Prints deeper text v where
  read rest room fuel stop := prints.read rest (Nat.le_trans le room) fuel stop
  first := prints.first

/-- A value that is one run of characters. -/
theorem word {word : List Char} (some : word ≠ []) (run : ∀ c ∈ word, isLexemeChar c = true)
    (scalar : scalar? word = .some v) : Prints 0 word v where
  read := by
    intro room fuel c rest _ enough stop
    obtain ⟨fuel, rfl⟩ : ∃ less, fuel = less + 1 := ⟨fuel - 1, by omega⟩
    have outside : ∀ d ∈ word, d ≠ '[' ∧ d ≠ '\x7b' ∧ d ≠ '"' ∧ d ≠ '\'' := by
      intro d listed
      have inside := run d listed
      refine ⟨?_, ?_, ?_, ?_⟩ <;> rintro rfl <;> exact absurd inside (by decide)
    match word, some with
    | d :: ds, _ =>
      obtain ⟨bracket, brace, quote, apostrophe⟩ := outside d List.mem_cons_self
      have plain : value? room (fuel + 1) (d :: (ds ++ c :: rest)) =
          (scalar? (lexeme (d :: (ds ++ c :: rest))).1).map
            (fun v => (v, (lexeme (d :: (ds ++ c :: rest))).2)) := by
        rw [value?.eq_def]
        dsimp only
        split <;> rename_i same <;> first | rfl | (cases same; contradiction)
      rw [List.cons_append, plain, ← List.cons_append, lexeme_word run stop rest, scalar]
      rfl
  first := by
    match word, some with
    | d :: ds, _ =>
      refine ⟨d, ds, rfl, fun listed => ?_⟩
      have inside := run d List.mem_cons_self
      simp only [List.mem_cons, List.not_mem_nil, or_false] at listed
      rcases listed with rfl | rfl | rfl | rfl | rfl | rfl <;> exact absurd inside (by decide)

theorem natural {n : Nat} (small : n < 0x8000000000000000) :
    Prints 0 (printNatural n) (.integer n) :=
  word (Decimal.digits_ne_nil n)
    (fun c listed => by
      have digit : c.isDigit = true := Decimal.isDigit_of_mem_digits listed
      simp [isLexemeChar, Char.isAlphanum, digit])
    (scalar?_digits small)

theorem flag (b : Bool) : Prints 0 (printFlag b) (.bool b) := by
  cases b with
  | true => exact word (by decide) (List.all_eq_true.mp (by decide)) (if_pos rfl)
  | false =>
    exact word (by decide) (List.all_eq_true.mp (by decide)) ((if_neg (by decide)).trans (if_pos rfl))

theorem string (s : String) : Prints 0 (printString s) (.string s) where
  read := by
    intro room fuel c rest _ enough stop
    obtain ⟨fuel, rfl⟩ : ∃ less, fuel = less + 1 := ⟨fuel - 1, by omega⟩
    have apart (mark : Char) (other : c ≠ mark) : (c :: rest).head? ≠ some mark :=
      fun same => other (Option.some.inj same)
    have read : text? (printString s ++ c :: rest) = some (s.toList, c :: rest) := by
      refine text?_printString s (apart _ ?_) (apart _ ?_) <;>
        rcases stop with rfl | rfl | rfl <;> decide
    have value : value? room (fuel + 1) (printString s ++ c :: rest) =
        (text? (printString s ++ c :: rest)).map (fun r => (.string (String.ofList r.1), r.2)) := by
      obtain ⟨mark, more, printed, rfl | rfl⟩ := printString_eq_cons s
      · rw [printed, List.cons_append, value?]
      · rw [printed, List.cons_append, value?]
    rw [value, read, Option.map_some, String.ofList_toList]
  first := by
    obtain ⟨mark, more, printed, marked⟩ := printString_eq_cons s
    exact ⟨mark, more, printed, by rcases marked with rfl | rfl <;> decide⟩

end Prints

theorem skipFiller_cons {c : Char} (ordinary : c ∉ [' ', '\t', '\n', '\r', '#']) (rest : List Char) :
    skipFiller false (c :: rest) = c :: rest := by
  simp only [List.mem_cons, List.not_mem_nil, or_false, not_or] at ordinary
  obtain ⟨blank, tab, feed, back, comment⟩ := ordinary
  rw [skipFiller.eq_def]
  simp [isBlank, blank, tab, feed, back, comment]

theorem intercalate_cons_eq {α : Type} (sep l : List α) (ls : List (List α)) :
    ∃ more, sep.intercalate (l :: ls) = l ++ more := by
  cases ls with
  | nil => exact ⟨[], by simp [List.intercalate]⟩
  | cons m ms => exact ⟨_, by rw [List.intercalate_cons_cons, List.append_assoc]⟩

theorem Prints.items_eq_cons {depth : Nat} {text : List Char} {v : Toml} (first : Prints depth text v)
    (texts : List (List Char)) (rest : List Char) :
    ∃ c more, [',', ' '].intercalate (text :: texts) ++ rest = c :: more ∧
      c ∉ [' ', '\t', '\n', '\r', '#'] ∧ c ≠ ']' := by
  obtain ⟨c, more, begins, ordinary⟩ := first.first
  obtain ⟨after, joined⟩ := intercalate_cons_eq [',', ' '] text texts
  refine ⟨c, more ++ (after ++ rest), ?_, fun listed => ?_, ?_⟩
  · rw [joined, begins, List.append_assoc]
    rfl
  · exact ordinary (List.mem_append_left [']'] listed)
  · rintro rfl
    exact ordinary (by decide)

/-- Items up to the bracket after the last one. -/
theorem items?_print {depth : Nat} {text : List Char} {v : Toml} {texts : List (List Char)}
    {vs : List Toml} (first : Prints depth text v) (others : List.Forall₂ (Prints depth) texts vs)
    {room fuel : Nat} (deep : depth ≤ room)
    (enough : ([',', ' '].intercalate (text :: texts)).length + 1 < fuel) (rest : List Char) :
    items? room fuel ([',', ' '].intercalate (text :: texts) ++ ']' :: rest) = some (v :: vs, rest) := by
  -- on the items after the first, with the first one and the fuel left free
  induction others generalizing text v fuel with
  | nil =>
    obtain ⟨fuel, rfl⟩ : ∃ less, fuel = less + 1 := ⟨fuel - 1, by omega⟩
    have alone : [',', ' '].intercalate [text] = text := by simp [List.intercalate]
    rw [alone] at enough ⊢
    have read : value? room fuel (text ++ ']' :: rest) = some (v, ']' :: rest) :=
      first.read rest deep (by omega) (.inr (.inr rfl))
    rw [items?, read, Option.bind_eq_bind, Option.bind_some]
    dsimp only
    rw [skipFiller_cons (by decide)]
    rfl
  | @cons next w texts ws printed others ih =>
    obtain ⟨fuel, rfl⟩ : ∃ less, fuel = less + 1 := ⟨fuel - 1, by omega⟩
    rw [List.intercalate_cons_cons] at enough ⊢
    simp only [List.length_append, List.length_cons, List.length_nil] at enough
    simp only [List.append_assoc, List.cons_append, List.nil_append]
    have later := ih printed (show _ < fuel by omega)
    obtain ⟨c, more, spelled, ordinary, other⟩ := printed.items_eq_cons texts (']' :: rest)
    rw [spelled] at later ⊢
    have read : value? room fuel (text ++ ',' :: ' ' :: c :: more) =
        some (v, ',' :: ' ' :: c :: more) := first.read _ deep (by omega) (.inr (.inl rfl))
    have skipped : skipFiller false (' ' :: c :: more) = c :: more := by
      rw [skipFiller.eq_def]
      exact skipFiller_cons ordinary more
    rw [items?, read, Option.bind_eq_bind, Option.bind_some]
    dsimp only
    rw [skipFiller_cons (by decide)]
    simp only [skipped]
    split
    · rename_i same
      cases same
      exact absurd rfl other
    · rw [later]
      rfl

theorem Prints.array {depth : Nat} {texts : List (List Char)} {vs : List Toml}
    (items : List.Forall₂ (Prints depth) texts vs) :
    Prints (depth + 1) (printArray texts) (.array vs) where
  read := by
    intro room fuel c rest deep enough stop
    obtain ⟨room, rfl⟩ : ∃ less, room = less + 1 := ⟨room - 1, by omega⟩
    obtain ⟨fuel, rfl⟩ : ∃ less, fuel = less + 1 := ⟨fuel - 1, by omega⟩
    have spelled : printArray texts ++ c :: rest =
        '[' :: ([',', ' '].intercalate texts ++ ']' :: c :: rest) := by simp [printArray]
    simp only [printArray, List.length_append, List.length_cons, List.length_nil] at enough
    rw [spelled]
    cases items with
    | nil =>
      change value? (room + 1) (fuel + 1) ('[' :: ']' :: c :: rest) = _
      simp only [value?.eq_def, skipFiller_cons (show ']' ∉ [' ', '\t', '\n', '\r', '#'] by decide)]
    | @cons text v texts vs first others =>
      have read := items?_print first others (show depth ≤ room by omega)
        (show _ < fuel by omega) (c :: rest)
      obtain ⟨d, more, begins, ordinary, other⟩ := first.items_eq_cons texts (']' :: c :: rest)
      rw [begins] at read ⊢
      simp only [value?.eq_def, skipFiller_cons ordinary]
      split
      · contradiction
      · rename_i same
        cases same
        exact absurd rfl other
      · rename_i same _
        cases same
        rw [read]
        rfl
  first := ⟨'[', _, rfl, by decide⟩

end Connectivity.Toml
