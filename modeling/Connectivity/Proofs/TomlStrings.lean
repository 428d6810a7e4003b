import Connectivity.Toml.Printer
import Mathlib.Data.List.Basic
import Mathlib.Tactic.SplitIfs
/-! TOML strings that were printed are read back, whatever form they were given. -/
namespace Connectivity.Toml

/-- One more character in front of what was read. -/
def found (c : Char) (more : Option (List Char × List Char)) : Option (List Char × List Char) :=
  more.map (fun r => (c :: r.1, r.2))

theorem ne_of_isPlain {c : Char} (plain : isPlain c = true) : c ≠ '\n' ∧ c ≠ '\r' :=
  ⟨by rintro rfl; exact absurd plain (by decide), by rintro rfl; exact absurd plain (by decide)⟩

namespace StringForm
variable {f : StringForm} {c : Char} {rest : List Char}

/-- The mark is one of the two that a string can have. -/
def IsMarked (f : StringForm) : Prop := f.mark = '"' ∨ f.mark = '\''

theorem IsMarked.ne (marked : f.IsMarked) : f.mark ≠ '\n' ∧ f.mark ≠ '\r' := by
  rcases marked with mark | mark <;> rw [mark] <;> decide

theorem body_plain (plain : isPlain c = true) (mark : c ≠ f.mark)
    (backslash : c ≠ '\\' ∨ f.escapes = false) :
    f.body false (c :: rest) = found c (f.body false rest) := by
  obtain ⟨feed, back⟩ := ne_of_isPlain plain
  have escape : ¬ (c = '\\' ∧ f.escapes = true) := by
    rcases backslash with other | none
    · exact fun both => other both.1
    · exact fun both => Bool.noConfusion (none.symm.trans both.2)
  rw [body.eq_def]
  simp only [if_neg feed, if_neg back, Bool.false_and, Bool.false_eq_true, if_false, if_neg mark,
    if_neg escape, if_pos plain]
  rfl

theorem body_feed (lines : f.lines = true) :
    f.body false ('\n' :: rest) = found '\n' (f.body false rest) := by
  rw [body.eq_def]
  simp only [if_true, Bool.false_eq_true, if_false, lines]
  rfl

theorem body_close (marked : f.IsMarked) (line : f.lines = false) :
    f.body false (f.mark :: rest) = some ([], rest) := by
  obtain ⟨feed, back⟩ := marked.ne
  rw [body.eq_def]
  simp only [if_neg feed, if_neg back, Bool.false_and, Bool.false_eq_true, if_false, if_true, line,
    Bool.not_false]

theorem body_closeLines (marked : f.IsMarked) (lines : f.lines = true) :
    f.body false (f.mark :: f.mark :: f.mark :: rest) = some (f.closing rest) := by
  obtain ⟨feed, back⟩ := marked.ne
  rw [body.eq_def]
  simp only [if_neg feed, if_neg back, Bool.false_and, Bool.false_eq_true, if_false, if_true, lines,
    Bool.not_true, and_self]

theorem body_mark {a b : Char} (marked : f.IsMarked) (lines : f.lines = true)
    (apart : ¬ (a = f.mark ∧ b = f.mark)) :
    f.body false (f.mark :: a :: b :: rest) = found f.mark (f.body false (a :: b :: rest)) := by
  obtain ⟨feed, back⟩ := marked.ne
  rw [body.eq_def]
  simp only [if_neg feed, if_neg back, Bool.false_and, Bool.false_eq_true, if_false, if_true, lines,
    Bool.not_true, if_neg apart]
  rfl

theorem mark_of_escapes (escapes : f.escapes = true) : f.mark = '"' := eq_of_beq escapes

theorem body_short {e : Char} (escapes : f.escapes = true) (short : shortEscape? e = some c) :
    f.body false ('\\' :: e :: rest) = found c (f.body false rest) := by
  have mark := mark_of_escapes escapes
  rw [body.eq_def]
  unfold shortEscape? at short
  split at short <;> cases short <;>
    simp [mark, escapes, skipBlanks, isBlank, afterLineEnd?, shortEscape?, found]

theorem body_hex {x₁ x₂ x₃ x₄ : Char} (escapes : f.escapes = true)
    (hex : ofHex? [x₁, x₂, x₃, x₄] = some c) :
    f.body false ('\\' :: 'u' :: x₁ :: x₂ :: x₃ :: x₄ :: rest) = found c (f.body false rest) := by
  have mark := mark_of_escapes escapes
  rw [body.eq_def]
  simp [mark, escapes, hex, found]

end StringForm

theorem toNat_of_not_isPlain {c : Char} (control : isPlain c = false) : c.toNat < 128 := by
  simp only [isPlain, Bool.or_eq_false_iff, Bool.and_eq_false_iff, decide_eq_false_iff_not,
    bne_eq_false_iff_eq] at control
  omega

theorem ofHex?_digits : ∀ n < 128, ofHex? ['0', '0', (Nat.digitChar (n / 16)).toUpper,
    (Nat.digitChar (n % 16)).toUpper] = some (Char.ofNat n) := by
  decide +kernel

theorem body_escape {f : StringForm} {c : Char} {rest : List Char} (escapes : f.escapes = true)
    (special : c = '"' ∨ c = '\\' ∨ c = '\t' ∨ isPlain c = false) :
    f.body false (escape c ++ rest) = found c (f.body false rest) := by
  unfold escape
  split
  case h_8 other quote backslash _ tab _ _ _ =>
    have control : isPlain c = false :=
      ((special.resolve_left quote).resolve_left backslash).resolve_left tab
    have hex := ofHex?_digits c.toNat (toNat_of_not_isPlain control)
    rw [Char.ofNat_toNat] at hex
    exact StringForm.body_hex escapes hex
  all_goals exact StringForm.body_short escapes rfl

/-! What stands between the marks. -/

/-- The characters `cs` as they stand in a string of this form, where `run` marks stand before. -/
inductive Content (f : StringForm) : Nat → List Char → List Char → Prop where
  | nil {run : Nat} : Content f run [] []
  | plain {run : Nat} {c : Char} {text cs : List Char} (plain : isPlain c = true)
      (mark : c ≠ f.mark) (backslash : c ≠ '\\' ∨ f.escapes = false) (after : Content f 0 text cs) :
      Content f run (c :: text) (c :: cs)
  | feed {run : Nat} {text cs : List Char} (lines : f.lines = true) (after : Content f 0 text cs) :
      Content f run ('\n' :: text) ('\n' :: cs)
  | mark {run : Nat} {text cs : List Char} (lines : f.lines = true) (few : run < 2)
      (after : Content f (run + 1) text cs) : Content f run (f.mark :: text) (f.mark :: cs)
  | escaped {run : Nat} {c : Char} {text cs : List Char} (escapes : f.escapes = true)
      (special : c = '"' ∨ c = '\\' ∨ c = '\t' ∨ isPlain c = false) (after : Content f 0 text cs) :
      Content f run (escape c ++ text) (c :: cs)

/-- The marks around a string. -/
def StringForm.marks (f : StringForm) : List Char := List.replicate (if f.lines then 3 else 1) f.mark

theorem escape_eq_cons (c : Char) : ∃ e text, escape c = '\\' :: e :: text := by
  unfold escape
  split <;> exact ⟨_, _, rfl⟩

namespace Content
variable {f : StringForm} {run : Nat} {a : Char} {text cs rest : List Char}

theorem eq_nil (content : Content f run [] cs) : cs = [] := by
  generalize none : ([] : List Char) = text at content
  cases content with
  | nil => rfl
  | @escaped _ c =>
    obtain ⟨e, others, spelled⟩ := escape_eq_cons c
    rw [spelled] at none
    cases none
  | _ => cases none

/-- Of the first character: a mark is one of the few that stand for themselves. -/
theorem first (content : Content f run (a :: text) cs) :
    (isPlain a = true ∧ a ≠ f.mark) ∨ (a = '\n' ∧ '\n' ∈ cs) ∨ (a = '\\' ∧ f.escapes = true) ∨
      (a = f.mark ∧ f.lines = true ∧ run < 2 ∧
        ∃ more, cs = f.mark :: more ∧ Content f (run + 1) text more) := by
  generalize spelled : a :: text = whole at content
  cases content with
  | nil => cases spelled
  | plain plain mark =>
    cases spelled
    exact .inl ⟨plain, mark⟩
  | feed =>
    cases spelled
    exact .inr (.inl ⟨rfl, List.mem_cons_self⟩)
  | mark lines few after =>
    cases spelled
    exact .inr (.inr (.inr ⟨rfl, lines, few, _, rfl, after⟩))
  | @escaped _ c _ _ escapes =>
    obtain ⟨e, others, there⟩ := escape_eq_cons c
    rw [there] at spelled
    cases spelled
    exact .inr (.inr (.inl ⟨rfl, escapes⟩))

theorem of_mark (content : Content f run (f.mark :: text) cs) (marked : f.IsMarked) :
    ∃ more, cs = f.mark :: more ∧ f.lines = true ∧ run < 2 ∧ Content f (run + 1) text more := by
  obtain ⟨-, other⟩ | ⟨feed, -⟩ | ⟨backslash, escapes⟩ | ⟨-, lines, few, more, rfl, after⟩ :=
    content.first
  · exact absurd rfl other
  · exact absurd feed marked.ne.1
  · rw [StringForm.mark_of_escapes escapes] at backslash
    exact absurd backslash (by decide)
  · exact ⟨more, rfl, lines, few, after⟩

/-- After two marks comes no third. -/
theorem head_ne (content : Content f 2 (a :: text) cs) (marked : f.IsMarked) : a ≠ f.mark := by
  rintro rfl
  obtain ⟨-, -, -, few, -⟩ := content.of_mark marked
  omega

/-- A string without line ends does not begin with one. -/
theorem head (content : Content f run (a :: text) cs) (marked : f.IsMarked) (single : '\n' ∉ cs) :
    a ≠ '\n' ∧ a ≠ '\r' := by
  obtain ⟨plain, -⟩ | ⟨-, several⟩ | ⟨rfl, -⟩ | ⟨rfl, -⟩ := content.first
  · exact ne_of_isPlain plain
  · exact absurd several single
  · decide
  · exact marked.ne

end Content

namespace StringForm
variable {f : StringForm} {rest : List Char}

theorem marks_of_lines (lines : f.lines = true) : f.marks = [f.mark, f.mark, f.mark] := by
  rw [marks, lines]
  rfl

theorem closing_none (apart : rest.head? ≠ some f.mark) : f.closing rest = ([], rest) := by
  match rest, apart with
  | [], _ => rfl
  | [a], apart =>
    have other : a ≠ f.mark := fun same => apart (congrArg some same)
    simp only [closing, if_neg other]
  | a :: b :: more, apart =>
    have other : a ≠ f.mark := fun same => apart (congrArg some same)
    simp only [closing, if_neg other, if_neg (fun both : a = f.mark ∧ b = f.mark => other both.1)]

theorem closing_one (apart : rest.head? ≠ some f.mark) :
    f.closing (f.mark :: rest) = ([f.mark], rest) := by
  match rest, apart with
  | [], _ => simp only [closing, if_true]
  | b :: more, apart =>
    have other : b ≠ f.mark := fun same => apart (congrArg some same)
    simp only [closing, true_and, if_neg other, if_true]

theorem closing_two : f.closing (f.mark :: f.mark :: rest) = ([f.mark, f.mark], rest) := by
  simp only [closing, and_self, if_true]

end StringForm

namespace Content
variable {f : StringForm} {run : Nat} {text cs rest : List Char}

/-- Marks that stand for themselves may be followed by those at the end, so the two characters after
each are looked at. -/
theorem read_mark (lines : f.lines = true) (few : run < 2) (after : Content f (run + 1) text cs)
    (marked : f.IsMarked) (apart : rest.head? ≠ some f.mark)
    (later : f.body false (text ++ (f.marks ++ rest)) = some (cs, rest)) :
    f.body false (f.mark :: (text ++ (f.marks ++ rest))) = some (f.mark :: cs, rest) := by
  have three := StringForm.marks_of_lines lines
  match text, after with
  | [], after =>
    rw [after.eq_nil, three]
    exact (StringForm.body_closeLines marked lines).trans
      (congrArg some (StringForm.closing_one apart))
  | a :: more, after =>
    have told (next : ∀ b, (more ++ (f.marks ++ rest)).head? = some b → ¬ (a = f.mark ∧ b = f.mark)) :
        f.body false (f.mark :: a :: (more ++ (f.marks ++ rest))) = some (f.mark :: cs, rest) := by
      obtain ⟨b, others, there⟩ : ∃ b others, more ++ (f.marks ++ rest) = b :: others := by
        rw [three]
        cases more <;> exact ⟨_, _, rfl⟩
      rw [List.cons_append, there] at later
      rw [there] at next ⊢
      rw [StringForm.body_mark marked lines (next b rfl), later]
      rfl
    by_cases same : a = f.mark
    · subst same
      obtain ⟨others, rfl, -, low, last⟩ := after.of_mark marked
      obtain rfl : run = 0 := by omega
      match more, last with
      | [], last =>
        rw [last.eq_nil, three]
        exact (StringForm.body_closeLines marked lines).trans
          (congrArg some StringForm.closing_two)
      | b :: more, last =>
        refine told (fun _ next both => ?_)
        cases next
        exact last.head_ne marked both.2
    · exact told (fun _ _ both => same both.1)

theorem read (content : Content f run text cs) (marked : f.IsMarked)
    (apart : rest.head? ≠ some f.mark) :
    f.body false (text ++ (f.marks ++ rest)) = some (cs, rest) := by
  induction content with
  | nil =>
    cases lines : f.lines with
    | false =>
      rw [StringForm.marks, lines]
      exact StringForm.body_close marked lines
    | true =>
      rw [StringForm.marks_of_lines lines]
      exact (StringForm.body_closeLines marked lines).trans
        (congrArg some (StringForm.closing_none apart))
  | plain plain mark backslash after ih =>
    rw [List.cons_append, StringForm.body_plain plain mark backslash, ih]
    rfl
  | feed lines after ih =>
    rw [List.cons_append, StringForm.body_feed lines, ih]
    rfl
  | escaped escapes special after ih =>
    rw [List.append_assoc, body_escape escapes special, ih]
    rfl
  | mark lines few after ih => exact read_mark lines few after marked apart ih

end Content

theorem content_printEscaped (lines : Bool) (run : Nat) (cs : List Char) :
    Content ⟨'"', lines⟩ run (printEscaped lines run cs) cs := by
  induction cs generalizing run with
  | nil => exact .nil
  | cons c rest ih =>
    rw [printEscaped]
    split
    · rename_i quote
      subst quote
      split
      · rename_i few
        simp only [Bool.and_eq_true, decide_eq_true_eq] at few
        exact .mark few.1 few.2 (ih _)
      · exact .escaped rfl (.inl rfl) (ih 0)
    · rename_i quote
      split
      · rename_i feed
        simp only [Bool.and_eq_true, decide_eq_true_eq] at feed
        obtain ⟨several, rfl⟩ := feed
        exact .feed several (ih 0)
      · split
        · rename_i special
          simp only [Bool.or_eq_true, decide_eq_true_eq, Bool.not_eq_true', or_assoc] at special
          exact .escaped rfl (.inr special) (ih 0)
        · rename_i ordinary
          simp only [Bool.or_eq_true, decide_eq_true_eq, Bool.not_eq_true', not_or,
            Bool.not_eq_false] at ordinary
          exact .plain ordinary.2 quote (.inl ordinary.1.1) (ih 0)

theorem le_longestRun (mark : Char) (run : Nat) (cs : List Char) : run ≤ longestRun mark run cs := by
  induction cs generalizing run with
  | nil => exact Nat.le_refl run
  | cons c rest ih =>
    rw [longestRun]
    split
    · exact Nat.le_of_succ_le (ih (run + 1))
    · exact Nat.le_max_left _ _

theorem not_mem_of_longestRun {mark : Char} {cs : List Char} (none : longestRun mark 0 cs = 0) :
    mark ∉ cs := by
  induction cs with
  | nil => exact List.not_mem_nil
  | cons c rest ih =>
    rw [longestRun] at none
    split at none
    · have some := le_longestRun mark (0 + 1) rest
      omega
    · rename_i other
      have later : longestRun mark 0 rest = 0 := by omega
      exact List.not_mem_cons_of_ne_of_not_mem (fun same => other same.symm) (ih later)

theorem content_literal {lines : Bool} {run : Nat} {cs : List Char}
    (printable : ∀ c ∈ cs, needsEscape c = false) (few : longestRun '\'' run cs ≤ 2)
    (line : lines = false → '\n' ∉ cs ∧ '\'' ∉ cs) : Content ⟨'\'', lines⟩ run cs cs := by
  induction cs generalizing run with
  | nil => exact .nil
  | cons c rest ih =>
    have after {next : Nat} (few : longestRun '\'' next rest ≤ 2) :
        Content ⟨'\'', lines⟩ next rest rest := by
      refine ih (fun d listed => printable d (List.mem_cons_of_mem c listed)) few (fun single => ?_)
      obtain ⟨feed, mark⟩ := line single
      exact ⟨fun listed => feed (List.mem_cons_of_mem c listed),
        fun listed => mark (List.mem_cons_of_mem c listed)⟩
    rw [longestRun] at few
    split at few
    · rename_i mark
      subst mark
      have several : lines = true := by
        by_contra single
        exact (line (Bool.eq_false_iff.2 single)).2 List.mem_cons_self
      exact .mark several (by have := le_longestRun '\'' (run + 1) rest; omega) (after few)
    · rename_i mark
      by_cases feed : c = '\n'
      · subst feed
        have several : lines = true := by
          by_contra single
          exact (line (Bool.eq_false_iff.2 single)).1 List.mem_cons_self
        exact .feed several (after (by omega))
      · have plain : isPlain c = true := by
          have := printable c List.mem_cons_self
          simpa [needsEscape, feed] using this
        exact .plain plain mark (.inr rfl) (after (by omega))

theorem afterLineEnd?_cons {a : Char} (feed : a ≠ '\n') (back : a ≠ '\r') (more : List Char) :
    afterLineEnd? (a :: more) = none := by
  unfold afterLineEnd?
  split
  · rename_i same
    cases same
    exact absurd rfl feed
  · rename_i same
    cases same
    exact absurd rfl back
  · rfl

section
variable {f : StringForm} {text cs rest : List Char}

/-- The line end after three marks is the one that was put there. -/
theorem afterLineEnd?_lead (content : Content f 0 text cs) (marked : f.IsMarked)
    (rest : List Char) :
    (afterLineEnd? ((if cs.contains '\n' then ['\n'] else []) ++ (text ++ (f.marks ++ rest)))).getD
      ((if cs.contains '\n' then ['\n'] else []) ++ (text ++ (f.marks ++ rest))) =
        text ++ (f.marks ++ rest) := by
  by_cases several : cs.contains '\n' = true
  · rw [if_pos several]
    rfl
  · rw [if_neg several, List.nil_append]
    have single : '\n' ∉ cs := fun listed => several (List.contains_iff_mem.2 listed)
    have none : afterLineEnd? (text ++ (f.marks ++ rest)) = none := by
      match text, content with
      | [], _ =>
        obtain ⟨others, there⟩ : ∃ others, f.marks ++ rest = f.mark :: others := by
          unfold StringForm.marks
          split <;> exact ⟨_, rfl⟩
        rw [List.nil_append, there]
        exact afterLineEnd?_cons marked.ne.1 marked.ne.2 _
      | a :: more, content =>
        obtain ⟨feed, back⟩ := content.head marked single
        exact afterLineEnd?_cons feed back _
    rw [none]
    rfl

theorem text?_of_content (content : Content f 0 text cs) (marked : f.IsMarked)
    (apart : rest.head? ≠ some f.mark) :
    text? (f.marks ++ ((if f.lines && cs.contains '\n' then ['\n'] else []) ++
      (text ++ (f.marks ++ rest)))) = some (cs, rest) := by
  have read := content.read marked apart
  have skipped := afterLineEnd?_lead content marked rest
  obtain ⟨mark, lines⟩ := f
  cases lines with
  | true =>
    rcases marked with rfl | rfl
    · exact (congrArg (StringForm.body ⟨'"', true⟩ false) skipped).trans read
    · exact (congrArg (StringForm.body ⟨'\'', true⟩ false) skipped).trans read
  | false =>
    -- The first three characters are not all marks.
    have line : text? (mark :: (text ++ (mark :: rest))) = line? (mark :: (text ++ (mark :: rest))) := by
      have two (more : List Char) : text ++ (mark :: rest) ≠ mark :: mark :: more := by
        match text, content with
        | [], _ =>
          intro same
          cases same
          exact apart rfl
        | a :: others, content =>
          intro same
          obtain ⟨rfl, -⟩ := List.cons.inj same
          obtain ⟨-, -, lines, -⟩ := content.of_mark marked
          cases lines
      unfold text?
      split
      · rename_i same
        obtain ⟨rfl, same⟩ := List.cons.inj same
        exact absurd same (two _)
      · rename_i same
        obtain ⟨rfl, same⟩ := List.cons.inj same
        exact absurd same (two _)
      · rfl
    refine line.trans ?_
    rcases marked with rfl | rfl <;> exact read
end

/-- The form that is chosen for a text can hold it. -/
theorem content_formOf (cs : List Char) :
    Content (formOf cs) 0 (if (formOf cs).escapes then printEscaped (formOf cs).lines 0 cs else cs)
      cs := by
  unfold formOf
  dsimp only
  split
  · exact content_printEscaped false 0 cs
  · split
    · rename_i literal
      simp only [Bool.and_eq_true, decide_eq_true_eq, Bool.not_eq_true', List.any_eq_false,
        Bool.not_eq_true] at literal
      obtain ⟨⟨printable, none⟩, single⟩ := literal
      change Content ⟨'\'', false⟩ 0 cs cs
      refine content_literal printable (by omega) (fun _ => ⟨?_, not_mem_of_longestRun none⟩)
      intro listed
      exact Bool.noConfusion (single.symm.trans (List.contains_iff_mem.2 listed))
    · split
      · exact content_printEscaped true 0 cs
      · split
        · rename_i literal
          simp only [Bool.and_eq_true, decide_eq_true_eq, Bool.not_eq_true', List.any_eq_false,
            Bool.not_eq_true] at literal
          exact content_literal literal.1 literal.2 (fun several => nomatch several)
        · exact content_printEscaped _ 0 cs

theorem isMarked_formOf (cs : List Char) : (formOf cs).IsMarked := by
  unfold formOf
  dsimp only
  split_ifs <;> first | exact .inl rfl | exact .inr rfl

/-- A string that was printed is read back, whatever follows it that is no mark. -/
theorem text?_printString (s : String) {rest : List Char} (apart : rest.head? ≠ some '"')
    (apart' : rest.head? ≠ some '\'') : text? (printString s ++ rest) = some (s.toList, rest) := by
  have content := content_formOf s.toList
  have marked := isMarked_formOf s.toList
  have other : rest.head? ≠ some (formOf s.toList).mark := by
    rcases marked with h | h <;> rw [h] <;> assumption
  have read := text?_of_content content marked other
  simpa only [printString, StringForm.marks, List.append_assoc] using read

theorem printString_eq_cons (s : String) :
    ∃ mark more, printString s = mark :: more ∧ (mark = '"' ∨ mark = '\'') := by
  refine ⟨(formOf s.toList).mark, ?_⟩
  cases lines : (formOf s.toList).lines <;>
    exact ⟨_, by simp only [printString, lines]; rfl, isMarked_formOf s.toList⟩

end Connectivity.Toml
