import Connectivity.Proofs.TomlValues
import Mathlib.Data.List.Nodup
/-! A TOML document that was printed is read back, section by section and line by line. -/
namespace Connectivity

namespace TomlEntries
variable {es rest : TomlEntries} {key : String} {f : Option Toml → Option Toml}

theorem change?_append (absent : ∀ e ∈ es, e.1 ≠ key) :
    change? f key (es ++ rest) = (change? f key rest).map (es ++ ·) := by
  induction es with
  | nil => simp
  | cons e others ih =>
    have other : ¬ e.1 = key := absent e List.mem_cons_self
    rw [List.cons_append, change?, if_neg other,
      ih (fun e listed => absent e (List.mem_cons_of_mem _ listed)), Option.map_map]
    rfl

theorem change?_absent (absent : ∀ e ∈ es, e.1 ≠ key) :
    change? f key es = (f none).map (fun v => es ++ [(key, v)]) := by
  have appended : change? f key (es ++ []) = (change? f key []).map (es ++ ·) :=
    change?_append absent
  rw [List.append_nil] at appended
  rw [appended, change?, Option.map_map]
  rfl

theorem openTable?_absent (absent : ∀ e ∈ es, e.1 ≠ key) :
    openTable? [] key es = some (es ++ [(key, .table .header [])]) := by
  rw [openTable?, changeAt?, change?_absent absent]
  rfl

theorem define?_last {name : String} {inner : TomlEntries} {v : Toml}
    (last : ∀ e ∈ es, e.1 ≠ name) (absent : ∀ e ∈ inner, e.1 ≠ key) :
    changeAt? .path (define? [] key v) [name] .header (es ++ [(name, .table .header inner)]) =
      some (es ++ [(name, .table .header (inner ++ [(key, v)]))]) := by
  have added : inner.insert? key v = some (inner ++ [(key, v)]) := by
    rw [insert?, change?_absent absent]
    rfl
  have reached : define? [] key v .header inner = some (inner ++ [(key, v)]) := by
    rw [define?, changeAt?]
    exact added
  rw [changeAt?, change?_append last, change?, if_pos rfl]
  simp only [TableOrigin.admits, beq_self_eq_true, if_true, changeAt?, reached, Option.map_some]

end TomlEntries

namespace Toml

/-- A key of this name needs no quotes. -/
def IsBare (name : String) : Prop := name.toList ≠ [] ∧ ∀ c ∈ name.toList, isKeyChar c = true

instance : DecidablePred IsBare := fun name =>
  decidable_of_iff (name.toList ≠ [] ∧ name.toList.all isKeyChar = true) (by simp [IsBare])

theorem skipBlanks_cons {c : Char} (ordinary : isBlank c = false) (rest : List Char) :
    skipBlanks (c :: rest) = c :: rest := List.dropWhile_cons_of_neg (by simp [ordinary])

namespace IsBare
variable {name : String}

theorem eq_cons (bare : IsBare name) : ∃ c more, name.toList = c :: more ∧ isKeyChar c = true := by
  obtain ⟨some, every⟩ := bare
  cases spelled : name.toList with
  | nil => exact absurd spelled some
  | cons c more => exact ⟨c, more, rfl, every c (spelled ▸ List.mem_cons_self)⟩

theorem keyPart? (bare : IsBare name) {c : Char} (outside : isKeyChar c = false) (rest : List Char) :
    keyPart? (name.toList ++ c :: rest) = some (name, c :: rest) := by
  have taken : (name.toList ++ c :: rest).takeWhile isKeyChar = name.toList := by
    rw [List.takeWhile_append_of_pos bare.2, List.takeWhile_cons_of_neg (by simp [outside]),
      List.append_nil]
  have left : (name.toList ++ c :: rest).dropWhile isKeyChar = c :: rest := by
    rw [List.dropWhile_append_of_pos bare.2, List.dropWhile_cons_of_neg (by simp [outside])]
  obtain ⟨d, more, spelled, inside⟩ := bare.eq_cons
  have quote : d ≠ '"' := by rintro rfl; exact absurd inside (by decide)
  have apostrophe : d ≠ '\'' := by rintro rfl; exact absurd inside (by decide)
  unfold Toml.keyPart?
  split
  · rename_i same
    rw [spelled] at same
    exact absurd (List.cons.inj same).1 quote
  · rename_i same
    rw [spelled] at same
    exact absurd (List.cons.inj same).1 apostrophe
  · rw [taken, left]
    split
    · rename_i none
      exact absurd none bare.1
    · rw [String.ofList_toList]

theorem key? (bare : IsBare name) (parts : Nat) {c : Char} (outside : isKeyChar c = false)
    {rest after : List Char} (skipped : skipBlanks (c :: rest) = after)
    (undotted : after.head? ≠ some '.') :
    key? (parts + 1) (name.toList ++ c :: rest) = some (([], name), after) := by
  have blanks : skipBlanks (name.toList ++ c :: rest) = name.toList ++ c :: rest := by
    obtain ⟨d, more, spelled, inside⟩ := bare.eq_cons
    have blank : isBlank d = false := by
      rw [isBlank, Bool.or_eq_false_iff, beq_eq_false_iff_ne, beq_eq_false_iff_ne]
      exact ⟨by rintro rfl; exact absurd inside (by decide),
        by rintro rfl; exact absurd inside (by decide)⟩
    rw [spelled, List.cons_append, skipBlanks_cons blank]
  rw [Toml.key?, blanks, bare.keyPart? outside, Option.bind_eq_bind, Option.bind_some]
  dsimp only
  rw [skipped]
  split
  · exact absurd rfl undotted
  · rfl

end IsBare

theorem lines?_blank (count : Nat) (d : Draft) (rest : List Char) :
    lines? (count + 1) d ('\n' :: rest) = lines? count d rest := by
  rfl

theorem lines?_line {d d' : Draft} {c : Char} {more rest : List Char}
    (ordinary : c ∉ [' ', '\t', '\n', '\r']) (read : line d (c :: more) = some (d', '\n' :: rest))
    (count : Nat) : lines? (count + 1) d (c :: more) = lines? count d' rest := by
  simp only [List.mem_cons, List.not_mem_nil, or_false, not_or] at ordinary
  obtain ⟨space, tab, feed, back⟩ := ordinary
  have blank : isBlank c = false := by simp [isBlank, space, tab]
  rw [lines?, skipBlanks_cons blank]
  dsimp only
  rw [afterLineEnd?_cons feed back]
  dsimp only
  rw [read, Option.bind_eq_bind, Option.bind_some]
  rfl

theorem line_header {name : String} (bare : IsBare name) {d : Draft}
    (absent : ∀ e ∈ d.root, e.1 ≠ name) (rest : List Char) :
    line d ('[' :: (name.toList ++ ']' :: rest)) =
      some (⟨d.root ++ [(name, .table .header [])], [name]⟩, rest) := by
  have key : key? (depthLimit - 1) (name.toList ++ ']' :: rest) = some (([], name), ']' :: rest) :=
    bare.key? (depthLimit - 2) (by decide) (skipBlanks_cons (by decide) rest) (fun same => nomatch same)
  have header : line d ('[' :: (name.toList ++ ']' :: rest)) =
      header? TomlEntries.openTable? [']'] d (name.toList ++ ']' :: rest) := by
    obtain ⟨c, more, spelled, inside⟩ := bare.eq_cons
    rw [spelled]
    unfold line
    split
    · rename_i same
      cases same
    · rename_i same
      cases same
      exact absurd inside (by decide)
    · rename_i same
      cases same
      rfl
    · rename_i _ single
      exact absurd rfl (single _)
  rw [header, header?, key, Option.bind_eq_bind, Option.bind_some]
  dsimp only
  rw [TomlEntries.openTable?_absent absent]
  rfl

theorem line_entry {key : String} (bare : IsBare key) {text : List Char} {v : Toml}
    (prints : Prints (depthLimit - 1) text v) {d d' : Draft}
    (defines : d.define? [] key v = some d') (rest : List Char) :
    line d (key.toList ++ ' ' :: '=' :: ' ' :: (text ++ '\n' :: rest)) =
      some (d', '\n' :: rest) := by
  have read : key? (depthLimit - 1) (key.toList ++ ' ' :: '=' :: ' ' :: (text ++ '\n' :: rest)) =
      some (([], key), '=' :: ' ' :: (text ++ '\n' :: rest)) :=
    bare.key? (depthLimit - 2) (by decide) rfl (fun same => nomatch same)
  have entry : line d (key.toList ++ ' ' :: '=' :: ' ' :: (text ++ '\n' :: rest)) =
      keyValue? d (key.toList ++ ' ' :: '=' :: ' ' :: (text ++ '\n' :: rest)) := by
    obtain ⟨c, more, spelled, inside⟩ := bare.eq_cons
    rw [spelled]
    unfold line
    split
    · rename_i same
      obtain ⟨rfl, -⟩ := List.cons.inj same
      exact absurd inside (by decide)
    · rename_i same
      obtain ⟨rfl, -⟩ := List.cons.inj same
      exact absurd inside (by decide)
    · rename_i same
      obtain ⟨rfl, -⟩ := List.cons.inj same
      exact absurd inside (by decide)
    · rfl
  have skipped : skipBlanks (' ' :: (text ++ '\n' :: rest)) = text ++ '\n' :: rest := by
    obtain ⟨c, more, spelled, ordinary⟩ := prints.first
    have blank : isBlank c = false := by
      simp only [List.mem_cons, not_or] at ordinary
      simp [isBlank, ordinary.1, ordinary.2.1]
    rw [spelled]
    exact (List.dropWhile_cons_of_pos rfl).trans (skipBlanks_cons blank _)
  have value : value? (depthLimit - 1) (2 * (' ' :: (text ++ '\n' :: rest)).length + 2)
      (text ++ '\n' :: rest) = some (v, '\n' :: rest) := by
    refine prints.read rest (Nat.le_refl _) ?_ (.inl rfl)
    simp only [List.length_cons, List.length_append]
    omega
  rw [entry, keyValue?, read]
  simp only [Option.bind_eq_bind, Option.bind_some, skipped, value, defines]
  rfl

structure Entry where
  key : String
  text : List Char
  value : Toml

/-- The key needs no quotes, and the text is one of the value. -/
structure Entry.Sound (e : Entry) : Prop where
  bare : IsBare e.key
  prints : Prints (depthLimit - 1) e.text e.value

structure Section where
  name : String
  entries : List Entry

/-- Names need no quotes, and no key is there twice. -/
structure Section.Sound (s : Section) : Prop where
  bare : IsBare s.name
  entries : ∀ e ∈ s.entries, e.Sound
  distinct : (s.entries.map (·.key)).Nodup

/-- The section as it is printed. -/
def Section.texts (s : Section) : String × List (String × List Char) :=
  (s.name, s.entries.map (fun e => (e.key, e.text)))

/-- The section as it is read. -/
def Section.table (s : Section) : String × Toml :=
  (s.name, .table .header (s.entries.map (fun e => (e.key, e.value))))

def Entry.line (e : Entry) : List Char := e.key.toList ++ [' ', '=', ' '] ++ e.text ++ ['\n']

theorem Entry.Sound.lines? {e : Entry} (sound : e.Sound) {es inner : TomlEntries} {name : String}
    (last : ∀ e ∈ es, e.1 ≠ name) (absent : ∀ d ∈ inner, d.1 ≠ e.key) (count : Nat)
    (rest : List Char) :
    lines? (count + 1) ⟨es ++ [(name, .table .header inner)], [name]⟩ (e.line ++ rest) =
      lines? count ⟨es ++ [(name, .table .header (inner ++ [(e.key, e.value)]))], [name]⟩ rest := by
  have spelled : e.line ++ rest = e.key.toList ++ ' ' :: '=' :: ' ' :: (e.text ++ '\n' :: rest) := by
    simp [Entry.line]
  have defines : Draft.define? ⟨es ++ [(name, .table .header inner)], [name]⟩ [] e.key e.value =
      some ⟨es ++ [(name, .table .header (inner ++ [(e.key, e.value)]))], [name]⟩ := by
    rw [Draft.define?, TomlEntries.define?_last last absent]
    rfl
  have read := line_entry sound.bare sound.prints defines rest
  obtain ⟨c, more, begins, inside⟩ := sound.bare.eq_cons
  rw [spelled]
  rw [begins] at read ⊢
  refine lines?_line (fun listed => ?_) read count
  simp only [List.mem_cons, List.not_mem_nil, or_false] at listed
  rcases listed with rfl | rfl | rfl | rfl <;> exact absurd inside (by decide)

theorem lines?_entries {es : TomlEntries} {name : String} (last : ∀ e ∈ es, e.1 ≠ name)
    (entries : List Entry) {inner : TomlEntries} (sound : ∀ e ∈ entries, e.Sound)
    (distinct : (inner.map (·.1) ++ entries.map (·.key)).Nodup) (rest : List Char) {count : Nat}
    (enough : (entries.flatMap Entry.line ++ rest).length < count) :
    ∃ left, rest.length < left ∧
      lines? count ⟨es ++ [(name, .table .header inner)], [name]⟩
          (entries.flatMap Entry.line ++ rest) =
        lines? left ⟨es ++ [(name, .table .header
          (inner ++ entries.map (fun e => (e.key, e.value))))], [name]⟩ rest := by
  induction entries generalizing inner count with
  | nil => exact ⟨count, enough, by simp⟩
  | cons e others ih =>
    obtain ⟨count, rfl⟩ : ∃ less, count = less + 1 := ⟨count - 1, by omega⟩
    have absent : ∀ d ∈ inner, d.1 ≠ e.key := fun d listed same =>
      List.disjoint_of_nodup_append distinct (List.mem_map_of_mem listed)
        (same ▸ List.mem_cons_self)
    have next : ((inner ++ [(e.key, e.value)]).map (·.1) ++ others.map (·.key)).Nodup := by
      simpa using distinct
    have fewer : (others.flatMap Entry.line ++ rest).length < count := by
      simp only [List.flatMap_cons, List.length_append, Entry.line, List.length_cons] at enough ⊢
      omega
    obtain ⟨left, some, read⟩ :=
      ih (fun d listed => sound d (List.mem_cons_of_mem e listed)) next fewer
    refine ⟨left, some, ?_⟩
    rw [List.flatMap_cons, List.append_assoc, (sound e List.mem_cons_self).lines? last absent, read]
    simp

theorem Section.texts_eq (s : Section) : printSection s.texts.1 s.texts.2 =
    '[' :: (s.name.toList ++ ']' :: '\n' :: s.entries.flatMap Entry.line) := by
  have lines : (s.entries.flatMap fun e => e.key.toList ++ [' ', '=', ' '] ++ e.text ++ ['\n']) =
      s.entries.flatMap Entry.line := rfl
  rw [← lines]
  simp [Section.texts, printSection, List.flatMap_map]

theorem Section.Sound.lines? {s : Section} (sound : s.Sound) {root : TomlEntries}
    {here : List String} (absent : ∀ e ∈ root, e.1 ≠ s.name) (rest : List Char) {count : Nat}
    (enough : (printSection s.texts.1 s.texts.2 ++ rest).length < count) :
    ∃ left, rest.length < left ∧
      lines? count ⟨root, here⟩ (printSection s.texts.1 s.texts.2 ++ rest) =
        lines? left ⟨root ++ [s.table], [s.name]⟩ rest := by
  obtain ⟨count, rfl⟩ : ∃ less, count = less + 1 := ⟨count - 1, by omega⟩
  have spelled : printSection s.texts.1 s.texts.2 ++ rest =
      '[' :: (s.name.toList ++ ']' :: '\n' :: (s.entries.flatMap Entry.line ++ rest)) := by
    simp [s.texts_eq]
  rw [spelled] at enough ⊢
  have header := line_header sound.bare (d := ⟨root, here⟩) absent
    ('\n' :: (s.entries.flatMap Entry.line ++ rest))
  rw [lines?_line (by decide) header count]
  simp only [List.length_cons, List.length_append] at enough
  exact lines?_entries absent s.entries sound.entries (by simpa using sound.distinct) rest
    (by rw [List.length_append]; omega)

theorem lines?_sections (sections : List Section) (sound : ∀ s ∈ sections, s.Sound)
    {root : TomlEntries} {here : List String}
    (distinct : (root.map (·.1) ++ sections.map (·.name)).Nodup) {count : Nat}
    (enough : (printSections (sections.map Section.texts)).length < count) :
    (lines? count ⟨root, here⟩ (printSections (sections.map Section.texts))).map (·.root) =
      some (root ++ sections.map Section.table) := by
  induction sections generalizing root here count with
  | nil =>
    obtain ⟨count, rfl⟩ : ∃ less, count = less + 1 := ⟨count - 1, by omega⟩
    simp [printSections, lines?, skipBlanks]
  | cons s others ih =>
    have absent : ∀ e ∈ root, e.1 ≠ s.name := fun e listed same =>
      List.disjoint_of_nodup_append distinct (List.mem_map_of_mem listed)
        (same ▸ List.mem_cons_self)
    have next : ((root ++ [s.table]).map (·.1) ++ others.map (·.name)).Nodup := by
      simpa [Section.table] using distinct
    have later (s : Section) (listed : s ∈ others) := sound s (List.mem_cons_of_mem _ listed)
    have own := sound s List.mem_cons_self
    cases others with
    | nil =>
      have spelled : printSections ([s].map Section.texts) =
          printSection s.texts.1 s.texts.2 ++ [] := by simp [printSections, List.intercalate]
      rw [spelled] at enough ⊢
      obtain ⟨left, some, read⟩ := own.lines? absent [] enough
      rw [read]
      exact (ih later next some).trans (by simp)
    | cons t others =>
      have spelled : printSections ((s :: t :: others).map Section.texts) =
          printSection s.texts.1 s.texts.2 ++
            '\n' :: printSections ((t :: others).map Section.texts) := by
        simp [printSections, List.intercalate_cons_cons]
      rw [spelled] at enough ⊢
      obtain ⟨left, some, read⟩ := own.lines? absent _ enough
      obtain ⟨left, rfl⟩ : ∃ less, left = less + 1 := ⟨left - 1, by omega⟩
      rw [read, lines?_blank]
      exact (ih later next (Nat.lt_of_succ_lt_succ some)).trans (by simp)

/-- A document that was printed is read back, whatever texts its values have. -/
theorem document?_printSections (sections : List Section) (sound : ∀ s ∈ sections, s.Sound)
    (distinct : (sections.map (·.name)).Nodup) :
    document? (String.ofList (printSections (sections.map Section.texts))) =
      some (sections.map Section.table) := by
  have read := @lines?_sections sections sound [] [] distinct _ (Nat.lt_succ_self _)
  unfold document?
  rw [String.toList_ofList]
  split
  · -- No section begins with a byte order mark.
    rename_i rest same
    cases sections with
    | nil => cases same
    | cons s others =>
      obtain ⟨more, joined⟩ := intercalate_cons_eq ['\n'] (printSection s.texts.1 s.texts.2)
        ((others.map Section.texts).map (fun s => printSection s.1 s.2))
      have begins : printSections ((s :: others).map Section.texts) =
          printSection s.texts.1 s.texts.2 ++ more := joined
      rw [begins, s.texts_eq] at same
      cases same
  · exact read

end Toml

end Connectivity
