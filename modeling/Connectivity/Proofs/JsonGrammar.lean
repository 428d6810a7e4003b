import Mathlib.Data.List.Basic
import Mathlib.Tactic.Tauto
import Connectivity.Json.Decoder
import Connectivity.Proofs.JsonTokens
import Connectivity.Proofs.Outcome
/-! The reader and the grammar agree: what is read was there to be read, and what the grammar has is
read for what it is. So a text is decoded just if it is JSON for a value that is. -/
namespace Connectivity.Json

variable {cs rest : List Char}

theorem readValue_skipBlanks (fuel : Nat) (cs : List Char) :
    readValue fuel (skipBlanks cs) = readValue fuel cs := by
  cases fuel with
  | zero => rfl
  | succ fuel => simp only [readValue, skipBlanks_skipBlanks]

theorem readItems_skipBlanks (fuel : Nat) (cs : List Char) :
    readItems fuel (skipBlanks cs) = readItems fuel cs := by
  cases fuel with
  | zero => rfl
  | succ fuel => simp only [readItems, readValue_skipBlanks]

theorem readMembers_skipBlanks (fuel : Nat) (cs : List Char) :
    readMembers fuel (skipBlanks cs) = readMembers fuel cs := by
  cases fuel with
  | zero => rfl
  | succ fuel => simp only [readMembers, skipBlanks_skipBlanks]

/-! Values, and the items and members up to where they end. -/

theorem Begins.skip {v : Json} {more : List Char} (blanks : Blanks cs more)
    (begins : Begins (.value v) more rest) : Begins (.value v) cs rest := by
  obtain ⟨bs, every, rfl⟩ := blanks
  induction bs with
  | nil => exact begins
  | cons b bs ih =>
    exact .blank (every b List.mem_cons_self) (ih (fun c there => every c (List.mem_cons_of_mem b there)))

/-- The item, comma and so on that a reader with this much room finds are there. -/
def Faultless (fuel : Nat) : Prop :=
  ∀ cs rest : List Char,
    (∀ v, readValue fuel cs = (v, some rest) → Begins (.value v) cs rest) ∧
    (∀ vs, readItems fuel cs = (vs, some rest) → Begins (.items vs) cs rest) ∧
    (∀ ms, readMembers fuel cs = (ms, some rest) → Begins (.members ms) cs rest)

theorem Faultless.value {fuel : Nat} (inside : Faultless fuel) {v : Json}
    (read : readValue (fuel + 1) cs = (v, some rest)) : Begins (.value v) cs rest := by
  refine .skip (blanks_skipBlanks cs) ?_
  unfold readValue at read
  split at read
  · rename_i inner opened
    rw [opened]
    split at read
    · rename_i closed
      cases read
      exact .noMembers (blanks_of_skipBlanks closed)
    · obtain ⟨rfl, left⟩ := Prod.mk.inj read
      rw [readMembers_skipBlanks] at left ⊢
      exact .object ((inside inner rest).2.2 _ (Prod.ext rfl left))
  · rename_i inner opened
    rw [opened]
    split at read
    · rename_i closed
      cases read
      exact .noItems (blanks_of_skipBlanks closed)
    · obtain ⟨rfl, left⟩ := Prod.mk.inj read
      rw [readItems_skipBlanks] at left ⊢
      exact .array ((inside inner rest).2.1 _ (Prod.ext rfl left))
  · rename_i inner opened
    rw [opened]
    split at read
    · rename_i string
      cases read
      exact .string (quotes_of_readString string)
    · rename_i string
      cases read
      exact .halfPair (quotes_of_readString string)
    · cases read
  · rename_i opened
    cases read
    rw [opened]
    exact .null
  · rename_i opened
    cases read
    rw [opened]
    exact .true
  · rename_i opened
    cases read
    rw [opened]
    exact .false
  · split at read
    · rename_i number
      cases read
      obtain ⟨shape, number⟩ := of_readNumber number
      rw [shape]
      exact .number number
    · cases read

theorem Faultless.items {fuel : Nat} (inside : Faultless fuel) {vs : List Json}
    (read : readItems (fuel + 1) cs = (vs, some rest)) : Begins (.items vs) cs rest := by
  unfold readItems at read
  split at read
  · cases read
  · rename_i v more value
    have value := (inside cs more).1 v value
    split at read
    · rename_i comma
      obtain ⟨rfl, left⟩ := Prod.mk.inj read
      have others := (inside _ rest).2.1 _ (Prod.ext rfl left)
      exact .nextItem value (blanks_of_skipBlanks comma) others
    · rename_i closed
      cases read
      exact .lastItem value (blanks_of_skipBlanks closed)
    · cases read

theorem Faultless.members {fuel : Nat} (inside : Faultless fuel) {ms : List (Option String × Json)}
    (read : readMembers (fuel + 1) cs = (ms, some rest)) : Begins (.members ms) cs rest := by
  unfold readMembers at read
  split at read
  · rename_i starts
    have starts := blanks_of_skipBlanks starts
    split at read
    · cases read
    · rename_i string
      have quotes := quotes_of_readString string
      split at read
      · rename_i colon
        have colon := blanks_of_skipBlanks colon
        split at read
        · cases read
        · rename_i v more value
          have value := (inside _ more).1 v value
          split at read
          · rename_i comma
            obtain ⟨rfl, left⟩ := Prod.mk.inj read
            have others := (inside _ rest).2.2 _ (Prod.ext rfl left)
            exact .nextMember starts quotes colon value (blanks_of_skipBlanks comma) others
          · rename_i closed
            cases read
            exact .lastMember starts quotes colon value (blanks_of_skipBlanks closed)
          · cases read
      · cases read
  · cases read

theorem faultless (fuel : Nat) : Faultless fuel := by
  induction fuel with
  | zero => exact fun _ _ => ⟨nofun, nofun, nofun⟩
  | succ fuel ih => exact fun _ _ => ⟨fun _ => ih.value, fun _ => ih.items, fun _ => ih.members⟩

theorem Begins.shorter {part : Part} (begins : Begins part cs rest) : rest.length < cs.length := by
  induction begins with
  | blank _ _ ih => simp; omega
  | null | true | false => simp; omega
  | number number =>
    obtain ⟨c, tail, rfl, -⟩ := number.head
    rw [List.length_append, List.length_cons]
    omega
  | string quotes | halfPair quotes => exact quotes.shorter
  | noItems ends | noMembers ends =>
    have shorter := ends.length_le
    simp at shorter ⊢
    omega
  | array _ ih | object _ ih => simp; omega
  | lastItem _ ends ih =>
    have shorter := ends.length_le
    simp at shorter
    omega
  | nextItem _ comma _ ih others =>
    have shorter := comma.length_le
    simp at shorter
    omega
  | lastMember starts quotes colon _ ends ih =>
    have blanks := starts.length_le
    have key := quotes.shorter
    have separator := colon.length_le
    have close := ends.length_le
    simp at separator close
    omega
  | nextMember starts quotes colon _ comma _ ih others =>
    have blanks := starts.length_le
    have key := quotes.shorter
    have separator := colon.length_le
    have close := comma.length_le
    simp at separator close
    omega

/-- A value begins with neither the end of an array nor a blank, once blanks are skipped. -/
theorem Begins.opens {v : Json} (begins : Begins (.value v) cs rest) :
    ∃ c tail, skipBlanks cs = c :: tail ∧ c ≠ ']' := by
  generalize same : Part.value v = part at begins
  induction begins generalizing v with
  | blank blank more ih =>
    rw [skipBlanks_blank blank]
    exact ih same
  | number number =>
    obtain ⟨c, tail, rfl, dark, other⟩ := number.head
    refine ⟨c, _, skipBlanks_cons dark _, ?_⟩
    rintro rfl
    exact other (by decide)
  | string quotes | halfPair quotes =>
    obtain ⟨body, rfl, -⟩ := readString_of_quotes quotes
    exact ⟨_, _, rfl, by decide⟩
  | null | true | false | noItems | array | noMembers | object => exact ⟨_, _, rfl, by decide⟩
  | lastItem | nextItem | lastMember | nextMember => cases same

/-- With room enough this part is read off the front, if what follows a value does not go on with
a numeral. -/
def Read : Part → List Char → List Char → Prop
  | .value v, cs, rest =>
    ∀ fuel, 2 * cs.length < fuel → EndsNumber rest → readValue fuel cs = (v, some rest)
  | .items vs, cs, rest => ∀ fuel, 2 * cs.length + 1 < fuel → readItems fuel cs = (vs, some rest)
  | .members ms, cs, rest =>
    ∀ fuel, 2 * cs.length + 1 < fuel → readMembers fuel cs = (ms, some rest)

theorem read_number {literal : List Char} (number : IsNumber literal) :
    Read (.value (.number literal)) (literal ++ rest) rest := by
  rintro (_ | fuel) room ends
  · cases room
  · have read := readNumber_append number ends
    obtain ⟨c, tail, rfl, dark, other⟩ := number.head
    simp only [List.mem_cons, List.not_mem_nil, or_false, not_or] at other
    unfold readValue
    rw [List.cons_append, skipBlanks_cons dark]
    split
    iterate 6
      · rename_i same
        exact absurd (List.cons.inj same).1 (by tauto)
    · rw [← List.cons_append, read]

theorem read_quotes {s : Option String} (quotes : Quotes cs s rest) :
    Read (.value (s.elim .halfPair .string)) cs rest := by
  rintro (_ | fuel) room ends
  · cases room
  · obtain ⟨body, rfl, read⟩ := readString_of_quotes quotes
    rw [readValue, skipBlanks_cons rfl]
    cases s <;> simp only [read] <;> rfl

theorem Read.array {v : Json} {vs : List Json} (begins : ∃ c tail, skipBlanks cs = c :: tail ∧ c ≠ ']')
    (items : Read (.items (v :: vs)) cs rest) :
    Read (.value (.array (v :: vs))) ('[' :: cs) rest := by
  rintro (_ | fuel) room ends
  · cases room
  · have inside := items fuel (by simp at room; omega)
    rw [← readItems_skipBlanks] at inside
    obtain ⟨c, tail, first, other⟩ := begins
    rw [readValue, skipBlanks_cons rfl]
    simp only [first] at inside ⊢
    split
    · rename_i closed
      exact absurd (List.cons.inj closed).1 other
    · rw [inside]

theorem Read.object {ms : List (Option String × Json)} (begins : ∃ tail, skipBlanks cs = '"' :: tail)
    (members : Read (.members ms) cs rest) : Read (.value (.object ms)) ('{' :: cs) rest := by
  rintro (_ | fuel) room ends
  · cases room
  · have inside := members fuel (by simp at room; omega)
    rw [← readMembers_skipBlanks] at inside
    obtain ⟨tail, first⟩ := begins
    rw [readValue, skipBlanks_cons rfl]
    simp only [first] at inside ⊢
    change (Json.object (readMembers fuel ('"' :: tail)).1, (readMembers fuel ('"' :: tail)).2) = _
    rw [inside]

theorem Read.lastItem {v : Json} {more : List Char} (value : Read (.value v) cs more)
    (ends : Blanks more (']' :: rest)) : Read (.items [v]) cs rest := by
  rintro (_ | fuel) room
  · cases room
  · have first := value fuel (by omega) (ends.endsNumber (by simp [EndsNumber]))
    rw [readItems, first]
    simp only [ends.stop rfl]

theorem Read.nextItem {v : Json} {vs : List Json} {more others : List Char}
    (value : Read (.value v) cs more) (comma : Blanks more (',' :: others))
    (shorter : more.length < cs.length) (items : Read (.items vs) others rest) :
    Read (.items (v :: vs)) cs rest := by
  have left := comma.length_le
  simp only [List.length_cons] at left
  rintro (_ | fuel) room
  · cases room
  · have first := value fuel (by omega) (comma.endsNumber (by simp [EndsNumber]))
    have later := items fuel (by omega)
    rw [readItems, first]
    simp only [comma.stop rfl, later]

/-- What is read of the members of an object once the first has been read. -/
theorem readMembers_first {key : Option String} {v : Json} {quoted named held more : List Char}
    (starts : Blanks cs quoted) (quotes : Quotes quoted key named)
    (colon : Blanks named (':' :: held)) {fuel : Nat} (value : readValue fuel held = (v, some more)) :
    readMembers (fuel + 1) cs =
      match skipBlanks more with
      | ',' :: cs => ((key, v) :: (readMembers fuel cs).1, (readMembers fuel cs).2)
      | '}' :: rest => ([(key, v)], some rest)
      | _ => ([(key, v), (none, .broken)], none) := by
  obtain ⟨body, rfl, string⟩ := readString_of_quotes quotes
  have opened := readMembers.eq_def (fuel + 1) cs
  simp only [starts.stop rfl, string, colon.stop rfl, value] at opened
  exact opened

theorem Read.lastMember {key : Option String} {v : Json} {quoted named held more : List Char}
    (starts : Blanks cs quoted) (quotes : Quotes quoted key named)
    (colon : Blanks named (':' :: held)) (shorter : held.length < cs.length)
    (value : Read (.value v) held more) (ends : Blanks more ('}' :: rest)) :
    Read (.members [(key, v)]) cs rest := by
  rintro (_ | fuel) room
  · cases room
  · have first := value fuel (by omega) (ends.endsNumber (by simp [EndsNumber]))
    rw [readMembers_first starts quotes colon first, ends.stop rfl]
    rfl

theorem Read.nextMember {key : Option String} {v : Json} {ms : List (Option String × Json)}
    {quoted named held more others : List Char} (starts : Blanks cs quoted)
    (quotes : Quotes quoted key named) (colon : Blanks named (':' :: held))
    (shorter : held.length < cs.length) (value : Read (.value v) held more)
    (less : more.length < held.length) (comma : Blanks more (',' :: others))
    (members : Read (.members ms) others rest) : Read (.members ((key, v) :: ms)) cs rest := by
  have left := comma.length_le
  simp only [List.length_cons] at left
  rintro (_ | fuel) room
  · cases room
  · have first := value fuel (by omega) (comma.endsNumber (by simp [EndsNumber]))
    have later := members fuel (by omega)
    rw [readMembers_first starts quotes colon first, comma.stop rfl]
    simp only [later]

/-- The value of a member is shorter than the members. -/
theorem shorter_of_named {key : Option String} {quoted named held : List Char}
    (starts : Blanks cs quoted) (quotes : Quotes quoted key named)
    (colon : Blanks named (':' :: held)) : held.length < cs.length := by
  have blanks := starts.length_le
  have key := quotes.shorter
  have separator := colon.length_le
  simp only [List.length_cons] at separator
  omega

theorem Begins.opensMembers {ms : List (Option String × Json)}
    (begins : Begins (.members ms) cs rest) : ∃ tail, skipBlanks cs = '"' :: tail := by
  cases begins with
  | lastMember starts quotes | nextMember starts quotes =>
    obtain ⟨body, rfl, -⟩ := readString_of_quotes quotes
    exact ⟨body, starts.stop rfl⟩

theorem Begins.opensItems {vs : List Json} (begins : Begins (.items vs) cs rest) :
    ∃ v ws, vs = v :: ws ∧ ∃ c tail, skipBlanks cs = c :: tail ∧ c ≠ ']' := by
  cases begins with
  | lastItem value => exact ⟨_, _, rfl, value.opens⟩
  | nextItem value => exact ⟨_, _, rfl, value.opens⟩

theorem Begins.read {part : Part} (begins : Begins part cs rest) : Read part cs rest := by
  induction begins with
  | blank blank more ih =>
    intro fuel room ends
    rw [← readValue_skipBlanks, skipBlanks_blank blank, readValue_skipBlanks]
    exact ih fuel (by simp at room; omega) ends
  | null | true | false =>
    rintro (_ | fuel) room ends
    · cases room
    · rfl
  | number number => exact read_number number
  | string quotes => exact read_quotes quotes
  | halfPair quotes => exact read_quotes quotes
  | noItems closed | noMembers closed =>
    rintro (_ | fuel) room ends
    · cases room
    · rw [readValue, skipBlanks_cons rfl]
      simp only [closed.stop rfl]
  | array items ih =>
    obtain ⟨v, vs, rfl, opens⟩ := items.opensItems
    exact ih.array opens
  | object members ih => exact ih.object members.opensMembers
  | lastItem value closed ih => exact ih.lastItem closed
  | nextItem value comma items ih others => exact ih.nextItem comma value.shorter others
  | lastMember starts quotes colon value closed ih =>
    exact ih.lastMember starts quotes colon (shorter_of_named starts quotes colon) closed
  | nextMember starts quotes colon value comma members ih others =>
    exact ih.nextMember starts quotes colon (shorter_of_named starts quotes colon) value.shorter
      comma others

/-! What a value is made of begins somewhere, too. -/

theorem Begins.isNumber {literal : List Char} (begins : Begins (.value (.number literal)) cs rest) :
    IsNumber literal := by
  generalize same : Part.value (.number literal) = part at begins
  induction begins with
  | blank blank more ih => exact ih same
  | number number =>
    cases same
    exact number
  | _ => cases same

theorem Begins.of_mem_members {ms : List (Option String × Json)} {m : Option String × Json}
    (begins : Begins (.members ms) cs rest) (there : m ∈ ms) :
    ∃ cs rest, Begins (.value m.2) cs rest := by
  generalize same : Part.members ms = part at begins
  induction begins generalizing ms with
  | lastMember starts quotes colon value ends =>
    cases same
    obtain rfl := List.mem_singleton.1 there
    exact ⟨_, _, value⟩
  | nextMember starts quotes colon value comma members ih others =>
    cases same
    rcases List.mem_cons.1 there with rfl | there
    · exact ⟨_, _, value⟩
    · exact others there rfl
  | _ => cases same

theorem Begins.of_mem_object {ms : List (Option String × Json)} {m : Option String × Json}
    (begins : Begins (.value (.object ms)) cs rest) (there : m ∈ ms) :
    ∃ cs rest, Begins (.value m.2) cs rest := by
  generalize same : Part.value (.object ms) = part at begins
  induction begins with
  | blank blank more ih => exact ih same
  | noMembers ends =>
    cases same
    cases there
  | object members =>
    cases same
    exact members.of_mem_members there
  | _ => cases same

/-! Whole texts. -/

theorem read_eq_iff {text : String} {v : Json} :
    (∃ rest, read text.toList = (v, some rest) ∧ skipBlanks rest = []) ↔ Denotes text v := by
  constructor
  · rintro ⟨rest, found, ends⟩
    exact ⟨rest, (faultless _ _ rest).1 v found, blanks_of_skipBlanks ends⟩
  · rintro ⟨rest, begins, ends⟩
    exact ⟨rest, begins.read _ (by omega) (ends.endsNumber (by simp [EndsNumber])), ends.skipBlanks⟩

/-- A text is decoded just if it is JSON for a value that is. -/
theorem decodeText_eq_ok_iff {α : Type} {d : Decoder α} {text : String} {a : α} :
    decodeText d text = .ok a ↔ ∃ v, Denotes text v ∧ d v = .ok a := by
  simp only [← read_eq_iff, decodeText]
  cases found : read text.toList with
  | mk v left =>
    constructor
    · intro decoded
      obtain ⟨b, value, decoded⟩ := bind_eq_ok_iff.1 decoded
      cases left with
      | none => cases decoded
      | some rest =>
        dsimp only at decoded
        split at decoded
        · rename_i ends
          cases decoded
          exact ⟨v, ⟨rest, rfl, List.isEmpty_iff.1 ends⟩, value⟩
        · cases decoded
    · rintro ⟨_, ⟨rest, same, ends⟩, decoded⟩
      cases same
      simp [decoded, ends]

theorem Denotes.unique {text : String} {v w : Json} (first : Denotes text v) (second : Denotes text w) :
    v = w := by
  obtain ⟨a, one, -⟩ := read_eq_iff.2 first
  obtain ⟨b, two, -⟩ := read_eq_iff.2 second
  exact congrArg Prod.fst (one.symm.trans two)

end Connectivity.Json
