import Connectivity.Proofs.JsonGrammar
import Connectivity.Proofs.JsonText
/-! Reading a whole value that was printed without blanks. A writer and its decoder are two functions of
their own; that they belong together is proved once for each way of building them. -/
namespace Connectivity.Json

/-- A value that can be written down: its numbers are numerals, and its keys are texts. -/
inductive Plain : Json → Prop where
  | null : Plain .null
  | bool (b : Bool) : Plain (.bool b)
  | natural (n : Nat) : Plain (.natural n)
  | string (s : String) : Plain (.string s)
  | array {items : List Json} (each : ∀ v ∈ items, Plain v) : Plain (.array items)
  | record {members : List (String × Json)} (each : ∀ m ∈ members, Plain m.2) :
      Plain (.record members)

theorem Plain.list {α : Type} {f : α → Json} (plain : ∀ a, (f a).Plain) (as : List α) :
    (Json.array (as.map f)).Plain := .array (List.forall_mem_map.2 (fun a _ => plain a))

theorem Plain.renders {v : Json} (plain : v.Plain) : Renders v v.print := by
  induction plain with
  | null => exact fun _ => .null
  | bool b =>
    cases b with
    | true => exact fun _ => .true
    | false => exact fun _ => .false
  | natural n => exact renders_natural n
  | string s => exact renders_string s
  | array each ih => exact renders_array ih
  | record each ih => exact renders_record ih

/-- What is decoded from the text of a value is what is decoded from the value. -/
theorem Plain.decodeText {α : Type} {d : Decoder α} {v : Json} (plain : v.Plain) {a : α}
    (decoded : d v = .ok a) : decodeText d v.text = .ok a :=
  decodeText_eq_ok_iff.2 ⟨v, plain.renders.denotes, decoded⟩

/-! Writers and their decoders. -/

variable {α β : Type} {f : α → Json} {d : Decoder α}

/-- What `f` writes has a text, and `d` finds in it what was written. -/
structure Faithful (f : α → Json) (d : Decoder α) : Prop where
  plain : ∀ a, (f a).Plain
  back : ∀ a, d (f a) = .ok a

theorem Faithful.text (faithful : Faithful f d) (a : α) : decodeText d (f a).text = .ok a :=
  (faithful.plain a).decodeText (faithful.back a)

theorem faithful_bool : Faithful .bool decodeBool := ⟨.bool, fun _ => rfl⟩

theorem faithful_string : Faithful .string decodeString := ⟨.string, fun _ => rfl⟩

theorem decodeNatural_natural {limit n : Nat} (small : n ≤ limit) :
    decodeNatural limit (.natural n) = .ok n := by
  have read : (Decimal.natural? (Decimal.digits n)).filter (· ≤ limit) = some n := by
    simp [Decimal.natural?_digits, Option.filter, small]
  rw [natural, decodeNatural, read]

theorem decodeNatural_eq_ok {limit n : Nat} {v : Json} (decoded : decodeNatural limit v = .ok n) :
    ∃ literal, v = .number literal ∧ Decimal.natural? literal = some n ∧ n ≤ limit := by
  unfold decodeNatural at decoded
  split at decoded
  · rename_i literal
    split at decoded
    · rename_i found
      cases decoded
      obtain ⟨counted, small⟩ := Option.filter_eq_some_iff.1 found
      exact ⟨literal, rfl, counted, of_decide_eq_true small⟩
    · cases decoded
  · cases decoded

/-- Numbers of a fixed width. -/
theorem faithful_word {limit : Nat} {number : α → Nat} {ofNumber : Nat → α}
    (small : ∀ a, number a ≤ limit) (inverse : ∀ a, ofNumber (number a) = a) :
    Faithful (fun a => .natural (number a)) (fun v => (decodeNatural limit v).map ofNumber) where
  plain a := .natural _
  back a := by rw [decodeNatural_natural (small a), Except.map, inverse]

theorem faithful_word32 : Faithful (fun n => .natural n.toNat) decodeWord32 :=
  faithful_word (fun n => Nat.le_of_lt_succ n.toNat_lt) (fun _ => UInt32.ofNat_toNat)

theorem faithful_name {names : List (String × α)} {name : α → String}
    (listed : ∀ a, names.lookup (name a) = some a) :
    Faithful (fun a => .string (name a)) (decodeName names) where
  plain a := .string _
  back a := by simp only [decodeName, listed]

end Connectivity.Json
