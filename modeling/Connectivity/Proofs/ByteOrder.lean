import Mathlib.Data.List.Basic
import Mathlib.Data.String.Basic
import Mathlib.Tactic.Tauto
import Mathlib.Tactic.SplitIfs
/-! Texts in the order of their bytes. In UTF-8 that is the order of their characters. -/
namespace Connectivity.Text

open String

def bytes (s : String) : List UInt8 := s.toUTF8.data.toList

theorem bytes_eq (s : String) : bytes s = s.toList.flatMap utf8EncodeChar := by
  have spelled : s.toUTF8 = (String.ofList s.toList).toByteArray := by
    rw [String.ofList_toList]
    rfl
  rw [bytes, spelled, String.toByteArray_ofList, List.utf8Encode]
  simp

theorem byte_cons_lt_iff {m n : Nat} {xs ys : List UInt8} (small : m < 256) (little : n < 256) :
    UInt8.ofNat m :: xs < UInt8.ofNat n :: ys ↔ m < n ∨ m = n ∧ xs < ys := by
  simp only [List.cons_lt_cons_iff, UInt8.lt_iff_toNat_lt, ← UInt8.toNat_inj, UInt8.toNat_ofNat']
  rw [Nat.mod_eq_of_lt (by omega), Nat.mod_eq_of_lt (by omega)]

/-- Numbers compare by their last digit where the digits in front are the same. -/
theorem div_lt_or_mod_lt {m n : Nat} (base : Nat) (less : m < n) :
    m / base < n / base ∨ m / base = n / base ∧ m % base < n % base := by
  rcases Nat.lt_or_eq_of_le (Nat.div_le_div_right (c := base) (Nat.le_of_lt less)) with below | same
  · exact .inl below
  · refine .inr ⟨same, ?_⟩
    have first := Nat.div_add_mod m base
    have second := Nat.div_add_mod n base
    rw [same] at first
    omega

/-- Six bits at a time, from the last. -/
theorem sixes_lt {m n : Nat} (less : m < n) :
    m / 262144 < n / 262144 ∨ m / 262144 = n / 262144 ∧
      (m / 4096 % 64 < n / 4096 % 64 ∨ m / 4096 % 64 = n / 4096 % 64 ∧
        (m / 64 % 64 < n / 64 % 64 ∨ m / 64 % 64 = n / 64 % 64 ∧ m % 64 < n % 64)) := by
  have split : ∀ k, k / 4096 = k / 64 / 64 ∧ k / 262144 = k / 64 / 64 / 64 := by
    simp [Nat.div_div_eq_div_mul]
  rw [(split m).1, (split m).2, (split n).1, (split n).2]
  rcases div_lt_or_mod_lt 64 less with below | ⟨same, last⟩
  · rcases div_lt_or_mod_lt 64 below with below | ⟨same, third⟩
    · rcases div_lt_or_mod_lt 64 below with below | ⟨same, second⟩
      · exact .inl below
      · exact .inr ⟨same, .inl second⟩
    · rw [same]
      exact .inr ⟨rfl, .inr ⟨rfl, .inl third⟩⟩
  · rw [same]
    exact .inr ⟨rfl, .inr ⟨rfl, .inr ⟨rfl, last⟩⟩⟩

/-- Of two characters the greater has the greater bytes, whatever follows them. -/
theorem utf8EncodeChar_lt {c d : Char} (less : c < d) (xs ys : List UInt8) :
    utf8EncodeChar c ++ xs < utf8EncodeChar d ++ ys := by
  have values : c.val.toNat < d.val.toNat := less
  have bound : d.val.toNat < 0x110000 := by
    rcases d.valid with low | ⟨-, high⟩
    · exact low.trans (by decide)
    · exact high
  have sixes := sixes_lt values
  have top : c.val.toNat / 262144 % 8 = c.val.toNat / 262144 ∧
      d.val.toNat / 262144 % 8 = d.val.toNat / 262144 := by omega
  unfold utf8EncodeChar
  dsimp only
  split_ifs <;>
    simp (disch := omega) only [List.cons_append, List.nil_append, byte_cons_lt_iff, top] <;> omega

theorem flatMap_lt {cs ds : List Char} (less : cs < ds) :
    cs.flatMap utf8EncodeChar < ds.flatMap utf8EncodeChar := by
  induction cs generalizing ds with
  | nil =>
    cases ds with
    | nil => exact absurd less (List.lt_irrefl _)
    | cons d ds =>
      obtain ⟨b, bs, shape⟩ := List.exists_cons_of_ne_nil (l := utf8EncodeChar d) utf8EncodeChar_ne_nil
      simp [shape]
  | cons c cs ih =>
    cases ds with
    | nil => exact absurd less (List.not_lt_nil _)
    | cons d ds =>
      rw [List.flatMap_cons, List.flatMap_cons]
      rcases List.cons_lt_cons_iff.1 less with below | ⟨rfl, later⟩
      · exact utf8EncodeChar_lt below _ _
      · exact List.append_left_lt (ih later)

theorem bytes_lt {s t : String} (less : s < t) : bytes s < bytes t := by
  rw [bytes_eq, bytes_eq]
  exact flatMap_lt less

theorem bytes_lt_iff {s t : String} : bytes s < bytes t ↔ s < t := by
  refine ⟨fun less => ?_, bytes_lt⟩
  refine String.not_le.1 (fun above => ?_)
  by_cases same : t = s
  · exact List.lt_irrefl _ (same ▸ less)
  · have above : t < s := String.not_le.1 (fun below => same (String.le_antisymm above below))
    exact List.lt_irrefl _ (List.lt_trans less (bytes_lt above))

end Connectivity.Text
