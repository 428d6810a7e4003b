import Mathlib.Data.List.Nodup
import Connectivity.Firewall.PolicyFile
import Connectivity.Proofs.JsonPrint
import Connectivity.Table.Lemmas
/-! The text of a table of policies. It is the canonical one, and reading it gives the policies back. -/
namespace Connectivity

open Json

namespace PolicyText

theorem inOrder_perm (es : List (String × PolicyBits)) : (inOrder es).Perm es :=
  List.mergeSort_perm es _

theorem inOrder_sorted (es : List (String × PolicyBits)) :
    (inOrder es).Pairwise (fun a b => a.1 ≤ b.1) := by
  refine (List.pairwise_mergeSort ?_ ?_ es).imp of_decide_eq_true
  · intro a b c first second
    exact decide_eq_true (String.le_trans (of_decide_eq_true first) (of_decide_eq_true second))
  · intro a b
    simpa using String.le_total a.1 b.1

theorem inOrder_of_sorted {es : List (String × PolicyBits)}
    (sorted : es.Pairwise (fun a b => a.1 ≤ b.1)) : inOrder es = es :=
  List.mergeSort_of_pairwise (sorted.imp decide_eq_true)

theorem inOrder_ascending {es : List (String × PolicyBits)} (distinct : (es.map (·.1)).Nodup) :
    (inOrder es).Pairwise (fun a b => a.1 < b.1) := by
  have apart : ((inOrder es).map (·.1)).Nodup :=
    ((inOrder_perm es).map (·.1)).nodup_iff.2 distinct
  rw [List.Nodup, List.pairwise_map] at apart
  exact ((inOrder_sorted es).and apart).imp (fun both =>
    String.not_le.1 (fun above => both.2 (String.le_antisymm both.1 above)))

theorem inOrder_eq {es sorted : List (String × PolicyBits)} (perm : es.Perm sorted)
    (ascending : sorted.Pairwise (fun a b => a.1 < b.1)) : inOrder es = sorted := by
  have distinct : (es.map (·.1)).Nodup :=
    (perm.map (·.1)).nodup_iff.2 (List.pairwise_map.2 (ascending.imp String.ne_of_lt))
  exact ((inOrder_perm es).trans perm).eq_of_pairwise (fun a b _ _ below above =>
    absurd (String.lt_trans below above) (String.lt_irrefl _)) (inOrder_ascending distinct) ascending

theorem lastOfEach_of_distinct {es : List (String × PolicyBits)} (distinct : (es.map (·.1)).Nodup) :
    lastOfEach es = es := by
  induction es with
  | nil => rfl
  | cons e es ih =>
    rw [List.map_cons, List.nodup_cons] at distinct
    have fresh : es.any (·.1 == e.1) = false := by
      refine List.any_eq_false.2 (fun d listed same => distinct.1 ?_)
      rw [← eq_of_beq same]
      exact List.mem_map_of_mem listed
    rw [lastOfEach, fresh, if_neg Bool.false_ne_true, ih distinct.2]

theorem decodeMembers_natural (es : List (String × PolicyBits)) :
    decodeMembers (es.map (fun e => (some e.1, Json.natural e.2.toNat))) = .ok es := by
  induction es with
  | nil => rfl
  | cons e es ih =>
    rw [List.map_cons, decodeMembers, faithful_word32.back, ih]
    rfl

/-- The policies under the numerals of their uids. -/
def named (t : Table PolicyBits) : List (String × PolicyBits) :=
  t.entries.map (fun e => (Decimal.text e.1.toNat, e.2))

theorem named_distinct (t : Table PolicyBits) : ((named t).map (·.1)).Nodup := by
  have keys : (named t).map (·.1) = t.keys.map (fun k => Decimal.text k.toNat) := by
    simp [named, Table.keys]
  rw [keys]
  exact List.Nodup.map (fun i j same => UInt32.toNat_inj.1 (Decimal.text_injective same)) t.keys_nodup

theorem entries?_ofPolicies (t : Table PolicyBits) :
    entries? (ofPolicies t) = some (inOrder (named t)) := by
  have perm := inOrder_perm (named t)
  have distinct : ((inOrder (named t)).map (·.1)).Nodup :=
    (perm.map (·.1)).nodup_iff.2 (named_distinct t)
  have denotes : Denotes (ofPolicies t)
      (.record ((inOrder (named t)).map (fun e => (e.1, Json.natural e.2.toNat)))) :=
    (renders_lines (List.forall_mem_map.2 (fun _ _ => renders_natural _))).denotes
  have members : decode (.record ((inOrder (named t)).map
      (fun e => (e.1, Json.natural e.2.toNat)))) = .ok (inOrder (named t)) := by
    have each := decodeMembers_natural (inOrder (named t))
    simpa [record, decode, Function.comp_def] using each
  have decoded : decodeText decode (ofPolicies t) = .ok (inOrder (named t)) :=
    decodeText_eq_ok_iff.2 ⟨_, denotes, members⟩
  rw [entries?, decoded]
  simp [Except.toOption, lastOfEach_of_distinct distinct,
    inOrder_of_sorted (inOrder_sorted (named t))]

/-- The uids and policies a text stands for, in the order they are entered. -/
def held (text : String) : List (Uid × PolicyBits) :=
  ((entries? text).getD []).filterMap meaning?

theorem meaning?_named {e : Uid × PolicyBits} (some : e.2 ≠ 0) :
    meaning? (Decimal.text e.1.toNat, e.2) = Option.some e := by
  have small : e.1.toNat ≤ 0xFFFFFFFF := Nat.le_of_lt_succ e.1.toNat_lt
  rw [meaning?, if_neg some, Decimal.count?_text small]
  simp

theorem held_ofPolicies {t : Table PolicyBits} (nonzero : ∀ u, t.find? u ≠ some 0) :
    (held (ofPolicies t)).Perm t.entries := by
  have back : (named t).filterMap meaning? = t.entries := by
    rw [named, List.filterMap_map]
    have each : ∀ e ∈ t.entries, (meaning? ∘ fun e => (Decimal.text e.1.toNat, e.2)) e = some e := by
      intro e listed
      refine meaning?_named (fun zero => nonzero e.1 ?_)
      rw [← zero]
      exact Table.find?_eq_some_iff.2 listed
    rw [List.filterMap_congr each, List.filterMap_some]
  rw [held, entries?_ofPolicies, Option.getD_some, ← back]
  exact (inOrder_perm (named t)).filterMap meaning?

theorem held_nonzero {text : String} {e : Uid × PolicyBits} (h : e ∈ held text) : e.2 ≠ 0 := by
  obtain ⟨d, -, means⟩ := List.mem_filterMap.1 h
  unfold meaning? at means
  split at means
  · cases means
  · rename_i some
    obtain ⟨n, -, rfl⟩ := Option.map_eq_some_iff.1 means
    exact some

/-- One line of the canonical text. -/
def line (e : Uid × PolicyBits) : List Char :=
  ' ' :: ' ' :: '"' :: Decimal.digits e.1.toNat ++ '"' :: ':' :: ' ' :: Decimal.digits e.2.toNat

/-- The canonical text of a table: one line for each policy, in the order of the numerals of the
uids as text. -/
def Written (policies : Table PolicyBits) (text : String) : Prop :=
  ∃ order : List (Uid × PolicyBits), order.Perm policies.entries ∧
    order.Pairwise (fun a b => Decimal.text a.1.toNat < Decimal.text b.1.toNat) ∧
    text.toList = if order = [] then ['{', '}']
      else '{' :: '\n' :: (List.intercalate [',', '\n'] (order.map line) ++ ['\n', '}'])

theorem Written.unique {policies : Table PolicyBits} {a b : String} (ha : Written policies a)
    (hb : Written policies b) : a = b := by
  obtain ⟨order, perm, sorted, text⟩ := ha
  obtain ⟨order', perm', sorted', text'⟩ := hb
  have same : order = order' :=
    (perm.trans perm'.symm).eq_of_pairwise (fun a b _ _ below above =>
      absurd (String.lt_trans below above) (String.lt_irrefl _)) sorted sorted'
  subst same
  exact String.toList_inj.1 (text.trans text'.symm)

theorem escaped_digits (n : Nat) : (Decimal.digits n).flatMap escaped = Decimal.digits n := by
  have plain : ∀ c : Char, c.isDigit = true → escaped c = [c] := by
    intro c digit
    have range : 48 ≤ c.toNat := by
      simp [Char.isDigit, UInt32.le_iff_toNat_le] at digit
      exact digit.1
    unfold escaped
    split
    iterate 7
      · cases digit
    · rw [if_neg (by omega)]
  have all : ∀ cs : List Char, (∀ c ∈ cs, c.isDigit = true) → cs.flatMap escaped = cs := by
    intro cs digits
    induction cs with
    | nil => rfl
    | cons c cs ih =>
      rw [List.flatMap_cons, plain c (digits c List.mem_cons_self),
        ih (fun d listed => digits d (List.mem_cons_of_mem c listed))]
      rfl
  exact all _ (fun c listed => Decimal.isDigit_of_mem_digits listed)

/-- The policies in the order of the numerals of their uids as text. -/
def ordered (t : Table PolicyBits) : List (Uid × PolicyBits) :=
  t.entries.mergeSort (fun a b => Decimal.text a.1.toNat ≤ Decimal.text b.1.toNat)

theorem ordered_perm (t : Table PolicyBits) : (ordered t).Perm t.entries :=
  List.mergeSort_perm t.entries _

theorem inOrder_named (t : Table PolicyBits) :
    inOrder (named t) = (ordered t).map (fun e => (Decimal.text e.1.toNat, e.2)) := by
  refine (List.map_mergeSort (f := fun e : Uid × PolicyBits => (Decimal.text e.1.toNat, e.2)) ?_).symm
  exact fun _ _ _ _ => rfl

theorem ordered_ascending (t : Table PolicyBits) :
    (ordered t).Pairwise (fun a b => Decimal.text a.1.toNat < Decimal.text b.1.toNat) := by
  have ascending := inOrder_ascending (named_distinct t)
  rwa [inOrder_named, List.pairwise_map] at ascending

theorem member_line (e : Uid × PolicyBits) :
    ' ' :: ' ' :: member (Decimal.text e.1.toNat, Json.natural e.2.toNat) = line e := by
  simp [member, line, quoted, Decimal.text, escaped_digits, Json.natural, Json.print]

theorem written_ofPolicies (t : Table PolicyBits) : Written t (ofPolicies t) := by
  refine ⟨ordered t, ordered_perm t, ordered_ascending t, ?_⟩
  have text : (ofPolicies t).toList =
      printLines ((ordered t).map (fun e => (Decimal.text e.1.toNat, Json.natural e.2.toNat))) := by
    have shape := inOrder_named t
    rw [named] at shape
    simp [ofPolicies, shape, Function.comp_def]
  rw [text]
  cases ordered t with
  | nil => rfl
  | cons e rest =>
    have lines : lines ((e :: rest).map (fun e =>
        (Decimal.text e.1.toNat, Json.natural e.2.toNat))) =
          List.intercalate [',', '\n'] ((e :: rest).map line) := by
      rw [Json.lines, List.map_map]
      exact congrArg _ (List.map_congr_left (fun e _ => member_line e))
    rw [if_neg (List.cons_ne_nil e rest), ← lines, List.map_cons]
    exact printLines_cons _ _

end PolicyText

end Connectivity
