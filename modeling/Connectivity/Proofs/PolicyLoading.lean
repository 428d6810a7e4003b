import Connectivity.Proofs.ByteOrder
import Connectivity.Proofs.Durability
import Connectivity.Proofs.Outcome
/-! What entering a policy text does to a table, whatever the text. Several keys may stand for one uid,
as numerals may have a plus sign and zeros in front; then the last of them in the order of their bytes
decides. -/
namespace Connectivity

open Json

namespace PolicyText

/-! Which texts are policy texts. -/

/-- The text is JSON for an object with these keys and policies, in the order written. -/
def Lists (text : String) (members : List (String × PolicyBits)) : Prop :=
  Denotes text (.record (members.map (fun m => (m.1, .natural m.2.toNat))))

theorem decodeWord32_eq_ok {v : Json} {cs rest : List Char} (begins : Begins (.value v) cs rest)
    {policy : PolicyBits} (decoded : decodeWord32 v = .ok policy) : v = .natural policy.toNat := by
  obtain ⟨n, found, rfl⟩ := map_eq_ok_iff.1 decoded
  obtain ⟨literal, rfl, counted, small⟩ := decodeNatural_eq_ok found
  obtain ⟨-, digits, rfl⟩ := Decimal.natural?_eq_some_iff.1 counted
  have integer : IsInteger literal := begins.isNumber.integer digits
  have fits : (UInt32.ofNat (Decimal.value literal)).toNat = Decimal.value literal :=
    UInt32.toNat_ofNat_of_lt' (Nat.lt_succ_of_le small)
  rw [fits, natural, integer.digits_value]

theorem decodeMembers_eq_ok {ms : List (Option String × Json)}
    {members : List (String × PolicyBits)}
    (begins : ∀ m ∈ ms, ∃ cs rest, Begins (.value m.2) cs rest)
    (decoded : decodeMembers ms = .ok members) :
    ms = members.map (fun m => (some m.1, .natural m.2.toNat)) := by
  induction ms generalizing members with
  | nil =>
    cases decoded
    rfl
  | cons m ms ih =>
    obtain ⟨key, v⟩ := m
    cases key with
    | none => cases decoded
    | some key =>
      obtain ⟨policy, value, decoded⟩ := bind_eq_ok_iff.1 decoded
      obtain ⟨others, later, decoded⟩ := bind_eq_ok_iff.1 decoded
      cases decoded
      obtain ⟨cs, rest, first⟩ := begins _ List.mem_cons_self
      rw [ih (fun m there => begins m (List.mem_cons_of_mem _ there)) later, List.map_cons,
        ← decodeWord32_eq_ok first value]

theorem decodeText_eq_ok_iff_lists {text : String} {members : List (String × PolicyBits)} :
    decodeText decode text = .ok members ↔ Lists text members := by
  rw [decodeText_eq_ok_iff]
  constructor
  · rintro ⟨v, denotes, decoded⟩
    cases v with
    | object ms =>
      obtain ⟨rest, begins, -⟩ := id denotes
      have shape := decodeMembers_eq_ok (fun m there => begins.of_mem_object there) decoded
      rw [shape] at denotes
      simpa [Lists, record, Function.comp_def] using denotes
    | _ => cases decoded
  · intro lists
    refine ⟨_, lists, ?_⟩
    have each := decodeMembers_natural members
    simpa [record, decode, Function.comp_def] using each

/-! Which of a text's entries count. -/

/-- Of what is written under the key, this is the last. -/
def Gives (members : List (String × PolicyBits)) (key : String) (policy : PolicyBits) : Prop :=
  ∃ before after, members = before ++ (key, policy) :: after ∧ ∀ m ∈ after, m.1 ≠ key

/-- The key stands for the uid, and what is given under it is a policy. -/
structure Counts (members : List (String × PolicyBits)) (uid : Uid) (key : String)
    (policy : PolicyBits) : Prop where
  gives : Gives members key policy
  nonzero : policy ≠ 0
  numeral : Decimal.Denotes key uid.toNat

variable {members : List (String × PolicyBits)}

theorem gives_cons_iff {m : String × PolicyBits} {key : String} {policy : PolicyBits} :
    Gives (m :: members) key policy ↔
      Gives members key policy ∨ m = (key, policy) ∧ ∀ n ∈ members, n.1 ≠ key := by
  constructor
  · rintro ⟨_ | ⟨first, before⟩, after, shape, last⟩
    · obtain ⟨rfl, rfl⟩ := List.cons.inj shape
      exact .inr ⟨rfl, last⟩
    · exact .inl ⟨before, after, (List.cons.inj shape).2, last⟩
  · rintro (⟨before, after, rfl, last⟩ | ⟨rfl, last⟩)
    · exact ⟨m :: before, after, rfl, last⟩
    · exact ⟨[], members, rfl, last⟩

theorem mem_lastOfEach_iff {key : String} {policy : PolicyBits} :
    (key, policy) ∈ lastOfEach members ↔ Gives members key policy := by
  induction members with
  | nil => simp [lastOfEach, Gives]
  | cons m members ih =>
    rw [lastOfEach, gives_cons_iff, ← ih]
    split
    · rename_i again
      obtain ⟨n, there, same⟩ := List.any_eq_true.1 again
      refine ⟨.inl, fun given => given.resolve_right ?_⟩
      rintro ⟨rfl, last⟩
      exact last n there (eq_of_beq same)
    · rename_i alone
      rw [List.mem_cons, or_comm, eq_comm]
      refine or_congr_right (iff_self_and.2 ?_)
      rintro rfl n there same
      exact alone (List.any_eq_true.2 ⟨n, there, beq_iff_eq.2 same⟩)

theorem lastOfEach_distinct (members : List (String × PolicyBits)) :
    ((lastOfEach members).map (·.1)).Nodup := by
  induction members with
  | nil => exact List.nodup_nil
  | cons m members ih =>
    rw [lastOfEach]
    split
    · exact ih
    · rename_i alone
      refine List.nodup_cons.2 ⟨fun there => alone ?_, ih⟩
      obtain ⟨n, listed, same⟩ := List.mem_map.1 there
      obtain ⟨before, after, rfl, -⟩ := mem_lastOfEach_iff.1 listed
      exact List.any_eq_true.2 ⟨n, by simp, beq_iff_eq.2 same⟩

theorem meaning?_eq_some_iff {e : String × PolicyBits} {uid : Uid} {policy : PolicyBits} :
    meaning? e = some (uid, policy) ↔ e.2 ≠ 0 ∧ Decimal.Denotes e.1 uid.toNat ∧ e.2 = policy := by
  have number : ∀ n : Nat, n ≤ 0xFFFFFFFF → (UInt32.ofNat n = uid ↔ n = uid.toNat) := by
    intro n small
    rw [← UInt32.toNat_inj, UInt32.toNat_ofNat_of_lt' (Nat.lt_succ_of_le small)]
  unfold meaning?
  split
  · rename_i zero
    simp [zero]
  · rename_i nonzero
    simp only [Option.map_eq_some_iff, Decimal.count?_eq_some_iff, Prod.mk.injEq]
    constructor
    · rintro ⟨n, ⟨denotes, small⟩, same, policy⟩
      exact ⟨nonzero, (number n small).1 same ▸ denotes, policy⟩
    · rintro ⟨-, denotes, policy⟩
      exact ⟨_, ⟨denotes, Nat.le_of_lt_succ uid.toNat_lt⟩, UInt32.ofNat_toNat, policy⟩

def listed (members : List (String × PolicyBits)) : List (String × PolicyBits) :=
  inOrder (lastOfEach members)

theorem listed_ascending (members : List (String × PolicyBits)) :
    (listed members).Pairwise (fun a b => a.1 < b.1) := by
  have sorted := inOrder_sorted (lastOfEach members)
  have distinct : ((listed members).map (·.1)).Nodup :=
    ((inOrder_perm _).map (·.1)).nodup_iff.2 (lastOfEach_distinct members)
  rw [List.Nodup, List.pairwise_map] at distinct
  exact (sorted.and distinct).imp (fun both =>
    String.not_le.1 (fun above => both.2 (String.le_antisymm both.1 above)))

theorem counts_iff {uid : Uid} {e : String × PolicyBits} {policy : PolicyBits} :
    e ∈ listed members ∧ meaning? e = some (uid, policy) ↔
      Counts members uid e.1 policy ∧ e.2 = policy := by
  rw [listed, (inOrder_perm _).mem_iff, mem_lastOfEach_iff, meaning?_eq_some_iff]
  constructor
  · rintro ⟨gives, nonzero, numeral, rfl⟩
    exact ⟨⟨gives, nonzero, numeral⟩, rfl⟩
  · rintro ⟨⟨gives, nonzero, numeral⟩, rfl⟩
    exact ⟨gives, nonzero, numeral, rfl⟩

/-- Of entries in order the last for a uid has the greatest key. -/
theorem lookup_reverse_filterMap {es : List (String × PolicyBits)}
    {f : String × PolicyBits → Option (Uid × PolicyBits)}
    (ascending : es.Pairwise (fun a b => a.1 < b.1)) {uid : Uid} {policy : PolicyBits}
    (found : (es.filterMap f).reverse.lookup uid = some policy) :
    ∃ e ∈ es, f e = some (uid, policy) ∧
      ∀ d ∈ es, ∀ p, f d = some (uid, p) → d = e ∨ d.1 < e.1 := by
  obtain ⟨after, before, shape, fresh⟩ := List.lookup_eq_some_iff.1 found
  have forwards : es.filterMap f = before.reverse ++ (uid, policy) :: after.reverse := by
    rw [← List.reverse_reverse (es.filterMap f), shape]
    simp
  obtain ⟨front, back, rfl, -, rest⟩ := List.filterMap_eq_append_iff.1 forwards
  obtain ⟨skipped, e, later, rfl, -, means, others⟩ := List.filterMap_eq_cons_iff.1 rest
  rw [← List.append_assoc] at ascending
  obtain ⟨-, -, below⟩ := List.pairwise_append.1 ascending
  refine ⟨e, by simp, means, fun d there p other => ?_⟩
  simp only [List.mem_append, List.mem_cons] at there
  rcases there with there | there | rfl | there
  · exact .inr (below d (by simp [there]) e (by simp))
  · exact .inr (below d (by simp [there]) e (by simp))
  · exact .inl rfl
  · -- What stands further back is no entry for the uid.
    have entered : (uid, p) ∈ after := by
      rw [← List.mem_reverse, ← others]
      exact List.mem_filterMap.2 ⟨d, there, other⟩
    exact absurd rfl (bne_iff_ne.1 (fresh _ entered))

theorem held_eq_nil {text : String} (unlisted : ∀ members, ¬ Lists text members) :
    held text = [] := by
  rw [held, entries?]
  cases decoded : decodeText decode text with
  | ok members => exact absurd (decodeText_eq_ok_iff_lists.1 decoded) (unlisted members)
  | error fault => rfl

theorem held_eq {text : String} (lists : Lists text members) :
    held text = (listed members).filterMap meaning? := by
  rw [held, entries?, decodeText_eq_ok_iff_lists.2 lists]
  rfl

/-- The key counts for the uid, and every other that does is less, byte by byte. -/
structure Decides (members : List (String × PolicyBits)) (uid : Uid) (key : String)
    (policy : PolicyBits) : Prop where
  counts : Counts members uid key policy
  greatest : ∀ other p, Counts members uid other p → other ≠ key → Text.bytes other < Text.bytes key

theorem decides_of_lookup {text : String} (lists : Lists text members) {uid : Uid}
    {policy : PolicyBits} (found : (held text).reverse.lookup uid = some policy) :
    ∃ key, Decides members uid key policy := by
  rw [held_eq lists] at found
  obtain ⟨e, there, means, greatest⟩ := lookup_reverse_filterMap (listed_ascending members) found
  refine ⟨e.1, (counts_iff.1 ⟨there, means⟩).1, fun other p counts apart => ?_⟩
  obtain ⟨listed, stands⟩ := (counts_iff (e := (other, p))).2 ⟨counts, rfl⟩
  rcases greatest _ listed p stands with rfl | less
  · exact absurd rfl apart
  · exact Text.bytes_lt_iff.2 less

theorem not_counts_of_lookup {text : String} (lists : Lists text members) {uid : Uid}
    (absent : (held text).reverse.lookup uid = none) (key : String) (policy : PolicyBits) :
    ¬ Counts members uid key policy := by
  intro counts
  obtain ⟨listed, stands⟩ := (counts_iff (e := (key, policy))).2 ⟨counts, rfl⟩
  refine lookup_eq_none_iff_ne.1 absent (uid, policy) ?_ rfl
  rw [List.mem_reverse, held_eq lists]
  exact List.mem_filterMap.2 ⟨_, listed, stands⟩

theorem length_held {text : String} (lists : Lists text members) :
    ∃ keys : List String, keys.Nodup ∧
      (∀ key, key ∈ keys ↔ ∃ uid policy, Counts members uid key policy) ∧
      (held text).length = keys.length := by
  let counted := (listed members).filter (fun e => (meaning? e).isSome)
  refine ⟨counted.map (·.1), ?_, fun key => ?_, ?_⟩
  · refine List.pairwise_map.2 (((listed_ascending members).filter _).imp ?_)
    intro a b less same
    rw [same] at less
    exact String.lt_irrefl _ less
  · simp only [counted, List.mem_map, List.mem_filter, Option.isSome_iff_exists]
    constructor
    · rintro ⟨e, ⟨listed, ⟨uid, policy⟩, means⟩, rfl⟩
      exact ⟨uid, policy, (counts_iff.1 ⟨listed, means⟩).1⟩
    · rintro ⟨uid, policy, counts⟩
      obtain ⟨listed, means⟩ := (counts_iff (e := (key, policy))).2 ⟨counts, rfl⟩
      exact ⟨_, ⟨listed, _, means⟩, rfl⟩
  · rw [held_eq lists, List.length_map]
    exact (List.length_filterMap_eq_countP ..).trans List.countP_eq_length_filter

end PolicyText

/-- Loading computes the table from the text and from what was there. A text that is no policy text
changes nothing. Otherwise a uid gets what the greatest of the keys that count for it gives, or keeps
what it had if none does; and the keys that count are counted. Zero is never entered. -/
theorem loading_law (f : Firewall) (text : String) :
    let before : PolicyStore := { firewall := f, keeps := true, file := .holds text }
    ((∀ members, ¬ PolicyText.Lists text members) → before.load = (0, before)) ∧
    ∀ members, PolicyText.Lists text members → ∃ loaded : Table PolicyBits,
      before.load.2 = { before with firewall := { f with policies := loaded } } ∧
      (∀ uid, (∃ key policy, PolicyText.Decides members uid key policy ∧
          loaded.find? uid = some policy) ∨
        ((∀ key policy, ¬ PolicyText.Counts members uid key policy) ∧
          loaded.find? uid = f.policies.find? uid)) ∧
      (∀ uid, loaded.find? uid = some 0 → f.policies.find? uid = some 0) ∧
      ∃ keys : List String, keys.Nodup ∧
        (∀ key, key ∈ keys ↔ ∃ uid policy, PolicyText.Counts members uid key policy) ∧
        before.load.1 = keys.length := by
  intro before
  have loads := PolicyStore.load_holds f text
  have table (uid : Uid) : ((PolicyFile.holds text).enteredInto f.policies).find? uid =
      ((PolicyText.held text).reverse.lookup uid).or (f.policies.find? uid) :=
    Table.find?_foldl_insert _ _ _
  rw [loads]
  refine ⟨fun unlisted => ?_, fun members lists => ?_⟩
  · rw [PolicyFile.enteredInto, PolicyText.held_eq_nil unlisted]
    rfl
  · refine ⟨(PolicyFile.holds text).enteredInto f.policies, rfl, fun uid => ?_, fun uid zero => ?_,
      PolicyText.length_held lists⟩
    · rw [table]
      cases found : (PolicyText.held text).reverse.lookup uid with
      | some policy =>
        obtain ⟨key, decides⟩ := PolicyText.decides_of_lookup lists found
        exact .inl ⟨key, policy, decides, rfl⟩
      | none => exact .inr ⟨PolicyText.not_counts_of_lookup lists found, rfl⟩
    · rw [table] at zero
      cases found : (PolicyText.held text).reverse.lookup uid with
      | some policy =>
        obtain ⟨key, decides⟩ := PolicyText.decides_of_lookup lists found
        rw [found] at zero
        exact absurd (Option.some.inj zero) decides.counts.nonzero
      | none =>
        rw [found] at zero
        exact zero

/-- Three ways to write one uid, zero, and a key that is no uid. -/
theorem loading_law_patchwork :
    let members : List (String × PolicyBits) :=
      [("+1", 5), ("1", 4), ("01", 3), ("2", 0), ("x", 9)]
    let before : PolicyStore :=
      { firewall := { policies := .ofList [(2, 7), (3, 8)] }, keeps := true,
        file := .holds PolicyStore.patchworkText }
    PolicyText.Lists PolicyStore.patchworkText members ∧ before.load.1 = 3 ∧
      before.load.2.firewall.policies = .ofList [(1, 4), (2, 7), (3, 8)] ∧
      (∃ key, PolicyText.Decides members 1 key 4) ∧
      ∀ key policy, ¬ PolicyText.Counts members 2 key policy := by
  intro members before
  have lists : PolicyText.Lists PolicyStore.patchworkText members :=
    PolicyText.decodeText_eq_ok_iff_lists.1 PolicyStore.decodeText_patchworkText
  have count : before.load.1 = 3 := by
    rw [PolicyStore.load_holds, PolicyStore.held_patchworkText]
    rfl
  have table : before.load.2.firewall.policies = .ofList [(1, 4), (2, 7), (3, 8)] := by
    rw [PolicyStore.load_holds, PolicyFile.enteredInto, PolicyStore.held_patchworkText]
    rfl
  obtain ⟨loaded, after, each, -, -⟩ :=
    (loading_law { policies := .ofList [(2, 7), (3, 8)] } PolicyStore.patchworkText).2 members lists
  have loaded : loaded = .ofList [(1, 4), (2, 7), (3, 8)] := by
    rw [← table, after]
  subst loaded
  refine ⟨lists, count, table, ?_, ?_⟩
  · rcases each 1 with ⟨key, policy, decides, found⟩ | ⟨-, unchanged⟩
    · cases found
      exact ⟨key, decides⟩
    · cases unchanged
  · rcases each 2 with ⟨key, policy, decides, found⟩ | ⟨uncounted, -⟩
    · -- It has kept the policy that no member gives.
      cases found
      obtain ⟨first, last, shape, -⟩ := decides.counts.gives
      have listed : (key, 7) ∈ members := by simp [shape]
      simp [members] at listed
    · exact uncounted

end Connectivity
