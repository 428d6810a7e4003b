import Connectivity.Proofs.PolicyText
/-! Policies outlive the firewall that set them. The file is written only when a policy changes, so at
first it may say what it says in any way; from the first change on it is the text of the table. -/
namespace Connectivity

/-- What a table holds once the file was read into it. -/
def PolicyFile.enteredInto (t : Table PolicyBits) : PolicyFile → Table PolicyBits
  | .holds text => (PolicyText.held text).foldl (fun t e => t.insert e.1 e.2) t
  | _ => t

namespace PolicyFile
variable {file : PolicyFile} {t : Table PolicyBits}

theorem enteredInto_idem (file : PolicyFile) (t : Table PolicyBits) :
    file.enteredInto (file.enteredInto t) = file.enteredInto t := by
  cases file with
  | absent => rfl
  | unusable => rfl
  | holds text =>
    refine Table.ext_find? (fun k => ?_)
    simp only [enteredInto, Table.find?_foldl_insert]
    cases (PolicyText.held text).reverse.lookup k <;> rfl

theorem enteredInto_nonzero (nonzero : ∀ u, t.find? u ≠ some 0) (u : Uid) :
    (file.enteredInto t).find? u ≠ some 0 := by
  cases file with
  | absent => exact nonzero u
  | unusable => exact nonzero u
  | holds text =>
    rw [enteredInto, Table.find?_foldl_insert]
    cases found : (PolicyText.held text).reverse.lookup u with
    | none => exact nonzero u
    | some policy =>
      obtain ⟨before, after, shape, -⟩ := List.lookup_eq_some_iff.1 found
      have listed : (u, policy) ∈ PolicyText.held text := List.mem_reverse.1 (by simp [shape])
      intro zero
      exact PolicyText.held_nonzero listed (Option.some.inj zero)

theorem enteredInto_ofPolicies (nonzero : ∀ u, t.find? u ≠ some 0) :
    (PolicyFile.holds (PolicyText.ofPolicies t)).enteredInto .empty = t :=
  Table.foldl_insert_of_perm (PolicyText.held_ofPolicies nonzero)

end PolicyFile

namespace Firewall

theorem setPolicy_nonzero {f : Firewall} (nonzero : ∀ u, f.policies.find? u ≠ some 0)
    (uid : Uid) (policy : PolicyBits) (u : Uid) :
    (f.setPolicy uid policy).2.policies.find? u ≠ some 0 := by
  unfold setPolicy
  dsimp only
  split
  · rw [Table.find?_erase]
    split
    · exact nofun
    · exact nonzero u
  · rename_i some
    rw [Table.find?_insert]
    split
    · exact fun zero => some (Option.some.inj zero)
    · exact nonzero u

/-- Setting what is set leaves the table as it is. -/
theorem setPolicy_same {f : Firewall} (nonzero : ∀ u, f.policies.find? u ≠ some 0)
    {uid : Uid} {policy : PolicyBits} (same : (f.setPolicy uid policy).1 = false) :
    (f.setPolicy uid policy).2.policies = f.policies := by
  have known : f.policy uid = policy := by simpa [setPolicy] using same
  unfold setPolicy
  dsimp only
  split
  · rename_i zero
    refine Table.erase_of_absent ?_
    cases found : f.policies.find? uid with
    | none => rfl
    | some p =>
      rw [Firewall.policy, found, zero] at known
      exact absurd (found.trans (congrArg some known)) (nonzero uid)
  · rename_i some
    refine Table.ext_find? (fun u => ?_)
    rw [Table.find?_insert]
    split
    · rename_i here
      subst here
      cases found : f.policies.find? u with
      | none =>
        rw [Firewall.policy, found] at known
        exact absurd known.symm some
      | some p =>
        rw [Firewall.policy, found] at known
        exact congrArg Option.some known.symm
    · rfl

end Firewall

namespace PolicyStore

theorem load_keeps (s : PolicyStore) : s.load.2.keeps = s.keeps := by
  unfold load
  split <;> rfl

theorem load_file (s : PolicyStore) : s.load.2.file = s.file := by
  unfold load
  split <;> rfl

theorem load_holds (f : Firewall) (text : String) :
    load { firewall := f, keeps := true, file := .holds text } =
      ((PolicyText.held text).length,
        { firewall := { f with policies := (PolicyFile.holds text).enteredInto f.policies }
          keeps := true, file := .holds text }) := rfl

theorem load_policies {s : PolicyStore} (keeps : s.keeps = true) :
    s.load.2.firewall.policies = s.file.enteredInto s.firewall.policies := by
  unfold load
  split
  · rename_i held
    rw [held]
    rfl
  · rename_i other
    cases file : s.file with
    | absent => rfl
    | unusable => rfl
    | holds text => exact absurd file (other text keeps)

/-- A firewall that keeps its policies in a file that can be read and written, from the first
loading on. `saved` says whether any policy was changed since. -/
inductive Persisting : Bool → PolicyStore → Prop where
  | opened {f : Firewall} {file : PolicyFile} (empty : f.policies = .empty)
      (usable : file ≠ .unusable) : Persisting false (load { firewall := f, keeps := true, file }).2
  | setPolicy {saved : Bool} {s : PolicyStore} (uid : Uid) (policy : PolicyBits) :
      Persisting saved s →
      Persisting (saved || (s.setPolicy uid policy).1) (s.setPolicy uid policy).2
  | load {saved : Bool} {s : PolicyStore} : Persisting saved s → Persisting saved s.load.2
  | reopen {saved : Bool} {s : PolicyStore} (restricted : Bool) :
      Persisting saved s → Persisting saved (s.reopen restricted).2

/-- What holds all along: the file gives back the table, though perhaps not in canonical form
before the first change. -/
structure Durable (saved : Bool) (s : PolicyStore) : Prop where
  keeps : s.keeps = true
  usable : s.file ≠ .unusable
  nonzero : ∀ u, s.firewall.policies.find? u ≠ some 0
  back : s.file.enteredInto .empty = s.firewall.policies
  canonical : saved = true → s.file = .holds (PolicyText.ofPolicies s.firewall.policies)

theorem durable_opened {f : Firewall} {file : PolicyFile} (empty : f.policies = .empty)
    (usable : file ≠ .unusable) : Durable false (load { firewall := f, keeps := true, file }).2 where
  keeps := load_keeps _
  usable := by
    rw [load_file]
    exact usable
  nonzero u := by
    rw [load_policies rfl, empty]
    exact PolicyFile.enteredInto_nonzero (fun _ => by rw [Table.find?_empty]; exact nofun) u
  back := by rw [load_file, load_policies rfl, empty]
  canonical := Bool.noConfusion

variable {saved : Bool} {s : PolicyStore}

theorem Durable.congr {t : PolicyStore} (h : Durable saved s) (keeps : t.keeps = s.keeps)
    (file : t.file = s.file) (policies : t.firewall.policies = s.firewall.policies) :
    Durable saved t where
  keeps := keeps.trans h.keeps
  usable := by
    rw [file]
    exact h.usable
  nonzero := by
    rw [policies]
    exact h.nonzero
  back := by
    rw [file, policies]
    exact h.back
  canonical := by
    rw [file, policies]
    exact h.canonical

theorem Durable.load (h : Durable saved s) : Durable saved s.load.2 := by
  -- The table holds already what the file has to say.
  have table : s.load.2.firewall.policies = s.firewall.policies := by
    rw [load_policies h.keeps, ← h.back, PolicyFile.enteredInto_idem]
  exact h.congr (load_keeps s) (load_file s) table

theorem Durable.reopen_policies (h : Durable saved s) (restricted : Bool) :
    (s.reopen restricted).2.firewall.policies = s.firewall.policies := by
  have read := load_policies
    (s := { s with firewall := { restricted, system := s.firewall.system } }) h.keeps
  exact read.trans h.back

theorem Durable.reopen (h : Durable saved s) (restricted : Bool) :
    Durable saved (s.reopen restricted).2 :=
  h.congr (load_keeps _) (load_file _) (h.reopen_policies restricted)

theorem setPolicy_unchanged (uid : Uid) (policy : PolicyBits)
    (same : (s.setPolicy uid policy).1 = false) :
    (s.setPolicy uid policy).2 = { s with firewall := (s.firewall.setPolicy uid policy).2 } := by
  have unchanged : (s.firewall.setPolicy uid policy).1 = false := same
  simp [PolicyStore.setPolicy, unchanged]

theorem setPolicy_changed (keeps : s.keeps = true) (usable : s.file ≠ .unusable) (uid : Uid)
    (policy : PolicyBits) (changed : (s.setPolicy uid policy).1 = true) :
    (s.setPolicy uid policy).2 =
      { firewall := (s.firewall.setPolicy uid policy).2
        keeps := true
        file := .holds (PolicyText.ofPolicies (s.firewall.setPolicy uid policy).2.policies) } := by
  have other : (s.firewall.setPolicy uid policy).1 = true := changed
  obtain ⟨firewall, keep, file⟩ := s
  obtain rfl : keep = true := keeps
  simp only [PolicyStore.setPolicy, other, if_true]
  cases file with
  | absent => rfl
  | holds text => rfl
  | unusable => exact absurd rfl usable

theorem Durable.setPolicy (h : Durable saved s) (uid : Uid) (policy : PolicyBits) :
    Durable (saved || (s.setPolicy uid policy).1) (s.setPolicy uid policy).2 := by
  have nonzero := Firewall.setPolicy_nonzero h.nonzero uid policy
  cases changed : (s.setPolicy uid policy).1 with
  | true =>
    rw [setPolicy_changed h.keeps h.usable uid policy changed]
    exact {
      keeps := rfl
      usable := nofun
      nonzero
      back := PolicyFile.enteredInto_ofPolicies nonzero
      canonical := fun _ => rfl }
  | false =>
    have table : (s.firewall.setPolicy uid policy).2.policies = s.firewall.policies :=
      Firewall.setPolicy_same h.nonzero changed
    rw [setPolicy_unchanged uid policy changed, Bool.or_false]
    exact {
      keeps := h.keeps
      usable := h.usable
      nonzero
      back := h.back.trans table.symm
      canonical := fun written => (h.canonical written).trans (by rw [← table]) }

theorem Persisting.changed {uid : Uid} {policy : PolicyBits} (run : Persisting saved s)
    (changed : (s.setPolicy uid policy).1 = true) : Persisting true (s.setPolicy uid policy).2 := by
  have next := run.setPolicy uid policy
  rwa [changed, Bool.or_true] at next

theorem Persisting.durable (run : Persisting saved s) : Durable saved s := by
  induction run with
  | opened empty usable => exact durable_opened empty usable
  | setPolicy uid policy _ ih => exact ih.setPolicy uid policy
  | load _ ih => exact ih.load
  | reopen restricted _ ih => exact ih.reopen restricted

/-- Whatever the file held at first: at any time a new firewall finds in it the policies of this
one. Once a policy was changed the file holds the canonical text of the table and nothing else, so
that equal tables have equal files, however they came about. -/
theorem policies_survive (run : Persisting saved s) :
    (∀ f : Firewall, f.policies = .empty →
      (PolicyStore.load { firewall := f, keeps := true, file := s.file }).2.firewall.policies =
        s.firewall.policies) ∧
    (saved = true → ∃ text, s.file = .holds text ∧ PolicyText.Written s.firewall.policies text) ∧
    (saved = true → ∀ r, Persisting true r → r.firewall.policies = s.firewall.policies →
      r.file = s.file) := by
  have canonical : ∀ {t : PolicyStore}, Persisting true t →
      ∃ text, t.file = .holds text ∧ PolicyText.Written t.firewall.policies text :=
    fun run => ⟨_, run.durable.canonical rfl, PolicyText.written_ofPolicies _⟩
  refine ⟨fun f empty => ?_, ?_, ?_⟩
  · rw [load_policies rfl, empty]
    exact run.durable.back
  · rintro rfl
    exact canonical run
  · rintro rfl r other same
    obtain ⟨text, file, written⟩ := canonical run
    obtain ⟨text', file', written'⟩ := canonical other
    rw [same] at written'
    rw [file, file', written.unique written']

/-- Zero, a key that is no uid, and three ways to write one uid. -/
def patchworkText : String :=
  String.ofList ['{', '"', '+', '1', '"', ':', '5', ',', '"', '1', '"', ':', '4', ',',
    '"', '0', '1', '"', ':', '3', ',', '"', '2', '"', ':', '0', ',', '"', 'x', '"', ':', '9', '}']

theorem decodeText_patchworkText :
    Json.decodeText PolicyText.decode patchworkText =
      .ok [("+1", 5), ("1", 4), ("01", 3), ("2", 0), ("x", 9)] := by decide +kernel

/-- In the order of the keys, `+1` is before `01`, and `01` before `1`. -/
theorem held_patchworkText : PolicyText.held patchworkText = [(1, 5), (1, 3), (1, 4)] := by
  have ordered : PolicyText.inOrder [("+1", 5), ("1", 4), ("01", 3), ("2", 0), ("x", 9)] =
      [("+1", 5), ("01", 3), ("1", 4), ("2", 0), ("x", 9)] :=
    PolicyText.inOrder_eq (by decide +kernel) (by decide +kernel)
  rw [PolicyText.held, PolicyText.entries?, decodeText_patchworkText, Except.toOption,
    Option.map_some, PolicyText.lastOfEach_of_distinct (by decide +kernel), ordered]
  decide +kernel

def patchworkLoaded : PolicyStore := (load { keeps := true, file := .holds patchworkText }).2

theorem patchworkLoaded_firewall : patchworkLoaded.firewall = { policies := .ofList [(1, 4)] } := by
  rw [patchworkLoaded, load_holds, PolicyFile.enteredInto, held_patchworkText]
  rfl

/-- From that text: what is there already is set, then something new, and the firewall starts
anew. -/
def patchwork : PolicyStore :=
  (((patchworkLoaded.setPolicy 1 4).2.setPolicy 12 6).2.reopen false).2

theorem persisting_changed :
    Persisting true ((patchworkLoaded.setPolicy 1 4).2.setPolicy 12 6).2 := by
  have loaded : Persisting false patchworkLoaded := .opened rfl nofun
  have changed : ((patchworkLoaded.setPolicy 1 4).2.setPolicy 12 6).1 = true := by
    change ((patchworkLoaded.setPolicy 1 4).2.firewall.setPolicy 12 6).1 = true
    rw [setPolicy_firewall, patchworkLoaded_firewall]
    rfl
  exact (loaded.setPolicy 1 4).changed changed

theorem persisting_patchwork : Persisting true patchwork := persisting_changed.reopen false

theorem policies_survive_patchwork :
    Persisting true patchwork ∧ patchwork.firewall.policies = .ofList [(1, 4), (12, 6)] ∧
    (PolicyStore.load { keeps := true, file := patchwork.file }).2.firewall.policies =
      .ofList [(1, 4), (12, 6)] ∧
    ∃ text, patchwork.file = .holds text ∧
      PolicyText.Written (.ofList [(1, 4), (12, 6)]) text := by
  have table : patchwork.firewall.policies = .ofList [(1, 4), (12, 6)] := by
    rw [patchwork, persisting_changed.durable.reopen_policies, setPolicy_firewall,
      setPolicy_firewall, patchworkLoaded_firewall]
    rfl
  obtain ⟨back, canonical, -⟩ := policies_survive persisting_patchwork
  rw [table] at back canonical
  exact ⟨persisting_patchwork, table, back {} rfl, canonical rfl⟩

end PolicyStore

end Connectivity
