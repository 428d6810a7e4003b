import Connectivity.Config.Disk
import Connectivity.Lookup
import Mathlib.Data.List.Basic
import Mathlib.Data.List.Induction
/-! Files and directories that are made. Making directories changes nothing that is there, and a file
that was written stands where its path leads. -/
namespace Connectivity.Disk

variable {d d' : Disk} {l : Location}

theorem node?_put (d : Disk) (n : DiskNode) (some : l ≠ []) (k : Location) :
    (d.put l n).node? k = if k = l then .some n else d.node? k := by
  cases k with
  | nil => rw [if_neg (fun same => some same.symm)]; rfl
  | cons name names =>
    simp only [node?, put, List.isEmpty_cons, Bool.false_eq_true, if_false, lookup_first,
      lookup_without]
    split <;> rfl

/-- Everything on `d` is on `d'` too, as it is. -/
structure Grows (d d' : Disk) : Prop where
  here : d'.here = d.here
  kept : ∀ l n, d.node? l = some n → d'.node? l = some n

namespace Grows

theorem refl (d : Disk) : d.Grows d := ⟨rfl, fun _ _ found => found⟩

theorem trans {d'' : Disk} (first : d.Grows d') (second : d'.Grows d'') : d.Grows d'' :=
  ⟨second.here.trans first.here, fun l n found => second.kept l n (first.kept l n found)⟩

end Grows

theorem grows_put {n : DiskNode} (absent : d.node? l = none) : d.Grows (d.put l n) where
  here := rfl
  kept k m found := by
    have some : l ≠ [] := by
      rintro rfl
      cases absent
    rw [node?_put d n some, if_neg, found]
    rintro rfl
    rw [absent] at found
    cases found

theorem grows_makeDirectories? {names : List String} (made : d.makeDirectories? l names = some d') :
    d.Grows d' := by
  induction names generalizing d l with
  | nil =>
    cases made
    exact .refl _
  | cons name names ih =>
    rw [makeDirectories?] at made
    split at made
    · exact ih made
    · cases made
    · rename_i absent
      split at made
      · exact (grows_put absent).trans (ih made)
      · cases made

theorem walk?_eq_foldl {names : List String} {k : Location} (walked : d.walk? l names = some k) :
    k = names.foldl Path.step l := by
  induction names generalizing l with
  | nil => exact (Option.some.inj walked).symm
  | cons name names ih =>
    rw [walk?] at walked
    split at walked
    · exact ih walked
    · cases walked

theorem walk?_append (first second : List String) : d.walk? l (first ++ second) =
    (d.walk? l first).bind (fun k => d.walk? k second) := by
  induction first generalizing l with
  | nil => rfl
  | cons name names ih =>
    rw [List.cons_append, walk?, walk?]
    split
    · exact ih
    · rfl

theorem walk?_of_directories (same : ∀ k, d.isDirectory k = true → d'.isDirectory k = true)
    {names : List String} {k : Location} (walked : d.walk? l names = some k) :
    d'.walk? l names = some k := by
  induction names generalizing l with
  | nil => exact walked
  | cons name names ih =>
    rw [walk?] at walked ⊢
    split at walked
    · rename_i open'
      rw [Bool.and_eq_true] at open'
      rw [if_pos (by rw [same l open'.1, open'.2]; rfl)]
      exact ih walked
    · cases walked

/-- Where a file with this path stands, or would stand. -/
def place (d : Disk) (p : String) : Location := (Path.names p).foldl Path.step (d.start p)

/-- A file was written: everything else is as it was, and no directory was lost. -/
structure Writes (d : Disk) (p : String) (text : Option String) (d' : Disk) : Prop where
  eq : d' = d.put (d.place p) (.file text)
  found : d'.find? p = some (.file text)
  named : ∃ name, Path.fileName? p = some name
  root : d.place p ≠ []
  free : d.isDirectory (d.place p) = false

theorem fileName?_eq_some {p name : String} (named : Path.fileName? p = some name) :
    Path.names p = (Path.names p).dropLast ++ [name] ∧ Path.stays name = false ∧ name ≠ ".." := by
  obtain ⟨last, proper⟩ := Option.filter_eq_some_iff.1 named
  rw [Bool.and_eq_true, Bool.not_eq_true', bne_iff_ne] at proper
  exact ⟨(List.dropLast_append_getLast? name last).symm, proper⟩

theorem mem_of_fileName? {p name : String} (named : Path.fileName? p = some name) :
    name ∈ Path.names p := by
  rw [(fileName?_eq_some named).1]
  exact List.mem_append_right _ List.mem_cons_self

theorem step_name (l : Location) {name : String} (stays : Path.stays name = false)
    (up : name ≠ "..") : Path.step l name = l ++ [name] := by
  rw [Path.step, if_neg (by rw [stays]; decide), if_neg (by rw [beq_iff_eq]; exact up)]

theorem place_eq (d : Disk) {p name : String} (named : Path.fileName? p = some name) :
    d.place p = (Path.names p).dropLast.foldl Path.step (d.start p) ++ [name] := by
  obtain ⟨names, stays, up⟩ := fileName?_eq_some named
  rw [place, names, List.foldl_append, ← names]
  exact step_name _ stays up

theorem writes_of_write? {p : String} {text : Option String} (written : d.write? p text = some d') :
    d.Writes p text d' := by
  obtain ⟨name, named, written⟩ := Option.bind_eq_some_iff.1 written
  obtain ⟨l, walked, written⟩ := Option.bind_eq_some_iff.1 written
  obtain ⟨named, short⟩ := Option.filter_eq_some_iff.1 named
  rw [Bool.and_eq_true, decide_eq_true_eq] at short
  obtain ⟨names, stays, up⟩ := fileName?_eq_some named
  dsimp only at written
  split at written
  · rename_i fits
    rw [Bool.and_eq_true, Bool.not_eq_true'] at fits
    obtain ⟨within, free⟩ := fits
    cases written
    have target : d.place p = l ++ [name] := by rw [place_eq d named, ← walk?_eq_foldl walked]
    have some : l ++ [name] ≠ [] := by simp
    have same (k : Location) (directory : d.isDirectory k = true) :
        (d.put (l ++ [name]) (.file text)).isDirectory k = true := by
      have other : k ≠ l ++ [name] := by
        rintro rfl
        exact Bool.noConfusion (free.symm.trans directory)
      rwa [isDirectory, node?_put d _ some, if_neg other]
    have arrived : (d.put (l ++ [name]) (.file text)).walk? (d.start p) (Path.names p) =
        .some (l ++ [name]) := by
      rw [names, walk?_append, walk?_of_directories same walked, Option.bind_some, walk?,
        same l within, decide_eq_true short.1, step_name l stays up]
      rfl
    refine ⟨by rw [target], ?_, ⟨name, named⟩, by rw [target]; exact some,
      by rw [target]; exact free⟩
    rw [find?, if_pos short.2]
    change ((d.put (l ++ [name]) (.file text)).walk? (d.start p) (Path.names p)).bind _ = _
    rw [arrived, Option.bind_some, node?_put d _ some, if_pos rfl]
  · cases written

theorem Writes.node? {p : String} {text : Option String} (writes : d.Writes p text d')
    (l : Location) : d'.node? l = if l = d.place p then some (.file text) else d.node? l := by
  rw [writes.eq, node?_put d _ writes.root]

theorem walk?_short {names : List String} {k : Location} (walked : d.walk? l names = some k) :
    ∀ name ∈ names, name.utf8ByteSize ≤ Path.nameLimit := by
  induction names generalizing l with
  | nil => exact fun name listed => nomatch listed
  | cons name names ih =>
    rw [walk?] at walked
    split at walked
    · rename_i open'
      rw [Bool.and_eq_true, decide_eq_true_eq] at open'
      exact List.forall_mem_cons.2 ⟨open'.2, ih walked⟩
    · cases walked

theorem find?_eq_some {p : String} {n : DiskNode} (found : d.find? p = some n) :
    Path.leads p = true ∧ ∀ name ∈ Path.names p, name.utf8ByteSize ≤ Path.nameLimit := by
  rw [find?] at found
  split at found
  · rename_i leads
    obtain ⟨k, walked, -⟩ := Option.bind_eq_some_iff.1 found
    exact ⟨leads, walk?_short walked⟩
  · cases found

theorem Grows.place (grows : d.Grows d') (p : String) : d'.place p = d.place p := by
  rw [Disk.place, Disk.place, start, start, grows.here]

/-- Everything there is stands in a directory. -/
structure WellFormed (d : Disk) : Prop where
  here : d.isDirectory d.here = true
  within : ∀ l name, d.node? (l ++ [name]) ≠ none → d.isDirectory l = true

namespace WellFormed

theorem of_append (formed : d.WellFormed) {k : Location} (directory : d.isDirectory (l ++ k) = true) :
    d.isDirectory l = true := by
  induction k using List.reverseRecOn with
  | nil => rwa [List.append_nil] at directory
  | append_singleton k name ih =>
    refine ih (formed.within (l ++ k) name (fun absent => ?_))
    rw [← List.append_assoc, isDirectory, absent] at directory
    cases directory

theorem foldl_step {names : List String} (down : ".." ∉ names) :
    ∃ k, names.foldl Path.step l = l ++ k := by
  induction names generalizing l with
  | nil => exact ⟨[], (List.append_nil l).symm⟩
  | cons name names ih =>
    rw [List.mem_cons, not_or] at down
    obtain ⟨k, rest⟩ := @ih (Path.step l name) down.2
    rw [List.foldl_cons, rest]
    by_cases stays : Path.stays name = true
    · exact ⟨k, by rw [Path.step, if_pos stays]⟩
    · refine ⟨name :: k, ?_⟩
      rw [step_name l (Bool.eq_false_iff.2 stays) (Ne.symm down.1), List.append_assoc]
      rfl

theorem walk? (formed : d.WellFormed) {names : List String} (down : ".." ∉ names)
    (short : ∀ name ∈ names, name.utf8ByteSize ≤ Path.nameLimit)
    (arrives : d.isDirectory (names.foldl Path.step l) = true) :
    d.walk? l names = some (names.foldl Path.step l) := by
  induction names generalizing l with
  | nil => rfl
  | cons name names ih =>
    obtain ⟨k, below⟩ := foldl_step (l := l) down
    have open' : d.isDirectory l = true := formed.of_append (below ▸ arrives)
    rw [List.mem_cons, not_or] at down
    obtain ⟨first, others⟩ := List.forall_mem_cons.1 short
    rw [Disk.walk?, open', decide_eq_true first]
    exact ih down.2 others arrives

/-- A path without two dots finds whatever stands at its place. -/
theorem find? (formed : d.WellFormed) {p name : String} (named : Path.fileName? p = some name)
    (down : ".." ∉ Path.names p)
    (short : ∀ name ∈ Path.names p, name.utf8ByteSize ≤ Path.nameLimit) (leads : Path.leads p = true)
    (there : d.node? (d.place p) ≠ none) : d.find? p = d.node? (d.place p) := by
  obtain ⟨names, stays, up⟩ := fileName?_eq_some named
  have target := place_eq d named
  have within := formed.within _ name (target ▸ there)
  have walked : d.walk? (d.start p) (Path.names p).dropLast =
      some ((Path.names p).dropLast.foldl Path.step (d.start p)) :=
    formed.walk? (fun listed => down (List.dropLast_subset _ listed))
      (fun n listed => short n (List.dropLast_subset _ listed)) within
  have last : name.utf8ByteSize ≤ Path.nameLimit := short name (mem_of_fileName? named)
  have arrived : d.walk? (d.start p) (Path.names p) = some (d.place p) := by
    rw [target, names, walk?_append, ← names, walked, Option.bind_some, Disk.walk?, within,
      decide_eq_true last, step_name _ stays up]
    rfl
  rw [Disk.find?, if_pos leads, arrived, Option.bind_some]

theorem put_directory (formed : d.WellFormed) (inside : d.isDirectory l = true) (name : String) :
    (d.put (l ++ [name]) .directory).WellFormed := by
  have node (k : Location) := node?_put d .directory (l := l ++ [name]) (by simp) k
  have kept (k : Location) (directory : d.isDirectory k = true) :
      (d.put (l ++ [name]) .directory).isDirectory k = true := by
    rw [isDirectory, node]
    split
    · rfl
    · exact directory
  refine ⟨kept _ formed.here, fun k other there => kept k ?_⟩
  rw [node] at there
  split at there
  · rename_i same
    rwa [(List.append_inj' same rfl).1]
  · exact formed.within k other there

/-- Nothing is missing where a way stays or goes back. -/
theorem step_of_absent (formed : d.WellFormed) (inside : d.isDirectory l = true) {name : String}
    (absent : d.node? (Path.step l name) = none) : Path.step l name = l ++ [name] := by
  have missing : d.isDirectory (Path.step l name) = false := by
    rw [isDirectory, absent]
    rfl
  by_cases stays : Path.stays name = true
  · rw [Path.step, if_pos stays, inside] at missing
    cases missing
  by_cases up : name = ".."
  · have back : d.isDirectory l.dropLast = true := by
      obtain rfl | ⟨front, last, rfl⟩ := List.eq_nil_or_concat l
      · rfl
      · rw [List.concat_eq_append] at inside ⊢
        rw [List.dropLast_concat]
        exact formed.of_append inside
    rw [Path.step, if_neg stays, if_pos (beq_iff_eq.2 up), back] at missing
    cases missing
  · exact step_name l (Bool.eq_false_iff.2 stays) up

theorem makeDirectories? (formed : d.WellFormed) (inside : d.isDirectory l = true)
    {names : List String} (made : d.makeDirectories? l names = some d') :
    d'.WellFormed ∧ d'.isDirectory (names.foldl Path.step l) = true := by
  induction names generalizing d l with
  | nil =>
    cases made
    exact ⟨formed, inside⟩
  | cons name names ih =>
    rw [Disk.makeDirectories?] at made
    split at made
    · rename_i there
      exact ih formed (beq_iff_eq.2 there) made
    · cases made
    · rename_i absent
      split at made
      · have next := formed.step_of_absent inside absent
        rw [next] at made
        have arrived : (d.put (l ++ [name]) .directory).isDirectory (l ++ [name]) = true := by
          rw [isDirectory, node?_put d _ (by simp), if_pos rfl]
          rfl
        rw [List.foldl_cons, next]
        exact ih (formed.put_directory inside name) arrived made
      · cases made

end WellFormed

/-- Directories can be made where no file is in the way, and then nothing else changes. -/
theorem makeDirectories?_of_clear {names : List String} (down : ".." ∉ names)
    (short : ∀ name ∈ names, name.utf8ByteSize ≤ Path.nameLimit)
    (clear : ∀ k text, d.node? k = some (.file text) → ¬ k <+: names.foldl Path.step l) :
    ∃ d', d.makeDirectories? l names = some d' ∧
      ∀ k, ¬ k <+: names.foldl Path.step l → d'.node? k = d.node? k := by
  induction names generalizing d l with
  | nil => exact ⟨d, rfl, fun _ _ => rfl⟩
  | cons name names ih =>
    rw [List.mem_cons, not_or] at down
    obtain ⟨first, others⟩ := List.forall_mem_cons.1 short
    rw [List.foldl_cons] at clear ⊢
    have onTheWay : Path.step l name <+: names.foldl Path.step (Path.step l name) := by
      obtain ⟨k, below⟩ := WellFormed.foldl_step (l := Path.step l name) down.2
      exact below ▸ List.prefix_append _ k
    rw [Disk.makeDirectories?]
    cases there : d.node? (Path.step l name) with
    | some n =>
      cases n with
      | file text => exact absurd onTheWay (clear _ text there)
      | directory => exact ih down.2 others clear
    | none =>
      have proper : Path.step l name ≠ [] := by
        intro root
        rw [root] at there
        cases there
      have node (k : Location) := node?_put d .directory proper k
      obtain ⟨d', made, same⟩ := @ih (d.put (Path.step l name) .directory) (Path.step l name) down.2
        others (fun k text found => by
          rw [node] at found
          split at found
          · cases found
          · exact clear k text found)
      refine ⟨d', (if_pos first).trans made, fun k off => ?_⟩
      rw [same k off, node, if_neg]
      rintro rfl
      exact off onTheWay

/-- Nothing is in the way of a file with this path. -/
structure Takes (d : Disk) (p : String) : Prop where
  leads : Path.leads p = true
  named : ∃ name, Path.fileName? p = some name
  short : ∀ name ∈ Path.names p, name.utf8ByteSize ≤ Path.nameLimit
  down : ".." ∉ Path.names p
  clear : ∀ l text, d.node? l = some (.file text) → ¬ l <+: d.place p

theorem foldl_stays (names : List String) (l : Location) :
    (names.filter (fun n => !Path.stays n)).foldl Path.step l = names.foldl Path.step l := by
  induction names generalizing l with
  | nil => rfl
  | cons name names ih =>
    by_cases stays : Path.stays name = true
    · rw [List.filter_cons_of_neg (by simp [stays]), ih, List.foldl_cons, Path.step, if_pos stays]
    · rw [List.filter_cons_of_pos (by simp [stays]), List.foldl_cons, List.foldl_cons, ih]

theorem parentNames_eq {p name : String} (named : Path.fileName? p = some name) :
    Path.parentNames p = (Path.names p).dropLast.filter (fun n => !Path.stays n) := by
  obtain ⟨names, stays, -⟩ := fileName?_eq_some named
  rw [Path.parentNames]
  nth_rewrite 1 [names]
  rw [List.filter_append, List.filter_cons_of_pos (by simp [stays]), List.filter_nil,
    List.dropLast_concat]

theorem WellFormed.start (formed : d.WellFormed) (p : String) : d.isDirectory (d.start p) = true := by
  rw [Disk.start]
  split
  · exact formed.here
  · rfl

/-- The directories that a new file needs can be made. -/
theorem WellFormed.makeParent? (formed : d.WellFormed) {p name : String} (takes : d.Takes p)
    (named : Path.fileName? p = some name) (way : d.place p = l ++ [name]) :
    ∃ made, d.makeParent? p = some made ∧ made.isDirectory l = true ∧
      made.node? (d.place p) = d.node? (d.place p) ∧
      made.walk? (made.start p) (Path.names p).dropLast = some l := by
  have last := (List.append_inj' ((place_eq d named).symm.trans way) rfl).1
  have reached : (Path.parentNames p).foldl Path.step (d.start p) = l := by
    rw [parentNames_eq named, foldl_stays, last]
  have within (n : String) (listed : n ∈ (Path.names p).dropLast) : n ∈ Path.names p :=
    List.dropLast_subset _ listed
  have among (n : String) (listed : n ∈ Path.parentNames p) : n ∈ Path.names p :=
    within n (List.mem_filter.1 (parentNames_eq named ▸ listed)).1
  obtain ⟨made, parent, same⟩ := @makeDirectories?_of_clear d (d.start p) (Path.parentNames p)
    (fun listed => takes.down (among _ listed)) (fun n listed => takes.short n (among n listed))
    (fun k text file before => by
      rw [reached] at before
      exact takes.clear k text file (way ▸ before.trans (List.prefix_append l [name])))
  obtain ⟨formed', inside⟩ := formed.makeDirectories? (formed.start p) parent
  rw [reached] at same inside
  refine ⟨made, parent, inside, same _ (fun before => ?_), ?_⟩
  · have longer := before.length_le
    rw [way, List.length_append, List.length_singleton] at longer
    omega
  · have begins : made.start p = d.start p := by
      rw [Disk.start, Disk.start, (grows_makeDirectories? parent).here]
    rw [begins, ← last]
    exact formed'.walk? (fun listed => takes.down (within _ listed))
      (fun n listed => takes.short n (within n listed)) (last.symm ▸ inside)

/-- A file with a new path can be written, after the directories it needs. -/
theorem WellFormed.writes (formed : d.WellFormed) {p : String} (takes : d.Takes p)
    (absent : d.holds p = false) (text : Option String) :
    ∃ d', (d.makeParent? p).bind (fun made => made.write? p text) = some d' := by
  obtain ⟨name, named⟩ := takes.named
  have way := place_eq d named
  obtain ⟨made, parent, inside, same, walked⟩ := formed.makeParent? takes named way
  have free : made.isDirectory (d.place p) = false := by
    rw [isDirectory, same]
    cases there : d.node? (d.place p) with
    | none => rfl
    | some n =>
      have found := formed.find? named takes.down takes.short takes.leads
        (by rw [there]; exact Option.some_ne_none n)
      rw [holds, found, there] at absent
      cases absent
  have last : name.utf8ByteSize ≤ Path.nameLimit := takes.short name (mem_of_fileName? named)
  refine ⟨made.put (d.place p) (.file text), ?_⟩
  rw [way] at free ⊢
  rw [parent, Option.bind_some, write?, named, Option.filter_some,
    if_pos (by simp [last, takes.leads]), Option.bind_eq_bind, Option.bind_some, walked]
  simp only [Option.bind_eq_bind, Option.bind_some, inside, free, Bool.not_false, Bool.and_self,
    if_true]

end Connectivity.Disk
