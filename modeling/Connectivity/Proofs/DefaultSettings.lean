import Connectivity.Proofs.DiskWrites
import Connectivity.Proofs.SettingsText
/-! The defaults, written where there is no settings file. Whoever loads the settings does not notice.
Whether there is a file is looked up before directories are made, though, and a path that leaves a
missing directory again leads to a file that was not found. -/
namespace Connectivity.Settings

open Disk

variable {e : Environment} {d d' : Disk} {p : String}

/-- The defaults were written unless something was there: `p` is the path, and `d'` the disk after
it. -/
structure Unnoticed (e : Environment) (d : Disk) (p : String) (d' : Disk) : Prop where
  path : p = e.settingsFile
  loaded : load e d' = load e d
  again : writeDefault e d' = .ok (p, d')
  written : d.holds p = false → load e d = .ok ((default e).override e) ∧
    d'.text? p = some (default e).text ∧ d'.node? (d.place p) = some (.file (some (default e).text))
  others : ∀ l n, d.node? l = some n → l ≠ d.place p → d'.node? l = some n
  replaced : ∀ n, d.holds p = false → d.node? (d.place p) = some n → ∃ text, n = .file text
  safe : d.WellFormed → ".." ∉ Path.names p → ∀ l n, d.node? l = some n → d'.node? l = some n

/-- What comes of writing the defaults, in an environment and with what is on its disk. -/
structure DefaultsWritten (e : Environment) (d : Disk) : Prop where
  present : d.holds e.settingsFile = true → writeDefault e d = .ok (e.settingsFile, d)
  possible : d.WellFormed → d.Takes e.settingsFile →
    ∃ d', writeDefault e d = .ok (e.settingsFile, d')
  unnoticed : ∀ p d', writeDefault e d = .ok (p, d') → Unnoticed e d p d'

theorem default_small (e : Environment) : (default e).queueDepth < 0x8000000000000000 := by
  change 64 < 0x8000000000000000
  decide

theorem writeDefault_absent (absent : d.holds e.settingsFile = false)
    (done : writeDefault e d = .ok (p, d')) : p = e.settingsFile ∧
      ∃ made, d.Grows made ∧ made.Writes p (some (default e).text) d' := by
  rw [writeDefault] at done
  simp only [absent, Bool.false_eq_true, if_false] at done
  split at done
  · rename_i written
    cases done
    obtain ⟨made, parents, written⟩ := Option.bind_eq_some_iff.1 written
    exact ⟨rfl, made, grows_makeDirectories? parents, writes_of_write? written⟩
  · cases done

theorem writeDefault_present (present : d.holds e.settingsFile = true) :
    writeDefault e d = .ok (e.settingsFile, d) := by
  simp only [writeDefault, present, if_true]

theorem writeDefault_of_takes (formed : d.WellFormed) (takes : d.Takes e.settingsFile) :
    ∃ d', writeDefault e d = .ok (e.settingsFile, d') := by
  cases present : d.holds e.settingsFile with
  | true => exact ⟨d, writeDefault_present present⟩
  | false =>
    obtain ⟨d', written⟩ := formed.writes takes present (some (default e).text)
    exact ⟨d', by simp [writeDefault, present, written]⟩

theorem load_of_text {text : String} (there : d.text? e.settingsFile = some text) {s : Settings}
    (read : ofText? (default e) text = some s) : load e d = .ok (s.override e) := by
  simp only [load, holds_of_text? there, there, read, if_true]

theorem unnoticed_of_present (present : d.holds e.settingsFile = true) :
    Unnoticed e d e.settingsFile d where
  path := rfl
  loaded := rfl
  again := writeDefault_present present
  written absent := Bool.noConfusion (absent.symm.trans present)
  others _ _ found _ := found
  replaced _ absent := Bool.noConfusion (absent.symm.trans present)
  safe _ _ _ _ found := found

theorem unnoticed_of_writes {made : Disk} (absent : d.holds e.settingsFile = false)
    (grows : d.Grows made) (writes : made.Writes e.settingsFile (some (default e).text) d') :
    Unnoticed e d e.settingsFile d' := by
  have place := grows.place e.settingsFile
  have text : d'.text? e.settingsFile = some (default e).text := by
    rw [text?, writes.found]
  have before := load_of_absent absent
  have after := load_of_text text (ofText?_text (default e) (default_small e))
  have node (l : Location) : d'.node? l = if l = d.place e.settingsFile then
      some (.file (some (default e).text)) else made.node? l := by
    rw [writes.node?, place]
  have others (l : Location) (n : DiskNode) (found : d.node? l = some n)
      (other : l ≠ d.place e.settingsFile) : d'.node? l = some n := by
    rw [node, if_neg other]
    exact grows.kept l n found
  refine ⟨rfl, after.trans before.symm, writeDefault_present (holds_of_text? text),
    fun _ => ⟨before, text, (node _).trans (if_pos rfl)⟩, others, fun n _ found => ?_,
    fun formed down l n found => others l n found ?_⟩
  · have kept := grows.kept _ n found
    cases n with
    | file text => exact ⟨text, rfl⟩
    | directory =>
      have free := writes.free
      rw [isDirectory, place, kept] at free
      cases free
  · -- A path without two dots would have found what is replaced.
    rintro rfl
    obtain ⟨name, named⟩ := writes.named
    obtain ⟨leads, short⟩ := find?_eq_some writes.found
    have there := formed.find? named down short leads (by rw [found]; exact Option.some_ne_none n)
    rw [holds, there, found] at absent
    cases absent

theorem unnoticed_of_done (done : writeDefault e d = .ok (p, d')) : Unnoticed e d p d' := by
  cases present : d.holds e.settingsFile with
  | true =>
    rw [writeDefault_present present] at done
    cases done
    exact unnoticed_of_present present
  | false =>
    obtain ⟨rfl, made, grows, writes⟩ := writeDefault_absent present done
    exact unnoticed_of_writes present grows writes

/-- Writing the defaults where there is no settings file is not noticed when the settings are loaded,
and is done once. What stands elsewhere on the disk stays, and on a disk where everything is in a
directory a path without two dots replaces nothing. Otherwise a file that the path did not lead to
before is replaced by the defaults, whatever it was. -/
theorem defaultsWritten (e : Environment) (d : Disk) : DefaultsWritten e d where
  present := writeDefault_present
  possible := writeDefault_of_takes
  unnoticed _ _ := unnoticed_of_done

def oddHome : Environment := [("HOME", "/\"a\\\n'b"), ("NETBROKER_API__PORT", "80")]

theorem empty_wellFormed : WellFormed {} where
  here := rfl
  within l name there := by simp [node?] at there

theorem empty_clear {l : Location} {text : Option String} : node? {} l ≠ some (.file text) := by
  cases l <;> simp [node?]

theorem defaultsWritten_oddHome : Disk.holds {} oddHome.settingsFile = false ∧
    ∃ d', writeDefault oddHome {} = .ok (oddHome.settingsFile, d') ∧
      Unnoticed oddHome {} oddHome.settingsFile d' := by
  have law := defaultsWritten oddHome {}
  have takes : Takes {} oddHome.settingsFile := {
    leads := by decide +kernel
    named := ⟨"config.toml", by decide +kernel⟩
    short := by decide +kernel
    down := by decide +kernel
    clear := fun _ _ file => absurd file empty_clear }
  obtain ⟨d', done⟩ := law.possible empty_wellFormed takes
  exact ⟨by decide +kernel, d', done, law.unnoticed _ d' done⟩

/-- The path of the settings leaves a directory that is missing. -/
def detour : Environment := [("NETBROKER_CONFIG", "/missing/../settings.toml")]

/-- The settings that were there are gone, though nobody had found them by that path. -/
theorem replaced_detour : ∃ d', (diskOf "# mine\n").text? "/settings.toml" = some "# mine\n" ∧
    (diskOf "# mine\n").holds detour.settingsFile = false ∧
    writeDefault detour (diskOf "# mine\n") = .ok (detour.settingsFile, d') ∧
    d'.text? "/settings.toml" = some (default detour).text ∧
    d'.text? "/settings.toml" ≠ some "# mine\n" := by
  obtain ⟨⟨p, d'⟩, done⟩ : ∃ r, writeDefault detour (diskOf "# mine\n") = .ok r := by
    have ok : (writeDefault detour (diskOf "# mine\n")).isOk = true := by decide +kernel
    cases done : writeDefault detour (diskOf "# mine\n") with
    | ok r => exact ⟨r, rfl⟩
    | error fault =>
      rw [done] at ok
      cases ok
  have absent : (diskOf "# mine\n").holds detour.settingsFile = false := by decide +kernel
  obtain ⟨rfl, made, grows, writes⟩ := writeDefault_absent absent done
  have place : made.place detour.settingsFile = ["settings.toml"] := by
    rw [grows.place]
    decide +kernel
  have node : d'.node? ["settings.toml"] = some (.file (some (default detour).text)) := by
    rw [writes.node?, place, if_pos rfl]
  have text : d'.text? "/settings.toml" = some (default detour).text := by
    rw [text?, find?_settings, node]
  refine ⟨d', by decide +kernel, absent, done, text, ?_⟩
  rw [text]
  decide +kernel

end Connectivity.Settings
