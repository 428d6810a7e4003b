import Connectivity.Config.File
import Connectivity.Table.Lemmas
import Mathlib.Tactic.Choose
/-! Where a setting comes from. A variable of the environment goes before the settings file, and the
file before the defaults, for each setting by itself. -/
namespace Connectivity

inductive Setting where
  | port
  | token
  | persist
  | path
  | restricted
  | systemUids
  | duplicates
  | queueDepth
  deriving DecidableEq, Repr

namespace Setting

abbrev Value : Setting → Type
  | port => UInt16
  | token | path => String
  | persist | restricted => Bool
  | systemUids => List Uid
  | duplicates => DuplicatePolicy
  | queueDepth => Nat

def get : (f : Setting) → Settings → f.Value
  | port, s => s.api.port
  | token, s => s.api.token
  | persist, s => s.policy.persist
  | path, s => s.policy.path
  | restricted, s => s.policy.restricted
  | systemUids, s => s.policy.systemUids
  | duplicates, s => s.duplicates
  | queueDepth, s => s.queueDepth

/-- The section of a settings file that it stands in, and its key there. -/
def heading : Setting → String
  | port | token => "api"
  | persist | path | restricted | systemUids => "policy"
  | duplicates => "registry"
  | queueDepth => "dispatch"

def key : Setting → String
  | port => "port"
  | token => "interface_token"
  | persist => "persist"
  | path => "persist_path"
  | restricted => "background_restricted"
  | systemUids => "system_uids"
  | duplicates => "duplicate_suppliers"
  | queueDepth => "listener_queue_depth"

def siblings : Setting → List String
  | port | token => ApiSettings.keys
  | persist | path | restricted | systemUids => PolicySettings.keys
  | duplicates => ["duplicate_suppliers"]
  | queueDepth => ["listener_queue_depth"]

def decode : (f : Setting) → Toml → Option f.Value
  | port => fun v => (v.natural? 0xFFFF).map UInt16.ofNat
  | token | path => Toml.string?
  | persist | restricted => Toml.flag?
  | systemUids => Toml.uids?
  | duplicates => Toml.duplicates?
  | queueDepth => Toml.natural? 0xFFFFFFFFFFFFFFFF

def overrider? : Setting → Option String
  | port => some "NETBROKER_API__PORT"
  | persist => some "NETBROKER_POLICY__PERSIST"
  | restricted => some "NETBROKER_POLICY__BACKGROUND_RESTRICTED"
  | duplicates => some "NETBROKER_REGISTRY__DUPLICATE_SUPPLIERS"
  | _ => none

/-- What a variable says of it, if that makes sense. -/
def parse? : (f : Setting) → String → Option f.Value
  | port, v => (Decimal.count? 0xFFFF v).map UInt16.ofNat
  | persist, v | restricted, v => some (Settings.isOn v)
  | duplicates, v => DuplicatePolicy.ofName? v
  | token, _ | path, _ | systemUids, _ | queueDepth, _ => none

def given? (f : Setting) (e : Environment) : Option f.Value :=
  (f.overrider?.bind e.get?).bind f.parse?

end Setting

namespace Toml
variable {α : Type} {es : TomlEntries} {key : String} {decode : Toml → Option α}

/-- What stands under a key, if anything does; without a value where it makes no sense. -/
def under? (es : TomlEntries) (key : String) (decode : Toml → Option α) : Option (Option α) :=
  match es.lookup key with
  | some v => (decode v).map some
  | none => some none

/-- The members of a section. One that is missing has none. -/
def section? (es : TomlEntries) (heading : String) (names : List String) : Option TomlEntries :=
  match es.lookup heading with
  | some v => v.members? names
  | none => some []

theorem member_eq (es : TomlEntries) (key : String) (decode : Toml → Option α) (default : α) :
    member es key decode default = (under? es key decode).map (·.getD default) := by
  unfold member under?
  cases es.lookup key with
  | none => rfl
  | some v =>
    dsimp only
    cases decode v <;> rfl

theorem member_section (read : Toml → Option α) {names : List String}
    {build : TomlEntries → Option α} {default : α} (reads : ∀ v, read v = (v.members? names).bind build)
    (empty : build [] = some default) (es : TomlEntries) (heading : String) :
    member es heading read default = (section? es heading names).bind build := by
  unfold member section?
  cases es.lookup heading with
  | none => exact empty.symm
  | some v => exact reads v

end Toml

namespace Setting

/-- What a document says of a setting, if anything; without a value where it makes no sense. -/
def written? (f : Setting) (es : TomlEntries) : Option (Option f.Value) :=
  (Toml.section? es f.heading f.siblings).bind (fun ms => Toml.under? ms f.key f.decode)

/-- The environment decides before the file, the file before the defaults. -/
def decided (f : Setting) (e : Environment) (written : Option f.Value) : f.Value :=
  ((f.given? e).or written).getD (f.get (.default e))

theorem forall_iff {p : Setting → Prop} : (∀ f, p f) ↔ (p port ∧ p token) ∧
    (p persist ∧ p path ∧ p restricted ∧ p systemUids) ∧ p duplicates ∧ p queueDepth := by
  constructor
  · exact fun all => ⟨⟨all _, all _⟩, ⟨all _, all _, all _, all _⟩, all _, all _⟩
  · rintro ⟨⟨_, _⟩, ⟨_, _, _, _⟩, _, _⟩ f
    cases f <;> assumption

theorem get_override (f : Setting) (s : Settings) (e : Environment) :
    f.get (s.override e) = (f.given? e).getD (f.get s) := by
  cases f with
  | token | path | systemUids | queueDepth => rfl
  | port =>
    change ((Option.bind _ _).map UInt16.ofNat).getD _ = (Option.bind _ (fun v => _)).getD _
    rw [Option.map_bind]
    rfl
  | persist | restricted =>
    change (Option.map Settings.isOn _).getD _ = (Option.bind _ (fun v => some _)).getD _
    rw [Option.map_eq_bind]
    rfl
  | duplicates => rfl

end Setting

namespace Settings

theorem ext_get {s t : Settings} (same : ∀ f : Setting, f.get s = f.get t) : s = t := by
  obtain ⟨⟨port, token⟩, ⟨persist, path, restricted, systemUids⟩, duplicates, queueDepth⟩ :=
    Setting.forall_iff.1 same
  obtain ⟨⟨_, _⟩, ⟨_, _, _, _⟩, _, _⟩ := s
  obtain ⟨⟨_, _⟩, ⟨_, _, _, _⟩, _, _⟩ := t
  cases port; cases token; cases persist; cases path
  cases restricted; cases systemUids; cases duplicates; cases queueDepth
  rfl

variable {es : TomlEntries}

theorem api_eq_some_iff {d a : ApiSettings} :
    Toml.member es "api" (ApiSettings.ofToml? d) d = some a ↔
      (Setting.port.written? es).map (·.getD d.port) = some a.port ∧
        (Setting.token.written? es).map (·.getD d.token) = some a.token := by
  obtain ⟨port, token⟩ := a
  rw [Toml.member_section (ApiSettings.ofToml? d) (fun _ => rfl) rfl es "api"]
  unfold Setting.written?
  dsimp only [Setting.heading, Setting.siblings]
  cases Toml.section? es "api" ApiSettings.keys with
  | none => simp
  | some ms =>
    simp only [Option.bind_some, Toml.member_eq, Option.bind_eq_bind, Option.bind_eq_some_iff,
      Option.pure_def, Option.some.injEq, ApiSettings.mk.injEq]
    constructor
    · rintro ⟨_, first, _, second, rfl, rfl⟩
      exact ⟨first, second⟩
    · rintro ⟨first, second⟩
      exact ⟨_, first, _, second, rfl, rfl⟩

theorem policy_eq_some_iff {d a : PolicySettings} :
    Toml.member es "policy" (PolicySettings.ofToml? d) d = some a ↔
      (Setting.persist.written? es).map (·.getD d.persist) = some a.persist ∧
        (Setting.path.written? es).map (·.getD d.path) = some a.path ∧
        (Setting.restricted.written? es).map (·.getD d.restricted) = some a.restricted ∧
        (Setting.systemUids.written? es).map (·.getD d.systemUids) = some a.systemUids := by
  obtain ⟨persist, path, restricted, systemUids⟩ := a
  rw [Toml.member_section (PolicySettings.ofToml? d) (fun _ => rfl) rfl es "policy"]
  unfold Setting.written?
  dsimp only [Setting.heading, Setting.siblings]
  cases Toml.section? es "policy" PolicySettings.keys with
  | none => simp
  | some ms =>
    simp only [Option.bind_some, Toml.member_eq, Option.bind_eq_bind, Option.bind_eq_some_iff,
      Option.pure_def, Option.some.injEq, PolicySettings.mk.injEq]
    constructor
    · rintro ⟨_, first, _, second, _, third, _, fourth, rfl, rfl, rfl, rfl⟩
      exact ⟨first, second, third, fourth⟩
    · rintro ⟨first, second, third, fourth⟩
      exact ⟨_, first, _, second, _, third, _, fourth, rfl, rfl, rfl, rfl⟩

theorem duplicates_eq (d : DuplicatePolicy) :
    Toml.member es "registry" (duplicatesOfToml? d) d =
      (Setting.duplicates.written? es).map (·.getD d) := by
  rw [Toml.member_section (duplicatesOfToml? d) (fun _ => rfl) rfl es "registry"]
  unfold Setting.written?
  dsimp only [Setting.heading, Setting.siblings]
  cases Toml.section? es "registry" ["duplicate_suppliers"] with
  | none => rfl
  | some ms => exact Toml.member_eq ms _ _ d

theorem queueDepth_eq (d : Nat) :
    Toml.member es "dispatch" (queueDepthOfToml? d) d =
      (Setting.queueDepth.written? es).map (·.getD d) := by
  rw [Toml.member_section (queueDepthOfToml? d) (fun _ => rfl) rfl es "dispatch"]
  unfold Setting.written?
  dsimp only [Setting.heading, Setting.siblings]
  cases Toml.section? es "dispatch" ["listener_queue_depth"] with
  | none => rfl
  | some ms => exact Toml.member_eq ms _ _ d

/-- A document makes sense if it does so for each setting, whatever the defaults. -/
theorem ofToml?_eq_some_iff {default s : Settings} : ofToml? default es = some s ↔
    ∀ f : Setting, (f.written? es).map (·.getD (f.get default)) = some (f.get s) := by
  obtain ⟨api, policy, duplicates, queueDepth⟩ := s
  simp only [ofToml?, Option.bind_eq_bind, Option.bind_eq_some_iff, Option.pure_def,
    Option.some.injEq, Settings.mk.injEq]
  rw [Setting.forall_iff]
  constructor
  · rintro ⟨_, first, _, second, _, third, _, fourth, rfl, rfl, rfl, rfl⟩
    exact ⟨api_eq_some_iff.1 first, policy_eq_some_iff.1 second, (duplicates_eq _).symm.trans third,
      (queueDepth_eq _).symm.trans fourth⟩
  · rintro ⟨first, second, third, fourth⟩
    exact ⟨_, api_eq_some_iff.2 first, _, policy_eq_some_iff.2 second, _,
      (duplicates_eq _).trans third, _, (queueDepth_eq _).trans fourth, rfl, rfl, rfl, rfl⟩

def ofGet (v : (f : Setting) → f.Value) : Settings where
  api := { port := v .port, token := v .token }
  policy := {
    persist := v .persist
    path := v .path
    restricted := v .restricted
    systemUids := v .systemUids }
  duplicates := v .duplicates
  queueDepth := v .queueDepth

theorem get_ofGet (v : (f : Setting) → f.Value) (f : Setting) : f.get (ofGet v) = v f := by
  cases f <;> rfl

end Settings

/-- What is left out of a document: one key of a section, or a whole section. -/
inductive Omission where
  | key (heading key : String)
  | whole (heading : String)
  deriving DecidableEq, Repr

namespace Omission

def concerns : Omission → Setting → Bool
  | .key heading name, f => f.heading == heading && f.key == name
  | .whole heading, f => f.heading == heading

inductive Leaves : Omission → TomlEntries → TomlEntries → Prop where
  | key {es es' ms ms' : TomlEntries} {o o' : TableOrigin} {heading key : String}
      (before : es.lookup heading = some (.table o ms))
      (after : es'.lookup heading = some (.table o' ms'))
      (gone : ms'.lookup key = none)
      (inside : ∀ other, other ≠ key → ms'.lookup other = ms.lookup other)
      (outside : ∀ other, other ≠ heading → es'.lookup other = es.lookup other) :
      Leaves (.key heading key) es es'
  | whole {es es' : TomlEntries} {heading : String} (gone : es'.lookup heading = none)
      (outside : ∀ other, other ≠ heading → es'.lookup other = es.lookup other) :
      Leaves (.whole heading) es es'

theorem Leaves.written? {o : Omission} {es es' : TomlEntries} (leaves : o.Leaves es es')
    (f : Setting) : f.written? es' = if o.concerns f then some none else f.written? es := by
  have elsewhere {heading : String} (other : f.heading ≠ heading)
      (outside : ∀ other, other ≠ heading → es'.lookup other = es.lookup other) :
      f.written? es' = f.written? es := by
    rw [Setting.written?, Setting.written?, Toml.section?, Toml.section?, outside _ other]
  cases leaves with
  | @key _ _ ms ms' _ _ heading key before after gone inside outside =>
    by_cases here : f.heading = heading
    · have left : f.written? es' = Toml.under? ms' f.key f.decode := by
        rw [Setting.written?, Toml.section?, here, after]
        rfl
      have whole : f.written? es = Toml.under? ms f.key f.decode := by
        rw [Setting.written?, Toml.section?, here, before]
        rfl
      rw [left, whole, Toml.under?, Toml.under?]
      by_cases same : f.key = key
      · simp [concerns, here, same, gone]
      · simp [concerns, same, inside f.key same]
    · rw [elsewhere here outside]
      simp [concerns, here]
  | @whole _ _ heading gone outside =>
    by_cases here : f.heading = heading
    · rw [Setting.written?, Toml.section?, here, gone]
      simp [concerns, here, Toml.under?]
    · rw [elsewhere here outside]
      simp [concerns, here]

end Omission

def Disk.Spells (d : Disk) (p : String) (es : TomlEntries) : Prop :=
  ∃ text, d.text? p = some text ∧ Toml.document? text = some es

theorem Disk.holds_of_text? {d : Disk} {p text : String} (there : d.text? p = some text) :
    d.holds p = true := by
  rw [Disk.text?] at there
  rw [Disk.holds]
  split at there
  · rename_i found
    rw [found]
    rfl
  · cases there

namespace Settings
variable {e : Environment} {d : Disk} {es : TomlEntries} {s : Settings}

theorem load_of_spells (spells : d.Spells e.settingsFile es) :
    load e d = match ofToml? (default e) es with
      | some s => .ok (s.override e)
      | none => .error .malformed := by
  obtain ⟨text, there, document⟩ := spells
  cases read : ofToml? (default e) es <;>
    simp [load, Disk.holds_of_text? there, there, ofText?, document, read]

theorem load_eq_ok_iff (spells : d.Spells e.settingsFile es) :
    load e d = .ok s ↔ ∀ f : Setting, ∃ w, f.written? es = some w ∧ f.get s = f.decided e w := by
  have decided (f : Setting) (w : Option f.Value) :
      f.decided e w = (f.given? e).getD (w.getD (f.get (default e))) := by
    rw [Setting.decided, Option.getD_or]
  rw [load_of_spells spells]
  constructor
  · intro loaded f
    cases read : ofToml? (default e) es with
    | none =>
      rw [read] at loaded
      cases loaded
    | some t =>
      rw [read] at loaded
      obtain ⟨w, written, value⟩ := Option.map_eq_some_iff.1 (ofToml?_eq_some_iff.1 read f)
      refine ⟨w, written, ?_⟩
      rw [← Except.ok.inj loaded, Setting.get_override, decided, value]
  · intro each
    choose w written value using each
    have read : ofToml? (default e) es =
        some (ofGet (fun f => (w f).getD (f.get (default e)))) := by
      refine ofToml?_eq_some_iff.2 (fun f => ?_)
      rw [written f, get_ofGet]
      rfl
    rw [read]
    refine congrArg Except.ok (ext_get (fun f => ?_))
    rw [Setting.get_override, get_ofGet, value f, decided]

theorem load_of_absent (absent : d.holds e.settingsFile = false) :
    load e d = .ok ((default e).override e) := by
  simp only [load, absent, Bool.false_eq_true, if_false]

theorem ofToml?_congr {es' : TomlEntries} (same : ∀ f : Setting, f.written? es' = f.written? es)
    (default : Settings) : ofToml? default es' = ofToml? default es := by
  refine Option.ext (fun s => ?_)
  rw [ofToml?_eq_some_iff, ofToml?_eq_some_iff]
  exact forall_congr' (fun f => by rw [same f])

theorem override_override (s : Settings) (e : Environment) :
    (s.override e).override e = s.override e := by
  refine ext_get (fun f => ?_)
  rw [Setting.get_override, Setting.get_override]
  cases f.given? e <;> rfl

end Settings

/-- The environments differ at most in variables that override other settings than `f`. -/
def Environment.AgreesFor (e : Environment) (f : Setting) (e' : Environment) : Prop :=
  ∀ name, (∀ g : Setting, g.overrider? = some name → g = f) → e.get? name = e'.get? name

namespace Environment.AgreesFor
variable {e e' : Environment} {f : Setting}

theorem given? (agrees : e.AgreesFor f e') : f.given? e = f.given? e' := by
  unfold Setting.given?
  cases own : f.overrider? with
  | none => rfl
  | some name =>
    have alone : ∀ g : Setting, g.overrider? = some name → g = f := by
      intro g other
      have same := other.trans own.symm
      revert same
      cases f <;> cases own <;> cases g <;> decide
    rw [Option.bind_some, Option.bind_some, agrees name alone]

theorem get? (agrees : e.AgreesFor f e') {name : String}
    (plain : name ∈ ["HOME", "XDG_CONFIG_HOME", "XDG_DATA_HOME", "NETBROKER_CONFIG"]) :
    e.get? name = e'.get? name := by
  refine agrees name (fun g overrides => ?_)
  have other : name ≠ "HOME" ∧ name ≠ "XDG_CONFIG_HOME" ∧ name ≠ "XDG_DATA_HOME" ∧
      name ≠ "NETBROKER_CONFIG" := by
    cases g <;> cases overrides <;> decide
  simp [other] at plain

theorem settingsFile (agrees : e.AgreesFor f e') : e.settingsFile = e'.settingsFile := by
  have file : e.get? "NETBROKER_CONFIG" = e'.get? "NETBROKER_CONFIG" := agrees.get? (by simp)
  have shared : e.get? "XDG_CONFIG_HOME" = e'.get? "XDG_CONFIG_HOME" := agrees.get? (by simp)
  have home : e.get? "HOME" = e'.get? "HOME" := agrees.get? (by simp)
  simp only [Environment.settingsFile, Environment.configDirectory, Environment.home, file, shared,
    home]

theorem default (agrees : e.AgreesFor f e') : Settings.default e = Settings.default e' := by
  have shared : e.get? "XDG_DATA_HOME" = e'.get? "XDG_DATA_HOME" := agrees.get? (by simp)
  have home : e.get? "HOME" = e'.get? "HOME" := agrees.get? (by simp)
  simp only [Settings.default, Environment.dataDirectory, Environment.home, shared, home]

/-- What was loaded differs at most in other settings. -/
theorem load {d : Disk} {s : Settings} (agrees : e.AgreesFor f e')
    (loaded : Settings.load e d = .ok s) :
    ∃ s', Settings.load e' d = .ok s' ∧ f.get s' = f.get s := by
  have same (t : Settings) : f.get (t.override e') = f.get (t.override e) := by
    rw [Setting.get_override, Setting.get_override, agrees.given?]
  rw [Settings.load, agrees.settingsFile, agrees.default] at loaded
  rw [Settings.load]
  split at loaded
  · rename_i there
    rw [if_pos there]
    split at loaded
    · cases loaded
    · split at loaded
      · cases loaded
        exact ⟨_, rfl, same _⟩
      · cases loaded
  · rename_i absent
    rw [if_neg absent]
    cases loaded
    exact ⟨_, rfl, same _⟩

end Environment.AgreesFor

theorem DuplicatePolicy.ofName?_eq_some_iff {v : String} {p : DuplicatePolicy} :
    ofName? v = some p ↔ v = p.name := by
  have distinct : (names.map (·.1)).Nodup := by decide
  rw [ofName?, lookup_eq_some_iff_of_nodup distinct]
  cases p <;> simp [names]

namespace Setting
variable {e : Environment}

theorem given?_port {n : UInt16} : port.given? e = some n ↔
    ∃ v, e.get? "NETBROKER_API__PORT" = some v ∧ Decimal.Denotes v n.toNat := by
  simp only [given?, overrider?, Option.bind_some, Option.bind_eq_some_iff, parse?,
    Option.map_eq_some_iff, Decimal.count?_eq_some_iff]
  refine exists_congr (fun v => and_congr_right (fun _ => ?_))
  constructor
  · rintro ⟨m, ⟨denotes, small⟩, rfl⟩
    rwa [UInt16.toNat_ofNat_of_lt' (Nat.lt_succ_of_le small)]
  · exact fun denotes => ⟨n.toNat, ⟨denotes, by have := n.toNat_lt; omega⟩, UInt16.ofNat_toNat⟩

theorem given?_duplicates {p : DuplicatePolicy} : duplicates.given? e = some p ↔
    e.get? "NETBROKER_REGISTRY__DUPLICATE_SUPPLIERS" = some p.name := by
  simp only [given?, overrider?, Option.bind_some, Option.bind_eq_some_iff, parse?,
    DuplicatePolicy.ofName?_eq_some_iff, exists_eq_right]

end Setting

namespace Settings

/-- How the settings of a service come about, in an environment and with what is on its disk. -/
structure Precedence (e : Environment) (d : Disk) : Prop where
  port : ∀ n : UInt16, Setting.port.given? e = some n ↔
    ∃ v, e.get? "NETBROKER_API__PORT" = some v ∧ Decimal.Denotes v n.toNat
  restricted : Setting.restricted.given? e =
    (e.get? "NETBROKER_POLICY__BACKGROUND_RESTRICTED").map (fun v => v == "true" || v == "1")
  persist : Setting.persist.given? e =
    (e.get? "NETBROKER_POLICY__PERSIST").map (fun v => v == "true" || v == "1")
  duplicates : ∀ p, Setting.duplicates.given? e = some p ↔
    e.get? "NETBROKER_REGISTRY__DUPLICATE_SUPPLIERS" = some p.name
  notGiven : ∀ f ∈ [Setting.token, .path, .systemUids, .queueDepth], f.given? e = none
  absent : d.holds e.settingsFile = false →
    ∃ s, load e d = .ok s ∧ ∀ f : Setting, f.get s = f.decided e none
  spelled : ∀ es, d.Spells e.settingsFile es → ∀ s, load e d = .ok s ↔
    ∀ f : Setting, ∃ w, f.written? es = some w ∧ f.get s = f.decided e w
  otherwise : d.holds e.settingsFile = true → (∀ es, ¬ d.Spells e.settingsFile es) →
    ∀ s, load e d ≠ .ok s
  omitted : ∀ (o : Omission) es es' d', d.Spells e.settingsFile es → d'.Spells e.settingsFile es' →
    o.Leaves es es' → ∀ s, load e d = .ok s → ∃ s', load e d' = .ok s' ∧
      ∀ f : Setting, f.get s' = if o.concerns f then f.decided e none else f.get s
  unknown : ∀ (o : Omission) es es' d', d.Spells e.settingsFile es → d'.Spells e.settingsFile es' →
    o.Leaves es es' → (∀ f, o.concerns f = false) → load e d' = load e d
  environment : ∀ (f : Setting) e', e.AgreesFor f e' → ∀ s, load e d = .ok s →
    ∃ s', load e' d = .ok s' ∧ f.get s' = f.get s
  twice : ∀ s : Settings, (s.override e).override e = s.override e

variable {e : Environment} {d d' : Disk} {es es' : TomlEntries} {o : Omission}

theorem load_of_leaves (before : d.Spells e.settingsFile es) (after : d'.Spells e.settingsFile es')
    (leaves : o.Leaves es es') {s : Settings} (loaded : load e d = .ok s) :
    ∃ s', load e d' = .ok s' ∧
      ∀ f : Setting, f.get s' = if o.concerns f then f.decided e none else f.get s := by
  refine ⟨ofGet (fun f => if o.concerns f then f.decided e none else f.get s), ?_, get_ofGet _⟩
  refine (load_eq_ok_iff after).2 (fun f => ?_)
  rw [get_ofGet, leaves.written? f]
  by_cases gone : o.concerns f = true
  · rw [if_pos gone, if_pos gone]
    exact ⟨none, rfl, rfl⟩
  · rw [if_neg gone, if_neg gone]
    exact (load_eq_ok_iff before).1 loaded f

theorem load_of_unknown (before : d.Spells e.settingsFile es) (after : d'.Spells e.settingsFile es')
    (leaves : o.Leaves es es') (unknown : ∀ f, o.concerns f = false) : load e d' = load e d := by
  rw [load_of_spells before, load_of_spells after]
  rw [ofToml?_congr (fun f => (leaves.written? f).trans (by rw [unknown f]; rfl))]

theorem load_ne_ok (there : d.holds e.settingsFile = true)
    (unspelled : ∀ es, ¬ d.Spells e.settingsFile es) (s : Settings) : load e d ≠ .ok s := by
  intro loaded
  rw [load, there] at loaded
  cases text : d.text? e.settingsFile with
  | none => simp [text] at loaded
  | some t =>
    cases document : Toml.document? t with
    | none => simp [text, ofText?, document] at loaded
    | some es => exact unspelled es ⟨t, text, document⟩

/-- Each setting is what the environment says of it, or else what the file says, or else the default,
and no setting has a say in another. -/
theorem precedence (e : Environment) (d : Disk) : Precedence e d where
  port n := Setting.given?_port
  restricted := Option.map_eq_bind.symm
  persist := Option.map_eq_bind.symm
  duplicates p := Setting.given?_duplicates
  notGiven f listed := by
    simp only [List.mem_cons, List.not_mem_nil, or_false] at listed
    rcases listed with rfl | rfl | rfl | rfl <;> rfl
  absent absent := by
    refine ⟨_, load_of_absent absent, fun f => ?_⟩
    rw [Setting.get_override, Setting.decided, Option.or_none]
  spelled es spells s := load_eq_ok_iff spells
  otherwise := load_ne_ok
  omitted o es es' d' before after leaves s loaded := load_of_leaves before after leaves loaded
  unknown o es es' d' before after leaves nothing := load_of_unknown before after leaves nothing
  environment f e' agrees s loaded := agrees.load loaded
  twice s := override_override s e

/-- The port is in the file too, and no duplicate policy has that name. -/
def busyEnvironment : Environment := [("NETBROKER_CONFIG", "/settings.toml"),
  ("NETBROKER_API__PORT", "9200"), ("NETBROKER_POLICY__PERSIST", "no"),
  ("NETBROKER_REGISTRY__DUPLICATE_SUPPLIERS", "merge")]

def diskOf (text : String) : Disk := { nodes := [(["settings.toml"], .file (some text))] }

theorem find?_settings (d : Disk) : d.find? "/settings.toml" = d.node? ["settings.toml"] := by
  have names : Path.names "/settings.toml" = ["", "settings.toml"] := by decide +kernel
  have leads : Path.leads "/settings.toml" = true := by decide +kernel
  have absolute : Path.isRelative "/settings.toml" = false := by decide +kernel
  rw [Disk.find?, if_pos leads, names, Disk.start, absolute]
  rfl

theorem diskOf_spells {text : String} {es : TomlEntries}
    (document : Toml.document? text = some es) :
    (diskOf text).Spells busyEnvironment.settingsFile es := by
  refine ⟨text, ?_, document⟩
  change (diskOf text).text? "/settings.toml" = some text
  rw [Disk.text?, find?_settings]
  rfl

/-- The policies are settled, or left to the defaults. -/
def busyEntries (policy : TomlEntries) : TomlEntries :=
  [("api", .table .header [("port", .integer 9300)]), ("policy", .table .header policy)]

def busyWritten : (f : Setting) → Option f.Value
  | .port => some 9300
  | .restricted => some false
  | _ => none

theorem precedence_busy :
    ∃ s s' : Settings,
      load busyEnvironment
        (diskOf "[api]\nport = 9300\n[policy]\nbackground_restricted = false\n") = .ok s ∧
      s.api.port = 9200 ∧ s.policy.persist = false ∧ s.policy.restricted = false ∧
      s.duplicates = .reject ∧ s.queueDepth = 64 ∧
      load busyEnvironment (diskOf "[api]\nport = 9300\n[policy]\n") = .ok s' ∧
      s'.policy.restricted = true ∧ s'.api.port = 9200 := by
  have whole : (diskOf "[api]\nport = 9300\n[policy]\nbackground_restricted = false\n").Spells
      busyEnvironment.settingsFile (busyEntries [("background_restricted", .bool false)]) := by
    refine diskOf_spells ?_
    simp only [Toml.document?, String.reduceToList]
    rfl
  have left : (diskOf "[api]\nport = 9300\n[policy]\n").Spells busyEnvironment.settingsFile
      (busyEntries []) := by
    refine diskOf_spells ?_
    simp only [Toml.document?, String.reduceToList]
    rfl
  have leaves : (Omission.key "policy" "background_restricted").Leaves
      (busyEntries [("background_restricted", .bool false)]) (busyEntries []) := by
    refine .key rfl rfl rfl (fun other apart => ?_) (fun other apart => ?_)
    · simp [List.lookup_cons, beq_eq_false_iff_ne.2 apart]
    · simp [busyEntries, List.lookup_cons, beq_eq_false_iff_ne.2 apart]
  have law := precedence busyEnvironment
    (diskOf "[api]\nport = 9300\n[policy]\nbackground_restricted = false\n")
  have loaded := (law.spelled _ whole
    (ofGet (fun f => f.decided busyEnvironment (busyWritten f)))).2
    (fun f => ⟨busyWritten f, by cases f <;> rfl, get_ofGet _ f⟩)
  obtain ⟨s', again, values⟩ := law.omitted _ _ _ _ whole left leaves _ loaded
  refine ⟨_, s', loaded, by decide +kernel, by decide +kernel, by decide +kernel,
    by decide +kernel, by decide +kernel, again, ?_, ?_⟩
  · exact (values .restricted).trans (by decide +kernel)
  · exact (values .port).trans (by decide +kernel)

end Settings

end Connectivity
