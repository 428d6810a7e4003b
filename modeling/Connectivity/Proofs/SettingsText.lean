import Connectivity.Proofs.Precedence
import Connectivity.Proofs.TomlDocument
/-! Settings that were written down are read back, whatever the defaults are then. -/
namespace Connectivity

namespace Settings
open Toml

/-- The settings as sections, each value with its text. -/
def sections (s : Settings) : List Toml.Section := [
  ⟨"api", [
    ⟨"port", printNatural s.api.port.toNat, .integer s.api.port.toNat⟩,
    ⟨"interface_token", printString s.api.token, .string s.api.token⟩]⟩,
  ⟨"policy", [
    ⟨"persist", printFlag s.policy.persist, .bool s.policy.persist⟩,
    ⟨"persist_path", printString s.policy.path, .string s.policy.path⟩,
    ⟨"background_restricted", printFlag s.policy.restricted, .bool s.policy.restricted⟩,
    ⟨"system_uids", printArray (s.policy.systemUids.map (fun uid => printNatural uid.toNat)),
      .array (s.policy.systemUids.map (fun uid => .integer uid.toNat))⟩]⟩,
  ⟨"registry", [⟨"duplicate_suppliers", printString s.duplicates.name, .string s.duplicates.name⟩]⟩,
  ⟨"dispatch", [⟨"listener_queue_depth", printNatural s.queueDepth, .integer s.queueDepth⟩]⟩]

theorem text_eq (s : Settings) :
    s.text = String.ofList (printSections (s.sections.map Section.texts)) := by
  simp [text, sections, Section.texts]

theorem sections_sound {s : Settings} (small : s.queueDepth < 0x8000000000000000) :
    ∀ t ∈ s.sections, t.Sound := by
  have natural {n : Nat} (small : n < 0x8000000000000000) :
      Prints (depthLimit - 1) (printNatural n) (.integer n) := (Prints.natural small).mono (by decide)
  have flag (b : Bool) : Prints (depthLimit - 1) (printFlag b) (.bool b) :=
    (Prints.flag b).mono (by decide)
  have string (t : String) : Prints (depthLimit - 1) (printString t) (.string t) :=
    (Prints.string t).mono (by decide)
  have uids : Prints (depthLimit - 1)
      (printArray (s.policy.systemUids.map (fun uid => printNatural uid.toNat)))
      (.array (s.policy.systemUids.map (fun uid => .integer uid.toNat))) := by
    have nested : 0 + 1 ≤ depthLimit - 1 := by decide
    refine Prints.mono (Prints.array ?_) nested
    rw [List.forall₂_map_left_iff, List.forall₂_map_right_iff, List.forall₂_same]
    exact fun uid _ => Prints.natural (by have := uid.toNat_lt; omega)
  have port : s.api.port.toNat < 0x8000000000000000 := by have := s.api.port.toNat_lt; omega
  have entry {key : String} {text : List Char} {v : Toml} (bare : IsBare key)
      (prints : Prints (depthLimit - 1) text v) : Entry.Sound ⟨key, text, v⟩ := ⟨bare, prints⟩
  have part {name : String} {entries : List Entry} (bare : IsBare name)
      (sound : ∀ e ∈ entries, e.Sound) (distinct : (entries.map (·.key)).Nodup) :
      Section.Sound ⟨name, entries⟩ := ⟨bare, sound, distinct⟩
  simp only [sections, List.forall_mem_cons, List.not_mem_nil, false_implies, implies_true, and_true]
  refine ⟨part (by decide) ?_ (by simp), part (by decide) ?_ (by simp), part (by decide) ?_ (by simp),
    part (by decide) ?_ (by simp)⟩ <;>
    simp only [List.forall_mem_cons, List.not_mem_nil, false_implies, implies_true, and_true]
  · exact ⟨entry (by decide) (natural port), entry (by decide) (string _)⟩
  · exact ⟨entry (by decide) (flag _), entry (by decide) (string _), entry (by decide) (flag _),
      entry (by decide) uids⟩
  · exact entry (by decide) (string _)
  · exact entry (by decide) (natural small)

theorem natural?_integer {limit n : Nat} (small : n ≤ limit) :
    Toml.natural? limit (.integer n) = some n := by
  simp [Toml.natural?, small]

theorem uids?_integers (uids : List Uid) :
    Toml.uids? (.array (uids.map (fun uid => .integer uid.toNat))) = some uids := by
  have each (uid : Uid) : Toml.uid? (.integer uid.toNat) = some uid := by
    rw [Toml.uid?, natural?_integer (by have := uid.toNat_lt; omega), Option.map_some,
      UInt32.ofNat_toNat]
  rw [Toml.uids?]
  induction uids with
  | nil => rfl
  | cons uid others ih => rw [List.map_cons, List.mapM_cons, each, ih]; rfl

theorem ofToml?_sections (default s : Settings) (small : s.queueDepth ≤ 0xFFFFFFFFFFFFFFFF) :
    ofToml? default (s.sections.map Section.table) = some s := by
  have written (f : Setting) : f.written? (s.sections.map Section.table) = some (some (f.get s)) := by
    cases f with
    | token | persist | path | restricted => rfl
    | port =>
      have read : (Toml.natural? 0xFFFF (.integer s.api.port.toNat)).map UInt16.ofNat =
          some s.api.port := by
        rw [natural?_integer (by have := s.api.port.toNat_lt; omega), Option.map_some,
          UInt16.ofNat_toNat]
      exact congrArg (Option.map some) read
    | systemUids => exact congrArg (Option.map some) (uids?_integers _)
    | duplicates =>
      exact congrArg (Option.map some) (DuplicatePolicy.ofName?_eq_some_iff.2 rfl)
    | queueDepth => exact congrArg (Option.map some) (natural?_integer small)
  refine ofToml?_eq_some_iff.2 (fun f => ?_)
  rw [written f]
  rfl

/-- Settings are read back from their own text. -/
theorem ofText?_text (default : Settings) {s : Settings}
    (small : s.queueDepth < 0x8000000000000000) : ofText? default s.text = some s := by
  have read := document?_printSections s.sections (sections_sound small) (by simp [sections])
  rw [ofText?, text_eq, read, Option.bind_some]
  exact ofToml?_sections default s (by omega)

end Settings

end Connectivity
