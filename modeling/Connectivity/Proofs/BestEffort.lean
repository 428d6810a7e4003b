import Connectivity.Broker.Device
import Connectivity.Proofs.Atomicity
/-! A device that fails is of no matter to anyone. Whatever it answers, a run comes to what it would
come to without one, and only the log tells the difference. -/
namespace Connectivity

namespace Turn
variable (t : Turn)

theorem publish_calls (change : Option DefaultChange) :
    (t.publish change).deeds.calls = t.deeds.calls := by
  cases change <;> rfl

@[simp] theorem reelect_calls : t.reelect.deeds.calls = t.deeds.calls := publish_calls ..

@[simp] theorem reevaluate_calls (scope : Scope) :
    (t.reevaluate scope).deeds.calls = t.deeds.calls := publish_calls ..

@[simp] theorem announce_calls (who : ActiveRequest → Bool) :
    (t.announce who).deeds.calls = t.deeds.calls := rfl

@[simp] theorem tell_calls (s : SupplierId) (e : NetworkEvent) (who : ActiveRequest → Bool) :
    (t.tell s e who).deeds.calls = t.deeds.calls := rfl

@[simp] theorem equip_calls (s : SupplierId) (previous capabilities : Capabilities)
    (watching : List RequestId) :
    (t.equip s previous capabilities watching).deeds.calls = t.deeds.calls := by
  unfold equip
  dsimp only
  split <;> split <;> rfl

end Turn

namespace Registry

def link? (r : Registry) (id : SupplierId) : Option LinkInfo := (r.find? id).bind (·.link)

theorem link?_of_find? {r : Registry} {id : SupplierId} {e : SupplierEntry}
    (found : r.find? id = some e) : r.link? id = e.link := by
  rw [link?, found, Option.bind_some]

end Registry

namespace Broker
variable {b : Broker} {c : Command} {a : Answer} {t : Turn}

/-- What the device is called for by a command that is carried out. -/
def deviceCalls (b : Broker) : Command → List DeviceCall
  | .updateLink _ id link => [.apply id link]
  | .unregisterSupplier _ id => if (b.registry.link? id).isSome then [.clear id] else []
  | _ => []

theorem repoliced_calls (changed : b.Repoliced t) : t.deeds.calls = [] := by
  cases changed with
  | idle => rfl
  | told => simp [begin]

theorem Carried.deviceCalls (carried : b.Carried c a t) : t.deeds.calls = b.deviceCalls c := by
  cases carried with
  | @unregistered _ id e registry t system found done gone cleared =>
    rw [Turn.reevaluate_calls, cleared, Broker.deviceCalls, Registry.link?_of_find? found]
    split <;> rfl
  | linked => simp [Broker.deviceCalls, Turn.callDevice, begin]
  | registered | informed | equipped | activated => simp [Broker.deviceCalls, begin]
  | policed _ _ changed | restricted _ _ changed | grounded _ _ changed =>
    exact repoliced_calls changed
  | known | joined | left | deactivated | looked | counted => rfl

end Broker

namespace Turn

/-- The call does none of what a deed is. -/
def Deedless {α : Type} (x : Attempt Turn α) : Prop :=
  ∀ t, match x t with
    | .ok _ u | .error _ u => u.deeds = t.deeds

theorem onRegistry_deedless {α : Type} (x : Attempt Registry α) : Deedless (onRegistry x) := by
  intro t
  cases done : x t.broker.registry <;> simp [onRegistry, Attempt.on, done]

theorem authorize_deedless (caller : Uid) : Deedless (authorize caller) := by
  intro t
  cases system : t.broker.firewall.isSystem caller <;> simp [authorize, system]

theorem netTypeOf_deedless (id : SupplierId) : Deedless (netTypeOf id) := by
  intro t
  cases known : t.broker.registry.netType? id <;> simp [netTypeOf, known]

end Turn

namespace Device
variable (device : Device)

def complaint (asked : List DeviceCall) (c : DeviceCall) : List Warning :=
  match device asked c with
  | .ok () => []
  | .error error => [⟨c.failure, c.supplier, error⟩]

/-- What the log says of further calls, each of which the device answers by those before it. -/
def complaints (asked : List DeviceCall) : List DeviceCall → List Warning
  | [] => []
  | c :: rest => complaint device asked c ++ complaints (asked ++ [c]) rest

theorem complaints_append (asked first last : List DeviceCall) :
    device.complaints asked (first ++ last) =
      device.complaints asked first ++ device.complaints (asked ++ first) last := by
  induction first generalizing asked with
  | nil => simp [complaints]
  | cons c rest ih => simp [complaints, ih]

end Device

namespace Session
variable {device : Device} {s : Session} {b : Broker}

/-- `s` once its turn, in which there were no calls so far, has come to `t`. -/
def reach (device : Device) (s : Session) (t : Turn) : Session :=
  { turn := t
    asked := s.asked ++ t.deeds.calls
    warnings := s.warnings ++ device.complaints s.asked t.deeds.calls }

/-- A turn by itself, as it is seen with a device. -/
def beside (device : Device) (s : Session) :
    EStateM.Result Refusal Turn Answer → EStateM.Result Refusal Session Answer
  | .ok a t => .ok a (s.reach device t)
  | .error e t => .error e (s.reach device t)

theorem callDevice_apply (c : DeviceCall) (s : Session) : callDevice device c s = .ok ()
    { turn := s.turn.callDevice c
      asked := s.asked ++ [c]
      warnings := s.warnings ++ device.complaint s.asked c } := by
  cases answered : device s.asked c <;> simp [callDevice, ask, Device.complaint, answered]

theorem reach_of_silent {t : Turn} (silent : t.deeds.calls = []) :
    s.reach device t = { s with turn := t } := by
  simp [reach, silent, Device.complaints]

theorem onTurn_bind (silent : s.turn.deeds.calls = []) {α : Type} {x : Attempt Turn α}
    (deedless : Turn.Deedless x) {rest : α → Attempt Session Answer} {alone : α → Attempt Turn Answer}
    (goesOn : ∀ a t, t.deeds.calls = [] → rest a { s with turn := t } = s.beside device (alone a t)) :
    (onTurn x >>= rest) s = s.beside device ((x >>= alone) s.turn) := by
  have same := deedless s.turn
  simp only [Attempt.bind_apply, onTurn, Attempt.on]
  cases done : x s.turn with
  | ok a t =>
    rw [done] at same
    exact goesOn a t (same ▸ silent)
  | error e t =>
    rw [done] at same
    dsimp only [beside]
    rw [reach_of_silent (same ▸ silent)]

theorem unregisterSupplier_eq (silent : s.turn.deeds.calls = []) (caller : Uid) (id : SupplierId) :
    unregisterSupplier device caller id s =
      s.beside device (Turn.unregisterSupplier caller id s.turn) := by
  refine onTurn_bind silent (Turn.authorize_deedless caller) (fun _ t silent => ?_)
  refine onTurn_bind silent (Turn.onRegistry_deedless _) (fun e t silent => ?_)
  cases linked : e.link.isSome <;>
    simp [callDevice_apply, onTurn, beside, reach, Device.complaints, Turn.callDevice, silent]

theorem updateLink_eq (silent : s.turn.deeds.calls = []) (caller : Uid) (id : SupplierId)
    (link : LinkInfo) :
    updateLink device caller id link s =
      s.beside device (Turn.updateLink caller id link s.turn) := by
  refine onTurn_bind silent (Turn.authorize_deedless caller) (fun _ t silent => ?_)
  refine onTurn_bind silent (Turn.netTypeOf_deedless id) (fun netType t silent => ?_)
  refine onTurn_bind silent (Turn.onRegistry_deedless _) (fun _ t silent => ?_)
  simp [callDevice_apply, onTurn, beside, reach, Device.complaints, Turn.callDevice, silent]

theorem handle_begin (start : s.turn = b.begin) (c : Command) :
    handle device c s = s.beside device (Turn.handle c b.begin) := by
  have silent : s.turn.deeds.calls = [] := by
    rw [start]
    rfl
  have alone (none : b.deviceCalls c = []) : onTurn (Turn.handle c) s =
      s.beside device (Turn.handle c b.begin) := by
    simp only [onTurn, Attempt.on, start, Turn.handle_begin]
    cases performed : b.perform c with
    | ok result =>
      have calls := (Broker.carried_of_perform performed).deviceCalls
      exact congrArg (EStateM.Result.ok result.1) (reach_of_silent (calls.trans none)).symm
    | error e => exact congrArg (EStateM.Result.error e) (reach_of_silent rfl).symm
  cases c with
  | unregisterSupplier caller id => exact start ▸ unregisterSupplier_eq silent caller id
  | updateLink caller id link => exact start ▸ updateLink_eq silent caller id link
  | _ => exact alone rfl

end Session

namespace Desk

def happenings (d : Desk) : List DeskStep → List Happening
  | [] => []
  | s :: rest => (d.act s).1 :: (d.act s).2.happenings rest

end Desk

namespace Host
variable {device : Device} {h : Host}

/-- `h` once its desk has come to `d`, with further calls. -/
def reach (device : Device) (h : Host) (d : Desk) (calls : List DeviceCall) : Host :=
  { desk := d
    asked := h.asked ++ calls
    warnings := h.warnings ++ device.complaints h.asked calls }

theorem reach_nil (h : Host) (d : Desk) : h.reach device d [] = { h with desk := d } := by
  simp [reach, Device.complaints]

theorem reach_reach (h : Host) (d e : Desk) (first last : List DeviceCall) :
    (h.reach device d first).reach device e last = h.reach device e (first ++ last) := by
  simp [reach, Device.complaints_append]

theorem act_eq (device : Device) (h : Host) (s : DeskStep) : h.act device s =
    ((h.desk.act s).1, h.reach device (h.desk.act s).2 (h.desk.act s).1.deeds.calls) := by
  cases s with
  | command c =>
    have alone := Broker.execute_eq_step h.desk.broker c
    have handled : Session.handle device c h.begin =
        h.begin.beside device (Turn.handle c h.desk.broker.begin) := Session.handle_begin rfl c
    simp only [act, Desk.act, handled, ← alone, Broker.execute]
    cases Turn.handle c h.desk.broker.begin <;> rfl
  | death =>
    obtain ⟨⟨b, deaths⟩, asked, warnings⟩ := h
    cases deaths <;> exact congrArg (Prod.mk _) (reach_nil _ _).symm
  | turn | read | disconnect | report => exact congrArg (Prod.mk _) (reach_nil _ _).symm

/-- A run with a device is the run of the desk by itself. The device is called as the desk has it, and
what it answers is in the log and nowhere else. -/
theorem run_eq (device : Device) (h : Host) (steps : List DeskStep) : h.run device steps =
    (h.desk.happenings steps, h.reach device (h.desk.run steps)
      ((h.desk.happenings steps).flatMap (·.deeds.calls))) := by
  induction steps generalizing h with
  | nil => exact congrArg (Prod.mk _) (reach_nil h h.desk).symm
  | cons s rest ih =>
    simp only [run, act_eq device h s, ih, reach_reach]
    rfl

end Host

end Connectivity
