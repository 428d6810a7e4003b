import Connectivity.Proofs.WireForms
/-! Events and notifications in all their presentations. An event comes of a type and its data in
either order, with data that comes first kept until the type is known. -/
namespace Connectivity

open Json

namespace EventType

theorem decode_name (t : EventType) : decode (.string t.name) = .ok t := by cases t <;> rfl

theorem data_fits (t : EventType) : t.data.Fits t.decodeData := by
  cases t with
  | available => exact Form.fits_word32.map NetworkEvent.available
  | lost => exact Form.fits_word32.map NetworkEvent.lost
  | capabilitiesChanged => exact Capabilities.fits.map NetworkEvent.capabilitiesChanged
  | linkChanged => exact LinkInfo.fits.map NetworkEvent.linkChanged

theorem data_keeps (t : EventType) : t.data.Keeps 4 := by
  have word : Form.word32.Keeps 4 := Form.keeps_word32.mono (by decide)
  cases t with
  | available => exact word.map NetworkEvent.available
  | lost => exact word.map NetworkEvent.lost
  | capabilitiesChanged =>
    exact ((Form.keeps_word64.mono (by decide)).map Capabilities.mk).map _
  | linkChanged => exact LinkInfo.keeps.map NetworkEvent.linkChanged

theorem decodeBare_name (t : EventType) : decodeBare (.string t.name) = .ok t := by
  cases t <;> rfl

theorem decodeData_null (t : EventType) : ∃ fault, t.decodeData .null = .error fault := by
  cases t <;> exact ⟨_, rfl⟩

end EventType

namespace NetworkEvent
variable {depth : Nat} {p : Progress} {ms : List (Option String × Json)} {e : NetworkEvent}

/-- What the members with this key hold. -/
def held (key : String) (ms : List (Option String × Json)) : List Json :=
  ms.filterMap (fun m => if m.1 = some key then some m.2 else none)

theorem mem_held {key : String} {v : Json} : v ∈ held key ms ↔ (some key, v) ∈ ms := by
  simp only [held, List.mem_filterMap, Option.ite_none_right_eq_some, Option.some.injEq]
  constructor
  · rintro ⟨⟨_, _⟩, there, rfl, rfl⟩
    exact there
  · exact fun there => ⟨_, there, rfl, rfl⟩

theorem length_held (key : String) (ms : List (Option String × Json)) :
    (held key ms).length = (ms.map (·.1)).count (some key) := by
  induction ms with
  | nil => rfl
  | cons m ms ih =>
    rw [held, List.filterMap_cons, ← held, List.map_cons, List.count_cons, ← ih]
    by_cases same : m.1 = some key <;> simp [same]

/-- What is to come, for `e` to be what comes of it. -/
def Progress.Awaits (e : NetworkEvent) (types datas : List Json) : Progress → Prop
  | nothing => ∃ t type data, types = [type] ∧ datas = [data] ∧ EventType.decode type = .ok t ∧
      (t.decodeData data = .ok e ∨ t.decodeData data.kept = .ok e)
  | type t => ∃ data, types = [] ∧ datas = [data] ∧ t.decodeData data = .ok e
  | kept data => ∃ t type, types = [type] ∧ datas = [] ∧ EventType.decode type = .ok t ∧
      t.decodeData data = .ok e
  | whole w => types = [] ∧ datas = [] ∧ w = e

theorem held_type (v : Json) : held "type" ((some "type", v) :: ms) = v :: held "type" ms := by
  simp [held]

theorem held_data (v : Json) : held "data" ((some "data", v) :: ms) = v :: held "data" ms := by
  simp [held]

theorem held_other {key other : String} (apart : other ≠ key) (v : Json) :
    held key ((some other, v) :: ms) = held key ms := by
  simp [held, apart]

theorem decodeMembers_data (v : Json) :
    decodeMembers depth .nothing ((some "data", v) :: ms) =
      if v.canKeep depth then decodeMembers depth (.kept v.kept) ms else .error .malformed := rfl

theorem decodeMembers_other {key : String} (type : key ≠ "type") (data : key ≠ "data") (v : Json) :
    decodeMembers depth p ((some key, v) :: ms) =
      if v.isWhole then decodeMembers depth p ms else .error .malformed := by
  rw [decodeMembers.eq_def]
  simp only [if_neg type, if_neg data]

theorem awaits_of_decodeMembers (done : decodeMembers depth p ms = .ok e) :
    p.Awaits e (held "type" ms) (held "data" ms) := by
  -- For every progress at once, since each member that matters moves it on.
  induction ms generalizing p with
  | nil =>
    cases p with
    | whole w =>
      cases done
      exact ⟨rfl, rfl, rfl⟩
    | _ => cases done
  | cons m ms ih =>
    obtain ⟨_ | key, v⟩ := m
    · cases done
    · by_cases type : key = "type"
      · subst type
        rw [held_type, held_other (by decide)]
        cases p with
        | nothing =>
          obtain ⟨t, known, done⟩ := bind_eq_ok_iff.1 done
          obtain ⟨data, types, datas, decoded⟩ := ih done
          exact ⟨t, v, data, by rw [types], datas, known, .inl decoded⟩
        | kept data =>
          obtain ⟨t, known, done⟩ := bind_eq_ok_iff.1 done
          obtain ⟨w, decoded, done⟩ := bind_eq_ok_iff.1 done
          obtain ⟨types, datas, rfl⟩ := ih done
          exact ⟨t, v, by rw [types], datas, known, decoded⟩
        | _ => cases done
      · by_cases data : key = "data"
        · subst data
          rw [held_data, held_other (by decide)]
          cases p with
          | nothing =>
            rw [decodeMembers_data] at done
            split at done
            · obtain ⟨t, type, types, datas, known, decoded⟩ := ih done
              exact ⟨t, type, v, types, by rw [datas], known, .inr decoded⟩
            · cases done
          | type t =>
            obtain ⟨w, decoded, done⟩ := bind_eq_ok_iff.1 done
            obtain ⟨types, datas, rfl⟩ := ih done
            exact ⟨v, types, by rw [datas], decoded⟩
          | _ => cases done
        · rw [held_other type, held_other data]
          rw [decodeMembers_other type data] at done
          split at done
          · exact ih done
          · cases done

/-- What is awaited comes of a type that is next. -/
theorem Progress.Awaits.type {v : Json} {types datas : List Json}
    (awaits : p.Awaits e (v :: types) datas) (stays : ∀ data ∈ datas, data.kept = data) :
    ∃ q : Progress, q.Awaits e types datas ∧
      decodeMembers depth p ((some "type", v) :: ms) = decodeMembers depth q ms := by
  cases p with
  | nothing =>
    obtain ⟨t, _, data, same, rfl, known, decoded⟩ := awaits
    obtain ⟨rfl, rfl⟩ := List.cons.inj same
    rw [stays data List.mem_cons_self, or_self] at decoded
    refine ⟨.type t, ⟨data, rfl, rfl, decoded⟩, ?_⟩
    change (EventType.decode v >>= fun t => decodeMembers depth (.type t) ms) = _
    rw [known, ok_bind]
  | kept data =>
    obtain ⟨t, _, same, rfl, known, decoded⟩ := awaits
    obtain ⟨rfl, rfl⟩ := List.cons.inj same
    refine ⟨.whole e, ⟨rfl, rfl, rfl⟩, ?_⟩
    change (EventType.decode v >>= fun t => t.decodeData data >>= fun e =>
      decodeMembers depth (.whole e) ms) = _
    rw [known, ok_bind, decoded, ok_bind]
  | type t =>
    obtain ⟨_, none, -⟩ := awaits
    cases none
  | whole w =>
    obtain ⟨none, -⟩ := awaits
    cases none

/-- It comes of data that is next, too, if the data can be kept as it is. -/
theorem Progress.Awaits.data {v : Json} {types datas : List Json}
    (awaits : p.Awaits e types (v :: datas)) (same : v.kept = v) (room : v.canKeep depth = true) :
    ∃ q : Progress, q.Awaits e types datas ∧
      decodeMembers depth p ((some "data", v) :: ms) = decodeMembers depth q ms := by
  cases p with
  | nothing =>
    obtain ⟨t, type, _, rfl, shape, known, decoded⟩ := awaits
    obtain ⟨rfl, rfl⟩ := List.cons.inj shape
    rw [same, or_self] at decoded
    refine ⟨.kept v, ⟨t, type, rfl, rfl, known, decoded⟩, ?_⟩
    rw [decodeMembers_data, if_pos room, same]
  | type t =>
    obtain ⟨_, rfl, shape, decoded⟩ := awaits
    obtain ⟨rfl, rfl⟩ := List.cons.inj shape
    refine ⟨.whole e, ⟨rfl, rfl, rfl⟩, ?_⟩
    change (t.decodeData v >>= fun e => decodeMembers depth (.whole e) ms) = _
    rw [decoded, ok_bind]
  | kept data =>
    obtain ⟨_, _, -, none, -⟩ := awaits
    cases none
  | whole w =>
    obtain ⟨-, none, -⟩ := awaits
    cases none

theorem decodeMembers_of_awaits (keys : ∀ m ∈ ms, ∃ key, m.1 = some key)
    (whole : ∀ m ∈ ms, m.2.isWhole = true)
    (stays : ∀ v ∈ held "data" ms, v.kept = v ∧ v.canKeep depth = true)
    (awaits : p.Awaits e (held "type" ms) (held "data" ms)) : decodeMembers depth p ms = .ok e := by
  induction ms generalizing p with
  | nil =>
    cases p with
    | whole w =>
      obtain ⟨-, -, rfl⟩ := awaits
      rfl
    | _ => simp [Progress.Awaits, held] at awaits
  | cons m ms ih =>
    obtain ⟨key, v⟩ := m
    obtain ⟨⟨key, rfl⟩, named⟩ := List.forall_mem_cons.1 keys
    obtain ⟨sound, others⟩ := List.forall_mem_cons.1 whole
    by_cases type : key = "type"
    · subst type
      rw [held_other (by decide)] at stays
      rw [held_type, held_other (by decide)] at awaits
      obtain ⟨q, awaits, next⟩ := awaits.type (fun data there => (stays data there).1)
      exact next.trans (ih named others stays awaits)
    · by_cases data : key = "data"
      · subst data
        rw [held_data] at stays
        rw [held_data, held_other (by decide)] at awaits
        obtain ⟨⟨same, room⟩, stays⟩ := List.forall_mem_cons.1 stays
        obtain ⟨q, awaits, next⟩ := awaits.data same room
        exact next.trans (ih named others stays awaits)
      · rw [held_other data] at stays
        rw [held_other type, held_other data] at awaits
        rw [decodeMembers_other type data, if_pos sound]
        exact ih named others stays awaits

/-! An event as a whole. -/

theorem named_eq {extra : Bool} {named : List (String × Json)}
    (said : Slot.Named extra e slots named) : ∃ data, e.type.data.Shows false e data ∧
      named = [("type", .string e.type.name), ("data", data)] := by
  rw [slots] at said
  cases said with
  | left lack => cases lack
  | said type more =>
    cases more with
    | left lack => cases lack
    | said data more =>
      cases more
      exact ⟨_, data, by rw [type]; rfl⟩

theorem listed_eq {extra : Bool} {items : List Json} (said : Slot.Listed extra e slots items) :
    ∃ data, e.type.data.Shows false e data ∧ items = [.string e.type.name, data] := by
  rw [slots] at said
  cases said with
  | ended lack => cases lack _ List.mem_cons_self
  | said type more =>
    cases more with
    | ended lack => cases lack _ List.mem_cons_self
    | said data more =>
      cases more
      exact ⟨_, data, by rw [type]⟩

theorem held_of_order {named : List (String × Json)} {others : List (Option String × Json)}
    (strange : ∀ m ∈ others, ∃ key, m.1 = some key ∧ ∀ slot ∈ slots, slot.name ≠ key)
    (order : ms.Perm (named.map (fun m => (some m.1, m.2)) ++ others)) {slot : Slot NetworkEvent}
    (field : slot ∈ slots) :
    (held slot.name ms).Perm (held slot.name (named.map (fun m => (some m.1, m.2)))) := by
  have foreign : held slot.name others = [] := by
    refine List.filterMap_eq_nil_iff.2 (fun m there => ?_)
    obtain ⟨key, same, other⟩ := strange m there
    rw [same, if_neg (by simpa using (other slot field).symm)]
  have apart := order.filterMap (fun m => if m.1 = some slot.name then some m.2 else none)
  rw [List.filterMap_append, ← held, ← held, ← held, foreign, List.append_nil] at apart
  exact apart

theorem decodeWithin_of_presents (room : 5 ≤ depth) {extra : Bool} {v : Json}
    (presents : Slot.Presents slots extra e v) (whole : v.isWhole = true) :
    decodeWithin depth v = .ok e := by
  cases presents with
  | @object _ _ ms said strange permitted order =>
    obtain ⟨data, shows, rfl⟩ := named_eq said
    have whole := isWhole_object.1 whole
    have types : held "type" ms = [.string e.type.name] :=
      List.perm_singleton.1 (held_of_order strange order List.mem_cons_self)
    have datas : held "data" ms = [data] :=
      List.perm_singleton.1 (held_of_order strange order (List.mem_cons_of_mem _ List.mem_cons_self))
    have there : (some "data", data) ∈ ms := mem_held.1 (by rw [datas]; exact List.mem_cons_self)
    have stays := e.type.data_keeps.shown shows
    refine decodeMembers_of_awaits (Slot.keys_of_order strange order) whole (fun v held => ?_)
      ⟨e.type, _, data, types, datas, e.type.decode_name,
        .inl (e.type.data_fits.shown shows (whole _ there))⟩
    rw [datas, List.mem_singleton] at held
    subst held
    -- The object around the data takes one of the five levels.
    exact ⟨stays.1, stays.2 _ (by omega)⟩
  | array said =>
    obtain ⟨data, shows, rfl⟩ := listed_eq said
    have sound := isWhole_array.1 whole data (List.mem_cons_of_mem _ List.mem_cons_self)
    rw [decodeWithin, EventType.decodeBare_name, ok_bind, e.type.data_fits.shown shows sound, ok_bind]
    rfl

/-- An event is decoded from its type and its data, each of them once. -/
theorem held_of_decodeWithin (done : decodeWithin depth (.object ms) = .ok e) :
    ∃ t type data, held "type" ms = [type] ∧ held "data" ms = [data] ∧
      EventType.decode type = .ok t ∧ (t.decodeData data = .ok e ∨ t.decodeData data.kept = .ok e) :=
  awaits_of_decodeMembers (p := .nothing) done

theorem items_of_decodeWithin {items : List Json} (done : decodeWithin depth (.array items) = .ok e) :
    ∃ t type data, items = [type, data] ∧ EventType.decodeBare type = .ok t ∧
      t.decodeData data = .ok e := by
  match items with
  | [] => cases done
  | [type] =>
    obtain ⟨_, -, refused⟩ := bind_eq_ok_iff.1 done
    cases refused
  | type :: data :: rest =>
    obtain ⟨t, known, done⟩ := bind_eq_ok_iff.1 done
    obtain ⟨w, decoded, done⟩ := bind_eq_ok_iff.1 done
    cases rest with
    | nil =>
      cases done
      exact ⟨t, type, data, rfl, known, decoded⟩
    | cons => cases done

/-- Every field of an event is said once, and not with null. -/
theorem field_of_decodeWithin (done : decodeWithin depth (.object ms) = .ok e) {slot : Slot NetworkEvent}
    (field : slot ∈ slots) : ∃ v, held slot.name ms = [v] ∧ ¬ slot.Flawed v := by
  obtain ⟨t, type, data, types, datas, known, decoded⟩ := held_of_decodeWithin done
  simp only [slots, List.mem_cons, List.not_mem_nil, or_false] at field
  rcases field with rfl | rfl
  · refine ⟨type, types, ?_⟩
    rintro rfl
    cases known
  · refine ⟨data, datas, ?_⟩
    rintro rfl
    obtain ⟨_, refused⟩ := t.decodeData_null
    rcases decoded with decoded | decoded <;> cases refused.symm.trans decoded

theorem item_of_decodeWithin {items : List Json} (done : decodeWithin depth (.array items) = .ok e) :
    items.length = slots.length ∧
      ∀ (i : Nat) slot v, slots[i]? = some slot → items[i]? = some v → ¬ slot.Flawed v := by
  obtain ⟨t, type, data, rfl, known, decoded⟩ := items_of_decodeWithin done
  refine ⟨rfl, ?_⟩
  rintro (_ | _ | i) slot v field said flawed
  · cases field
    cases said
    cases flawed
    cases known
  · cases field
    cases said
    cases flawed
    obtain ⟨_, refused⟩ := t.decodeData_null
    cases refused.symm.trans decoded
  · cases said

theorem spoilt {v : Json} (spoils : Slot.Spoils slots v) : decodeWithin depth v ≠ .ok e := by
  intro done
  cases spoils with
  | null => cases done
  | @twice slot ms field again =>
    obtain ⟨v, once, -⟩ := field_of_decodeWithin done field
    rw [← length_held, once] at again
    exact Nat.lt_irrefl 1 again
  | @missing slot ms field needed absent =>
    obtain ⟨v, once, -⟩ := field_of_decodeWithin done field
    exact absent _ (mem_held.1 (by rw [once]; exact List.mem_cons_self)) rfl
  | @member slot ms v field said flawed =>
    obtain ⟨w, once, sound⟩ := field_of_decodeWithin done field
    have same := mem_held.2 said
    rw [once, List.mem_singleton] at same
    exact sound (same ▸ flawed)
  | long more => exact Nat.ne_of_gt more (item_of_decodeWithin done).1
  | @short slot items i field needed ended =>
    obtain ⟨inside, -⟩ := List.getElem?_eq_some_iff.1 field
    have length := (item_of_decodeWithin done).1
    omega
  | item field said flawed => exact (item_of_decodeWithin done).2 _ _ _ field said flawed

theorem bears_flawed {v data : Json} {t : EventType} (bears : Bears t data v)
    (flawed : t.data.Flawed data) : decodeWithin depth v ≠ .ok e := by
  intro done
  obtain ⟨_, refused⟩ := t.data_fits.flawed flawed
  cases bears with
  | @object ms type said =>
    obtain ⟨_, v, w, types, datas, known, decoded⟩ := held_of_decodeWithin done
    have type := mem_held.2 type
    rw [types, List.mem_singleton] at type
    have said := mem_held.2 said
    rw [datas, List.mem_singleton] at said
    subst type said
    cases t.decode_name.symm.trans known
    obtain ⟨_, refused_kept⟩ := t.data_fits.flawed (t.data_keeps.flawed flawed)
    rcases decoded with decoded | decoded
    · cases refused.symm.trans decoded
    · cases refused_kept.symm.trans decoded
  | array =>
    obtain ⟨_, _, _, same, known, decoded⟩ := items_of_decodeWithin done
    cases same
    cases t.decodeBare_name.symm.trans known
    cases refused.symm.trans decoded

theorem fits (room : 5 ≤ depth) : form.Fits (decodeWithin depth) where
  shown := decodeWithin_of_presents room
  flawed := by
    rintro v (spoils | ⟨t, data, bears, flawed⟩)
    · exact Form.exists_error (fun _ => spoilt spoils)
    · exact Form.exists_error (fun _ => bears_flawed bears flawed)

theorem shows_toJson (extra : Bool) (e : NetworkEvent) : form.Shows extra e e.toJson := by
  cases e with
  | available id => exact Slot.presents_record (.said rfl <| .said ⟨id, rfl, rfl⟩ .nil)
  | lost id => exact Slot.presents_record (.said rfl <| .said ⟨id, rfl, rfl⟩ .nil)
  | capabilitiesChanged c =>
    exact Slot.presents_record (.said rfl <| .said ⟨c, rfl, c.bits, rfl, rfl⟩ .nil)
  | linkChanged l =>
    exact Slot.presents_record (.said rfl <| .said ⟨l, rfl, l.shows_toJson false⟩ .nil)

end NetworkEvent

namespace Notification

theorem fits : form.Fits decode := by
  have event : NetworkEvent.form.Fits decodeEvent := NetworkEvent.fits (by decide)
  refine Form.fits_record
    (.cons (Form.fits_word32.required ..) <| .cons (event.required ..) .nil) (by decide)
    (.needed Form.fits_word32 fun _ => .needed event fun _ => .nil ?_)
  rintro n ⟨⟨-, rfl⟩, rfl⟩
  rfl

theorem shows_toJson (extra : Bool) (n : Notification) : form.Shows extra n n.toJson :=
  Slot.presents_record (.said rfl <| .said (n.event.shows_toJson _) .nil)

end Notification

end Connectivity
