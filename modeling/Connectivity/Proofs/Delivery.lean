import Connectivity.Proofs.Notification
/-! The way to a listener that reads all it is sent. While its sink does not fail, an outlet loses
nothing but what does not fit into its queue, so of what one step sends the first part comes
through, in order. -/
namespace Connectivity

namespace Sink
variable {s t : Sink} {n : Notification}

def Holds : Sink → Prop
  | channel depth _ _ => 0 < depth
  | recorder .. => True

theorem offer_taken (taken : s.offer n = .taken t) :
    t.buffer = s.buffer ++ [n] ∧ t.isConnected = s.isConnected ∧ (s.Holds → t.Holds) := by
  cases s with
  | channel depth buffer connected =>
    simp only [offer] at taken
    split at taken
    · cases taken
    · split at taken
      · cases taken
        exact ⟨rfl, rfl, id⟩
      · cases taken
  | recorder left buffer connected =>
    match left with
    | none =>
      cases taken
      exact ⟨rfl, rfl, id⟩
    | some 0 => cases taken
    | some (left + 1) =>
      cases taken
      exact ⟨rfl, rfl, id⟩

theorem offer_full (full : s.offer n = .full) (holds : s.Holds) : s.buffer ≠ [] := by
  cases s with
  | channel depth waiting connected =>
    intro empty
    change waiting = [] at empty
    subst empty
    simp only [offer, List.length_nil] at full
    split at full
    · cases full
    · rw [if_pos (show 0 < depth from holds)] at full
      cases full
  | recorder left buffer connected =>
    match left with
    | none => cases full
    | some 0 => cases full
    | some (left + 1) => cases full

theorem read?_eq_some (taken : s.read? = some (n, t)) :
    s.buffer = n :: t.buffer ∧ t.isConnected = s.isConnected ∧ (s.Holds → t.Holds) := by
  cases s with
  | channel depth buffer connected =>
    cases buffer with
    | nil => cases taken
    | cons m rest =>
      cases taken
      exact ⟨rfl, rfl, id⟩
  | recorder left buffer connected =>
    cases buffer with
    | nil => cases taken
    | cons m rest =>
      cases taken
      exact ⟨rfl, rfl, id⟩

theorem read?_eq_none (empty : s.read? = none) : s.buffer = [] := by
  cases s with
  | channel depth buffer connected =>
    cases buffer with
    | nil => rfl
    | cons m rest => cases empty
  | recorder left buffer connected =>
    cases buffer with
    | nil => rfl
    | cons m rest => cases empty

end Sink

namespace Outlet
variable {o p q : Outlet}

/-- What the remote end has still to read, now or when it was delivered. -/
def stream (o : Outlet) : List Notification :=
  o.sink.buffer ++ o.hand.toList ++ o.queue.filter (fun n => o.live.contains n.request)

/-- `o` has not failed, and has become `p` without losing anything. -/
structure Along (o p : Outlet) : Prop where
  running : o.phase = .running
  stream : p.stream = o.stream
  capacity : p.capacity = o.capacity
  live : p.live = o.live
  connected : p.sink.isConnected = o.sink.isConnected
  holds : o.sink.Holds → p.sink.Holds

theorem Along.refl (running : o.phase = .running) : o.Along o := ⟨running, rfl, rfl, rfl, rfl, id⟩

theorem Along.trans (first : o.Along p) (last : p.Along q) : o.Along q where
  running := first.running
  stream := last.stream.trans first.stream
  capacity := last.capacity.trans first.capacity
  live := last.live.trans first.live
  connected := last.connected.trans first.connected
  holds := last.holds ∘ first.holds

theorem turn?_cases (turned : o.turn? = some p) :
    (∃ n sink, o.hand = some n ∧ o.sink.offer n = .taken sink ∧
        p = { o with sink, hand := none }) ∨
      (∃ n, o.hand = some n ∧ o.sink.offer n = .refused ∧
        p = { o with queue := [], hand := none, phase := .ended }) ∨
      (∃ n queue, o.hand = none ∧ o.queue = n :: queue ∧
        p = { o with queue, hand := if o.live.contains n.request then some n else none }) ∨
      (o.phase = .draining ∧ p = { o with phase := .ended }) := by
  unfold turn? at turned
  split at turned
  · cases turned
  · split at turned
    · rename_i _ n hand
      split at turned
      · rename_i sink taken
        cases turned
        exact .inl ⟨n, sink, hand, taken, rfl⟩
      · cases turned
      · rename_i refused
        cases turned
        exact .inr (.inl ⟨n, hand, refused, rfl⟩)
    · rename_i n queue hand more
      cases turned
      exact .inr (.inr (.inl ⟨n, queue, hand, more, rfl⟩))
    · split at turned
      · rename_i draining
        cases turned
        exact .inr (.inr (.inr ⟨draining, rfl⟩))
      · cases turned

/-- A sink that fails ends its outlet for good, so one that is still running has lost nothing. -/
theorem along_turn (turned : o.turn? = some p) (running : p.phase = .running) : o.Along p := by
  rcases turn?_cases turned with ⟨n, sink, hand, taken, rfl⟩ | ⟨n, hand, refused, rfl⟩ |
    ⟨n, queue, hand, more, rfl⟩ | ⟨draining, rfl⟩
  · obtain ⟨buffer, connected, holds⟩ := Sink.offer_taken taken
    exact ⟨running, by simp [stream, hand, buffer], rfl, rfl, connected, holds⟩
  · cases running
  · refine ⟨running, ?_, rfl, rfl, rfl, id⟩
    simp only [stream, hand, more, List.filter_cons]
    split <;> simp
  · cases running

theorem along_run {moves : Nat} (running : (run moves o).phase = .running) :
    o.Along (run moves o) := by
  induction moves generalizing o with
  | zero => exact .refl running
  | succ moves ih =>
    unfold run at running ⊢
    split
    · rename_i p turned
      simp only [turned] at running
      have later := ih running
      exact (along_turn turned later.running).trans later
    · rename_i still
      simp only [still] at running
      exact .refl running

theorem along_settle (running : o.settle.phase = .running) : o.Along o.settle := along_run running

theorem settle_of_still (still : o.turn? = none) : o.settle = o := by
  unfold settle
  cases o.pending with
  | zero => rfl
  | succ moves => simp only [run, still]

/-- Where nothing can move and nothing is left to read, nothing is on its way. -/
theorem stream_eq_nil (still : o.turn? = none) (running : o.phase = .running) (holds : o.sink.Holds)
    (read : o.sink.read? = none) : o.queue = [] ∧ o.hand = none ∧ o.stream = [] := by
  have buffer := Sink.read?_eq_none read
  unfold turn? at still
  rw [if_neg (by simp [running])] at still
  split at still
  · rename_i n _ hand
    split at still
    · cases still
    · rename_i full
      exact absurd buffer (Sink.offer_full full holds)
    · cases still
  · cases still
  · rename_i hand empty
    exact ⟨empty, hand, by simp [stream, hand, empty, buffer]⟩

structure Emptied (o p : Outlet) : Prop where
  running : o.phase = .running
  queue : p.queue = []
  hand : p.hand = none
  buffer : p.sink.buffer = []
  capacity : p.capacity = o.capacity
  live : p.live = o.live
  connected : p.sink.isConnected = o.sink.isConnected
  holds : p.sink.Holds

theorem Along.emptied (along : o.Along p) (emptied : p.Emptied q) : o.Emptied q where
  running := along.running
  queue := emptied.queue
  hand := emptied.hand
  buffer := emptied.buffer
  capacity := emptied.capacity.trans along.capacity
  live := emptied.live.trans along.live
  connected := emptied.connected.trans along.connected
  holds := emptied.holds

theorem running_of_receive {limit : Nat} (running : (o.receive limit).2.phase = .running) :
    o.phase = .running := by
  induction limit generalizing o with
  | zero => exact running
  | succ limit ih =>
    unfold receive at running
    split at running
    · exact running
    · exact (along_settle (ih running)).running

/-- Reading on from where nothing can move gives all there is, unless the sink fails meanwhile. -/
theorem receive_running {limit : Nat} (still : o.turn? = none) (holds : o.sink.Holds)
    (enough : o.stream.length ≤ limit) (running : (o.receive limit).2.phase = .running) :
    (o.receive limit).1 = o.stream ∧ o.Emptied (o.receive limit).2 := by
  induction limit generalizing o with
  | zero =>
    have nothing : o.stream = [] := List.length_eq_zero_iff.1 (Nat.le_zero.1 enough)
    have read : o.sink.read? = none := by
      cases taken : o.sink.read? with
      | none => rfl
      | some x =>
        simp [stream, (Sink.read?_eq_some taken).1] at nothing
    obtain ⟨queue, hand, _⟩ := stream_eq_nil still running holds read
    exact ⟨nothing.symm, running, queue, hand, Sink.read?_eq_none read, rfl, rfl, rfl, holds⟩
  | succ limit ih =>
    unfold receive at running ⊢
    split
    · rename_i read
      simp only [read] at running
      obtain ⟨queue, hand, nothing⟩ := stream_eq_nil still running holds read
      exact ⟨nothing.symm, running, queue, hand, Sink.read?_eq_none read, rfl, rfl, rfl, holds⟩
    · rename_i n sink taken
      simp only [taken] at running
      obtain ⟨buffer, connected, kept⟩ := Sink.read?_eq_some taken
      -- What is read leaves the stream at its head, and settling moves the rest without loss.
      have along := along_settle (running_of_receive running)
      have shorter : o.stream = n :: { o with sink }.stream := by simp [stream, buffer]
      have few : { o with sink }.settle.stream.length ≤ limit := by
        rw [along.stream]
        rw [shorter, List.length_cons] at enough
        omega
      obtain ⟨found, emptied⟩ := ih (turn?_settle _) (along.holds (kept holds)) few running
      refine ⟨by rw [shorter, ← along.stream, ← found], ?_⟩
      have all := along.emptied emptied
      exact { all with connected := all.connected.trans connected }

theorem stream_length_le_backlog (o : Outlet) : o.stream.length ≤ o.backlog := by
  have taken := List.length_filter_le (fun n : Notification => o.live.contains n.request) o.queue
  simp only [stream, backlog, List.length_append]
  omega

/-- Nothing is on its way, and anything that is sent will be taken. -/
structure Rests (o : Outlet) : Prop where
  running : o.phase = .running
  queue : o.queue = []
  hand : o.hand = none
  buffer : o.sink.buffer = []
  connected : o.sink.isConnected = true
  holds : o.sink.Holds

theorem Rests.still (rests : o.Rests) : o.turn? = none := by
  simp [turn?, rests.running, rests.queue, rests.hand]

/-- A queue takes what comes until it is full. -/
theorem foldl_enqueue (running : o.phase = .running) (sent : List Notification) :
    sent.foldl enqueue o = { o with
      queue := o.queue ++ sent.take (o.capacity - o.queue.length) } := by
  induction sent generalizing o with
  | nil => simp
  | cons n rest ih =>
    rw [List.foldl_cons]
    by_cases room : o.queue.length < o.capacity
    · have put : o.enqueue n = { o with queue := o.queue ++ [n] } := by
        unfold enqueue
        rw [if_pos ⟨running, room⟩]
      rw [put]
      refine (ih (o := { o with queue := o.queue ++ [n] }) running).trans ?_
      have more : o.capacity - o.queue.length = o.capacity - (o.queue.length + 1) + 1 := by omega
      simp [more]
    · have full : o.enqueue n = o := by
        unfold enqueue
        rw [if_neg (fun both => room both.2)]
      have none : o.capacity - o.queue.length = 0 := by omega
      rw [full, ih running, none]
      simp

/-- Of what is sent in one go to an outlet at rest, as much is read as its queue holds. -/
theorem Rests.receiveAll (rests : o.Rests) {sent found : List Notification}
    (wanted : ∀ n ∈ sent, o.live.contains n.request = true)
    (read : (sent.foldl enqueue o).settle.receiveAll = (found, p)) (running : p.phase = .running) :
    found = sent.take o.capacity ∧ p.Rests ∧ p.capacity = o.capacity ∧ p.live = o.live := by
  have queued := foldl_enqueue rests.running sent
  rw [rests.queue, List.nil_append, List.length_nil, Nat.sub_zero] at queued
  generalize sent.foldl enqueue o = full at queued read
  unfold Outlet.receiveAll at read
  have still := turn?_settle full
  have runs : (full.settle.receive full.settle.backlog).2.phase = .running := by
    rw [read]
    exact running
  have along := along_settle (running_of_receive runs)
  have holds : full.sink.Holds := by rw [queued]; exact rests.holds
  have reading := receive_running still (along.holds holds) (stream_length_le_backlog _) runs
  rw [read] at reading
  have all := along.emptied reading.2
  have stream : full.stream = sent.take o.capacity := by
    rw [queued, Outlet.stream, rests.hand, rests.buffer]
    exact List.filter_eq_self.2 (fun n listed => wanted n (List.mem_of_mem_take listed))
  have connected : full.sink.isConnected = true := by rw [queued]; exact rests.connected
  refine ⟨reading.1.trans (along.stream.trans stream), ?_, ?_, ?_⟩
  · exact ⟨running, all.queue, all.hand, all.buffer, all.connected.trans connected, all.holds⟩
  · rw [all.capacity, queued]
  · rw [all.live, queued]

end Outlet

def Deeds.sentTo (d : Deeds) (l : ListenerId) : List Notification :=
  (d.sent.filter (·.1 == l)).map (·.2)

theorem Deeds.sentTo_eq_nil {d : Deeds} {l : ListenerId} (others : ∀ s ∈ d.sent, s.1 ≠ l) :
    d.sentTo l = [] :=
  List.map_eq_nil_iff.2 (List.filter_eq_nil_iff.2 (fun s listed here =>
    others s listed (eq_of_beq here)))

namespace Hub
variable {h : Hub} {l : ListenerId}

theorem sendAll_append (h : Hub) (first last : List (ListenerId × Notification)) :
    h.sendAll (first ++ last) = (h.sendAll first).sendAll last := List.foldl_append

@[simp] theorem send_queueDepth (h : Hub) (l : ListenerId) (n : Notification) :
    (h.send l n).queueDepth = h.queueDepth := by
  unfold send
  split <;> rfl

@[simp] theorem sendAll_queueDepth (h : Hub) (sent : List (ListenerId × Notification)) :
    (h.sendAll sent).queueDepth = h.queueDepth := by
  unfold sendAll
  induction sent generalizing h with
  | nil => rfl
  | cons s rest ih => rw [List.foldl_cons, ih, send_queueDepth]

theorem send_outlet (h : Hub) (k : ListenerId) (n : Notification) (there : h.contains l = true) :
    (h.send k n).outlets.find? l =
      (h.outlets.find? l).map (fun o => if k = l then o.enqueue n else o) := by
  unfold send
  by_cases same : k = l
  · subst same
    rw [if_pos there, Table.find?_modify, if_pos rfl]
    simp
  · split
    · rw [Table.find?_modify, if_neg (Ne.symm same)]
      simp
    · simp

theorem sendAll_outlet (there : h.contains l = true) (d : Deeds) :
    (h.sendAll d.sent).outlets.find? l =
      (h.outlets.find? l).map ((d.sentTo l).foldl Outlet.enqueue) := by
  unfold sendAll Deeds.sentTo
  generalize d.sent = sent
  induction sent generalizing h with
  | nil => simp
  | cons s rest ih =>
    have kept : (h.send s.1 s.2).contains l = true := by
      unfold contains
      rw [send_listeners]
      exact there
    rw [List.foldl_cons, ih kept, send_outlet h s.1 s.2 there, Option.map_map, List.filter_cons]
    by_cases same : s.1 = l
    · rw [if_pos (beq_iff_eq.2 same)]
      simp only [if_pos same]
      rfl
    · rw [if_neg (fun equal => same (beq_iff_eq.1 equal))]
      simp only [if_neg same]
      rfl

end Hub

end Connectivity
