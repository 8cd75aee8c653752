import Nhh3.Frames
import Nhh3.Lib.Ledger
/-!
# Every request is somewhere

The three containers of a connection, the success callbacks and the aborted
requests form a ledger: `PublishRequest` issues a ticket, a success callback
delivers one, `Abort` discards all that are pending, and every other action
only moves streams about.
-/

namespace Nhh3

open Lib Lib.Prog Connection

/-- The actions that change which requests are in the containers. -/
def Act.books : Act → Bool
  | .publishRequest _ | .abort | .success _ => true
  | _ => false

/-- The actions that change which requests are active or waiting, or in which order. -/
def Act.arranges : Act → Bool
  | .publishRequest _ | .abort | .requeueStreams | .startStream _ _ | .finishShutdown | .success _ => true
  | _ => false

namespace Connection
variable {c : Connection} {a : Act}

/-! ## Tickets -/

/-- The tickets in the containers. -/
def tickets (c : Connection) : Multiset Stream.Ticket := ↑(c.streams.map Stream.ticket)

/-- Writing a stream back with its ticket changes no ticket. -/
theorem put_ticket {st st' : Stream} (h : st'.ticket = st.ticket) (l : List Stream)
    (hu : ∀ x ∈ l, x.self = st.self → x = st) :
    (put st' l).map Stream.ticket = l.map Stream.ticket := by
  rw [put, List.map_map]
  refine List.map_congr_left fun x hx => ?_
  simp only [Function.comp_apply]
  split
  · rename_i hs
    rw [hu x hx (hs.trans (Stream.self_of_ticket h)), h]
  · rfl

theorem tickets_handled {st st' : Stream} (hA : Addressed c) (h : Handled c a st st') :
    (apply a c).h3Streams.map Stream.ticket = c.h3Streams.map Stream.ticket ∧
      (apply a c).waiting.map Stream.ticket = c.waiting.map Stream.ticket := by
  obtain ⟨id, hd⟩ := h.dispatched
  rw [h.apply.1, h.apply.2.1]
  constructor
  · exact put_ticket h.ticket _ fun x hx hs => dispatched_eq hA hd hx hs
  · exact put_ticket h.ticket _ fun x hx hs => unique hA (waiting_subset hx) (streamAt_mem hd.found) hs

/-- The actions that do not arrange the requests leave them where they are, and make none. -/
theorem arranged_keep (hA : Addressed c) (hE : Enabled c a) (h : a.arranges = false) :
    (apply a c).h3Streams.map Stream.ticket = c.h3Streams.map Stream.ticket ∧
      (apply a c).waiting.map Stream.ticket = c.waiting.map Stream.ticket ∧
        (apply a c).nextStream = c.nextStream := by
  cases hm : a.moves with
  | false =>
    have hs := sameStreams (c := c) hm
    rw [waiting, hs.active, hs.stock, hs.error]
    exact ⟨rfl, rfl, hs.next⟩
  | true =>
    cases a with
    | takeProgress =>
      refine ⟨?_, rfl, rfl⟩
      show (c.h3Streams.map Stream.addProgress).map Stream.ticket = _
      simp [List.map_map, Function.comp_def]
    | retryStream =>
      refine ⟨rfl, ?_, rfl⟩
      show ((c.h3StreamsStock ++ c.h3StreamsErrorStock) ++ []).map Stream.ticket = _
      rw [List.append_nil]
      rfl
    | placeholder id => exact ⟨rfl, rfl, rfl⟩
    | eventHeaders id list st' =>
      obtain ⟨st, hd, hst⟩ := hE
      obtain ⟨hactive, hwaiting⟩ := tickets_handled hA (.headers hd hst)
      exact ⟨hactive, hwaiting, rfl⟩
    | eventData id body st' =>
      obtain ⟨st, hd, hst⟩ := hE
      obtain ⟨hactive, hwaiting⟩ := tickets_handled hA (.data hd hst)
      exact ⟨hactive, hwaiting, rfl⟩
    | eventFinished id st' =>
      obtain ⟨st, hd, rfl⟩ := hE
      obtain ⟨hactive, hwaiting⟩ := tickets_handled hA (.finished hd)
      exact ⟨hactive, hwaiting, rfl⟩
    | startFailed st' =>
      obtain ⟨st, id, ⟨-, -, -, ⟨rest, hfirst⟩, io, hstart⟩, -⟩ := hE
      refine ⟨rfl, ?_, rfl⟩
      show ((st' :: c.h3StreamsStock.tail) ++ c.h3StreamsErrorStock).map Stream.ticket = _
      simp [waiting, hfirst, Stream.start_ticket hstart]
    | startShutdown =>
      refine ⟨?_, rfl, rfl⟩
      show (c.h3Streams.map fun st => st.shutdown c.status c.errorDetail).map Stream.ticket = _
      simp only [List.map_map]
      exact List.map_congr_left fun x _ => Stream.ticket_shutdown ..
    | streamRetry st => exact hE.elim
    | _ => first | exact Bool.noConfusion h | exact Bool.noConfusion hm

theorem tickets_requeueStreams : c.requeueStreams.tickets = c.tickets := by
  refine Multiset.coe_eq_coe.2 (List.Perm.map _ ?_)
  simp only [streams, requeueStreams, List.nil_append]
  exact List.Perm.append_right _ List.perm_append_comm

theorem tickets_stockForRetry : c.stockForRetry.tickets = c.tickets := by
  refine Multiset.coe_eq_coe.2 (List.Perm.map _ ?_)
  simp only [streams, stockForRetry, List.nil_append]
  refine List.perm_append_comm.trans (List.Perm.append_right _ ?_)
  exact List.Perm.append_right _ (List.reverse_perm _)

theorem tickets_activate {st st' : Stream} {rest : List Stream} {id : Int}
    (hfirst : c.h3StreamsStock = st :: rest) (h : st'.ticket = st.ticket) :
    (c.activate st' id).tickets = c.tickets := by
  simp [tickets, streams, activate, hfirst, h]

/-- A delivered stream leaves the rest of the list as it was. -/
theorem perm_dropDelivered (hA : Addressed c) {st : Stream} (hst : st ∈ c.h3Streams) :
    c.h3Streams.Perm (st :: (c.dropDelivered st).h3Streams) := by
  obtain ⟨y, l₁, l₂, -, hy, hl, he⟩ := List.exists_of_eraseP (p := fun x => x.self = st.self)
    hst (by simp)
  show c.h3Streams.Perm (st :: c.h3Streams.eraseP fun x => x.self = st.self)
  rw [he, hl]
  have hmem : y ∈ c.h3Streams := by rw [hl]; simp
  rw [unique_active hA hmem hst (by simpa using hy)]
  exact List.perm_middle

theorem tickets_dropDelivered (hA : Addressed c) {st : Stream} (hst : st ∈ c.h3Streams) :
    c.tickets = st.ticket ::ₘ (c.dropDelivered st).tickets := by
  have h := ((perm_dropDelivered hA hst).append_right (c.h3StreamsStock ++ c.h3StreamsErrorStock)).map
    Stream.ticket
  simpa [tickets, streams, dropDelivered] using Multiset.coe_eq_coe.2 h

theorem tickets_eq (c : Connection) :
    c.tickets = ↑(c.h3Streams.map Stream.ticket ++ c.waiting.map Stream.ticket) := by
  rw [tickets, streams, waiting, List.append_assoc, List.map_append]

theorem tickets_keep (hA : Addressed c) (hE : Enabled c a) (h : a.books = false) :
    (apply a c).tickets = c.tickets ∧ (apply a c).nextStream = c.nextStream := by
  cases ha : a.arranges with
  | false =>
    obtain ⟨hactive, hwaiting, hnext⟩ := arranged_keep hA hE ha
    rw [tickets_eq, tickets_eq, hactive, hwaiting]
    exact ⟨rfl, hnext⟩
  | true =>
    cases a with
    | requeueStreams => exact ⟨tickets_requeueStreams (c := c.closeUdpSocket), rfl⟩
    | startStream st' id =>
      obtain ⟨st, ⟨-, -, -, ⟨rest, hfirst⟩, io, hstart⟩, -⟩ := hE
      exact ⟨tickets_activate hfirst (Stream.start_ticket hstart), rfl⟩
    | finishShutdown => exact ⟨tickets_stockForRetry, rfl⟩
    | _ => first | exact Bool.noConfusion h | exact Bool.noConfusion ha

theorem tickets_publishRequest (req : Request) :
    (c.publishRequest req).tickets =
      (Stream.new c.nextStream c.hostName req).ticket ::ₘ c.tickets := by
  refine Multiset.coe_eq_coe.2 (List.Perm.trans ?_ (List.Perm.of_eq (List.map_cons ..)))
  refine List.Perm.map _ ?_
  have hs : (c.publishRequest req).streams = c.h3Streams ++ (c.h3StreamsStock ++
      [Stream.new c.nextStream c.hostName req]) ++ c.h3StreamsErrorStock := by
    rw [publishRequest_eq]
    rfl
  rw [hs, streams, List.append_assoc, List.append_assoc, List.append_assoc]
  refine (List.Perm.append_left _ List.perm_middle).trans ?_
  simp

theorem nextStream_publishRequest (req : Request) :
    (c.publishRequest req).nextStream = c.nextStream + 1 := by
  rw [publishRequest_eq]

/-! ## Addresses stay unique -/

theorem addressed_iff : Addressed c ↔
    (c.tickets.map Stream.Ticket.self).Nodup ∧ ∀ t ∈ c.tickets, t.self < c.nextStream := by
  have h : c.tickets.map Stream.Ticket.self = ↑(c.streams.map Stream.self) := by
    simp [tickets, List.map_map, Function.comp_def, Stream.ticket]
  rw [h, Multiset.coe_nodup]
  constructor
  · rintro ⟨h1, h2⟩
    refine ⟨h1, fun t ht => ?_⟩
    obtain ⟨st, hst, rfl⟩ := List.mem_map.1 (Multiset.mem_coe.1 ht)
    exact h2 st hst
  · rintro ⟨h1, h2⟩
    exact ⟨h1, fun st hst => h2 st.ticket (Multiset.mem_coe.2 (List.mem_map_of_mem hst))⟩

theorem addressed_apply (hA : Addressed c) (hE : Enabled c a) : Addressed (apply a c) := by
  have hA' := addressed_iff.1 hA
  rw [addressed_iff]
  cases hb : a.books with
  | false =>
    obtain ⟨ht, hn⟩ := tickets_keep hA hE hb
    rw [ht, hn]
    exact hA'
  | true =>
    cases a with
    | publishRequest req =>
      simp only [apply, tickets_publishRequest, nextStream_publishRequest, Multiset.map_cons,
        Multiset.nodup_cons, Multiset.mem_cons, forall_eq_or_imp, Multiset.mem_map, not_exists, not_and]
      refine ⟨⟨fun t ht => ?_, hA'.1⟩, ?_, fun t ht => (hA'.2 t ht).trans (Nat.lt_succ_self _)⟩
      · exact (hA'.2 t ht).ne
      · exact Nat.lt_succ_self _
    | success st =>
      rw [tickets_dropDelivered hA hE.1] at hA'
      simp only [Multiset.map_cons, Multiset.nodup_cons, Multiset.mem_cons, forall_eq_or_imp] at hA'
      exact ⟨hA'.1.2, hA'.2.2⟩
    | abort => exact ⟨Multiset.nodup_zero, fun t ht => absurd ht (Multiset.notMem_zero t)⟩
    | _ => exact Bool.noConfusion hb

theorem addressed_new (hostName port : String) : Addressed (new hostName port) :=
  ⟨List.nodup_nil, fun _ h => by cases h⟩

end Connection

/-- Every action of a run is `Enabled`, in a state with unique addresses. -/
theorem exec_enabled {hostName port : String} {ops : List Op} {hist : List (Connection × Act)}
    {c : Connection} {a : Act} (h : (exec ops).Performs (new hostName port) hist c a) :
    Addressed c ∧ Enabled c a :=
  ((guarded_exec ops _).sound (fun _ _ hA _ hE => addressed_apply hA hE) (addressed_new ..)
    (fun _ _ => trivial)).1 _ h.mem

theorem exec_addressed {hostName port : String} {ops : List Op} {hist : List (Connection × Act)}
    {c : Connection} (hv : (exec ops).Visits (new hostName port) hist c) : Addressed c :=
  visits_inv (J := fun _ => Addressed) (addressed_new ..)
    (fun _ _ _ hp _ => addressed_apply (exec_enabled hp).1 (exec_enabled hp).2) hv

/-- A run that faults does so in a call that is `Failing`, in a state it has come to. -/
theorem exec_fails {hostName port : String} {ops : List Op} {e : Fault}
    (h : (exec ops).run (new hostName port) = .error e) : ∃ hist hist' op c₀ c,
      (exec ops).Performs (new hostName port) hist c₀ (.call op) ∧
      (exec ops).Visits (new hostName port) hist' c ∧ Failing op (apply (Act.call op) c₀) c e := by
  obtain ⟨ops₁, op, ops₂, c₀, -, hrun, herr, htrace⟩ := session_error Op.run h
  have hcons : op.run.trace c₀ = (c₀, .call op) :: op.body.trace (apply (Act.call op) c₀) := rfl
  have hbody : op.body.run (apply (Act.call op) c₀) = .error e := herr
  rw [hcons] at htrace
  have hp : (exec ops).Performs (new hostName port) ((exec ops₁).trace (new hostName port)) c₀ (.call op) := by
    rw [Performs, htrace]
    exact ⟨op.body.trace (apply (Act.call op) c₀), by simp⟩
  have hA : Addressed (apply (Act.call op) c₀) := addressed_apply (exec_enabled hp).1 (exec_enabled hp).2
  have hends := ((guarded_body op _).sound (fun _ _ hA _ hE => addressed_apply hA hE) hA
    (fun _ _ => trivial)).2
  rw [hbody] at hends
  refine ⟨_, _, op, c₀, _, hp, ⟨List.prefix_rfl, rfl⟩, ?_⟩
  rw [htrace, after_append, ← performs_state hp]
  exact hends

/-- A relation between history and state holds wherever a run comes, if every
enabled action that the run performs keeps it. -/
theorem exec_inv {hostName port : String} {ops : List Op} {J : List (Connection × Act) → Connection → Prop}
    {K : Connection → Act → Prop} (h0 : J [] (new hostName port))
    (hstep : ∀ hist c a, Addressed c → Enabled c a → K c a → J hist c → J (hist ++ [(c, a)]) (apply a c))
    (hK : ∀ e ∈ (exec ops).trace (new hostName port), K e.1 e.2)
    {hist : List (Connection × Act)} {c : Connection}
    (hv : (exec ops).Visits (new hostName port) hist c) : J hist c := by
  refine visits_inv h0 (fun hist c a hp hJ => ?_) hv
  obtain ⟨hA, hE⟩ := exec_enabled hp
  exact hstep hist c a hA hE (hK _ hp.mem) hJ

/-! ## The ledger -/

/-- The ticket that `PublishRequest` gives out. -/
def issuedBy : Connection × Act → Option Stream.Ticket
  | (c, .publishRequest req) => some (Stream.new c.nextStream c.hostName req).ticket
  | _ => none

/-- The ticket a success callback is called for. -/
def deliveredBy : Connection × Act → Option Stream.Ticket
  | (_, .success st) => some st.ticket
  | _ => none

/-- The tickets an `Abort` discards. -/
def discardedBy : Connection × Act → List Stream.Ticket
  | (c, .abort) => c.streams.map Stream.ticket
  | _ => []

def issued (hist : List (Connection × Act)) : List Stream.Ticket := hist.filterMap issuedBy
def delivered (hist : List (Connection × Act)) : List Stream.Ticket := hist.filterMap deliveredBy
def discarded (hist : List (Connection × Act)) : List Stream.Ticket := hist.flatMap discardedBy

theorem issued_concat (hist : List (Connection × Act)) (e : Connection × Act) :
    issued (hist ++ [e]) = issued hist ++ (issuedBy e).toList := filterMap_concat ..

theorem no_books {c : Connection} {a : Act} (h : a.books = false) :
    issuedBy (c, a) = none ∧ deliveredBy (c, a) = none ∧ discardedBy (c, a) = [] := by
  cases a <;> first | exact ⟨rfl, rfl, rfl⟩ | exact Bool.noConfusion h

def ledger (hist : List (Connection × Act)) (c : Connection) : Ledger Stream.Ticket where
  issued := ↑(issued hist)
  pending := c.tickets
  delivered := ↑(delivered hist)
  discarded := ↑(discarded hist)

theorem coe_concat {τ : Type} (l : List τ) (t : τ) : (↑(l ++ [t]) : Multiset τ) = t ::ₘ ↑l :=
  Multiset.coe_eq_coe.2 (List.perm_append_singleton t l)

/-- Every action is an entry in the ledger. -/
theorem ledger_step {hist : List (Connection × Act)} {c : Connection} {a : Act} (hA : Addressed c)
    (hE : Enabled c a) (hnew : ∀ t ∈ issued hist, t.self < c.nextStream) :
    Ledger.Step (ledger hist c) (ledger (hist ++ [(c, a)]) (apply a c)) := by
  simp only [ledger, issued, delivered, discarded, List.filterMap_append, List.filterMap_cons,
    List.filterMap_nil, List.flatMap_append, List.flatMap_cons, List.flatMap_nil]
  cases hb : a.books with
  | false =>
    obtain ⟨h1, h2, h3⟩ := no_books (c := c) hb
    simp only [h1, h2, h3, (tickets_keep hA hE hb).1, List.append_nil]
    exact .keep _
  | true =>
    cases a with
    | publishRequest req =>
      simp only [issuedBy, deliveredBy, discardedBy, apply, tickets_publishRequest, coe_concat,
        List.append_nil]
      exact .issue (ledger hist c) _ fun hmem => (hnew _ hmem).ne rfl
    | success st =>
      simp only [issuedBy, deliveredBy, discardedBy, apply, coe_concat, List.append_nil]
      exact .deliver (ledger hist c) _ _ (tickets_dropDelivered hA hE.1)
    | abort =>
      have h0 : c.abort.tickets = 0 := rfl
      simp only [issuedBy, deliveredBy, discardedBy, apply, h0, List.append_nil, ← Multiset.coe_add]
      rw [add_comm]
      exact .discard (ledger hist c)
    | _ => exact Bool.noConfusion hb

/-- Tickets carry addresses below the next one, and the ledger balances. -/
structure Booked (hist : List (Connection × Act)) (c : Connection) : Prop where
  below : ∀ t ∈ issued hist, t.self < c.nextStream
  balanced : (ledger hist c).Balanced

theorem booked_step {hist : List (Connection × Act)} {c : Connection} {a : Act} (hA : Addressed c)
    (hE : Enabled c a) (h : Booked hist c) : Booked (hist ++ [(c, a)]) (apply a c) := by
  refine ⟨fun t ht => ?_, (ledger_step hA hE h.below).balanced h.balanced⟩
  rw [issued_concat, List.mem_append, Option.mem_toList] at ht
  cases hb : a.books with
  | false =>
    rw [(tickets_keep hA hE hb).2]
    rcases ht with ht | ht
    · exact h.below t ht
    · rw [(no_books hb).1] at ht
      cases ht
  | true =>
    cases a with
    | publishRequest req =>
      simp only [apply, nextStream_publishRequest]
      rcases ht with ht | ht
      · exact (h.below t ht).trans (Nat.lt_succ_self _)
      · cases ht
        exact Nat.lt_succ_self _
    | success st => exact h.below t (ht.resolve_right nofun)
    | abort => exact h.below t (ht.resolve_right nofun)
    | _ => exact Bool.noConfusion hb

theorem exec_booked {hostName port : String} {ops : List Op} {hist : List (Connection × Act)} {c : Connection}
    (hv : (exec ops).Visits (new hostName port) hist c) : Booked hist c :=
  exec_inv (J := Booked) (K := fun _ _ => True)
    ⟨fun _ h => (List.not_mem_nil h).elim, Multiset.nodup_zero, rfl⟩
    (fun _ _ _ hA hE _ h => booked_step hA hE h) (fun _ _ => trivial) hv

/-- What is in a container was published. -/
theorem ticket_issued {hostName port : String} {ops : List Op} {hist : List (Connection × Act)}
    {c : Connection} {st : Stream} (hv : (exec ops).Visits (new hostName port) hist c)
    (hst : st ∈ c.streams) : st.ticket ∈ issued hist := by
  have hpending : st.ticket ∈ (ledger hist c).pending := Multiset.mem_coe.2 (List.mem_map_of_mem hst)
  have hissued : st.ticket ∈ (ledger hist c).issued := by
    rw [← (exec_booked hv).balanced.total, add_assoc]
    exact Multiset.mem_add.2 (.inl hpending)
  exact Multiset.mem_coe.1 hissued

/-- A request that was neither delivered nor discarded is in the containers once. -/
theorem pending_count {hostName port : String} {ops : List Op} {hist : List (Connection × Act)}
    {c : Connection} {t : Stream.Ticket} (hv : (exec ops).Visits (new hostName port) hist c)
    (ht : t ∈ issued hist) (hdel : t ∉ delivered hist) (hdis : t ∉ discarded hist) :
    (c.streams.map Stream.ticket).count t = 1 := by
  have h := (exec_booked hv).balanced.count (Multiset.mem_coe.2 ht)
  simp only [ledger, tickets, Multiset.coe_count, List.count_eq_zero_of_not_mem hdel,
    List.count_eq_zero_of_not_mem hdis] at h
  omega

/-- The bins of the ledger hold only what was published. -/
theorem bins_issued {hostName port : String} {ops : List Op} {hist : List (Connection × Act)}
    {c : Connection} {t : Stream.Ticket} (hv : (exec ops).Visits (new hostName port) hist c)
    (ht : t ∈ delivered hist ∨ t ∈ discarded hist) : t ∈ issued hist := by
  have hissued : t ∈ (ledger hist c).issued := by
    rw [← (exec_booked hv).balanced.total, Multiset.mem_add, Multiset.mem_add]
    rcases ht with ht | ht
    · exact .inl (.inr (Multiset.mem_coe.2 ht))
    · exact .inr (Multiset.mem_coe.2 ht)
  exact Multiset.mem_coe.1 hissued

/-- A request stays in the containers until it is delivered or discarded. -/
theorem published_pending {hostName port : String} {ops : List Op} {pre post : List (Connection × Act)}
    {c₀ c : Connection} {req : Request}
    (hv : (exec ops).Visits (new hostName port) (pre ++ (c₀, .publishRequest req) :: post) c)
    (hdel : (Stream.new c₀.nextStream c₀.hostName req).ticket ∉ delivered post)
    (hdis : (Stream.new c₀.nextStream c₀.hostName req).ticket ∉ discarded post) :
    (Stream.new c₀.nextStream c₀.hostName req).ticket ∈ c.streams.map Stream.ticket := by
  have hp : (exec ops).Performs (new hostName port) pre c₀ (.publishRequest req) :=
    List.IsPrefix.trans ⟨post, by simp⟩ hv.1
  -- the ticket is new, so it was in no bin before
  have hnew : (Stream.new c₀.nextStream c₀.hostName req).ticket ∉ issued pre := fun ht =>
    ((exec_booked hp.visits).below _ ht).ne rfl
  have hcount := pending_count hv (t := (Stream.new c₀.nextStream c₀.hostName req).ticket)
    (by simp [issued, issuedBy]) ?_ ?_
  · exact List.count_pos_iff.1 (by rw [hcount]; exact Nat.one_pos)
  · simp only [delivered, List.filterMap_append, List.filterMap_cons, deliveredBy, List.mem_append, not_or]
    exact ⟨fun ht => hnew (bins_issued hp.visits (.inl ht)), hdel⟩
  · simp only [discarded, List.flatMap_append, List.flatMap_cons, discardedBy, List.mem_append, not_or]
    exact ⟨fun ht => hnew (bins_issued hp.visits (.inr ht)), nofun, hdis⟩

/-- A request that was delivered or discarded is in no container any more. -/
theorem bins_gone {hostName port : String} {ops : List Op} {hist : List (Connection × Act)} {c : Connection}
    {t : Stream.Ticket} {x : Stream} (hv : (exec ops).Visits (new hostName port) hist c)
    (ht : t ∈ delivered hist ∨ t ∈ discarded hist) (hx : x ∈ c.streams) : x.ticket ≠ t := by
  rintro rfl
  have hb := (exec_booked hv).balanced
  have hpending : x.ticket ∈ (ledger hist c).pending := Multiset.mem_coe.2 (List.mem_map_of_mem hx)
  have hnodup := hb.nodup
  rw [← hb.total, Multiset.nodup_add, Multiset.nodup_add] at hnodup
  rcases ht with ht | ht
  · exact Multiset.disjoint_left.1 hnodup.1.2.2 hpending (Multiset.mem_coe.2 ht)
  · exact Multiset.disjoint_left.1 hnodup.2.2 (Multiset.mem_add.2 (.inl hpending)) (Multiset.mem_coe.2 ht)

theorem delivered_gone {hostName port : String} {ops : List Op} {hist : List (Connection × Act)}
    {c c' : Connection} {x y : Stream} (hv : (exec ops).Visits (new hostName port) hist c)
    (hy : (c', .success y) ∈ hist) (hx : x ∈ c.streams) : x.ticket ≠ y.ticket :=
  bins_gone hv (.inl (List.mem_filterMap.2 ⟨_, hy, rfl⟩)) hx

/-- With empty containers, everything was delivered or discarded. -/
theorem empty_bins {hostName port : String} {ops : List Op} {hist : List (Connection × Act)}
    {c : Connection} {t : Stream.Ticket} (hv : (exec ops).Visits (new hostName port) hist c)
    (hc : c.streams = []) (ht : t ∈ issued hist) : t ∈ delivered hist ∨ t ∈ discarded hist := by
  by_contra hn
  have hcount := pending_count hv ht (not_or.1 hn).1 (not_or.1 hn).2
  simp [hc] at hcount

/-- Every published request is exactly once among the three containers, the
success callbacks and the aborted requests; no request succeeds twice. -/
theorem request_conservation {hostName port : String} {ops : List Op} {hist : List (Connection × Act)}
    {c : Connection} (hv : (exec ops).Visits (new hostName port) hist c) :
    (∀ t ∈ issued hist,
      (c.h3StreamsStock.map Stream.ticket).count t + (c.h3Streams.map Stream.ticket).count t +
        (c.h3StreamsErrorStock.map Stream.ticket).count t + (delivered hist).count t +
        (discarded hist).count t = 1) ∧
    (∀ st ∈ c.streams, st.ticket ∈ issued hist) ∧
    (issued hist).Nodup ∧ (delivered hist).Nodup := by
  have hb := (exec_booked hv).balanced
  refine ⟨fun t ht => ?_, fun st hst => ticket_issued hv hst, Multiset.coe_nodup.1 hb.nodup,
    Multiset.coe_nodup.1 hb.nodup_delivered⟩
  have h := hb.count (Multiset.mem_coe.2 ht)
  simp only [ledger, tickets, streams, List.map_append, Multiset.coe_count, List.count_append] at h
  omega

theorem request_conservation_download :
    (∀ t ∈ issued ((exec (connectOps ++ downloadOps)).trace (new "h" "443")),
      (delivered ((exec (connectOps ++ downloadOps)).trace (new "h" "443"))).count t = 1) ∧
    (delivered ((exec (connectOps ++ downloadOps)).trace (new "h" "443"))).Nodup :=
  ⟨by decide, (request_conservation ⟨List.prefix_rfl, rfl⟩).2.2.2⟩

end Nhh3
