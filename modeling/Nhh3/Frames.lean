import Nhh3.Guards
/-!
# What an action leaves alone

Most actions touch few fields. For the others this module says where a stream
in a container, or an entry of the map, was before the action: invariants about
streams follow from these lemmas without a look at the action itself.
-/

namespace Nhh3

open Lib Connection

/-! ## What the actions with branches change -/

namespace Connection
variable {c : Connection}

/-- The state `c` with the status, the phase, the socket and the configuration of `d`. -/
def withStatusOf (c d : Connection) : Connection :=
  { c with
    status := d.status, errorDetail := d.errorDetail, phase := d.phase, startTime := d.startTime,
    sock := d.sock, peerAddInfo := d.peerAddInfo, quicheConfig := d.quicheConfig,
    quicheH3Config := d.quicheH3Config, isLoadedSessionForZeroRtt := d.isLoadedSessionForZeroRtt }

/-- `PublishRequest` appends a stream; a status from Wait on becomes Connecting. -/
theorem publishRequest_eq (req : Request) : c.publishRequest req = { c with
    status := if .wait ≤ c.status then .connecting else c.status,
    errorDetail := if .wait ≤ c.status then "" else c.errorDetail,
    totalWriteSize := if c.status = .wait then 0 else c.totalWriteSize,
    h3StreamsStock := c.h3StreamsStock ++ [Stream.new c.nextStream c.hostName req],
    nextStream := c.nextStream + 1 } := by
  unfold publishRequest
  by_cases hs : .wait ≤ c.status
  · simp only [if_pos hs]
    rfl
  · have hne : c.status ≠ .wait := by
      intro heq
      exact hs (by rw [heq]; decide)
    simp only [if_neg hs, if_neg hne]

theorem createSocket_shape (io : SocketIo) : ∃ d, (c.createSocket io).1 = c.clearForRetry.withStatusOf d := by
  refine ⟨(c.createSocket io).1, ?_⟩
  cases io <;> rfl

theorem initializeQuiche_shape (io : InitIo) :
    ∃ d, (c.initializeQuiche io).1 = (c.createQuicheConnection io).withStatusOf d := by
  refine ⟨(c.initializeQuiche io).1, ?_⟩
  unfold initializeQuiche setQlogSettings setOptionsInternal
  dsimp only
  split_ifs <;> rfl

end Connection

/-- The actions that only write the status, the phase and the socket. -/
def Act.reports : Act → Bool
  | .transitionConnectionMigration | .sendFailed _ | .socketFailed _ | .recvFailed _ | .handshakeFailed
  | .handshakeDone | .eventReset _ | .startStreamFailed | .idle | .createUdpSocket _ | .newSourceCidFailed
  | .probePath _ | .connectionClosed | .timeout _ | .error _ | .streamCritical _ => true
  | _ => false

theorem Connection.reports_apply {c : Connection} {a : Act} (h : a.reports = true) :
    ∃ d, apply a c = c.withStatusOf d := by
  refine ⟨apply a c, ?_⟩
  cases a with
  | createUdpSocket io => cases io <;> rfl
  | recvFailed e =>
    simp only [apply]
    split_ifs <;> rfl
  | probePath ok => cases ok <;> rfl
  | timeout closed =>
    simp only [apply]
    split_ifs <;> rfl
  | _ => first | rfl | exact Bool.noConfusion h

/-! ## Actions that leave the containers alone -/

/-- The containers and the map of two states are the same. -/
structure SameStreams (c c' : Connection) : Prop where
  active : c'.h3Streams = c.h3Streams
  stock : c'.h3StreamsStock = c.h3StreamsStock
  error : c'.h3StreamsErrorStock = c.h3StreamsErrorStock
  map : c'.h3StreamsMap = c.h3StreamsMap
  next : c'.nextStream = c.nextStream

/-- The actions that touch a stream, a container or the map. -/
def Act.moves : Act → Bool
  | .publishRequest _ | .takeProgress | .abort | .requeueStreams | .retryStream | .placeholder _
  | .eventHeaders _ _ _ | .eventData _ _ _ | .eventFinished _ _ | .startStream _ _ | .startFailed _
  | .startShutdown | .finishShutdown | .success _ | .streamRetry _ => true
  | _ => false

namespace Connection
variable {c : Connection} {a : Act}

theorem sameStreams (h : a.moves = false) : SameStreams c (apply a c) := by
  cases hr : a.reports with
  | true =>
    obtain ⟨d, hd⟩ := reports_apply (c := c) hr
    rw [hd]
    exact ⟨rfl, rfl, rfl, rfl, rfl⟩
  | false =>
    cases a with
    | createSocket io =>
      obtain ⟨d, hd⟩ := createSocket_shape (c := c) io
      simp only [apply, hd]
      exact ⟨rfl, rfl, rfl, rfl, rfl⟩
    | initializeQuiche io =>
      obtain ⟨d, hd⟩ := initializeQuiche_shape (c := c) io
      simp only [apply, hd]
      exact ⟨rfl, rfl, rfl, rfl, rfl⟩
    | _ => first | exact ⟨rfl, rfl, rfl, rfl, rfl⟩ | exact Bool.noConfusion h | exact Bool.noConfusion hr

theorem mem_streams {st : Stream} :
    st ∈ c.streams ↔ st ∈ c.h3Streams ∨ st ∈ c.h3StreamsStock ∨ st ∈ c.h3StreamsErrorStock := by
  simp [streams]

theorem unique (hA : Addressed c) {x y : Stream} (hx : x ∈ c.streams) (hy : y ∈ c.streams)
    (h : x.self = y.self) : x = y :=
  List.inj_on_of_nodup_map hA.nodup hx hy h

theorem streamAt_mem {p : Nat} {st : Stream} (h : c.streamAt p = some st) : st ∈ c.streams :=
  List.mem_of_find?_eq_some h

theorem unique_active (hA : Addressed c) {x y : Stream} (hx : x ∈ c.h3Streams) (hy : y ∈ c.h3Streams)
    (h : x.self = y.self) : x = y :=
  unique hA (mem_streams.2 (.inl hx)) (mem_streams.2 (.inl hy)) h

/-- The active stream that an event's map entry leads to is the one that is found there. -/
theorem dispatched_eq (hA : Addressed c) {id : Int} {x st : Stream} (hd : Dispatched c id st)
    (hx : x ∈ c.h3Streams) (h : x.self = st.self) : x = st :=
  unique hA (mem_streams.2 (.inl hx)) (streamAt_mem hd.found) h

/-- What `putStream` does to one container. -/
def put (st : Stream) (l : List Stream) : List Stream :=
  l.map fun x => if x.self = st.self then st else x

/-! ## Where a stream was before -/

/-- The streams that wait to be started, or for a Retry. -/
def waiting (c : Connection) : List Stream := c.h3StreamsStock ++ c.h3StreamsErrorStock

theorem waiting_ne_active (hA : Addressed c) {x y : Stream} (hx : x ∈ c.h3Streams)
    (hy : y ∈ c.waiting) : x.self ≠ y.self := by
  have h := hA.nodup
  rw [streams, List.append_assoc, List.map_append, List.nodup_append] at h
  exact h.2.2 _ (List.mem_map_of_mem hx) _ (List.mem_map_of_mem hy)

theorem waiting_subset {x : Stream} (h : x ∈ c.waiting) : x ∈ c.streams :=
  mem_streams.2 (.inr (List.mem_append.1 h))

theorem starting_mem {st st' : Stream} {id : Int} (h : Starting c st st' id) : st ∈ c.waiting := by
  obtain ⟨rest, hfirst⟩ := h.first
  simp [waiting, hfirst]

theorem nodup_active (hA : Addressed c) : (c.h3Streams.map Stream.self).Nodup := by
  have h := hA.nodup
  rw [streams, List.append_assoc, List.map_append, List.nodup_append] at h
  exact h.1

/-- What `dropDelivered` leaves has another address. -/
theorem mem_dropDelivered (hA : Addressed c) {st x : Stream} (hst : st ∈ c.h3Streams)
    (hx : x ∈ (c.dropDelivered st).h3Streams) : x ∈ c.h3Streams ∧ x.self ≠ st.self := by
  obtain ⟨y, l₁, l₂, -, hy, hl, he⟩ := List.exists_of_eraseP (p := fun x => x.self = st.self) hst (by simp)
  have hnd := nodup_active hA
  rw [hl, (List.perm_middle.map _).nodup_iff, List.map_cons, List.nodup_cons] at hnd
  simp only [dropDelivered, he] at hx
  refine ⟨by rw [hl]; exact List.perm_middle.mem_iff.2 (List.mem_cons_of_mem _ hx), fun hs => hnd.1 ?_⟩
  rw [of_decide_eq_true hy, ← hs]
  exact List.mem_map_of_mem hx

theorem starting_self {st st' : Stream} {id : Int} (h : Starting c st st' id) : st'.self = st.self := by
  obtain ⟨io, hstart⟩ := h.start
  exact Stream.self_of_ticket (Stream.start_ticket hstart)

/-- A stream is started with the handles of the current connection. -/
theorem starting_handles {st st' : Stream} {id : Int} (h : Starting c st st' id) :
    ∃ q h3, c.quicheConnection = some q ∧ c.quicheH3Connection = some h3 := by
  obtain ⟨io, hstart⟩ := h.start
  obtain ⟨q, h3, hq, hh, -⟩ := Stream.start_cases hstart
  exact ⟨q, h3, hq, hh⟩

theorem starting_started {st st' : Stream} {id : Int} (h : Starting c st st' id) (hid : 0 ≤ id) :
    ∃ q h3, c.quicheConnection = some q ∧ c.quicheH3Connection = some h3 ∧ st' = st.started q h3 id := by
  obtain ⟨io, hstart⟩ := h.start
  obtain ⟨q, h3, hq, hh, hok, -⟩ := Stream.start_cases hstart
  exact ⟨q, h3, hq, hh, hok hid⟩

theorem starting_streamId {st st' : Stream} {id : Int} (h : Starting c st st' id) (hid : 0 ≤ id) :
    st'.streamId = id := by
  obtain ⟨q, h3, -, -, rfl⟩ := starting_started h hid
  rfl

theorem starting_failed {st st' : Stream} {id : Int} (h : Starting c st st' id) (hid : id < 0) :
    Stream.StartFailed st st' := by
  obtain ⟨io, hstart⟩ := h.start
  obtain ⟨q, h3, -, -, -, hfail⟩ := Stream.start_cases hstart
  exact hfail hid

/-- The stream that is started is none of the active ones. -/
theorem starting_other (hA : Addressed c) {st st' x : Stream} {id : Int} (h : Starting c st st' id)
    (hx : x ∈ c.h3Streams) : some st'.self ≠ some x.self := by
  intro hsub
  refine waiting_ne_active hA hx (starting_mem h) ?_
  rw [← starting_self h]
  exact (Option.some.inj hsub).symm

/-- The streams behind the one that is started have other addresses. -/
theorem starting_rest (hA : Addressed c) {st st' x : Stream} {id : Int} (h : Starting c st st' id)
    (hx : x ∈ c.h3StreamsStock.tail ++ c.h3StreamsErrorStock) : x ∈ c.waiting ∧ x.self ≠ st'.self := by
  obtain ⟨rest, hfirst⟩ := h.first
  have hnd := hA.nodup
  rw [streams, List.append_assoc, List.map_append, List.nodup_append] at hnd
  have hnd := hnd.2.1
  rw [hfirst] at hx
  rw [hfirst, List.cons_append, List.map_cons, List.nodup_cons] at hnd
  refine ⟨?_, fun hs => hnd.1 ?_⟩
  · rw [waiting, hfirst]
    exact List.mem_cons_of_mem _ hx
  · rw [← starting_self h, ← hs]
    exact List.mem_map_of_mem hx

theorem mem_put {st x : Stream} {l : List Stream} (h : x ∈ put st l) :
    (x = st ∧ ∃ y ∈ l, y.self = st.self) ∨ (x ∈ l ∧ x.self ≠ st.self) := by
  obtain ⟨y, hy, rfl⟩ := List.mem_map.1 h
  split
  · exact .inl ⟨rfl, y, hy, ‹_›⟩
  · exact .inr ⟨hy, ‹_›⟩

end Connection

/-- The handler of an HTTP event makes `st` the stream `st'`. -/
inductive Handled (c : Connection) : Act → Stream → Stream → Prop where
  | headers {id : Int} {list : List (Bytes × Bytes)} {st st' : Stream} : Dispatched c id st →
      st.eventHeaders list = .ok st' → Handled c (.eventHeaders id list st') st st'
  | data {id : Int} {body : BodyIo} {st st' : Stream} : Dispatched c id st →
      st.eventData body = .ok st' → Handled c (.eventData id body st') st st'
  | finished {id : Int} {st : Stream} : Dispatched c id st →
      Handled c (.eventFinished id st.eventFinished) st st.eventFinished

/-- The address of the stream that an action is about. -/
def Act.subject : Act → Option Nat
  | .eventHeaders _ _ st | .eventData _ _ st | .eventFinished _ st | .startStream st _
  | .startFailed st | .success st => some st.self
  | _ => none

/-- What the action makes of a stream that stays active. -/
inductive Becomes (c : Connection) : Act → Stream → Stream → Prop where
  | same {a : Act} {x : Stream} : a.subject ≠ some x.self → Becomes c a x x
  | progress {x : Stream} : Becomes c .takeProgress x x.addProgress
  | handled {a : Act} {x x' : Stream} : Handled c a x x' → Becomes c a x x'
  | shutdown {x : Stream} : Becomes c .startShutdown x (x.shutdown c.status c.errorDetail)

/-- Where a stream that is active after the action comes from. -/
inductive ActiveFrom (c : Connection) : Act → Stream → Prop where
  | kept {a : Act} {x x' : Stream} : x ∈ c.h3Streams → Becomes c a x x' → ActiveFrom c a x'
  | started {st st' : Stream} {id : Int} : Starting c st st' id → 0 ≤ id →
      ActiveFrom c (.startStream st' id) st'

/-- The action takes the stream off the list of active ones. -/
def Act.takes (x : Stream) : Act → Prop
  | .success st => st.self = x.self
  | .abort | .requeueStreams | .finishShutdown => True
  | _ => False

/-- Where a stream that waits after the action comes from. -/
inductive WaitingFrom (c : Connection) : Act → Stream → Prop where
  | same {a : Act} {x : Stream} : x ∈ c.waiting → a.subject ≠ some x.self → WaitingFrom c a x
  | published {req : Request} :
      WaitingFrom c (.publishRequest req) (Stream.new c.nextStream c.hostName req)
  | handled {a : Act} {st st' : Stream} : st ∈ c.waiting → Handled c a st st' → WaitingFrom c a st'
  | failed {st st' : Stream} {id : Int} : Starting c st st' id → id < 0 →
      WaitingFrom c (.startFailed st') st'
  | requeued {x : Stream} : x ∈ c.h3Streams → WaitingFrom c .requeueStreams x
  | shelved {x : Stream} : x ∈ c.h3Streams → WaitingFrom c .finishShutdown x

section Handlers
variable {c : Connection} {a : Act} {st st' : Stream}

theorem Handled.dispatched (h : Handled c a st st') : ∃ id, Dispatched c id st := by
  cases h with
  | headers hd => exact ⟨_, hd⟩
  | data hd => exact ⟨_, hd⟩
  | finished hd => exact ⟨_, hd⟩

theorem Handled.subject (h : Handled c a st st') : a.subject = some st.self := by
  cases h with
  | headers _ hst => exact congrArg some (Stream.self_of_ticket (Stream.eventHeaders_ticket hst))
  | data _ hst => exact congrArg some (Stream.self_of_ticket (Stream.eventData_ticket hst))
  | finished => rfl

theorem Handled.ticket (h : Handled c a st st') : st'.ticket = st.ticket := by
  cases h with
  | headers _ hst => exact Stream.eventHeaders_ticket hst
  | data _ hst => exact Stream.eventData_ticket hst
  | finished => rfl

/-- A handler keeps the handles and the id of its stream. -/
theorem Handled.handles (h : Handled c a st st') :
    st'.quicheQuicConnection = st.quicheQuicConnection ∧
      st'.quicheH3Connection = st.quicheH3Connection ∧ st'.streamId = st.streamId := by
  cases h with
  | headers _ hst =>
    rw [Stream.eventHeaders_ok hst]
    exact ⟨rfl, rfl, rfl⟩
  | data _ hst =>
    rcases Stream.eventData_cases hst with ⟨_, _, -, rfl⟩ | ⟨_, _, _, _, -, rfl, -⟩ <;>
      exact ⟨rfl, rfl, rfl⟩
  | finished => exact ⟨rfl, rfl, rfl⟩

theorem Becomes.ticket {x x' : Stream} (h : Becomes c a x x') : x'.ticket = x.ticket := by
  cases h with
  | same => rfl
  | progress => rfl
  | handled h => exact h.ticket
  | shutdown => exact Stream.ticket_shutdown ..

theorem Becomes.self {x x' : Stream} (h : Becomes c a x x') : x'.self = x.self :=
  Stream.self_of_ticket h.ticket

/-- A handler writes its stream back and leaves the other containers' order alone. -/
theorem Handled.apply (h : Handled c a st st') :
    (apply a c).h3Streams = put st' c.h3Streams ∧
      (apply a c).waiting = put st' c.waiting ∧ (apply a c).h3StreamsMap = c.h3StreamsMap := by
  cases h <;> refine ⟨rfl, ?_, rfl⟩ <;> simp [waiting, putStream, put, Lib.apply]

end Handlers

namespace Connection
variable {c : Connection} {a : Act} {x st st' : Stream}

/-- A stream of `put`, where one stream of the list was handled. -/
theorem mem_put_handled (hA : Addressed c) (h : Handled c a st st') {l : List Stream}
    (hl : ∀ y ∈ l, y ∈ c.streams) (hx : x ∈ put st' l) :
    (x = st' ∧ st ∈ l) ∨ (x ∈ l ∧ a.subject ≠ some x.self) := by
  have hself : st'.self = st.self := Stream.self_of_ticket h.ticket
  rcases mem_put hx with ⟨rfl, y, hy, hs⟩ | ⟨hx, hne⟩
  · obtain ⟨id, hd⟩ := h.dispatched
    have hst : y = st := unique hA (hl y hy) (streamAt_mem hd.found) (hs.trans hself)
    exact .inl ⟨rfl, hst ▸ hy⟩
  · refine .inr ⟨hx, fun hsub => hne ?_⟩
    rw [h.subject, Option.some.injEq] at hsub
    rw [hself, hsub]

/-- A stream that is active after the action was active, or was just started. -/
theorem active_from (hA : Addressed c) (hE : Enabled c a) (hx : x ∈ (apply a c).h3Streams) :
    ActiveFrom c a x := by
  -- the two shapes most actions have: a handler's, and none of the streams
  have hev : ∀ st st', Handled c a st st' → ActiveFrom c a x := by
    intro st st' h
    rw [h.apply.1] at hx
    rcases mem_put_handled hA h (fun y hy => mem_streams.2 (.inl hy)) hx with ⟨rfl, hst⟩ | ⟨hx, hne⟩
    · exact .kept hst (.handled h)
    · exact .kept hx (.same hne)
  have hkeep : x ∈ c.h3Streams → a.subject = none → ActiveFrom c a x := fun h hs =>
    .kept h (.same (by rw [hs]; exact nofun))
  cases hm : a.moves with
  | false =>
    rw [(sameStreams hm).active] at hx
    refine hkeep hx ?_
    cases a <;> first | exact Bool.noConfusion hm | rfl
  | true =>
    cases a with
    | publishRequest req =>
      refine hkeep ?_ rfl
      simp only [apply, publishRequest_eq] at hx
      exact hx
    | takeProgress =>
      obtain ⟨y, hy, rfl⟩ := List.mem_map.1 hx
      exact .kept hy .progress
    | abort => cases hx
    | requeueStreams => cases hx
    | retryStream => exact hkeep hx rfl
    | placeholder id => exact hkeep hx rfl
    | eventHeaders id l st' =>
      obtain ⟨st, hd, hst⟩ := hE
      exact hev _ _ (.headers hd hst)
    | eventData id b st' =>
      obtain ⟨st, hd, hst⟩ := hE
      exact hev _ _ (.data hd hst)
    | eventFinished id st' =>
      obtain ⟨st, hd, rfl⟩ := hE
      exact hev _ _ (.finished hd)
    | startStream st' id =>
      obtain ⟨st, hst, hid⟩ := hE
      rcases List.mem_append.1 hx with hx | hx
      · exact .kept hx (.same (starting_other hA hst hx))
      · rw [List.mem_singleton.1 hx]
        exact .started hst hid
    | startFailed st' =>
      obtain ⟨st, id, hst, hid⟩ := hE
      exact .kept hx (.same (starting_other hA hst hx))
    | startShutdown =>
      obtain ⟨y, hy, rfl⟩ := List.mem_map.1 hx
      exact .kept hy .shutdown
    | finishShutdown => cases hx
    | success st =>
      obtain ⟨hx, hne⟩ := mem_dropDelivered hA hE.1 hx
      exact .kept hx (.same fun hsub => hne (Option.some.inj hsub).symm)
    | streamRetry st => exact hE.elim
    | _ => exact Bool.noConfusion hm

/-- Only `StartStream` makes an empty list of active streams longer. -/
theorem active_nil (hA : Addressed c) (hE : Enabled c a) (h : c.h3Streams = [])
    (hs : ∀ st id, a ≠ .startStream st id) : (apply a c).h3Streams = [] := by
  refine List.eq_nil_iff_forall_not_mem.2 fun x hx => ?_
  cases active_from hA hE hx with
  | kept hy => simp [h] at hy
  | started => exact hs _ _ rfl

/-- A stream that was active still is, unless the action takes it off the list. -/
theorem active_to (hA : Addressed c) (hE : Enabled c a) (hx : x ∈ c.h3Streams) (ht : ¬ a.takes x) :
    ∃ x' ∈ (apply a c).h3Streams, Becomes c a x x' := by
  have hev : ∀ st st', Handled c a st st' → ∃ x' ∈ (apply a c).h3Streams, Becomes c a x x' := by
    intro st st' h
    obtain ⟨id, hd⟩ := h.dispatched
    have hself : st'.self = st.self := Stream.self_of_ticket h.ticket
    rw [h.apply.1]
    by_cases hs : x.self = st.self
    · obtain rfl := dispatched_eq hA hd hx hs
      refine ⟨st', List.mem_map.2 ⟨x, hx, ?_⟩, .handled h⟩
      rw [if_pos hself.symm]
    · refine ⟨x, List.mem_map.2 ⟨x, hx, ?_⟩, .same ?_⟩
      · rw [if_neg (by rwa [hself])]
      · rw [h.subject]
        exact fun heq => hs (Option.some.inj heq).symm
  have hkeep : x ∈ (apply a c).h3Streams → a.subject = none →
      ∃ x' ∈ (apply a c).h3Streams, Becomes c a x x' := fun h hs =>
    ⟨x, h, .same (by rw [hs]; exact nofun)⟩
  cases hm : a.moves with
  | false =>
    refine hkeep ?_ ?_
    · rw [(sameStreams hm).active]
      exact hx
    · cases a <;> first | exact Bool.noConfusion hm | rfl
  | true =>
    cases a with
    | publishRequest req =>
      refine hkeep ?_ rfl
      simp only [apply, publishRequest_eq]
      exact hx
    | takeProgress => exact ⟨_, List.mem_map_of_mem hx, .progress⟩
    | abort => exact absurd trivial ht
    | requeueStreams => exact absurd trivial ht
    | retryStream => exact hkeep hx rfl
    | placeholder id => exact hkeep hx rfl
    | eventHeaders id l st' =>
      obtain ⟨st, hd, hst⟩ := hE
      exact hev _ _ (.headers hd hst)
    | eventData id b st' =>
      obtain ⟨st, hd, hst⟩ := hE
      exact hev _ _ (.data hd hst)
    | eventFinished id st' =>
      obtain ⟨st, hd, rfl⟩ := hE
      exact hev _ _ (.finished hd)
    | startStream st' id =>
      obtain ⟨st, hst, hid⟩ := hE
      exact ⟨x, List.mem_append_left _ hx, .same (starting_other hA hst hx)⟩
    | startFailed st' =>
      obtain ⟨st, id, hst, hid⟩ := hE
      exact ⟨x, hx, .same (starting_other hA hst hx)⟩
    | startShutdown => exact ⟨_, List.mem_map_of_mem hx, .shutdown⟩
    | finishShutdown => exact absurd trivial ht
    | success st =>
      have hne : x.self ≠ st.self := fun h => ht h.symm
      refine ⟨x, (List.mem_eraseP_of_neg (by simpa using hne)).2 hx, .same fun hsub => ?_⟩
      exact hne (Option.some.inj hsub).symm
    | streamRetry st => exact hE.elim
    | _ => exact Bool.noConfusion hm

/-- A stream that waits after the action waited, was active, or is new. -/
theorem waiting_from (hA : Addressed c) (hE : Enabled c a) (hx : x ∈ (apply a c).waiting) :
    WaitingFrom c a x := by
  have hev : ∀ st st', Handled c a st st' → WaitingFrom c a x := by
    intro st st' h
    rw [h.apply.2.1] at hx
    rcases mem_put_handled hA h (fun y hy => waiting_subset hy) hx with ⟨rfl, hst⟩ | ⟨hx, hne⟩
    · exact .handled hst h
    · exact .same hx hne
  have hkeep : x ∈ c.waiting → a.subject = none → WaitingFrom c a x := fun h hs =>
    .same h (by rw [hs]; exact nofun)
  cases hm : a.moves with
  | false =>
    rw [waiting, (sameStreams hm).stock, (sameStreams hm).error] at hx
    refine hkeep hx ?_
    cases a <;> first | exact Bool.noConfusion hm | rfl
  | true =>
    cases a with
    | publishRequest req =>
      have hx' : x ∈ c.h3StreamsStock ++ [Stream.new c.nextStream c.hostName req] ++
          c.h3StreamsErrorStock := by
        simp only [waiting, apply, publishRequest_eq] at hx
        exact hx
      simp only [List.mem_append, List.mem_singleton] at hx'
      rcases hx' with (hx' | rfl) | hx'
      · exact hkeep (List.mem_append.2 (.inl hx')) rfl
      · exact .published
      · exact hkeep (List.mem_append.2 (.inr hx')) rfl
    | takeProgress => exact hkeep hx rfl
    | abort => cases hx
    | requeueStreams =>
      simp only [waiting, apply, requeueStreams, setPhase, closeUdpSocket, List.mem_append] at hx
      rcases hx with (hx | hx) | hx
      · exact hkeep (List.mem_append.2 (.inl hx)) rfl
      · exact .requeued hx
      · exact hkeep (List.mem_append.2 (.inr hx)) rfl
    | retryStream =>
      refine hkeep ?_ rfl
      simpa [waiting, apply, retryStream, setPhase, setStatus] using hx
    | placeholder id => exact hkeep hx rfl
    | eventHeaders id l st' =>
      obtain ⟨st, hd, hst⟩ := hE
      exact hev _ _ (.headers hd hst)
    | eventData id b st' =>
      obtain ⟨st, hd, hst⟩ := hE
      exact hev _ _ (.data hd hst)
    | eventFinished id st' =>
      obtain ⟨st, hd, rfl⟩ := hE
      exact hev _ _ (.finished hd)
    | startStream st' id =>
      obtain ⟨st, hst, hid⟩ := hE
      obtain ⟨hx, hne⟩ := starting_rest hA hst hx
      exact .same hx fun hsub => hne (Option.some.inj hsub).symm
    | startFailed st' =>
      obtain ⟨st, id, hst, hid⟩ := hE
      rcases List.mem_cons.1 hx with rfl | hx
      · exact .failed hst hid
      · obtain ⟨hx, hne⟩ := starting_rest hA hst hx
        exact .same hx fun hsub => hne (Option.some.inj hsub).symm
    | startShutdown => exact hkeep hx rfl
    | finishShutdown =>
      simp only [waiting, apply, stockForRetry, setPhase, closeUdpSocket, List.mem_append,
        List.mem_reverse] at hx
      rcases hx with hx | hx | hx
      · exact hkeep (List.mem_append.2 (.inr hx)) rfl
      · exact .shelved hx
      · exact hkeep (List.mem_append.2 (.inl hx)) rfl
    | success st =>
      refine .same hx fun hsub => waiting_ne_active hA hE.1 hx ?_
      exact Option.some.inj hsub
    | streamRetry st => exact hE.elim
    | _ => exact Bool.noConfusion hm

end Connection

/-! ## Where an entry of the map was before -/

/-- The action takes the key `id` out of the map. -/
def Act.erases (c : Connection) (id : Int) : Act → Prop
  | .success st => st.streamId = id
  | .requeueStreams => ∃ x ∈ c.h3Streams, x.streamId = id
  | .abort | .finishShutdown => True
  | _ => False

/-- The actions that put an entry into the map. -/
def Act.enters : Act → Bool
  | .startStream _ _ | .placeholder _ => true
  | _ => false

namespace Connection
variable {c : Connection} {a : Act} {id : Int} {p : Nat}

theorem lookup_eraseAll (l : List Stream) (m : StreamsMap) :
    (l.foldl (fun m st => m.erase st.streamId) m).lookup id = some (some p) ↔
      m.lookup id = some (some p) ∧ ¬ ∃ x ∈ l, x.streamId = id := by
  induction l generalizing m with
  | nil => simp
  | cons x l ih =>
    rw [List.foldl_cons, ih]
    by_cases hx : x.streamId = id
    · subst hx
      simp
    · rw [AList.lookup_erase_ne (Ne.symm hx)]
      simp [hx]

theorem lookup_emplace (m : StreamsMap) (k : Int) (q : Nat) :
    (m.emplace k q).lookup id = some (some p) ↔
      m.lookup id = some (some p) ∨ (k = id ∧ q = p ∧ id ∉ m) := by
  unfold StreamsMap.emplace
  split
  · rename_i hk
    constructor
    · exact .inl
    · rintro (h | ⟨rfl, -, hn⟩)
      · exact h
      · exact absurd hk hn
  · rename_i hk
    by_cases h : k = id
    · subst h
      simp [AList.lookup_eq_none.2 hk, hk]
    · rw [AList.lookup_insert_ne (Ne.symm h)]
      simp [h]

/-- An entry is kept unless the action takes it out; only `StartStream` adds one. -/
theorem entry_iff (hE : Enabled c a) : (apply a c).h3StreamsMap.lookup id = some (some p) ↔
    (c.h3StreamsMap.lookup id = some (some p) ∧ ¬ a.erases c id) ∨
      ∃ st', a = .startStream st' id ∧ st'.self = p ∧ id ∉ c.h3StreamsMap := by
  have hsame : (apply a c).h3StreamsMap = c.h3StreamsMap → ¬ a.erases c id →
      (∀ st', a ≠ .startStream st' id) → ((apply a c).h3StreamsMap.lookup id = some (some p) ↔
        (c.h3StreamsMap.lookup id = some (some p) ∧ ¬ a.erases c id) ∨
          ∃ st', a = .startStream st' id ∧ st'.self = p ∧ id ∉ c.h3StreamsMap) := by
    intro hm he hs
    rw [hm]
    exact ⟨fun h => .inl ⟨h, he⟩, fun h => h.elim And.left fun ⟨st', h, _⟩ => absurd h (hs st')⟩
  cases hm : a.moves with
  | false =>
    refine hsame (sameStreams hm).map ?_ ?_ <;> cases a <;>
      first | exact Bool.noConfusion hm | simp
  | true =>
    cases a with
    | publishRequest req =>
      refine hsame ?_ (by simp [Act.erases]) (by simp)
      simp only [apply, publishRequest_eq]
    | abort => simp [apply, abort, setPhase, setStatus, Act.erases]
    | requeueStreams =>
      simp only [apply, requeueStreams, setPhase, closeUdpSocket, lookup_eraseAll, Act.erases]
      simp
    | placeholder k =>
      simp only [apply, Act.erases]
      by_cases h : k = id
      · subst h
        simp [hE.2]
      · rw [AList.lookup_insert_ne (Ne.symm h)]
        simp
    | startStream st' k =>
      simp only [apply, activate, lookup_emplace, Act.erases]
      simp only [not_false_eq_true, and_true, Act.startStream.injEq]
      refine or_congr_right ⟨?_, ?_⟩
      · rintro ⟨rfl, rfl, hn⟩
        exact ⟨st', ⟨rfl, rfl⟩, rfl, hn⟩
      · rintro ⟨_, ⟨rfl, rfl⟩, rfl, hn⟩
        exact ⟨rfl, rfl, hn⟩
    | finishShutdown => simp [apply, stockForRetry, setPhase, Act.erases]
    | success st =>
      simp only [apply, dropDelivered, Act.erases]
      by_cases h : st.streamId = id
      · subst h
        simp
      · rw [AList.lookup_erase_ne (Ne.symm h)]
        simp [h]
    | streamRetry st => exact hE.elim
    | takeProgress => exact hsame rfl (by simp [Act.erases]) (by simp)
    | retryStream => exact hsame rfl (by simp [Act.erases]) (by simp)
    | eventHeaders => exact hsame rfl (by simp [Act.erases]) (by simp)
    | eventData => exact hsame rfl (by simp [Act.erases]) (by simp)
    | eventFinished => exact hsame rfl (by simp [Act.erases]) (by simp)
    | startFailed => exact hsame rfl (by simp [Act.erases]) (by simp)
    | startShutdown => exact hsame rfl (by simp [Act.erases]) (by simp)
    | _ => exact Bool.noConfusion hm

theorem eraseAll_empty (l : List Stream) :
    l.foldl (fun m st => m.erase st.streamId) (∅ : StreamsMap) = ∅ := by
  induction l with
  | nil => rfl
  | cons x l ih => exact ih

/-- An empty map stays empty if nothing is entered. -/
theorem map_empty (hE : Enabled c a) (h : c.h3StreamsMap = ∅) (ha : a.enters = false) :
    (apply a c).h3StreamsMap = ∅ := by
  cases hm : a.moves with
  | false => exact (sameStreams hm).map.trans h
  | true =>
    cases a with
    | publishRequest req =>
      simp only [apply, publishRequest_eq]
      exact h
    | requeueStreams =>
      simp only [apply, requeueStreams, setPhase, closeUdpSocket, h]
      exact eraseAll_empty _
    | abort => rfl
    | finishShutdown => rfl
    | success st =>
      simp only [apply, dropDelivered, h]
      rfl
    | streamRetry st => exact hE.elim
    | _ => first | exact h | exact Bool.noConfusion ha | exact Bool.noConfusion hm

end Connection

/-! ## Handles and phases -/

/-- The actions that make or free a handle. -/
def Act.connects : Act → Bool
  | .createSocket _ | .initializeQuiche _ | .newH3Connection _ => true
  | _ => false

/-- The handles of two states are the same. -/
structure SameHandles (c c' : Connection) : Prop where
  quic : c'.quicheConnection = c.quicheConnection
  h3 : c'.quicheH3Connection = c.quicheH3Connection
  freed : c'.freed = c.freed
  freedH3 : c'.freedH3 = c.freedH3
  next : c'.nextHandle = c.nextHandle

namespace Connection
variable {c : Connection} {a : Act}

theorem sameHandles (h : a.connects = false) : SameHandles c (apply a c) := by
  cases hr : a.reports with
  | true =>
    obtain ⟨d, hd⟩ := reports_apply (c := c) hr
    rw [hd]
    exact ⟨rfl, rfl, rfl, rfl, rfl⟩
  | false =>
    cases a with
    | publishRequest req =>
      simp only [apply, publishRequest_eq]
      exact ⟨rfl, rfl, rfl, rfl, rfl⟩
    | _ => first | exact ⟨rfl, rfl, rfl, rfl, rfl⟩ | exact Bool.noConfusion h | exact Bool.noConfusion hr

/-- `UpdatePhaseCreateSocket` frees both handles. -/
theorem handles_createSocket (io : SocketIo) :
    (c.createSocket io).1.quicheConnection = none ∧ (c.createSocket io).1.quicheH3Connection = none ∧
      (c.createSocket io).1.freed = c.quicheConnection.toList ++ c.freed ∧
      (c.createSocket io).1.freedH3 = c.quicheH3Connection.toList ++ c.freedH3 ∧
      (c.createSocket io).1.nextHandle = c.nextHandle := by
  obtain ⟨d, hd⟩ := createSocket_shape (c := c) io
  rw [hd]
  exact ⟨rfl, rfl, rfl, rfl, rfl⟩

/-- `UpdatePhaseInitialize` makes a new connection and frees nothing. -/
theorem handles_initializeQuiche (io : InitIo) :
    (c.initializeQuiche io).1.quicheConnection = (if io.connect then some c.nextHandle else none) ∧
      (c.initializeQuiche io).1.quicheH3Connection = c.quicheH3Connection ∧
      (c.initializeQuiche io).1.freed = c.freed ∧ (c.initializeQuiche io).1.freedH3 = c.freedH3 ∧
      (c.initializeQuiche io).1.nextHandle = c.nextHandle + 1 := by
  obtain ⟨d, hd⟩ := initializeQuiche_shape (c := c) io
  rw [hd]
  exact ⟨rfl, rfl, rfl, rfl, rfl⟩

/-- Without a connection phase Initialize gives up; otherwise it stays, or the handshake begins. -/
theorem initializeQuiche_cases (io : InitIo) :
    (io.connect = false ∧ (c.initializeQuiche io).1.phase = .wait ∧
      (c.initializeQuiche io).1.status = .criticalErrorQuiche) ∨
    (io.connect = true ∧ (c.initializeQuiche io).1.peerAddInfo = c.peerAddInfo ∧
      ((c.initializeQuiche io).1.phase = c.phase ∨ (c.initializeQuiche io).1.phase = .handshake)) := by
  cases hc : io.connect with
  | false =>
    refine .inl ⟨rfl, ?_⟩
    simp [initializeQuiche, createQuicheConnection, hc, setPhase, setStatus]
  | true =>
    refine .inr ⟨rfl, ?_⟩
    have hne : ((c.setOptionsInternal io).createQuicheConnection io).quicheConnection ≠ none := by
      simp [createQuicheConnection, hc]
    have hkeep : ((c.setOptionsInternal io).createQuicheConnection io).peerAddInfo = c.peerAddInfo ∧
        ((c.setOptionsInternal io).createQuicheConnection io).phase = c.phase := by
      unfold setOptionsInternal
      split_ifs <;> exact ⟨rfl, rfl⟩
    unfold initializeQuiche setQlogSettings
    generalize (c.setOptionsInternal io).createQuicheConnection io = d at hne hkeep ⊢
    dsimp only
    rw [if_neg hne]
    split_ifs <;> first | exact ⟨hkeep.1, .inl hkeep.2⟩ | exact ⟨hkeep.1, .inr rfl⟩

theorem createSocket_cases (io : SocketIo) : (c.createSocket io).1.phase = c.phase ∨
    ((c.createSocket io).1.phase = .initializing ∧ (c.createSocket io).1.peerAddInfo = true) := by
  cases io <;> first | exact .inl rfl | exact .inr ⟨rfl, rfl⟩

/-- Handles are handed out in order. -/
theorem nextHandle_mono : c.nextHandle ≤ (apply a c).nextHandle := by
  cases hc : a.connects with
  | false => exact (sameHandles (c := c) hc).next.ge
  | true =>
    cases a with
    | createSocket io => exact (handles_createSocket (c := c) io).2.2.2.2.ge
    | initializeQuiche io =>
      exact (Nat.le_succ _).trans (handles_initializeQuiche (c := c) io).2.2.2.2.ge
    | newH3Connection ok => exact Nat.le_succ _
    | _ => exact Bool.noConfusion hc

end Connection

/-! ## The flags of Retry and Abort -/

/-- The actions that set or take `_callRetry` or `_callAbort`. -/
def Act.flags : Act → Bool
  | .retry | .retryStream | .abort | .finishAbort => true
  | _ => false

namespace Connection
variable {c : Connection} {a : Act}

theorem same_flags (h : a.flags = false) :
    (apply a c).callRetry = c.callRetry ∧ (apply a c).callAbort = c.callAbort := by
  cases hr : a.reports with
  | true =>
    obtain ⟨d, hd⟩ := reports_apply (c := c) hr
    rw [hd]
    exact ⟨rfl, rfl⟩
  | false =>
    cases a with
    | publishRequest req =>
      simp only [apply, publishRequest_eq, and_self]
    | createSocket io =>
      obtain ⟨d, hd⟩ := createSocket_shape (c := c) io
      simp only [apply, hd]
      exact ⟨rfl, rfl⟩
    | initializeQuiche io =>
      obtain ⟨d, hd⟩ := initializeQuiche_shape (c := c) io
      simp only [apply, hd]
      exact ⟨rfl, rfl⟩
    | _ => first | exact ⟨rfl, rfl⟩ | exact Bool.noConfusion h | exact Bool.noConfusion hr

theorem callRetry_from (h : (apply a c).callRetry = true) : a = .retry ∨ c.callRetry = true := by
  cases hf : a.flags with
  | false =>
    rw [(same_flags hf).1] at h
    exact .inr h
  | true =>
    cases a with
    | retry => exact .inl rfl
    | retryStream => cases h
    | abort => exact .inr h
    | finishAbort => exact .inr h
    | _ => exact Bool.noConfusion hf

theorem callRetry_kept (h : c.callRetry = true) : a = .retryStream ∨ (apply a c).callRetry = true := by
  cases hf : a.flags with
  | false =>
    rw [(same_flags hf).1]
    exact .inr h
  | true =>
    cases a with
    | retryStream => exact .inl rfl
    | retry => exact .inr rfl
    | abort => exact .inr h
    | finishAbort => exact .inr h
    | _ => exact Bool.noConfusion hf

theorem callAbort_from (h : (apply a c).callAbort = true) : a = .abort ∨ c.callAbort = true := by
  cases hf : a.flags with
  | false =>
    rw [(same_flags hf).2] at h
    exact .inr h
  | true =>
    cases a with
    | abort => exact .inl rfl
    | finishAbort => cases h
    | retry => exact .inr h
    | retryStream => exact .inr h
    | _ => exact Bool.noConfusion hf

theorem callAbort_kept (h : c.callAbort = true) : a = .finishAbort ∨ (apply a c).callAbort = true := by
  cases hf : a.flags with
  | false =>
    rw [(same_flags hf).2]
    exact .inr h
  | true =>
    cases a with
    | finishAbort => exact .inl rfl
    | abort => exact .inr rfl
    | retry => exact .inr h
    | retryStream => exact .inr h
    | _ => exact Bool.noConfusion hf

end Connection

/-! ## The status -/

namespace Connection
variable {c : Connection} {a : Act}

theorem convertQuicheErrorToStatus_cases (error : Int) (now : QwfsStatus) :
    convertQuicheErrorToStatus error now = now ∨ convertQuicheErrorToStatus error now < .wait := by
  unfold convertQuicheErrorToStatus
  split_ifs <;> first | exact .inl rfl | exact .inr (by decide)

/-- `PublishRequest` keeps the phase; a status from Wait on becomes Connecting. -/
theorem publishRequest_status (req : Request) : (c.publishRequest req).phase = c.phase ∧
    (.wait ≤ (c.publishRequest req).status → .wait ≤ c.status) := by
  rw [publishRequest_eq]
  refine ⟨rfl, fun h => ?_⟩
  by_contra hn
  simp only [if_neg hn] at h
  exact hn h

end Connection

end Nhh3
