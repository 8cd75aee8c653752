import Nhh3.Lib.Cells
import Nhh3.Migration
import Nhh3.Progress
import Nhh3.Unread
/-!
# The order in which events are reported: the event loop

quiche reports the events of all streams of a connection through one
`quiche_h3_conn_poll`. The handlers of a stream touch that stream and a sum, so the loop
leaves each stream as its own events do, whatever comes in between for the others.
-/

namespace Nhh3

open Lib Lib.Prog Lib.Cells Connection

/-! ## What the loop makes of the streams -/

/-- What the handler of an event makes of its stream. -/
def Stream.handle (st : Stream) : H3Event → Except Fault Stream
  | .headers list => st.eventHeaders list
  | .data body => st.eventData body
  | .finished => .ok st.eventFinished
  | .reset | .priorityUpdate | .datagram | .goaway => .ok st

theorem Stream.handle_ticket {st st' : Stream} {event : H3Event} (h : st.handle event = .ok st') :
    st'.ticket = st.ticket := by
  cases event with
  | headers list => exact Stream.eventHeaders_ticket h
  | data body => exact Stream.eventData_ticket h
  | _ =>
    cases h
    rfl

/-- The same, with the bytes that the loop has added to the total for the stream. -/
def loopHandle (s : Stream × Nat) (event : H3Event) : Except Fault (Stream × Nat) :=
  (s.1.handle event).map fun st => (st, s.2 + if event = .finished then s.1.writeSize else 0)

theorem loopHandle_ok {s s' : Stream × Nat} {event : H3Event} : loopHandle s event = .ok s' ↔
    s.1.handle event = .ok s'.1 ∧ s'.2 = s.2 + if event = .finished then s.1.writeSize else 0 := by
  unfold loopHandle
  cases s.1.handle event with
  | error e => simp [Except.map]
  | ok st => simp [Except.map, Prod.ext_iff, eq_comm]

/-- The active streams as the cells of the loop, by their addresses. -/
def loopCells : Cells Nat H3Event (Stream × Nat) Fault where
  key s := s.1.self
  handle := loopHandle
  key_handle h := Stream.self_of_ticket (Stream.handle_ticket (loopHandle_ok.1 h).1)

namespace Connection
variable {c c' : Connection} {ios : List PollIo} {l l' : List (Stream × Nat)} {settings reset : Bool}

/-- The active streams, with nothing counted yet. -/
def cells (c : Connection) : List (Stream × Nat) := c.h3Streams.map fun st => (st, 0)

/-- The connection once the loop has come to the cells `l`. -/
def heard (c : Connection) (settings reset : Bool) (l : List (Stream × Nat)) : Connection :=
  { c with
    h3Streams := l.map Prod.fst, totalWriteSize := c.totalWriteSize + (l.map Prod.snd).sum,
    settingsReceived := settings, phase := if reset then .startShutdown else c.phase }

/-- The reported events, each for the address that the map leads to. -/
def mail (c : Connection) (ios : List PollIo) : List (Nat × H3Event) :=
  ios.filterMap fun io => ((c.h3StreamsMap.lookup io.streamId).join).map fun p => (p, io.event)

/-- quiche reports events of streams that are under way, which the map knows. -/
def Reports (c : Connection) (ios : List PollIo) : Prop :=
  ∀ io ∈ reportedEvents ios, ∃ st ∈ c.h3Streams, st.streamId = io.streamId ∧
    c.h3StreamsMap.lookup io.streamId = some (some st.self)

instance (c : Connection) (ios : List PollIo) : Decidable (c.Reports ios) :=
  inferInstanceAs (Decidable (∀ io ∈ reportedEvents ios, ∃ st ∈ c.h3Streams, st.streamId = io.streamId ∧
    c.h3StreamsMap.lookup io.streamId = some (some st.self)))

theorem heard_cells (c : Connection) : c.heard c.settingsReceived false c.cells = c := by
  have hfst : c.cells.map Prod.fst = c.h3Streams := by simp [cells, Function.comp_def]
  have hsnd : (c.cells.map Prod.snd).sum = 0 := by simp [cells, Function.comp_def]
  rw [heard, hfst, hsnd]
  rfl

/-- The addresses of the cells are those of the active streams. -/
theorem nodup_cells (hA : Addressed c) (hl : l.map loopCells.key = c.h3Streams.map Stream.self) :
    (l.map loopCells.key).Nodup := by
  rw [hl]
  exact nodup_active hA

/-- A cell's stream is found at its address. -/
theorem streamAt_cell (hA : Addressed c) (hl : l.map loopCells.key = c.h3Streams.map Stream.self)
    {s : Stream × Nat} (hs : s ∈ l) : (c.heard settings reset l).streamAt s.1.self = some s.1 := by
  obtain ⟨pre, post, rfl, -⟩ := put_split (nodup_cells hA hl) hs
  have hnd := nodup_cells hA hl
  rw [List.map_append, List.map_cons, List.nodup_append] at hnd
  have hpre : ∀ x ∈ pre.map Prod.fst, ¬ (decide (x.self = s.1.self)) = true := by
    intro x hx h
    obtain ⟨y, hy, rfl⟩ := List.mem_map.1 hx
    exact hnd.2.2 _ (List.mem_map_of_mem hy) _ List.mem_cons_self (of_decide_eq_true h)
  simp only [streamAt, heard, List.map_append, List.map_cons, List.append_assoc, List.find?_append,
    List.find?_eq_none.2 hpre, Option.none_or, List.find?_cons, decide_true, List.cons_append]

theorem waiting_ne_cell (hA : Addressed c) (hl : l.map loopCells.key = c.h3Streams.map Stream.self)
    {s : Stream × Nat} (hs : s ∈ l) {x : Stream} (hx : x ∈ c.waiting) : x.self ≠ s.1.self := by
  have hmem : s.1.self ∈ c.h3Streams.map Stream.self := hl ▸ List.mem_map_of_mem hs
  obtain ⟨y, hy, hself⟩ := List.mem_map.1 hmem
  rw [← hself]
  exact (waiting_ne_active hA hy hx).symm

/-- A handler writes its stream back among the active ones, and no other. -/
theorem putStream_cell (hA : Addressed c) (hl : l.map loopCells.key = c.h3Streams.map Stream.self)
    {s : Stream × Nat} (hs : s ∈ l) (s' : Stream × Nat) (hself : s'.1.self = s.1.self) :
    (c.heard settings reset l).putStream s'.1 =
      { c.heard settings reset (loopCells.put s' l) with
        totalWriteSize := c.totalWriteSize + (l.map Prod.snd).sum } := by
  have hactive : (l.map Prod.fst).map (fun x => if x.self = s'.1.self then s'.1 else x) =
      (loopCells.put s' l).map Prod.fst := by
    rw [Cells.put, List.map_map, List.map_map]
    refine List.map_congr_left fun x _ => ?_
    show (if x.1.self = s'.1.self then s'.1 else x.1) = (if x.1.self = s'.1.self then s' else x).1
    split <;> rfl
  have hwait : ∀ x ∈ c.waiting, x.self ≠ s'.1.self := fun x hx => by
    rw [hself]
    exact waiting_ne_cell hA hl hs hx
  have hstock : Connection.put s'.1 c.h3StreamsStock = c.h3StreamsStock :=
    Connection.put_other fun x hx => hwait x (List.mem_append_left _ hx)
  have herror : Connection.put s'.1 c.h3StreamsErrorStock = c.h3StreamsErrorStock :=
    Connection.put_other fun x hx => hwait x (List.mem_append_right _ hx)
  simp only [putStream, heard, hactive]
  exact congrArg₂ (fun stock error => { c with
    h3Streams := (loopCells.put s' l).map Prod.fst, h3StreamsStock := stock, h3StreamsErrorStock := error,
    totalWriteSize := c.totalWriteSize + (l.map Prod.snd).sum, settingsReceived := settings,
    phase := if reset then .startShutdown else c.phase }) hstock herror

/-- The count of the loop with one cell written back. -/
theorem sum_cell (hnd : (l.map loopCells.key).Nodup) {s : Stream × Nat} (hs : s ∈ l) (s' : Stream × Nat)
    (hself : s'.1.self = s.1.self) :
    ((loopCells.put s' l).map Prod.snd).sum + s.2 = (l.map Prod.snd).sum + s'.2 := by
  obtain ⟨pre, post, rfl, hput⟩ := put_split hnd hs
  rw [hput s' hself]
  simp only [List.map_append, List.map_cons, List.sum_append, List.sum_cons]
  omega

theorem run_checkSettings (rc : Int) : (checkSettings rc).run (c.heard settings reset l) =
    .ok ((), c.heard (settings || decide (rc = 0)) reset l) := by
  simp only [checkSettings, run_bind, Prog.get, Prog.run]
  cases settings <;> by_cases hrc : rc = 0 <;> simp [heard, hrc] <;> rfl

/-- The handler of an event, on the cell it is for. -/
theorem run_dispatch (hA : Addressed c) (hl : l.map loopCells.key = c.h3Streams.map Stream.self)
    {s : Stream × Nat} (hs : s ∈ l) (id : Int) (event : H3Event) :
    (dispatch id event s.1).run (c.heard settings reset l) = (loopHandle s event).map fun s' =>
      ((), c.heard settings (reset || decide (event = .reset)) (loopCells.put s' l)) := by
  have hnd := nodup_cells hA hl
  have hput : loopCells.put s l = l := by
    obtain ⟨pre, post, rfl, hput⟩ := put_split hnd hs
    exact hput s rfl
  -- what is counted changes with FINISHED only
  have hcount : ∀ s' : Stream × Nat, s'.1.self = s.1.self → s'.2 = s.2 →
      (c.heard settings reset l).putStream s'.1 = c.heard settings reset (loopCells.put s' l) := by
    intro s' hself hn
    have hsum := sum_cell hnd hs s' hself
    rw [putStream_cell hA hl hs s' hself, show (l.map Prod.snd).sum = ((loopCells.put s' l).map Prod.snd).sum by omega]
    rfl
  unfold loopHandle
  cases event with
  | headers list =>
    simp only [dispatch, Stream.handle]
    cases hst : s.1.eventHeaders list with
    | error e => rfl
    | ok st =>
      have hself : st.self = s.1.self := Stream.self_of_ticket (Stream.eventHeaders_ticket hst)
      show Except.ok ((), (c.heard settings reset l).putStream st) = _
      rw [show st = (st, s.2).1 from rfl, hcount (st, s.2) hself rfl]
      simp [Except.map]
  | data body =>
    simp only [dispatch, Stream.handle]
    cases hst : s.1.eventData body with
    | error e => rfl
    | ok st =>
      have hself : st.self = s.1.self := Stream.self_of_ticket (Stream.eventData_ticket hst)
      show Except.ok ((), (c.heard settings reset l).putStream st) = _
      rw [show st = (st, s.2).1 from rfl, hcount (st, s.2) hself rfl]
      simp [Except.map]
  | finished =>
    have hsum := sum_cell hnd hs (s.1.eventFinished, s.2 + s.1.writeSize) rfl
    have hend : apply (Act.eventFinished id s.1.eventFinished) (c.heard settings reset l) =
        c.heard settings reset (loopCells.put (s.1.eventFinished, s.2 + s.1.writeSize) l) := by
      have htotal : c.totalWriteSize + (l.map Prod.snd).sum + s.1.writeSize = c.totalWriteSize +
          ((loopCells.put (s.1.eventFinished, s.2 + s.1.writeSize) l).map Prod.snd).sum := by omega
      show { (c.heard settings reset l).putStream s.1.eventFinished with
        totalWriteSize := c.totalWriteSize + (l.map Prod.snd).sum + s.1.writeSize } = _
      rw [putStream_cell hA hl hs (s.1.eventFinished, s.2 + s.1.writeSize) rfl, htotal]
      rfl
    show Except.ok ((), apply (Act.eventFinished id s.1.eventFinished) (c.heard settings reset l)) = _
    rw [hend]
    simp [Stream.handle, Except.map]
  | reset =>
    show Except.ok ((), (c.heard settings reset l).setPhase .startShutdown) = _
    simp [Stream.handle, Except.map, hput, setPhase, heard]
  | _ => simp [dispatch, Stream.handle, Except.map, hput, pure, Prog.run]

theorem run_useH3Connection (hq : c.quicheConnection ≠ none) (hh : c.quicheH3Connection ≠ none) :
    useH3Connection.run (c.heard settings reset l) = .ok ((), c.heard settings reset l) := by
  have h : ¬ (c.quicheH3Connection = none ∨ c.quicheConnection = none) := fun h => h.elim hh hq
  show (if c.quicheH3Connection = none ∨ c.quicheConnection = none then _ else _ : P Unit).run _ = _
  rw [if_neg h]
  rfl

/-- The loop hears each stream's own events: it goes on as long as every handler does. -/
theorem run_pollLoop (hA : Addressed c) (hq : c.quicheConnection ≠ none) (hh : c.quicheH3Connection ≠ none)
    (hios : c.Reports ios) (hl : l.map loopCells.key = c.h3Streams.map Stream.self) :
    (pollLoop ios).run (c.heard settings reset l) = .ok ((), c') ↔
      ∃ l', loopCells.Takes (c.mail (reportedEvents ios)) l l' ∧
        c' = c.heard (settings || (reportedEvents ios).any fun io => io.settings = 0)
          (reset || (reportedEvents ios).any fun io => io.event = .reset) l' := by
  induction ios generalizing settings reset l with
  | nil =>
    rw [pollLoop, run_useH3Connection hq hh]
    simp [reportedEvents, mail, eq_comm]
  | cons io ios ih =>
    by_cases hid : 0 ≤ io.streamId
    · have hreported : reportedEvents (io :: ios) = io :: reportedEvents ios := by simp [reportedEvents, hid]
      rw [Reports, hreported, List.forall_mem_cons] at hios
      obtain ⟨⟨st, hst, -, hentry⟩, hrest⟩ := hios
      obtain ⟨s, hs, hself⟩ : ∃ s ∈ l, loopCells.key s = st.self :=
        List.mem_map.1 (hl ▸ List.mem_map_of_mem hst)
      have hmail : c.mail (io :: reportedEvents ios) = (loopCells.key s, io.event) :: c.mail (reportedEvents ios) := by
        simp [mail, hentry, hself]
      have hround : (pollLoop (io :: ios)).run (c.heard settings reset l) = loopHandle s io.event >>= fun s' =>
          (pollLoop ios).run (c.heard (settings || decide (io.settings = 0)) (reset || decide (io.event = .reset))
            (loopCells.put s' l)) := by
        have hentry' : (c.heard (settings || decide (io.settings = 0)) reset l).h3StreamsMap.lookup io.streamId =
            some (some s.1.self) := hentry.trans (by rw [← hself]; rfl)
        rw [pollLoop, run_bind, run_useH3Connection hq hh]
        simp only [Int.not_lt.2 hid, ↓reduceIte, run_bind, run_checkSettings, Prog.get, Prog.run, hentry',
          streamAt_cell hA hl hs, run_dispatch hA hl hs]
        cases loopHandle s io.event <;> rfl
      rw [hround, hreported, hmail]
      simp only [takes_head (nodup_cells hA hl) hs, List.any_cons, ← Bool.or_assoc]
      rw [show loopCells.handle s io.event = loopHandle s io.event from rfl]
      cases hhandle : loopHandle s io.event with
      | error e =>
        have hfails : ∀ f : Stream × Nat → Except Fault (Unit × Connection), .error e >>= f = .error e := fun _ => rfl
        simp [hfails]
      | ok s' =>
        have hl' : (loopCells.put s' l).map loopCells.key = c.h3Streams.map Stream.self := by rw [keys_put, hl]
        refine (ih hrest hl').trans ?_
        simp
    · have hreported : reportedEvents (io :: ios) = [] := by simp [reportedEvents, hid]
      rw [pollLoop, run_bind, run_useH3Connection hq hh, hreported]
      simp [Int.not_le.1 hid, mail, eq_comm, pure, Prog.run]

theorem keys_cells (c : Connection) : c.cells.map loopCells.key = c.h3Streams.map Stream.self := by
  simp [cells, loopCells, Function.comp_def]

/-- What the loop makes of the connection: of each stream what its own events do. -/
theorem pollLoop_iff (hA : Addressed c) (hq : c.quicheConnection ≠ none) (hh : c.quicheH3Connection ≠ none)
    (hios : c.Reports ios) : (pollLoop ios).run c = .ok ((), c') ↔
      ∃ l, loopCells.Takes (c.mail (reportedEvents ios)) c.cells l ∧
        c' = c.heard (c.settingsReceived || (reportedEvents ios).any fun io => io.settings = 0)
          ((reportedEvents ios).any fun io => io.event = .reset) l := by
  rw [← c.heard_cells, run_pollLoop hA hq hh hios c.keys_cells, c.heard_cells]
  simp only [Bool.false_or]

/-- The loop asks for the session first. -/
theorem pollLoop_connected (h : (pollLoop ios).run c = .ok ((), c')) :
    c.quicheConnection ≠ none ∧ c.quicheH3Connection ≠ none := by
  have huse : ∃ c₁, useH3Connection.run c = .ok ((), c₁) := by
    cases ios with
    | nil => exact ⟨c', h⟩
    | cons io ios =>
      obtain ⟨_, c₁, huse, -, -⟩ := bind_ok h
      exact ⟨c₁, huse⟩
  obtain ⟨c₁, huse⟩ := huse
  by_contra hn
  have hnone : c.quicheH3Connection = none ∨ c.quicheConnection = none := by
    rwa [and_comm, not_and_or, not_not, not_not] at hn
  rw [useH3Connection, run_bind] at huse
  simp only [Prog.get, Prog.run, hnone, ↓reduceIte] at huse
  cases huse

end Connection

/-! ## Another order -/

/-- The events of one stream id, as they are reported. -/
def eventsOf (id : Int) (ios : List PollIo) : List H3Event :=
  inbox id ((reportedEvents ios).map fun io => (io.streamId, io.event))

/-- The same events of each stream, in the same order; between streams the order may differ. -/
structure SameEvents (ios ios' : List PollIo) : Prop where
  events : ∀ id, eventsOf id ios = eventsOf id ios'
  settings : (∃ io ∈ reportedEvents ios, io.settings = 0) ↔ ∃ io ∈ reportedEvents ios', io.settings = 0

theorem mem_eventsOf {id : Int} {ios : List PollIo} {event : H3Event} :
    event ∈ eventsOf id ios ↔ ∃ io ∈ reportedEvents ios, io.streamId = id ∧ io.event = event := by
  simp [eventsOf, inbox]

namespace Connection
variable {c c' : Connection} {ios ios' : List PollIo} {st : Stream}

theorem SameEvents.reports (h : SameEvents ios ios') (hios : c.Reports ios) : c.Reports ios' := by
  intro io' hio'
  have hmem : io'.event ∈ eventsOf io'.streamId ios' := mem_eventsOf.2 ⟨io', hio', rfl, rfl⟩
  rw [← h.events] at hmem
  obtain ⟨io, hio, hid, -⟩ := mem_eventsOf.1 hmem
  rw [← hid]
  exact hios io hio

/-- An active stream gets the events of the id under which the map has it. -/
theorem inbox_mail (hA : Addressed c) (hios : c.Reports ios) (hst : st ∈ c.h3Streams) :
    inbox st.self (c.mail (reportedEvents ios)) =
      if c.h3StreamsMap.lookup st.streamId = some (some st.self) then eventsOf st.streamId ios else [] := by
  have hmail : ∀ io ∈ reportedEvents ios, ∃ y ∈ c.h3Streams, y.streamId = io.streamId ∧
      c.h3StreamsMap.lookup io.streamId = some (some y.self) ∧ (y.self = st.self → io.streamId = st.streamId) := by
    intro io hio
    obtain ⟨y, hy, hid, hentry⟩ := hios io hio
    refine ⟨y, hy, hid, hentry, fun hself => ?_⟩
    rw [← unique_active hA hy hst hself, hid]
  rw [inbox, mail, List.filterMap_filterMap]
  split
  · rename_i hregistered
    rw [eventsOf, inbox, List.filterMap_map]
    refine List.filterMap_congr fun io hio => ?_
    obtain ⟨y, -, -, hentry, hown⟩ := hmail io hio
    simp only [hentry, Option.join_some, Option.map_some, Option.bind_some, Function.comp_apply]
    by_cases hself : y.self = st.self
    · rw [if_pos hself, if_pos (hown hself)]
    · rw [if_neg hself, if_neg]
      intro hid
      rw [hid, hregistered] at hentry
      exact hself (Option.some.inj (Option.some.inj hentry)).symm
  · rename_i hregistered
    refine List.filterMap_eq_nil_iff.2 fun io hio => ?_
    obtain ⟨y, -, -, hentry, hown⟩ := hmail io hio
    simp only [hentry, Option.join_some, Option.map_some, Option.bind_some]
    refine if_neg fun hself => hregistered ?_
    rw [← hown hself, hentry, hself]

theorem any_reset (h : SameEvents ios ios') :
    ((reportedEvents ios).any fun io => io.event = .reset) =
      (reportedEvents ios').any fun io => io.event = .reset := by
  have hiff : ∀ ios, ((reportedEvents ios).any fun io => io.event = .reset) = true ↔
      ∃ id, .reset ∈ eventsOf id ios := by
    intro ios
    simp only [List.any_eq_true, decide_eq_true_eq, mem_eventsOf]
    exact ⟨fun ⟨io, hio, h⟩ => ⟨io.streamId, io, hio, rfl, h⟩, fun ⟨_, io, hio, _, h⟩ => ⟨io, hio, h⟩⟩
  rw [Bool.eq_iff_iff, hiff, hiff]
  simp only [h.events]

theorem any_settings (h : SameEvents ios ios') :
    ((reportedEvents ios).any fun io => io.settings = 0) = (reportedEvents ios').any fun io => io.settings = 0 := by
  rw [Bool.eq_iff_iff]
  simpa only [List.any_eq_true, decide_eq_true_eq] using h.settings

/-- The loop ends in the same state, or faults as well. -/
theorem agree_pollLoop (hA : Addressed c) (hios : c.Reports ios) (h : SameEvents ios ios') :
    (pollLoop ios).Agree (pollLoop ios') c := by
  have hios' : c.Reports ios' := SameEvents.reports h hios
  have htakes : ∀ l, loopCells.Takes (c.mail (reportedEvents ios)) c.cells l ↔
      loopCells.Takes (c.mail (reportedEvents ios')) c.cells l := by
    intro l
    refine takes_congr fun s hs => ?_
    obtain ⟨st, hst, rfl⟩ := List.mem_map.1 hs
    show inbox st.self _ = inbox st.self _
    rw [inbox_mail hA hios hst, inbox_mail hA hios' hst, h.events]
  intro _ c'
  by_cases hc : c.quicheConnection ≠ none ∧ c.quicheH3Connection ≠ none
  · rw [pollLoop_iff hA hc.1 hc.2 hios, pollLoop_iff hA hc.1 hc.2 hios', any_reset h, any_settings h]
    simp only [htakes]
  · exact ⟨fun h => absurd (pollLoop_connected h) hc, fun h => absurd (pollLoop_connected h) hc⟩

/-! ## The calls around the loop -/

theorem addressed_same (h : SameStreams c c') (hA : Addressed c) : Addressed c' := by
  have hstreams : c'.streams = c.streams := by rw [streams, streams, h.active, h.stock, h.error]
  constructor
  · rw [hstreams]
    exact hA.nodup
  · rw [hstreams, h.next]
    exact hA.lt

theorem Reports.same (h : SameStreams c c') (hios : c.Reports ios) : c'.Reports ios := by
  unfold Reports
  rw [h.active, h.map]
  exact hios

/-- What sends and receives keeps the streams and the map. -/
theorem Untouching.kept {β : Type} {p : P β} {b : β} (h : Untouching p) (hrun : p.run c = .ok (b, c'))
    (hA : Addressed c) (hios : c.Reports ios) : Addressed c' ∧ c'.Reports ios :=
  Acts.kept (J := fun c => Addressed c ∧ c.Reports ios) h
    (fun _ _ ha h => ⟨addressed_same (sameStreams ha.1) h.1, h.2.same (sameStreams ha.1)⟩) ⟨hA, hios⟩ hrun

theorem agree_update {io : UpdateIo} (hA : Addressed c) (hios : c.Reports io.polls) (h : SameEvents io.polls ios') :
    (update io).Agree (update { io with polls := ios' }) c := by
  have hwait : ∀ c, Addressed c → c.Reports io.polls →
      (updatePhaseWait io).Agree (updatePhaseWait { io with polls := ios' }) c := by
    intro c hA hios
    refine Agree.bind (Agree.refl _ _) fun c₁ c₂ hget => ?_
    cases hget
    split
    · exact Agree.refl _ _
    split
    · exact Agree.refl _ _
    exact Agree.bind (agree_pollLoop hA hios h) fun _ _ _ => Agree.refl _ _
  have hphase : ∀ c, Addressed c → c.Reports io.polls →
      (updatePhase io).Agree (updatePhase { io with polls := ios' }) c := by
    intro c hA hios
    refine Agree.bind (Agree.refl _ _) fun c₁ c₂ hget => ?_
    cases hget
    refine Agree.bind ?_ fun _ _ _ => Agree.refl _ _
    cases c.phase
    case wait => exact hwait c hA hios
    all_goals exact Agree.refl _ _
  refine Agree.bind (Agree.refl _ _) fun r c₁ hsend => ?_
  obtain ⟨hA, hios⟩ := Untouching.kept (Within.untouching (within_send _) (by decide)) hsend hA hios
  split
  · exact Agree.refl _ _
  refine Agree.bind (Agree.refl _ _) fun r c₂ hreceive => ?_
  obtain ⟨hA, hios⟩ := Untouching.kept (Within.untouching (within_receive _) (by decide)) hreceive hA hios
  split
  · exact Agree.refl _ _
  exact hphase c₂ hA hios

end Connection

/-! ## Whole runs -/

/-- The same call, but quiche may report the events of different streams in another order. -/
inductive Reordered : Op → Op → Prop
  | same (op : Op) : Reordered op op
  | update {io : UpdateIo} {ios : List PollIo} : SameEvents io.polls ios →
      Reordered (.update io) (.update { io with polls := ios })

/-- The condition: an Update is reported events of streams under way only. -/
def EventsMeet (c : Connection) : Act → Prop
  | .call (.update io) => c.Reports io.polls
  | _ => True

instance (c : Connection) (a : Act) : Decidable (EventsMeet c a) := by
  cases a with
  | call op => cases op <;> (dsimp only [EventsMeet]; infer_instance)
  | _ => exact inferInstanceAs (Decidable True)

/-- The callbacks of a run, each with the state it is issued in. -/
def callbacks (hist : List (Connection × Act)) : List (Connection × Act) :=
  hist.filter fun e => e.2.callback = some true

theorem callbacks_append (hist hist' : List (Connection × Act)) :
    callbacks (hist ++ hist') = callbacks hist ++ callbacks hist' :=
  List.filter_append ..

section Runs
variable {c c' : Connection} {op op' : Op} {ops ops' : List Op}

theorem addressed_run (hA : Addressed c) (hrun : op.run.run c = .ok ((), c')) : Addressed c' := by
  have hcall : Addressed (apply (Act.call op) c) := addressed_apply hA trivial
  have hends := ((guarded_body op _).sound (fun _ _ hA _ hE => addressed_apply hA hE) hcall
    fun _ _ => trivial).2
  have hbody : op.body.run (apply (Act.call op) c) = .ok ((), c') := hrun
  rw [hbody] at hends
  exact hends.2

theorem Reordered.agree (h : Reordered op op') (hA : Addressed c) (hM : EventsMeet c (.call op)) :
    op.run.Agree op'.run c := by
  cases h with
  | same => exact Agree.refl _ _
  | @update io ios h =>
    have hupdate : (Connection.update io).Agree (Connection.update { io with polls := ios }) (c.begun io) :=
      agree_update (addressed_apply (a := .call (.update io)) hA trivial) hM h
    have hbody : (Op.update io).body.Agree (Op.update { io with polls := ios }).body (c.begun io) :=
      Agree.bind hupdate fun _ _ _ => Agree.refl _ _
    exact hbody

/-- An Update issues no callback. -/
theorem callbacks_update (io : UpdateIo) (c : Connection) : callbacks ((Op.run (.update io)).trace c) = [] := by
  refine List.filter_eq_nil_iff.2 fun e he => ?_
  rcases List.mem_cons.1 he with rfl | he
  · simp [Act.callback]
  · have hmay := may_callback ((acts_body (.update io)).mem he)
    simp [hmay, Op.issues]

theorem Reordered.callbacks (h : Reordered op op') (c : Connection) :
    callbacks (op.run.trace c) = callbacks (op'.run.trace c) := by
  cases h with
  | same => rfl
  | update => rw [callbacks_update, callbacks_update]

theorem reordered_from (h : List.Forall₂ Reordered ops ops') (hA : Addressed c)
    (hM : ∀ e ∈ (exec ops).trace c, EventsMeet e.1 e.2) :
    (exec ops).Agree (exec ops') c ∧ callbacks ((exec ops).trace c) = callbacks ((exec ops').trace c) := by
  induction h generalizing c with
  | nil => exact ⟨Agree.refl _ _, rfl⟩
  | @cons op op' ops ops' hop _ ih =>
    have hfirst : op.run.Agree op'.run c := hop.agree hA (hM (c, .call op) List.mem_cons_self)
    have hrest : ∀ c₁, op.run.run c = .ok ((), c₁) →
        (exec ops).Agree (exec ops') c₁ ∧ callbacks ((exec ops).trace c₁) = callbacks ((exec ops').trace c₁) := by
      intro c₁ hrun
      refine ih (addressed_run hA hrun) fun e he => hM e ?_
      rw [trace_session_cons, hrun]
      exact List.mem_append_right _ he
    constructor
    · exact Agree.bind hfirst fun _ c₁ hrun => (hrest c₁ hrun).1
    · rw [trace_session_cons, trace_session_cons, callbacks_append, callbacks_append, hop.callbacks c]
      cases hrun : op.run.run c with
      | ok r =>
        rw [(hfirst r.1 r.2).1 hrun]
        exact congrArg _ (hrest r.2 hrun).2
      | error e =>
        cases hrun' : op'.run.run c with
        | ok r => cases ((hfirst r.1 r.2).2 hrun').symm.trans hrun
        | error e' => rfl

/-- If quiche only reports events of streams under way, then the order in which it reports the events of different
streams makes no difference to a run: not to where it ends, and not to a callback. -/
theorem events_reordered (hostName port : String) (h : List.Forall₂ Reordered ops ops')
    (hM : ∀ e ∈ (exec ops).trace (new hostName port), EventsMeet e.1 e.2) :
    (∀ c, (exec ops).run (new hostName port) = .ok ((), c) ↔ (exec ops').run (new hostName port) = .ok ((), c)) ∧
      callbacks ((exec ops).trace (new hostName port)) = callbacks ((exec ops').trace (new hostName port)) := by
  obtain ⟨hagree, hcallbacks⟩ := reordered_from h (addressed_new hostName port) hM
  exact ⟨hagree (), hcallbacks⟩

end Runs

/-- Two requests are answered, the events of both in one loop. -/
def twoAnswers (ios : List PollIo) : List Op :=
  connectOps ++ [.publishRequest {}, .publishRequest {}, .update {}, .update { polls := ios },
    .issueCallbacks fun _ => {}]

/-- First all of stream 0, then all of stream 4. -/
def inTurn : List PollIo :=
  [{ streamId := 0, event := .data (.buffered [1]) }, { streamId := 0, event := .finished },
    { streamId := 4, event := .data (.buffered [2]) }, { streamId := 4, event := .finished }]

/-- One event of each in turn. -/
def interleaved : List PollIo :=
  [{ streamId := 4, event := .data (.buffered [2]) }, { streamId := 0, event := .data (.buffered [1]) },
    { streamId := 4, event := .finished }, { streamId := 0, event := .finished }]

theorem sameEvents_two : SameEvents inTurn interleaved := by
  constructor
  · intro id
    by_cases h0 : id = 0
    · subst h0
      rfl
    by_cases h4 : id = 4
    · subst h4
      rfl
    simp [eventsOf, inbox, reportedEvents, inTurn, interleaved, Ne.symm h0, Ne.symm h4]
  · decide

theorem events_reordered_two : ∃ c, (exec (twoAnswers inTurn)).run (new "h" "443") = .ok ((), c) ∧
    (exec (twoAnswers interleaved)).run (new "h" "443") = .ok ((), c) ∧
    callbacks ((exec (twoAnswers inTurn)).trace (new "h" "443")) =
      callbacks ((exec (twoAnswers interleaved)).trace (new "h" "443")) ∧
    (callbacks ((exec (twoAnswers inTurn)).trace (new "h" "443"))).length = 2 := by
  have h : List.Forall₂ Reordered (twoAnswers inTurn) (twoAnswers interleaved) :=
    .cons (.same _) (.cons (.same _) (.cons (.same _) (.cons (.same _) (.cons (.same _) (.cons (.same _)
      (.cons (.update sameEvents_two) (.cons (.same _) .nil)))))))
  obtain ⟨hrun, hcallbacks⟩ := events_reordered "h" "443" h (by decide)
  exact ⟨_, rfl, (hrun _).1 rfl, hcallbacks, rfl⟩

end Nhh3
