import Nhh3.Lib.Order
import Nhh3.Retry
/-!
# The order of the requests

Requests wait and are started in the order in which they were published. But at the
end of a shutdown `emplace_front` in a loop turns the active ones round, and Reconnect
puts them behind those that wait.
-/

namespace Nhh3

open Lib Lib.Prog Connection
open scoped List

/-! ## One round -/

/-- No request is published or discarded, and no shutdown or Retry comes to its end. -/
def Act.between : Act → Bool
  | .publishRequest _ | .abort | .finishShutdown | .retryStream => false
  | _ => true

/-- A batch is set aside: nothing is active or waiting, and no event reaches a stream. -/
structure SetAside (batch : List Stream) (c : Connection) : Prop where
  active : c.h3Streams = []
  stock : c.h3StreamsStock = []
  error : c.h3StreamsErrorStock = batch
  map : ∀ id p, c.h3StreamsMap.lookup id ≠ some (some p)

section Round
variable {c : Connection} {a : Act} {batch : List Stream}

theorem setAside_finishShutdown (h : c.h3StreamsErrorStock = []) :
    SetAside (c.h3Streams.reverse ++ c.h3StreamsStock) (apply Act.finishShutdown c) := by
  refine ⟨rfl, h, rfl, fun id p hentry => ?_⟩
  cases hentry

/-- Where nothing waits, nothing is started. -/
theorem SetAside.not_starting (h : SetAside batch c) {st st' : Stream} {id : Int} : ¬ Starting c st st' id := by
  intro hst
  obtain ⟨rest, hfirst⟩ := hst.first
  rw [h.stock] at hfirst
  cases hfirst

theorem setAside_apply (h : SetAside batch c) (hA : Addressed c) (hE : Enabled c a) (ha : a.between = true) :
    SetAside batch (apply a c) := by
  have hactive : (apply a c).h3Streams = [] := by
    refine active_nil hA hE h.active ?_
    rintro st id rfl
    obtain ⟨_, hst, -⟩ := hE
    exact h.not_starting hst
  have hmap : ∀ id p, (apply a c).h3StreamsMap.lookup id ≠ some (some p) := by
    intro id p hentry
    rcases (entry_iff hE).1 hentry with ⟨hentry, -⟩ | ⟨st', rfl, -, -⟩
    · exact h.map id p hentry
    · obtain ⟨_, hst, -⟩ := hE
      exact h.not_starting hst
  cases hm : a.moves with
  | false =>
    have hs := sameStreams (c := c) hm
    exact ⟨hactive, hs.stock.trans h.stock, hs.error.trans h.error, hmap⟩
  | true =>
    cases a with
    | requeueStreams =>
      refine ⟨hactive, ?_, h.error, hmap⟩
      show c.h3StreamsStock ++ c.h3Streams = []
      rw [h.stock, h.active]
      rfl
    | eventHeaders id list st' =>
      obtain ⟨st, hd, -⟩ := hE
      exact absurd hd.entry (h.map _ _)
    | eventData id body st' =>
      obtain ⟨st, hd, -⟩ := hE
      exact absurd hd.entry (h.map _ _)
    | eventFinished id st' =>
      obtain ⟨st, hd, -⟩ := hE
      exact absurd hd.entry (h.map _ _)
    | startStream st' id =>
      obtain ⟨_, hst, -⟩ := hE
      exact absurd hst h.not_starting
    | startFailed st' =>
      obtain ⟨_, _, hst, -⟩ := hE
      exact absurd hst h.not_starting
    | streamRetry st => exact hE.elim
    | _ => first | exact ⟨hactive, h.stock, h.error, hmap⟩ | exact Bool.noConfusion ha | exact Bool.noConfusion hm

/-- A round: what waits once the Retry is consumed is the batch, its active part turned round. -/
theorem resumed_batch {hostName port : String} {ops : List Op} {hist mid : List (Connection × Act)}
    {c c' : Connection} (herror : c.h3StreamsErrorStock = []) (hmid : ∀ e ∈ mid, e.2.between = true)
    (hp : (exec ops).Performs (new hostName port) (hist ++ (c, .finishShutdown) :: mid) c' .retryStream) :
    (apply Act.retryStream c').h3StreamsStock = c.h3Streams.reverse ++ c.h3StreamsStock := by
  have haside : SetAside (c.h3Streams.reverse ++ c.h3StreamsStock) c' := by
    refine visits_since (G := fun a => a.between = true) (setAside_finishShutdown herror)
      (fun _ s a hperf ha h => ?_) hmid hp.visits
    obtain ⟨hA, hE⟩ := exec_enabled hperf
    exact setAside_apply h hA hE ha
  show c'.h3StreamsStock ++ c'.h3StreamsErrorStock = _
  rw [haside.stock, haside.error, List.nil_append]

end Round

/-! ## All rounds -/

/-- The requests started since a batch was last put back, after each action. -/
def roundBy (started : List Stream.Ticket) : Connection × Act → List Stream.Ticket
  | (_, .startStream st _) => started ++ [st.ticket]
  | (_, .requeueStreams) | (_, .finishShutdown) => []
  | _ => started

def thisRound (hist : List (Connection × Act)) : List Stream.Ticket := hist.foldl roundBy []

/-- Requests are started in the order in which they were published, and those behind them wait in
that order too. -/
structure InOrder (hist : List (Connection × Act)) (c : Connection) : Prop where
  active : c.h3Streams.map Stream.ticket <+ thisRound hist
  pending : thisRound hist ++ c.waiting.map Stream.ticket <+ issued hist

/-- The condition: a shutdown ends with at most one active request and nothing else set aside, nothing
is published while requests are set aside, and Reconnect finds no requests waiting behind active ones. -/
def KeepsOrder (c : Connection) : Act → Prop
  | .publishRequest _ => c.h3StreamsErrorStock = []
  | .requeueStreams => c.h3Streams = [] ∨ c.h3StreamsStock = []
  | .finishShutdown => c.h3Streams.length ≤ 1 ∧
      (c.h3Streams = [] ∧ c.h3StreamsStock = [] ∨ c.h3StreamsErrorStock = [])
  | _ => True

instance (c : Connection) (a : Act) : Decidable (KeepsOrder c a) := by
  apply Act.casesOn (motive := fun a => Decidable (KeepsOrder c a)) a <;> intros <;>
    (dsimp only [KeepsOrder]; infer_instance)

section Step
variable {c : Connection} {a : Act} {hist : List (Connection × Act)}

theorem thisRound_concat (hist : List (Connection × Act)) (e : Connection × Act) :
    thisRound (hist ++ [e]) = roundBy (thisRound hist) e := by
  rw [thisRound, List.foldl_append]
  rfl

theorem issued_nodup (hB : Booked hist c) : (issued hist).Nodup := Multiset.coe_nodup.1 hB.balanced.nodup

theorem inOrder_concat (e : Connection × Act) : InOrder (hist ++ [e]) c ↔
    c.h3Streams.map Stream.ticket <+ roundBy (thisRound hist) e ∧
      roundBy (thisRound hist) e ++ c.waiting.map Stream.ticket <+ issued hist ++ (issuedBy e).toList := by
  rw [← thisRound_concat, ← issued_concat]
  exact ⟨fun h => ⟨h.active, h.pending⟩, fun h => ⟨h.1, h.2⟩⟩

/-- What is active is in order with what waits. -/
theorem InOrder.places (h : InOrder hist c) : c.h3Streams.map Stream.ticket ++ c.h3StreamsStock.map Stream.ticket ++
    c.h3StreamsErrorStock.map Stream.ticket <+ issued hist := by
  rw [List.append_assoc, ← List.map_append]
  exact (h.active.append_right _).trans h.pending

theorem inOrder_publishRequest (hB : Booked hist c) (h : InOrder hist c) (req : Request) :
    InOrder (hist ++ [(c, .publishRequest req)]) (apply (Act.publishRequest req) c) ↔
      c.h3StreamsErrorStock = [] := by
  have hnew : (issued hist ++ [(Stream.new c.nextStream c.hostName req).ticket]).Nodup := by
    refine List.nodup_append.2 ⟨issued_nodup hB, List.nodup_singleton _, ?_⟩
    rintro t ht _ hmem rfl
    have hlt := hB.below t ht
    rw [List.mem_singleton.1 hmem] at hlt
    exact lt_irrefl _ hlt
  have hactive : (apply (Act.publishRequest req) c).h3Streams = c.h3Streams := by
    simp only [apply, publishRequest_eq]
  have hwaiting : (apply (Act.publishRequest req) c).waiting.map Stream.ticket =
      c.h3StreamsStock.map Stream.ticket ++ [(Stream.new c.nextStream c.hostName req).ticket] ++
        c.h3StreamsErrorStock.map Stream.ticket := by
    simp only [waiting, apply, publishRequest_eq, List.map_append, List.map_cons, List.map_nil]
  have hpending : thisRound hist ++ c.h3StreamsStock.map Stream.ticket ++
      c.h3StreamsErrorStock.map Stream.ticket <+ issued hist := by
    rw [List.append_assoc, ← List.map_append]
    exact h.pending
  rw [inOrder_concat, hactive, hwaiting, ← List.append_assoc, ← List.append_assoc]
  refine (and_iff_right h.active).trans ?_
  exact (concat_sublist_iff hnew hpending).trans List.map_eq_nil_iff

theorem inOrder_requeueStreams (hB : Booked hist c) (h : InOrder hist c) :
    InOrder (hist ++ [(c, .requeueStreams)]) (apply Act.requeueStreams c) ↔
      c.h3Streams = [] ∨ c.h3StreamsStock = [] := by
  have hwaiting : (apply Act.requeueStreams c).waiting.map Stream.ticket = c.h3StreamsStock.map Stream.ticket ++
      c.h3Streams.map Stream.ticket ++ c.h3StreamsErrorStock.map Stream.ticket := by
    simp only [waiting, apply, requeueStreams, setPhase, closeUdpSocket, List.map_append]
  have hfront := (List.sublist_append_left _ _).trans h.places
  have hswap := append_swap_iff (issued_nodup hB) hfront
  simp only [List.map_eq_nil_iff] at hswap
  rw [inOrder_concat, hwaiting]
  simp only [roundBy, issuedBy, Option.toList_none, List.append_nil, List.nil_append]
  constructor
  · rintro ⟨-, hp⟩
    exact hswap.1 ((List.sublist_append_left _ _).trans hp)
  · intro hempty
    refine ⟨List.nil_sublist _, ?_⟩
    have hplaces := h.places
    rcases hempty with hempty | hempty <;> simpa [hempty] using hplaces

theorem inOrder_finishShutdown (hB : Booked hist c) (h : InOrder hist c) :
    InOrder (hist ++ [(c, .finishShutdown)]) (apply Act.finishShutdown c) ↔ KeepsOrder c .finishShutdown := by
  have hwaiting : (apply Act.finishShutdown c).waiting.map Stream.ticket =
      c.h3StreamsErrorStock.map Stream.ticket ++
        ((c.h3Streams.map Stream.ticket).reverse ++ c.h3StreamsStock.map Stream.ticket) := by
    simp only [waiting, apply, stockForRetry, setPhase, closeUdpSocket, List.map_append, List.map_reverse]
  have hactive : c.h3Streams.map Stream.ticket <+ issued hist := by
    have hplaces := h.places
    rw [List.append_assoc] at hplaces
    exact (List.sublist_append_left _ _).trans hplaces
  have hreverse := reverse_sublist_iff (issued_nodup hB) hactive
  have hswap := append_swap_iff (issued_nodup hB) h.places
  rw [List.length_map] at hreverse
  simp only [List.append_eq_nil_iff, List.map_eq_nil_iff] at hswap
  rw [inOrder_concat, hwaiting]
  simp only [roundBy, issuedBy, Option.toList_none, List.append_nil, List.nil_append]
  constructor
  · rintro ⟨-, hp⟩
    have hturned := (List.sublist_append_left _ _).trans ((List.sublist_append_right _ _).trans hp)
    have hone := hreverse.1 hturned
    rw [reverse_eq_of_length (by simpa using hone)] at hp
    exact ⟨hone, hswap.1 hp⟩
  · rintro ⟨hone, hempty⟩
    rw [reverse_eq_of_length (by simpa using hone)]
    exact ⟨List.nil_sublist _, hswap.2 hempty⟩

/-- An action keeps the order exactly where it meets the condition. -/
theorem inOrder_apply (hA : Addressed c) (hE : Enabled c a) (hB : Booked hist c) (h : InOrder hist c) :
    InOrder (hist ++ [(c, a)]) (apply a c) ↔ KeepsOrder c a := by
  cases ha : a.arranges with
  | false =>
    obtain ⟨hactive, hwaiting, -⟩ := arranged_keep hA hE ha
    have hmeets : KeepsOrder c a := by cases a <;> trivial
    have hstarted : roundBy (thisRound hist) (c, a) = thisRound hist := by
      cases a <;> first | rfl | cases ha
    have hissued : issuedBy (c, a) = none := by cases a <;> first | rfl | cases ha
    rw [inOrder_concat, hactive, hwaiting, hstarted, hissued, Option.toList_none, List.append_nil]
    exact iff_of_true ⟨h.active, h.pending⟩ hmeets
  | true =>
    cases a with
    | publishRequest req => exact inOrder_publishRequest hB h req
    | requeueStreams => exact inOrder_requeueStreams hB h
    | finishShutdown => exact inOrder_finishShutdown hB h
    | abort =>
      refine iff_of_true ((inOrder_concat _).2 ⟨List.nil_sublist _, ?_⟩) trivial
      show thisRound hist ++ [] <+ issued hist ++ []
      rw [List.append_nil, List.append_nil]
      exact (List.sublist_append_left _ _).trans h.pending
    | startStream st' id =>
      obtain ⟨st, ⟨-, -, -, ⟨rest, hfirst⟩, io, hstart⟩, -⟩ := hE
      have hticket : st'.ticket = st.ticket := Stream.start_ticket hstart
      refine iff_of_true ((inOrder_concat _).2 ⟨?_, ?_⟩) trivial
      · show (c.h3Streams ++ [st']).map Stream.ticket <+ thisRound hist ++ [st'.ticket]
        rw [List.map_append]
        exact h.active.append_right _
      · show thisRound hist ++ [st'.ticket] ++ (c.h3StreamsStock.tail ++ c.h3StreamsErrorStock).map Stream.ticket <+
          issued hist ++ []
        have hp := h.pending
        rw [waiting, hfirst] at hp
        rw [hfirst, hticket, List.append_nil, List.append_assoc]
        exact hp
    | success st =>
      refine iff_of_true ((inOrder_concat _).2 ⟨?_, ?_⟩) trivial
      · exact ((List.eraseP_sublist).map _).trans h.active
      · show thisRound hist ++ c.waiting.map Stream.ticket <+ issued hist ++ []
        rw [List.append_nil]
        exact h.pending
    | _ => cases ha

end Step

/-- A batch is resumed in its order exactly if no two requests were active when the shutdown ended; and
in a run all requests stay in the order in which they were published exactly if every action meets
the condition. -/
theorem batches_in_order {hostName port : String} {ops : List Op} :
    (∀ hist c mid c', (exec ops).Performs (new hostName port) (hist ++ (c, .finishShutdown) :: mid) c' .retryStream →
      c.h3StreamsErrorStock = [] → (∀ e ∈ mid, e.2.between = true) →
      (∀ io, (updatePhase io).run c' = .ok (.ok, apply Act.retryStream c')) ∧
        ((apply Act.retryStream c').h3StreamsStock = c.h3Streams ++ c.h3StreamsStock ↔ c.h3Streams.length ≤ 1)) ∧
    ((∀ hist c, (exec ops).Visits (new hostName port) hist c → InOrder hist c) ↔
      ∀ e ∈ (exec ops).trace (new hostName port), KeepsOrder e.1 e.2) := by
  constructor
  · intro hist c mid c' hp herror hmid
    have hfinish : (exec ops).Performs (new hostName port) hist c .finishShutdown :=
      List.IsPrefix.trans ⟨mid ++ [(c', .retryStream)], by simp⟩ hp
    have hnodup : c.h3Streams.Nodup := (nodup_active (exec_enabled hfinish).1).of_map _
    refine ⟨fun io => (updatePhase_retry (exec_enabled hp).2 io).run, ?_⟩
    rw [resumed_batch herror hmid hp, List.append_cancel_right_eq, reverse_eq_self_iff hnodup]
  · refine visits_iff ⟨List.nil_sublist _, List.nil_sublist _⟩ fun hist c a hp h => ?_
    obtain ⟨hA, hE⟩ := exec_enabled hp
    exact inOrder_apply hA hE (exec_booked hp.visits) h

/-- Two requests, and a socket error. -/
def failedBatchOps (maxConcurrentStreams : Nat) : List Op :=
  .setOptions { maxConcurrentStreams } :: connectOps ++
    [.publishRequest { path := some "/a" }, .publishRequest { path := some "/b" }, .update {}] ++ socketErrorOps

/-- Only one of them may be active. -/
theorem batches_in_order_one : ∃ hist c mid c',
    (exec (failedBatchOps 1)).Performs (new "h" "443") (hist ++ (c, .finishShutdown) :: mid) c' .retryStream ∧
    c.h3Streams.length = 1 ∧ c.h3StreamsStock.length = 1 ∧
    (apply Act.retryStream c').h3StreamsStock = c.h3Streams ++ c.h3StreamsStock ∧
    ∀ hist c, (exec (failedBatchOps 1)).Visits (new "h" "443") hist c → InOrder hist c := by
  have hp := performs_split_last (p := exec (failedBatchOps 1)) (s := new "h" "443") (n := 22) rfl rfl
  obtain ⟨hround, hrun⟩ := @batches_in_order "h" "443" (failedBatchOps 1)
  exact ⟨_, _, _, _, hp, rfl, rfl, (hround _ _ _ _ hp rfl (by decide)).2.2 (by decide), hrun.2 (by decide)⟩

/-- Both are active: the second one is sent first after the Retry. -/
theorem batches_in_order_two : ∃ hist c mid c',
    (exec (failedBatchOps 2)).Performs (new "h" "443") (hist ++ (c, .finishShutdown) :: mid) c' .retryStream ∧
    c.h3StreamsErrorStock = [] ∧ (∀ e ∈ mid, e.2.between = true) ∧
    (apply Act.retryStream c').h3StreamsStock ≠ c.h3Streams ++ c.h3StreamsStock :=
  ⟨_, _, _, _, performs_split_last (n := 23) rfl rfl, rfl, by decide, by decide⟩

end Nhh3
