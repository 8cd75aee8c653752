import Nhh3.Requests
/-!
# Events reach the request that owns the stream id

The entries of the map are the active streams under the ids they hold. An entry
goes wrong when `Stream::Clear` zeroes the id of a stream that stays in the map,
and when `emplace` finds a leftover under the id that quiche hands out.
-/

namespace Nhh3

open Lib Lib.Prog Connection

/-- The non-null entries of the map are the active streams under their ids. -/
structure Routed (c : Connection) : Prop where
  registered : ∀ st ∈ c.h3Streams, c.h3StreamsMap.lookup st.streamId = some (some st.self)
  entries : ∀ id p, c.h3StreamsMap.lookup id = some (some p) →
    ∃ st ∈ c.h3Streams, st.self = p ∧ st.streamId = id

/-- The condition: a shutdown finds no request under way with a stream id other
than 0, and quiche hands out ids that the map has no entry for. -/
def RoutingMeets (c : Connection) : Act → Prop
  | .startShutdown => ∀ st ∈ c.h3Streams, st.status = .connecting → st.streamId = 0
  | .startStream _ id => id ∉ c.h3StreamsMap
  | _ => True

instance (c : Connection) (a : Act) : Decidable (RoutingMeets c a) := by
  apply Act.casesOn (motive := fun a => Decidable (RoutingMeets c a)) a <;> intros <;>
    (dsimp only [RoutingMeets]; infer_instance)

section Step
variable {c : Connection} {a : Act} {x x' : Stream}

/-- Only a shutdown changes the id of an active stream. -/
theorem Becomes.keeps (ha : a ≠ .startShutdown) (h : Becomes c a x x') : x'.streamId = x.streamId := by
  cases h with
  | same => rfl
  | progress => rfl
  | handled h => exact h.handles.2.2
  | shutdown => exact absurd rfl ha

/-- Under the condition an active stream keeps the id it has. -/
theorem Becomes.streamId (hM : RoutingMeets c a) (hx : x ∈ c.h3Streams) (h : Becomes c a x x') :
    x'.streamId = x.streamId := by
  by_cases ha : a = .startShutdown
  · subst ha
    cases h with
    | same => rfl
    | handled hh => cases hh
    | shutdown =>
      unfold Stream.shutdown
      split
      · exact (hM x hx (Eq.symm ‹_›)).symm
      · rfl
  · exact h.keeps ha

/-- An active stream that stays keeps its entry. -/
theorem not_erased (hA : Addressed c) (hE : Enabled c a) (hR : Routed c) (hx : x ∈ c.h3Streams)
    (hx' : x' ∈ (apply a c).h3Streams) (hb : Becomes c a x x') : ¬ a.erases c x.streamId := by
  intro he
  cases a with
  | success st =>
    -- the delivered stream is the only one registered under its id
    have h1 := hR.registered st hE.1
    rw [show st.streamId = x.streamId from he, hR.registered x hx] at h1
    have hself : x.self = st.self := by simpa using h1
    have hne := (mem_dropDelivered hA hE.1 hx').2
    exact hne (hb.self.trans hself)
  | requeueStreams => cases hx'
  | abort => cases hx'
  | finishShutdown => cases hx'
  | _ => exact he

/-- If active streams keep their ids, an entry leads to an active stream with its id. -/
theorem entry_active (hA : Addressed c) (hE : Enabled c a)
    (hid : ∀ x ∈ c.h3Streams, ∀ x', Becomes c a x x' → x'.streamId = x.streamId)
    (h : ∀ id p, c.h3StreamsMap.lookup id = some (some p) → ∃ st ∈ c.h3Streams, st.self = p ∧ st.streamId = id)
    (id : Int) (p : Nat) (hentry : (apply a c).h3StreamsMap.lookup id = some (some p)) :
    ∃ st ∈ (apply a c).h3Streams, st.self = p ∧ st.streamId = id := by
  rcases (entry_iff hE).1 hentry with ⟨hold, he⟩ | ⟨st', rfl, rfl, -⟩
  · obtain ⟨x, hx, rfl, rfl⟩ := h id p hold
    -- what takes a stream off the list takes its entry out of the map
    have ht : ¬ a.takes x := by
      intro ht
      cases a with
      | success st =>
        obtain rfl := unique_active hA hE.1 hx ht
        exact he rfl
      | requeueStreams => exact he ⟨x, hx, rfl⟩
      | abort => exact he trivial
      | finishShutdown => exact he trivial
      | _ => exact ht
    obtain ⟨x', hx', hb⟩ := active_to hA hE hx ht
    exact ⟨x', hx', hb.self, hid x hx x' hb⟩
  · obtain ⟨st, hst, hid⟩ := hE
    exact ⟨st', List.mem_append_right _ (List.mem_singleton.2 rfl), rfl, starting_streamId hst hid⟩

theorem routed_apply (hA : Addressed c) (hE : Enabled c a) (hM : RoutingMeets c a) (h : Routed c) :
    Routed (apply a c) := by
  refine { registered := ?_, entries := entry_active hA hE (fun x hx x' hb => hb.streamId hM hx) h.entries }
  intro x' hx'
  rw [entry_iff hE]
  cases active_from hA hE hx' with
  | @kept _ x _ hx hb =>
    rw [hb.streamId hM hx, hb.self]
    exact .inl ⟨h.registered x hx, not_erased hA hE h hx hx' hb⟩
  | @started st st' id hst hid =>
    rw [starting_streamId hst hid]
    exact .inr ⟨x', rfl, rfl, hM⟩

end Step

/-! ## Owners -/

/-- The request that was started last under a stream id of the connection `q`. -/
def owner (hist : List (Connection × Act)) (q : Option Nat) (id : Int) : Option Stream.Ticket :=
  hist.foldl (fun o e => match e with
    | (c, .startStream st k) => if c.quicheConnection = q ∧ k = id then some st.ticket else o
    | _ => o) none

theorem owner_concat (hist : List (Connection × Act)) (c : Connection) (a : Act) (q : Option Nat) (id : Int) :
    owner (hist ++ [(c, a)]) q id = match a with
      | .startStream st k => if c.quicheConnection = q ∧ k = id then some st.ticket else owner hist q id
      | _ => owner hist q id := by
  simp only [owner, List.foldl_append, List.foldl_cons, List.foldl_nil]
  cases a <;> rfl

/-- Streams were started on connections that quiche has already made. -/
structure Started (hist : List (Connection × Act)) (c : Connection) : Prop where
  current : ∀ q, c.quicheConnection = some q → q < c.nextHandle
  past : ∀ q id, owner hist q id ≠ none → ∃ n, q = some n ∧ n < c.nextHandle

/-- Routing, and each active stream is the owner of its id. -/
structure Owned (hist : List (Connection × Act)) (c : Connection) : Prop extends
    Routed c, Started hist c where
  owners : ∀ st ∈ c.h3Streams, ∀ t, owner hist c.quicheConnection st.streamId = some t → st.ticket = t

section Step
variable {hist : List (Connection × Act)} {c : Connection} {a : Act}

theorem started_apply (hE : Enabled c a) (h : Started hist c) : Started (hist ++ [(c, a)]) (apply a c) := by
  have hpast : ∀ q id, owner (hist ++ [(c, a)]) q id ≠ none → ∃ n, q = some n ∧ n < c.nextHandle := by
    intro q id ho
    rw [owner_concat] at ho
    cases a with
    | startStream st k =>
      dsimp only at ho
      split at ho
      · rename_i hq
        obtain ⟨_, hst, -⟩ := hE
        obtain ⟨n, -, hn, -⟩ := starting_handles hst
        exact ⟨n, hq.1 ▸ hn, h.current n hn⟩
      · exact h.past q id ho
    | _ => exact h.past q id ho
  have hmono : c.nextHandle ≤ (apply a c).nextHandle := nextHandle_mono
  constructor
  · intro q hq
    cases hc : a.connects with
    | false =>
      obtain ⟨hq', -, -, -, hn⟩ := sameHandles (c := c) hc
      rw [hn]
      exact h.current q (hq' ▸ hq)
    | true =>
      cases a with
      | createSocket io =>
        rw [show (apply (Act.createSocket io) c) = (c.createSocket io).1 from rfl,
          (handles_createSocket io).1] at hq
        cases hq
      | initializeQuiche io =>
        obtain ⟨hq', -, -, -, hn⟩ := handles_initializeQuiche (c := c) io
        simp only [apply, hq', hn] at hq ⊢
        split at hq
        · cases hq
          exact Nat.lt_succ_self _
        · cases hq
      | newH3Connection ok => exact (h.current q hq).trans (Nat.lt_succ_self _)
      | _ => exact Bool.noConfusion hc
  · intro q id ho
    obtain ⟨n, rfl, hn⟩ := hpast q id ho
    exact ⟨n, rfl, hn.trans_le hmono⟩

/-- A connection that was just made owns no id yet. -/
theorem owner_connects (hc : a.connects = true) (h : Started hist c) (id : Int) :
    owner (hist ++ [(c, a)]) (apply a c).quicheConnection id =
      if (apply a c).quicheConnection = c.quicheConnection then owner hist c.quicheConnection id
      else none := by
  split
  · rename_i heq
    rw [owner_concat, heq]
    cases a <;> first | rfl | exact Bool.noConfusion hc
  · rename_i hne
    by_contra ho
    -- ids are owned on connections before `nextHandle` only
    obtain ⟨n, hn, hlt⟩ : ∃ n, (apply a c).quicheConnection = some n ∧ n < c.nextHandle := by
      rw [owner_concat] at ho
      refine h.past _ id ?_
      cases a <;> first | exact ho | exact Bool.noConfusion hc
    cases a with
    | createSocket io =>
      rw [show (apply (Act.createSocket io) c) = (c.createSocket io).1 from rfl,
        (handles_createSocket io).1] at hn
      cases hn
    | initializeQuiche io =>
      rw [show (apply (Act.initializeQuiche io) c) = (c.initializeQuiche io).1 from rfl,
        (handles_initializeQuiche io).1] at hn
      split at hn
      · cases hn
        exact lt_irrefl _ hlt
      · cases hn
    | newH3Connection ok => exact hne rfl
    | _ => exact Bool.noConfusion hc

theorem owned_apply (hA : Addressed c) (hE : Enabled c a) (hM : RoutingMeets c a) (h : Owned hist c) :
    Owned (hist ++ [(c, a)]) (apply a c) := by
  refine { toRouted := routed_apply hA hE hM h.toRouted, toStarted := started_apply hE h.toStarted,
           owners := ?_ }
  intro x' hx' t ho
  cases active_from hA hE hx' with
  | @kept _ x _ hx hb =>
    rw [hb.ticket]
    rw [hb.streamId hM hx] at ho
    cases hc : a.connects with
    | true =>
      rw [owner_connects hc h.toStarted] at ho
      split at ho
      · exact h.owners x hx t ho
      · cases ho
    | false =>
      rw [(sameHandles (c := c) hc).quic, owner_concat] at ho
      cases a with
      | startStream st k =>
        dsimp only at ho
        split at ho
        · rename_i hk
          -- the id was handed out although `x` is registered under it
          refine absurd ?_ hM
          rw [hk.2, ← AList.lookup_isSome, h.registered x hx]
          rfl
        · exact h.owners x hx t ho
      | _ => exact h.owners x hx t ho
  | @started st st' id hst hid =>
    rw [starting_streamId hst hid, owner_concat] at ho
    dsimp only at ho
    rw [if_pos ⟨rfl, rfl⟩] at ho
    exact Option.some.inj ho

end Step

theorem exec_routed {hostName port : String} {ops : List Op} {hist : List (Connection × Act)} {c : Connection}
    (hM : ∀ e ∈ (exec ops).trace (new hostName port), RoutingMeets e.1 e.2)
    (hv : (exec ops).Visits (new hostName port) hist c) : Routed c :=
  exec_inv (J := fun _ => Routed) { registered := fun _ h => (nomatch h), entries := fun _ _ h => (nomatch h) }
    (fun _ _ _ hA hE hM h => routed_apply hA hE hM h) hM hv

/-- In a run that meets the condition, the map is exact in every state, and every
event reaches the request that owns its stream id on the current connection. -/
theorem event_routing {hostName port : String} {ops : List Op}
    (hM : ∀ e ∈ (exec ops).trace (new hostName port), RoutingMeets e.1 e.2) :
    (∀ hist c, (exec ops).Visits (new hostName port) hist c → Routed c) ∧
    (∀ hist c a, (exec ops).Performs (new hostName port) hist c a → ∀ id st,
      ((∃ list, a = .eventHeaders id list st) ∨ (∃ body, a = .eventData id body st) ∨
        a = .eventFinished id st) →
      (∃ x ∈ c.h3Streams, x.ticket = st.ticket ∧ x.streamId = id) ∧
      ∀ t, owner hist c.quicheConnection id = some t → st.ticket = t) := by
  have h0 : Owned [] (new hostName port) :=
    { registered := fun _ h => (nomatch h), entries := fun _ _ h => (nomatch h),
      current := fun _ h => (nomatch h), past := fun _ _ h => absurd rfl h,
      owners := fun _ h => (nomatch h) }
  have hJ : ∀ hist c, (exec ops).Visits (new hostName port) hist c → Owned hist c := by
    intro hist c hv
    exact exec_inv h0 (fun _ _ _ hA hE hM h => owned_apply hA hE hM h) hM hv
  constructor
  · exact fun hist c hv => exec_routed hM hv
  · intro hist c a hp id st ha
    obtain ⟨hA, hE⟩ := exec_enabled hp
    obtain ⟨st₀, hd, ht⟩ : ∃ st₀, Dispatched c id st₀ ∧ st.ticket = st₀.ticket := by
      rcases ha with ⟨list, rfl⟩ | ⟨body, rfl⟩ | rfl
      · obtain ⟨st₀, hd, hst⟩ := hE
        exact ⟨st₀, hd, Stream.eventHeaders_ticket hst⟩
      · obtain ⟨st₀, hd, hst⟩ := hE
        exact ⟨st₀, hd, Stream.eventData_ticket hst⟩
      · obtain ⟨st₀, hd, rfl⟩ := hE
        exact ⟨st₀, hd, rfl⟩
    -- the entry leads to an active stream, which the address makes `st₀`
    have hO := hJ hist c hp.visits
    obtain ⟨x, hx, hself, hid⟩ := hO.entries id _ hd.entry
    obtain rfl := dispatched_eq hA hd hx hself
    subst hid
    rw [ht]
    exact ⟨⟨x, hx, rfl, rfl⟩, hO.owners x hx⟩

theorem event_routing_download :
    Routed (after (new "h" "443") ((exec (connectOps ++ downloadOps)).trace (new "h" "443"))) :=
  (event_routing (by decide)).1 _ _ ⟨List.prefix_rfl, rfl⟩

/-- Two requests are under way when the server resets the first: the shutdown that
follows zeroes the id of the second, which the map keeps under 4. -/
def resetOps : List Op :=
  connectOps ++ [.publishRequest {}, .publishRequest {}, .update {}, eventsOp [(0, .reset)], .update {}]

theorem event_routing_reset : ∃ hist c, (exec resetOps).Visits (new "h" "443") hist c ∧ ¬ Routed c ∧
    c.h3StreamsMap.lookup 4 = some (some 1) ∧ c.h3Streams.map Stream.streamId = [0, 0] :=
  ⟨(exec resetOps).trace (new "h" "443"), _, ⟨List.prefix_rfl, rfl⟩,
    fun h => absurd h.registered (by decide), by decide, by decide⟩

end Nhh3
