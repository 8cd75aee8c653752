import Nhh3.Queues
/-!
# How many requests are in flight, and in which order they start

Streams become active in `StartStream` only, which leaves room for each, and the
limit is fixed once the connection works. The stock is a queue: requests enter at
its end and are started from its front, as long as nothing puts streams back.
-/

namespace Nhh3

open Lib Lib.Prog Connection

/-! ## The limit -/

def Op.updates : Op → Bool
  | .update _ => true
  | _ => false

def Op.configures : Op → Bool
  | .setOptions _ => true
  | _ => false

/-- SetOptions is called only before the first Update. -/
def ConfiguredFirst (ops : List Op) : Prop :=
  ops.Pairwise fun op op' => op.updates = true → op'.configures = false

instance (ops : List Op) : Decidable (ConfiguredFirst ops) :=
  inferInstanceAs (Decidable (ops.Pairwise fun op op' => op.updates = true → op'.configures = false))

section Limit
variable {c : Connection} {a : Act}

theorem options_apply (ha : ∀ options, a ≠ .setOptions options) : (apply a c).options = c.options := by
  cases hr : a.reports with
  | true =>
    obtain ⟨d, hd⟩ := reports_apply (c := c) hr
    rw [hd]
    rfl
  | false =>
    cases a with
    | setOptions options => exact absurd rfl (ha options)
    | publishRequest req => simp only [apply, publishRequest_eq]
    | createSocket io =>
      obtain ⟨d, hd⟩ := createSocket_shape (c := c) io
      simp only [apply, hd]
      rfl
    | initializeQuiche io =>
      obtain ⟨d, hd⟩ := initializeQuiche_shape (c := c) io
      simp only [apply, hd]
      rfl
    | _ => first | rfl | exact Bool.noConfusion hr

/-- Only `StartStream` makes the list of active streams longer. -/
theorem length_apply (hE : Enabled c a) (ha : a.ofStart = false) :
    (apply a c).h3Streams.length ≤ c.h3Streams.length := by
  cases hm : a.moves with
  | false => rw [(sameStreams hm).active]
  | true =>
    cases a with
    | publishRequest req =>
      simp only [apply, publishRequest_eq]
      exact le_refl _
    | takeProgress => exact (List.length_map ..).le
    | eventHeaders _ _ st => exact (List.length_map ..).le
    | eventData _ _ st => exact (List.length_map ..).le
    | eventFinished _ st => exact (List.length_map ..).le
    | startShutdown => exact (List.length_map ..).le
    | abort => exact Nat.zero_le _
    | requeueStreams => exact Nat.zero_le _
    | finishShutdown => exact Nat.zero_le _
    | success st => exact List.length_eraseP_le
    | streamRetry st => exact hE.elim
    | _ => first | exact le_refl _ | exact Bool.noConfusion ha | exact Bool.noConfusion hm

theorem bounded_apply (hE : Enabled c a) (hK : ∀ options, a = .setOptions options → c.h3Streams = [])
    (h : c.h3Streams.length ≤ c.options.maxConcurrentStreams) :
    (apply a c).h3Streams.length ≤ (apply a c).options.maxConcurrentStreams := by
  cases a with
  | setOptions options =>
    have hnone : (apply (Act.setOptions options) c).h3Streams = [] := hK options rfl
    rw [hnone]
    exact Nat.zero_le _
  | startStream st id =>
    obtain ⟨_, hst, -⟩ := hE
    have hroom := hst.room
    simp only [apply, activate, List.length_append, List.length_singleton]
    omega
  | _ =>
    rw [options_apply (by simp)]
    refine le_trans ?_ h
    first | exact length_apply hE rfl | exact le_refl _

end Limit

/-! ## SetOptions before the first Update -/

/-- Only Update starts streams. -/
theorem acts_other {op : Op} (h : op.updates = false) : op.body.Acts fun a => a.ofStart = false := by
  cases op with
  | update io => cases h
  | reconnect n now =>
    exact Acts.bind ((within_reconnect n).mono fun a ha => ofStart_of_part ha (by decide)) fun _ => trivial
  | issueCallbacks starts =>
    refine (acts_body (.issueCallbacks starts)).mono fun a ha => ?_
    cases a <;> first | rfl | cases ha
  | _ =>
    refine (acts_body _).mono ?_
    rintro a rfl
    rfl

theorem acts_exec {G : Act → Prop} (hcall : ∀ op, G (.call op)) {ops : List Op}
    (h : ∀ op ∈ ops, op.body.Acts G) : (exec ops).Acts G := by
  induction ops with
  | nil => trivial
  | cons op ops ih =>
    refine Acts.bind (Acts.perform (hcall op) (h op List.mem_cons_self)) fun _ => ?_
    exact ih fun op' hop => h op' (List.mem_cons_of_mem _ hop)

/-- Where the options are set no stream was started yet. -/
theorem configured_first {ops : List Op} (hops : ConfiguredFirst ops) {s c : Connection}
    {options : QwfsOptions} {hist : List (Connection × Act)}
    (hp : (exec ops).Performs s hist c (.setOptions options)) : ∀ e ∈ hist, e.2.ofStart = false := by
  obtain ⟨ops₁, op, ops₂, c₁, rfl, -, ⟨-, -, ha⟩ | ⟨mid, rfl, hmid⟩⟩ := exec_performs hp
  · cases ha
  have hop : ∃ o, op = .setOptions o := by
    have hmay := hmid (c, .setOptions options) (by simp)
    cases op with
    | setOptions o => exact ⟨o, rfl⟩
    | _ => cases hmay
  obtain ⟨o, rfl⟩ := hop
  intro e he
  rcases List.mem_append.1 he with he | he
  · -- no call before is an Update
    have hno : ∀ op ∈ ops₁, op.updates = false := by
      intro op hop
      have h := (List.pairwise_append.1 hops).2.2 op hop _ List.mem_cons_self
      cases hu : op.updates with
      | false => rfl
      | true => cases h hu
    have hacts : (exec ops₁).Acts fun a => a.ofStart = false :=
      acts_exec (fun _ => rfl) fun op hop => acts_other (hno op hop)
    exact hacts.mem he
  rcases List.mem_cons.1 he with rfl | he
  · rfl
  · have hmay : e.2 = .setOptions o := hmid e (List.mem_append_left _ he)
    rw [hmay]
    rfl

/-- Before the first stream is started none is active. -/
theorem idle_unstarted {hostName port : String} {ops : List Op} {hist : List (Connection × Act)}
    {c : Connection} (hv : (exec ops).Visits (new hostName port) hist c) (h : ∀ e ∈ hist, e.2.ofStart = false) :
    c.h3Streams = [] := by
  refine exec_inv (J := fun hist c => (∀ e ∈ hist, e.2.ofStart = false) → c.h3Streams = [])
    (K := fun _ _ => True) (fun _ => rfl) (fun hist c a hA hE _ hJ hhist => ?_) (fun _ _ => trivial) hv h
  have hidle := hJ fun e he => hhist e (List.mem_append_left _ he)
  refine active_nil hA hE hidle ?_
  rintro st id rfl
  have hstart := hhist (c, .startStream st id) (by simp)
  cases hstart

/-! ## The order -/

/-- The ticket of the stream that `StartStream` starts. -/
def startedBy : Connection × Act → Option Stream.Ticket
  | (_, .startStream st _) => some st.ticket
  | _ => none

/-- The requests started, in order. -/
def started (hist : List (Connection × Act)) : List Stream.Ticket := hist.filterMap startedBy

/-- The actions of Abort, Reconnect and the end of an error shutdown, which take requests out of their
order. A Retry only has what the last puts into the error stock. -/
def Act.reorders : Act → Bool
  | .abort | .requeueStreams | .finishShutdown => true
  | _ => false

/-- Nothing failed, and what was published was started or waits behind it. -/
structure Queued (hist : List (Connection × Act)) (c : Connection) : Prop where
  error : c.h3StreamsErrorStock = []
  order : issued hist = started hist ++ c.h3StreamsStock.map Stream.ticket

section Order
variable {hist : List (Connection × Act)} {c : Connection} {a : Act}

/-- What enters the queue enters at its end, and what leaves it leaves from the front. -/
theorem stock_apply (hA : Addressed c) (hE : Enabled c a) (ha : a.reorders = false)
    (herror : c.h3StreamsErrorStock = []) (herror' : (apply a c).h3StreamsErrorStock = []) :
    (startedBy (c, a)).toList ++ (apply a c).h3StreamsStock.map Stream.ticket =
      c.h3StreamsStock.map Stream.ticket ++ (issuedBy (c, a)).toList := by
  cases harr : a.arranges with
  | false =>
    obtain ⟨-, hwaiting, -⟩ := arranged_keep hA hE harr
    rw [waiting, waiting, herror, herror', List.append_nil, List.append_nil] at hwaiting
    have hstarted : startedBy (c, a) = none := by cases a <;> first | rfl | cases harr
    have hissued : issuedBy (c, a) = none := by cases a <;> first | rfl | cases harr
    rw [hstarted, hissued, hwaiting]
    exact (List.append_nil _).symm
  | true =>
    cases a with
    | publishRequest req =>
      have hs : (apply (Act.publishRequest req) c).h3StreamsStock =
          c.h3StreamsStock ++ [Stream.new c.nextStream c.hostName req] := by
        simp only [apply, publishRequest_eq]
      rw [hs, List.map_append]
      rfl
    | startStream st' id =>
      obtain ⟨st, ⟨-, -, -, ⟨rest, hfirst⟩, io, hstart⟩, -⟩ := hE
      simp [startedBy, issuedBy, apply, activate, hfirst, Stream.start_ticket hstart]
    | success st => exact (List.append_nil _).symm
    | _ => first | exact Bool.noConfusion ha | exact Bool.noConfusion harr

theorem queued_apply (hA : Addressed c) (hE : Enabled c a) (ha : a.reorders = false) (h : Queued hist c) :
    Queued (hist ++ [(c, a)]) (apply a c) := by
  have herror : (apply a c).h3StreamsErrorStock = [] := by
    refine errorStock_empty hE ?_ h.error
    rintro rfl
    cases ha
  have hstarted : started (hist ++ [(c, a)]) = started hist ++ (startedBy (c, a)).toList := filterMap_concat ..
  refine { error := herror, order := ?_ }
  rw [issued_concat, hstarted, h.order, List.append_assoc, List.append_assoc, stock_apply hA hE ha h.error herror]

end Order

/-! ## Every run -/

/-- If the options are set before the first Update, no state has more active streams than allowed, so
the unsigned difference in `StartStream` is the difference. Without Abort, Reconnect and errors the
requests started so far are the first ones published. -/
theorem concurrency {hostName port : String} {ops : List Op} :
    (ConfiguredFirst ops → ∀ hist c, (exec ops).Visits (new hostName port) hist c →
      c.h3Streams.length ≤ c.options.maxConcurrentStreams ∧
      ((c.options.maxConcurrentStreams - c.h3Streams.length : Nat) : Int) =
        c.options.maxConcurrentStreams - c.h3Streams.length) ∧
    ((∀ e ∈ (exec ops).trace (new hostName port), e.2.reorders = false) →
      ∀ hist c, (exec ops).Visits (new hostName port) hist c → started hist <+: issued hist) := by
  constructor
  · intro hops hist c hv
    have hbound : c.h3Streams.length ≤ c.options.maxConcurrentStreams := by
      refine visits_inv (J := fun _ c => c.h3Streams.length ≤ c.options.maxConcurrentStreams)
        (Nat.zero_le _) (fun hist c a hp h => bounded_apply (exec_enabled hp).2 ?_ h) hv
      rintro options rfl
      exact idle_unstarted hp.visits (configured_first hops hp)
    exact ⟨hbound, Int.ofNat_sub hbound⟩
  · intro hM hist c hv
    have hJ : Queued hist c := exec_inv { error := rfl, order := rfl }
      (fun _ _ _ hA hE ha h => queued_apply hA hE ha h) hM hv
    rw [hJ.order]
    exact List.prefix_append _ _

/-- One request at a time is allowed, and two are published. -/
def limitedOps : List Op :=
  .setOptions { maxConcurrentStreams := 1 } :: connectOps ++
    [.publishRequest {}, .publishRequest {}, .update {}]

theorem concurrency_limited : ∃ hist c, (exec limitedOps).Visits (new "h" "443") hist c ∧
    c.h3Streams.length ≤ c.options.maxConcurrentStreams ∧ c.h3Streams.length = 1 ∧
    started hist <+: issued hist ∧ (issued hist).length = 2 := by
  have hv := visits_end (p := exec limitedOps) (s := new "h" "443") rfl
  exact ⟨_, _, hv, (concurrency.1 (by decide) _ _ hv).1, rfl, concurrency.2 (by decide) _ _ hv, rfl⟩

end Nhh3
