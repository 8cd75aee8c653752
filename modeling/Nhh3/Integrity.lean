import Nhh3.Status
/-!
# What a success callback reports

A stream's body, headers and response code are what its handlers received since
it was last started. `Start` resets nothing but the file, so every stream that
waits has to be clean already.
-/

namespace Nhh3

open Lib Lib.Prog Connection

/-! ## What was received -/

/-- What the handlers of one stream were given. -/
structure Received where
  responseCode : Nat := 0
  headers : List Bytes := []
  body : Bytes := []

/-- A successful `Start` begins anew; headers and body data are appended. -/
def Received.step (p : Nat) (r : Received) : Connection × Act → Received
  | (_, .startStream st _) => if st.self = p then {} else r
  | (_, .eventHeaders _ list st) =>
    if st.self = p then
      { r with
        responseCode := Stream.numberIn ":status" list r.responseCode,
        headers := r.headers ++ list.flatMap fun h => [h.1, h.2] }
    else r
  | (_, .eventData _ (.buffered data _) st) =>
    if st.self = p then { r with body := r.body ++ Stream.chunk data } else r
  | _ => r

/-- What the stream at an address received since its last successful `Start`. -/
def received (hist : List (Connection × Act)) (p : Nat) : Received := hist.foldl (Received.step p) {}

/-- The response it makes for a stream with this path to save to. -/
def Received.response (r : Received) (saveFilePath : String) : Response where
  responseCode := r.responseCode
  headers := r.headers
  filePath := if saveFilePath = "" then none else some saveFilePath
  body := r.body
  bodySize := r.body.length

theorem received_concat (hist : List (Connection × Act)) (e : Connection × Act) (p : Nat) :
    received (hist ++ [e]) p = (received hist p).step p e := by
  simp [received]

theorem received_other {hist : List (Connection × Act)} {c : Connection} {a : Act} {p : Nat}
    (h : a.subject ≠ some p) : received (hist ++ [(c, a)]) p = received hist p := by
  rw [received_concat]
  cases a with
  | startStream st id => exact if_neg fun hs => h (congrArg some hs)
  | eventHeaders id list st => exact if_neg fun hs => h (congrArg some hs)
  | eventData id body st =>
    cases body with
    | buffered data _ => exact if_neg fun hs => h (congrArg some hs)
    | failed error => rfl
  | _ => rfl

/-! ## Clean and synchronised streams -/

/-- Nothing of an earlier attempt is left that `Start` would keep. -/
structure Restartable (st : Stream) : Prop where
  code : st.responseCode = 0
  headers : st.resHeaders = []
  memory : st.saveFilePath = "" → st.file = none ∧ st.writeSize = 0

instance (st : Stream) : Decidable (Restartable st) :=
  decidable_of_iff (st.responseCode = 0 ∧ st.resHeaders = [] ∧
      (st.saveFilePath = "" → st.file = none ∧ st.writeSize = 0))
    ⟨fun h => ⟨h.1, h.2.1, h.2.2⟩, fun h => ⟨h.code, h.headers, h.memory⟩⟩

/-- The stream holds exactly what was received. -/
structure InSync (r : Received) (st : Stream) : Prop where
  code : st.responseCode = r.responseCode
  headers : st.resHeaders = r.headers
  body : st.content = r.body
  filled : st.Filled
  file : st.file = none ↔ st.saveFilePath = ""

theorem InSync.response {r : Received} {st : Stream} (h : InSync r st) :
    st.response = r.response st.saveFilePath := by
  have hc := h.body
  have hf := h.file
  cases hfile : st.file with
  | none =>
    simp only [Stream.content, hfile] at hc
    have hlen : r.body.length = st.writeSize := by
      rw [← hc, List.length_take]
      exact Nat.min_eq_left (h.filled hfile)
    simp [Stream.response, Received.response, h.code, h.headers, h.body, hfile, hf.1 hfile, hlen]
  | some content =>
    simp only [Stream.content, hfile] at hc
    have hp : st.saveFilePath ≠ "" := fun hp => by simp [hf.2 hp] at hfile
    simp [Stream.response, Received.response, h.code, h.headers, h.body, hfile, hp, ← hc]

theorem restartable_new (self : Nat) (hostName : String) (req : Request) :
    Restartable (Stream.new self hostName req) :=
  ⟨rfl, rfl, fun _ => ⟨rfl, rfl⟩⟩

/-- A clean stream that is started has received nothing. -/
theorem Restartable.inSync {st : Stream} (h : Restartable st) (q : Nat) (h3 : H3Conn) (id : Int) :
    InSync {} (st.started q h3 id) := by
  by_cases hp : st.saveFilePath = ""
  · obtain ⟨hf, hw⟩ := h.memory hp
    refine ⟨h.code, h.headers, ?_, fun _ => ?_, ?_⟩ <;>
      simp [Stream.content, Stream.started, hp, hf, hw]
  · refine ⟨h.code, h.headers, ?_, fun hn => ?_, ?_⟩
    · simp [Stream.content, Stream.started, hp]
    · simp [Stream.started, hp] at hn
    · simp [Stream.started, hp]

theorem Restartable.failed {st st' : Stream} (h : Restartable st) (hf : Stream.StartFailed st st') :
    Restartable st' := by
  have hm := hf.memory
  obtain ⟨_, _, _, _, _, _, rfl⟩ := hf.rest
  exact ⟨h.code, h.headers, fun hp => ⟨(hm hp).trans (h.memory hp).1, (h.memory hp).2⟩⟩

/-- A handler of a synchronised stream appends to both sides. -/
theorem InSync.handled {c : Connection} {a : Act} {hist : List (Connection × Act)} {st st' : Stream}
    (hh : Handled c a st st') (h : InSync (received hist st.self) st) :
    InSync (received (hist ++ [(c, a)]) st'.self) st' := by
  have hself : st'.self = st.self := Stream.self_of_ticket hh.ticket
  rw [received_concat, hself]
  cases hh with
  | headers hd hst =>
    simp only [Received.step, if_pos hself]
    rw [Stream.eventHeaders_ok hst]
    exact ⟨by simp [h.code], by simp [h.headers], h.body, h.filled, h.file⟩
  | data hd hst =>
    rcases Stream.eventData_cases hst with ⟨_, _, rfl, rfl⟩ | ⟨data, _, file, block, rfl, rfl, hfile, hf⟩
    · exact ⟨h.code, h.headers, h.body, h.filled, h.file⟩
    · obtain ⟨hfilled, hcontent⟩ := hf h.filled
      simp only [Received.step, if_true]
      exact ⟨h.code, h.headers, hcontent.trans (by rw [h.body]), hfilled, hfile.trans h.file⟩
  | finished => exact ⟨h.code, h.headers, h.body, h.filled, h.file⟩

/-! ## Every run -/

/-- The condition: no stream is queued again with something left of an attempt, and
events only reach active streams that hold a connection. -/
def IntegrityMeets (c : Connection) : Act → Prop
  | .requeueStreams | .finishShutdown => ∀ st ∈ c.h3Streams, Restartable st
  | .eventHeaders _ _ st | .eventData _ _ st | .eventFinished _ st =>
    (∃ x ∈ c.h3Streams, x.self = st.self) ∧ st.quicheQuicConnection ≠ none
  | _ => True

instance (c : Connection) (a : Act) : Decidable (IntegrityMeets c a) := by
  apply Act.casesOn (motive := fun a => Decidable (IntegrityMeets c a)) a <;> intros <;>
    (dsimp only [IntegrityMeets]; infer_instance)

/-- Waiting streams are clean; active ones are synchronised, or were shut down. -/
structure Clean (hist : List (Connection × Act)) (c : Connection) : Prop where
  waiting : ∀ st ∈ c.waiting, Restartable st
  active : ∀ st ∈ c.h3Streams, InSync (received hist st.self) st ∨
    (Restartable st ∧ st.quicheQuicConnection = none ∧ st.status ≠ .completed)
  status : c.status ≠ .completed

section Step
variable {hist : List (Connection × Act)} {c : Connection} {a : Act}

theorem handled_meets {st st' : Stream} (hh : Handled c a st st') (hM : IntegrityMeets c a) :
    (∃ x ∈ c.h3Streams, x.self = st.self) ∧ st.quicheQuicConnection ≠ none := by
  have hself : st'.self = st.self := Stream.self_of_ticket hh.ticket
  have hq := hh.handles.1
  cases hh <;> exact ⟨hself ▸ hM.1, hq ▸ hM.2⟩

theorem clean_shutdown (hs : c.status ≠ .completed) {x : Stream}
    (h : InSync (received hist x.self) x ∨
      (Restartable x ∧ x.quicheQuicConnection = none ∧ x.status ≠ .completed)) :
    let x' := x.shutdown c.status c.errorDetail
    InSync (received hist x'.self) x' ∨
      (Restartable x' ∧ x'.quicheQuicConnection = none ∧ x'.status ≠ .completed) := by
  intro x'
  by_cases hx : .connecting = x.status
  · have hx' : x' = x.clear.setStatus c.status (some c.errorDetail) := if_pos hx
    rw [hx']
    exact .inr ⟨⟨rfl, rfl, fun _ => ⟨rfl, rfl⟩⟩, rfl, hs⟩
  · have hx' : x' = x := if_neg hx
    rw [hx']
    exact h

theorem clean_apply (hA : Addressed c) (hE : Enabled c a) (hM : IntegrityMeets c a) (h : Clean hist c) :
    Clean (hist ++ [(c, a)]) (apply a c) := by
  refine { waiting := ?_, active := ?_, status := status_ne_completed hE h.status }
  · intro x hx
    cases waiting_from hA hE hx with
    | same hy => exact h.waiting _ hy
    | published => exact restartable_new ..
    | handled hst hh =>
      -- events only reach active streams
      obtain ⟨⟨y, hy, hself⟩, -⟩ := handled_meets hh hM
      exact absurd hself (waiting_ne_active hA hy hst)
    | failed hst hid => exact (h.waiting _ (starting_mem hst)).failed (starting_failed hst hid)
    | requeued hy => exact hM _ hy
    | shelved hy => exact hM _ hy
  · intro x' hx'
    cases active_from hA hE hx' with
    | @kept _ x _ hx hb =>
      have hold := h.active x hx
      cases hb with
      | same hs => rwa [received_other hs]
      | progress =>
        rw [received_other (by exact nofun)]
        rcases hold with hold | hold
        · exact .inl ⟨hold.code, hold.headers, hold.body, hold.filled, hold.file⟩
        · exact .inr ⟨⟨hold.1.code, hold.1.headers, hold.1.memory⟩, hold.2⟩
      | handled hh =>
        rcases hold with hold | hold
        · exact .inl (hold.handled hh)
        · exact absurd hold.2.1 (handled_meets hh hM).2
      | shutdown =>
        rw [received_other (by exact nofun)]
        exact clean_shutdown h.status hold
    | @started st _ id hst hid =>
      obtain ⟨q, h3, -, -, hst'⟩ := starting_started hst hid
      -- what was received before counts no more, and the stream has nothing left of it
      refine .inl ?_
      rw [received_concat]
      simp only [Received.step, if_true]
      rw [hst']
      exact (h.waiting _ (starting_mem hst)).inSync q h3 id

end Step

/-- In a run that meets the condition, every success callback reports exactly what
was received since the request was last started. -/
theorem response_integrity {hostName port : String} {ops : List Op}
    (hM : ∀ e ∈ (exec ops).trace (new hostName port), IntegrityMeets e.1 e.2)
    {hist : List (Connection × Act)} {c : Connection} {st : Stream}
    (hp : (exec ops).Performs (new hostName port) hist c (.success st)) :
    st.response = (received hist st.self).response st.saveFilePath := by
  have h0 : Clean [] (new hostName port) :=
    { waiting := fun _ h => (nomatch h), active := fun _ h => (nomatch h), status := nofun }
  have hJ : Clean hist c :=
    exec_inv h0 (fun _ _ _ hA hE hM h => clean_apply hA hE hM h) hM hp.visits
  obtain ⟨hst, hdone⟩ := (exec_enabled hp).2
  rcases hJ.active st hst with h | h
  · exact h.response
  · exact absurd hdone h.2.2

theorem response_integrity_download : ∃ hist c st,
    (exec (connectOps ++ downloadOps)).Performs (new "h" "443") hist c (.success st) ∧
      st.response = (received hist st.self).response st.saveFilePath :=
  ⟨_, _, _, performs_last rfl, response_integrity (by decide) (performs_last rfl)⟩

/-- A Reconnect in the middle of an answer, and the same request again. -/
def reconnectOps : List Op :=
  connectOps ++ .publishRequest {} :: answerOps [1, 2] ++ .reconnect 0 0 :: connectOps ++
    answerOps [3] ++ deliverOps

/-- The callback reports the bytes of both attempts. -/
theorem response_integrity_reconnect : ∃ hist c st,
    (exec reconnectOps).Performs (new "h" "443") hist c (.success st) ∧
      st.response ≠ (received hist st.self).response st.saveFilePath ∧
      st.response.body = [1, 2, 3] ∧ (received hist st.self).body = [3] :=
  ⟨_, _, _, performs_last rfl, by decide⟩

end Nhh3
