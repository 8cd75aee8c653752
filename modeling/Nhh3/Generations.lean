import Nhh3.Status
/-!
# One connection generation at a time

The HTTP/3 session belongs to the current QUIC connection, and so do the active
streams. `UpdatePhaseInitialize` frees nothing, so this holds of the runs that
enter it only with no connection left.
-/

namespace Nhh3

open Lib Lib.Prog Connection

/-- The session and the active streams belong to the current connection. -/
structure OneGeneration (c : Connection) : Prop where
  transport : ∀ h, c.quicheH3Connection = some h → c.quicheConnection = some h.transport
  streams : ∀ st ∈ c.h3Streams,
    st.quicheQuicConnection = c.quicheConnection ∧ st.quicheH3Connection = c.quicheH3Connection

/-- A handle that the action replaces has been freed. -/
structure FreesOld (c c' : Connection) : Prop where
  quic : ∀ q, c.quicheConnection = some q → c'.quicheConnection ≠ some q → q ∈ c'.freed
  h3 : ∀ h, c.quicheH3Connection = some h → c'.quicheH3Connection ≠ some h → h ∈ c'.freedH3

/-- The condition: `UpdatePhaseInitialize` finds no connection, a shutdown starts
with no request under way, and an Abort ends with no stream active. -/
def OneGenerationMeets (c : Connection) : Act → Prop
  | .initializeQuiche _ => c.quicheConnection = none
  | .startShutdown => ∀ st ∈ c.h3Streams, st.status ≠ .connecting
  | .finishAbort => c.h3Streams = []
  | _ => True

instance (c : Connection) (a : Act) : Decidable (OneGenerationMeets c a) := by
  apply Act.casesOn (motive := fun a => Decidable (OneGenerationMeets c a)) a <;> intros <;>
    (dsimp only [OneGenerationMeets]; infer_instance)

/-- With no session, and before a socket is there, no stream is active. -/
structure Generation (c : Connection) : Prop extends OneGeneration c where
  unused : c.quicheH3Connection = none → c.h3Streams = []
  unstarted : c.phase = .createSocket → c.h3Streams = []

namespace Connection
variable {c : Connection} {a : Act}

/-- Only `Reconnect` and the end of an Abort lead to phase CreateSocket. -/
theorem createSocket_entered (hE : Enabled c a) (h : (apply a c).phase = .createSocket) :
    c.phase = .createSocket ∨ a = .requeueStreams ∨ a = .finishAbort := by
  rw [phase_apply hE] at h
  cases a with
  | requeueStreams => exact .inr (.inl rfl)
  | finishAbort => exact .inr (.inr rfl)
  | createSocket io => exact .inl hE
  | initializeQuiche io =>
    simp only [Act.turns] at h
    split_ifs at h <;> first | exact .inl h | cases h
  | recvFailed e =>
    simp only [Act.turns] at h
    split_ifs at h <;> cases h
  | timeout closed =>
    simp only [Act.turns] at h
    split_ifs at h <;> first | exact .inl h | cases h
  | _ => first | exact .inl h | cases h

theorem unstarted_apply (hA : Addressed c) (hE : Enabled c a)
    (hm : a = .finishAbort → c.h3Streams = []) (h : c.phase = .createSocket → c.h3Streams = [])
    (hp : (apply a c).phase = .createSocket) : (apply a c).h3Streams = [] := by
  rcases createSocket_entered hE hp with hp' | rfl | rfl
  · -- no stream is started in phase CreateSocket
    refine active_nil hA hE (h hp') ?_
    rintro st id rfl
    obtain ⟨_, hst, -⟩ := hE
    rcases hst.phase with h | h | h <;> rw [hp'] at h <;> cases h
  · rfl
  · exact hm rfl

end Connection

theorem generation_apply {c : Connection} {a : Act} (hA : Addressed c) (hE : Enabled c a)
    (hM : OneGenerationMeets c a) (h : Generation c) : Generation (apply a c) := by
  have hunstarted := unstarted_apply hA hE (by rintro rfl; exact hM) h.unstarted
  -- what makes or frees a handle finds no active stream; all else keeps the handles
  cases hc : a.connects with
  | true =>
    cases a with
    | createSocket io =>
      obtain ⟨hq, hh, -⟩ := handles_createSocket (c := c) io
      have hnil := active_nil hA hE (h.unstarted hE) (by simp)
      simp only [apply] at hnil hunstarted ⊢
      exact { transport := by simp [hh], streams := by simp [hnil], unused := fun _ => hnil,
              unstarted := hunstarted }
    | initializeQuiche io =>
      obtain ⟨hq, hh, -⟩ := handles_initializeQuiche (c := c) io
      -- a session would belong to a connection
      have hnone : c.quicheH3Connection = none := by
        rw [Option.eq_none_iff_forall_ne_some]
        intro h3 h3eq
        have hquic := h.transport h3 h3eq
        rw [hM] at hquic
        cases hquic
      have hnil := active_nil hA hE (h.unused hnone) (by simp)
      simp only [apply] at hnil hunstarted ⊢
      exact { transport := by simp [hh, hnone], streams := by simp [hnil], unused := fun _ => hnil,
              unstarted := hunstarted }
    | newH3Connection ok =>
      have hnil := active_nil hA hE (h.unused hE.2) (by simp)
      refine { transport := fun h3 heq => ?_, streams := by simp [hnil], unused := fun _ => hnil,
               unstarted := hunstarted }
      simp only [apply, newH3Connection] at heq ⊢
      split at heq
      · obtain ⟨q, hq, rfl⟩ := Option.map_eq_some_iff.1 heq
        exact hq
      · cases heq
    | _ => exact Bool.noConfusion hc
  | false =>
    obtain ⟨hq, hh, -⟩ := sameHandles (c := c) hc
    refine { transport := by rw [hq, hh]; exact h.transport, streams := ?_, unused := ?_,
             unstarted := hunstarted }
    · intro x hx
      rw [hq, hh]
      cases active_from hA hE hx with
      | @kept _ y _ hy hb =>
        have hold := h.streams y hy
        cases hb with
        | same => exact hold
        | progress => exact hold
        | handled hh => rwa [hh.handles.1, hh.handles.2.1]
        | shutdown => rwa [Stream.shutdown, if_neg (Ne.symm (hM _ hy))]
      | started hst hid =>
        -- `Start` stores the handles it is given
        obtain ⟨q, h3, hq', hh', rfl⟩ := starting_started hst hid
        exact ⟨hq'.symm, hh'.symm⟩
    · intro hnone
      rw [hh] at hnone
      refine active_nil hA hE (h.unused hnone) ?_
      rintro st id rfl
      obtain ⟨_, hst, -⟩ := hE
      obtain ⟨q, h3, -, hh⟩ := starting_handles hst
      rw [hnone] at hh
      cases hh

theorem freesOld_apply {c : Connection} {a : Act} (hE : Enabled c a) (hM : OneGenerationMeets c a) :
    FreesOld c (apply a c) := by
  cases hc : a.connects with
  | false =>
    obtain ⟨hq, hh, -⟩ := sameHandles (c := c) hc
    constructor
    · intro q h hne
      exact absurd (hq.trans h) hne
    · intro h3 h hne
      exact absurd (hh.trans h) hne
  | true =>
    cases a with
    | createSocket io =>
      obtain ⟨-, -, hf, hf3, -⟩ := handles_createSocket (c := c) io
      simp only [apply]
      exact ⟨fun q h _ => by simp [hf, h], fun h3 h _ => by simp [hf3, h]⟩
    | initializeQuiche io =>
      obtain ⟨-, hh, -⟩ := handles_initializeQuiche (c := c) io
      simp only [apply]
      constructor
      · intro q h hne
        rw [hM] at h
        cases h
      · intro h3 h hne
        exact absurd (hh.trans h) hne
    | newH3Connection ok =>
      constructor
      · intro q h hne
        exact absurd h hne
      · intro h3 h hne
        rw [hE.2] at h
        cases h
    | _ => exact Bool.noConfusion hc

/-- In a run that meets the condition, every state has one generation, and no
step replaces a handle that was not freed. -/
theorem one_generation {hostName port : String} {ops : List Op}
    (hM : ∀ e ∈ (exec ops).trace (new hostName port), OneGenerationMeets e.1 e.2) :
    (∀ hist c, (exec ops).Visits (new hostName port) hist c → OneGeneration c) ∧
    (∀ hist c a, (exec ops).Performs (new hostName port) hist c a → FreesOld c (apply a c)) := by
  have h0 : Generation (new hostName port) :=
    { transport := fun _ h => (nomatch h), streams := fun _ h => (nomatch h), unused := fun _ => rfl,
      unstarted := fun _ => rfl }
  constructor
  · intro hist c hv
    have h := exec_inv (J := fun _ => Generation) h0
      (fun _ c a hA hE hM h => generation_apply hA hE hM h) hM hv
    exact h.toOneGeneration
  · intro hist c a hp
    exact freesOld_apply (exec_enabled hp).2 (hM _ hp.mem)

theorem one_generation_download :
    OneGeneration (after (new "h" "443") ((exec (connectOps ++ downloadOps)).trace (new "h" "443"))) :=
  (one_generation (by decide)).1 _ _ ⟨List.prefix_rfl, rfl⟩

/-- A send error, a Retry, and the Updates that consume it: the old connection is
replaced unfreed, and the old session stays. -/
def retryOps : List Op :=
  connectOps ++ [.update { send := [{ writeSize := QuicheErr.tlsFail }] }, .retry, .update {}, .update {}]

theorem one_generation_retry : ∃ hist c, (exec retryOps).Visits (new "h" "443") hist c ∧
    ¬ OneGeneration c ∧ c.quicheConnection = some 2 ∧ 0 ∉ c.freed :=
  ⟨(exec retryOps).trace (new "h" "443"), _, ⟨List.prefix_rfl, rfl⟩,
    fun h => absurd (h.transport ⟨1, 0⟩ (by decide)) (by decide), by decide, by decide⟩

end Nhh3
