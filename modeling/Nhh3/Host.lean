import Nhh3.Callbacks
import Nhh3.Lib.Component
/-!
# Two threads on one connection: Nhh3Impl.cs

The caller's thread publishes requests and issues callbacks, the worker's runs
`UpdateQwfs`. They share the native connection, each call under `_lockObject`,
and three flags that the caller sets and the worker takes with
`Interlocked.Exchange`. A run is any interleaving of their atomic steps.
-/

namespace Nhh3

open Lib Lib.Prog

/-- Where the worker is in the loop of `UpdateQwfs`: about to take a flag, or to make the call. -/
inductive Worker where
  | takeRetry | retry | takeAbort | abort | takeReconnect | reconnect | update
  deriving DecidableEq, Repr

/-- The state of an `Nhh3Impl`. -/
structure Host where
  connection : Connection
  externalId : Nat
  requestRetry : Bool
  requestAbort : Bool
  requestRecconect : Bool
  worker : Worker

/-- The arguments of one request. -/
structure RequestParamaters where
  path : String := ""
  saveFilePath : String := ""
  headers : List (String × String) := []
  deriving DecidableEq, Repr

/-- What `PublishRequest` passes to `qwfsGetRequest`: the path starts with a slash. -/
def RequestParamaters.request (r : RequestParamaters) : Request where
  path := some (if r.path.startsWith "/" then r.path else "/" ++ r.path)
  saveFilePath := some r.saveFilePath
  headers := r.headers

/-- The atomic steps: one of the worker, with what its call is answered, or a call of the caller. -/
inductive HostOp where
  | updateQwfs (io : UpdateIo)
  | publishRequest (requests : List RequestParamaters)
  | update (starts : Nat → StartIo)
  | retry
  | abort
  | reconnect

namespace Host

/-- The constructor `Nhh3Impl`, before the options are set. -/
def new (hostName port : String) : Host where
  connection := .new hostName port
  externalId := 0
  requestRetry := false
  requestAbort := false
  requestRecconect := false
  worker := .takeRetry

/-- The native calls a step makes. `Update` also reads the status. -/
def calls (h : Host) : HostOp → List Op
  | .updateQwfs io => match h.worker with
    | .retry => [.retry]
    | .abort => [.abort]
    | .reconnect => [.reconnect io.availableDcids io.now]
    | .update => [.update io]
    | _ => []
  | .publishRequest requests => requests.map fun r => .publishRequest r.request
  | .update starts => [.getProgress, .issueCallbacks starts]
  | .retry | .abort | .reconnect => []

/-- The worker goes on in the loop of `UpdateQwfs`. -/
def updateQwfs (h : Host) : Host :=
  match h.worker with
  | .takeRetry => { h with requestRetry := false, worker := if h.requestRetry then .retry else .takeAbort }
  | .retry => { h with worker := .takeAbort }
  | .takeAbort => { h with requestAbort := false, worker := if h.requestAbort then .abort else .takeReconnect }
  | .abort => { h with worker := .takeReconnect }
  | .takeReconnect =>
    { h with requestRecconect := false, worker := if h.requestRecconect then .reconnect else .update }
  | .reconnect => { h with worker := .update }
  | .update => { h with worker := .takeRetry }

end Host

/-- An action of the native connection, or the end of a step. -/
inductive HostAct where
  | native (a : Act)
  | step (op : HostOp)

instance : Machine Host HostAct where
  apply
    | .native a, h => { h with connection := apply a h.connection }
    | .step (.updateQwfs _), h => h.updateQwfs
    | .step (.publishRequest requests), h => { h with externalId := h.externalId + requests.length }
    | .step (.update _), h => h
    | .step .retry, h => { h with requestRetry := true }
    | .step .abort, h => { h with requestAbort := true }
    | .step .reconnect, h => { h with requestRecconect := true }

/-- The action of the native connection, if it is one. -/
def HostAct.own : HostAct → Option Act
  | .native a => some a
  | .step _ => none

theorem connection_apply (b : HostAct) (h : Host) :
    (apply b h).connection = b.own.elim h.connection fun a => apply a h.connection := by
  cases b with
  | native a => rfl
  | step op =>
    cases op with
    | updateQwfs io => simp only [apply, Host.updateQwfs]; split <;> rfl
    | _ => rfl

/-- The native connection is a component. -/
def nativeConnection : Component Connection Act Host HostAct where
  view := Host.connection
  act := .native
  own := HostAct.own
  own_act := fun _ => rfl
  view_apply := connection_apply

/-- One atomic step. -/
abbrev HostOp.run (op : HostOp) : Prog Host HostAct Fault Unit :=
  nativeConnection.Calls Host.calls .step Op.run op

/-- A run: the constructor sets the options, then the two threads take steps. -/
def hostExec (options : QwfsOptions) (ops : List HostOp) : Prog Host HostAct Fault Unit := do
  nativeConnection.lift (exec [.setOptions options])
  session HostOp.run ops

variable {hostName port : String} {options : QwfsOptions} {ops : List HostOp}
  {hist : List (Host × HostAct)} {h : Host}

/-! ## Every interleaving is a run of the connection -/

/-- What a run does to the native connection is a run of native calls. -/
theorem host_project (options : QwfsOptions) (ops : List HostOp) (h : Host) : ∃ ops',
    nativeConnection.project ((hostExec options ops).trace h) = (exec ops').trace h.connection :=
  nativeConnection.start_project (fun _ => rfl) [Op.setOptions options] ops h

theorem host_visits (hv : (hostExec options ops).Visits (.new hostName port) hist h) : ∃ ops',
    nativeConnection.project ((hostExec options ops).trace (.new hostName port)) =
      (exec ops').trace (.new hostName port) ∧
    (exec ops').Visits (.new hostName port) (nativeConnection.project hist) h.connection := by
  obtain ⟨ops', hops'⟩ := host_project options ops (.new hostName port)
  refine ⟨ops', hops', ?_, ?_⟩
  · have hprefix := nativeConnection.project_prefix hv.1
    rwa [hops'] at hprefix
  · rw [hv.2]
    exact nativeConnection.view_after ..

theorem mem_native {c : Connection} {a : Act} :
    (c, a) ∈ nativeConnection.project hist ↔ ∃ h, (h, .native a) ∈ hist ∧ h.connection = c := by
  constructor
  · intro hmem
    obtain ⟨h, b, hmem, hown, hview⟩ := nativeConnection.mem_project hmem
    cases b with
    | native a' =>
      cases hown
      exact ⟨h, hmem, hview⟩
    | step op => cases hown
  · rintro ⟨h, hmem, rfl⟩
    exact List.mem_filterMap.2 ⟨_, hmem, rfl⟩

/-- Every action of the native connection is `Enabled`, in a state with unique addresses. -/
theorem host_enabled {a : Act} (he : (h, .native a) ∈ (hostExec options ops).trace (.new hostName port)) :
    Addressed h.connection ∧ Enabled h.connection a := by
  obtain ⟨ops', hops'⟩ := host_project options ops (.new hostName port)
  have hmem := mem_native.2 ⟨h, he, rfl⟩
  rw [hops'] at hmem
  obtain ⟨hist, hp⟩ := performs_of_mem hmem
  exact exec_enabled hp

/-- What every enabled action of the native connection keeps holds of it wherever the two threads come. -/
theorem host_inv {J : List (Connection × Act) → Connection → Prop} {K : Connection → Act → Prop}
    (h0 : J [] (.new hostName port))
    (hstep : ∀ hist c a, Addressed c → Enabled c a → K c a → J hist c → J (hist ++ [(c, a)]) (apply a c))
    (hK : ∀ h a, (h, .native a) ∈ (hostExec options ops).trace (.new hostName port) → K h.connection a)
    (hv : (hostExec options ops).Visits (.new hostName port) hist h) :
    J (nativeConnection.project hist) h.connection := by
  obtain ⟨ops', hops', hv'⟩ := host_visits hv
  refine exec_inv h0 hstep (fun e he => ?_) hv'
  rw [← hops'] at he
  obtain ⟨h₁, he, hc⟩ := mem_native.1 he
  exact hc ▸ hK h₁ e.2 he

/-! ## Whose Abort it is -/

theorem rest_native (a : Act) (h : Host) : (apply (HostAct.native a) h).worker = h.worker := rfl

/-- An action of the native connection belongs to the calls of one step, and the worker is where it
was when the step began. -/
theorem native_call {a : Act} (he : (h, .native a) ∈ (hostExec options ops).trace (.new hostName port)) :
    (∃ c, (h.connection, a) ∈ (exec [.setOptions options]).trace c) ∨
      ∃ op, ∃ h₁ : Host, h.worker = h₁.worker ∧
        (h.connection, a) ∈ (exec (h₁.calls op)).trace h₁.connection := by
  rw [hostExec, trace_bind, List.mem_append] at he
  rcases he with he | he
  · obtain ⟨-, a', ha, hmem⟩ := nativeConnection.lift_frame rest_native he
    cases ha
    exact .inl ⟨_, hmem⟩
  split at he
  case h_2 => cases he
  obtain ⟨hist, hp⟩ := performs_of_mem he
  obtain ⟨-, op, -, h₁, mid, -, -, -, hp⟩ := session_performs HostOp.run hp
  obtain ⟨hworker, hmem⟩ := nativeConnection.calls_act rest_native rfl hp.mem
  exact .inr ⟨op, h₁, hworker, hmem⟩

/-- Only the worker aborts the native connection. -/
theorem abort_worker (he : (h, .native .abort) ∈ (hostExec options ops).trace (.new hostName port)) :
    h.worker = .abort := by
  have hcall : ∀ {ops' : List Op} {c s : Connection}, (c, .abort) ∈ (exec ops').trace s → .abort ∈ ops' := by
    intro ops' c s hmem
    obtain ⟨op, hop, ha | hmay⟩ := exec_may hmem
    · cases ha
    · cases op with
      | abort => exact hop
      | _ => cases hmay
  rcases native_call he with ⟨c, hmem⟩ | ⟨op, h₁, hworker, hmem⟩
  · simpa using hcall hmem
  have hop := hcall hmem
  rw [hworker]
  cases op with
  | updateQwfs io =>
    cases hw : h₁.worker <;> simp [Host.calls, hw] at hop ⊢
  | _ => simp [Host.calls] at hop

/-! ## A request is only lost to an Abort -/

/-- An `Abort` of the caller has not reached the native connection yet. -/
def Host.aborting (h : Host) : Bool := h.requestAbort || h.worker = .abort

/-- The worker takes an `Abort` along, and starts none. -/
theorem aborting_updateQwfs (haborting : h.aborting = false) : h.updateQwfs.aborting = false := by
  obtain ⟨c, id, r, a, rc, w⟩ := h
  cases w <;> cases a <;> cases r <;> cases rc <;> first | rfl | cases haborting

/-- Whether a request is published in the action, or was before and `Abort` is not called. -/
def HostAct.late (late : Bool) : HostAct → Bool
  | .step .abort => false
  | .native (.publishRequest _) => true
  | _ => late

/-- Whether a request was published since the caller's last `Abort`. -/
def late (hist : List (Host × HostAct)) : Bool := hist.foldl (fun late e => e.2.late late) false

theorem late_concat (hist : List (Host × HostAct)) (e : Host × HostAct) :
    late (hist ++ [e]) = e.2.late (late hist) := by
  simp [late]

/-- The action is an `Abort` of the native connection that takes effect. -/
def HostAct.discards : HostAct → Bool
  | .native .abort => true
  | _ => false

/-- The worker's `qwfsAbort` only takes effect if no request was published since the caller's
last `Abort`. -/
def Prompt (hist : List (Host × HostAct)) : Prop :=
  ∀ n < hist.length, (hist[n]?.any fun e => e.2.discards) = true → late (hist.take n) = false

instance (hist : List (Host × HostAct)) : Decidable (Prompt hist) :=
  inferInstanceAs (Decidable (∀ n < hist.length, _ → _))

theorem late_published {pre post : List (Host × HostAct)} {h₀ : Host} {req : Request}
    (hpost : ∀ h₁, (h₁, HostAct.step .abort) ∉ post) :
    late (pre ++ (h₀, .native (.publishRequest req)) :: post) = true := by
  induction post using List.reverseRecOn with
  | nil => exact late_concat ..
  | append_singleton post e ih =>
    have hrest := ih fun h₁ hmem => hpost h₁ (List.mem_append_left _ hmem)
    rw [← List.cons_append, ← List.append_assoc, late_concat, hrest]
    obtain ⟨h₁, a⟩ := e
    cases a with
    | native a => cases a <;> rfl
    | step op =>
      cases op with
      | abort => exact absurd (by simp) (hpost h₁)
      | _ => rfl

theorem prompt_late {trace pre post : List (Host × HostAct)} {h₁ : Host} (hprompt : Prompt trace)
    (hp : pre ++ (h₁, .native .abort) :: post <+: trace) : late pre = false := by
  obtain ⟨rest, rfl⟩ := hp
  have h := hprompt pre.length (by simp) (by simp [HostAct.discards])
  simpa using h

/-- A run is prompt if nothing is published while an `Abort` is on its way. -/
theorem prompt_of_waiting (hwait : ∀ h req, (h, .native (.publishRequest req)) ∈
      (hostExec options ops).trace (.new hostName port) → h.aborting = false) :
    Prompt ((hostExec options ops).trace (.new hostName port)) := by
  have hinv : ∀ hist h, (hostExec options ops).Visits (.new hostName port) hist h →
      late hist = true → h.aborting = false := by
    intro hist h hv
    refine visits_inv (J := fun hist h => late hist = true → h.aborting = false) nofun ?_ hv
    intro hist h a hp hlate hnow
    rw [late_concat] at hnow
    cases a with
    | native a =>
      show h.aborting = false
      cases a with
      | publishRequest req => exact hwait h req hp.mem
      | _ => exact hlate hnow
    | step op =>
      cases op with
      | updateQwfs io => exact aborting_updateQwfs (hlate hnow)
      | abort => cases hnow
      | _ => exact hlate hnow
  intro n hn hdis
  obtain ⟨⟨h, a⟩, he⟩ : ∃ e, ((hostExec options ops).trace (.new hostName port))[n]? = some e :=
    ⟨_, List.getElem?_eq_getElem hn⟩
  rw [he] at hdis
  have ha : a = .native .abort := by
    cases a with
    | native a => cases a <;> first | rfl | cases hdis
    | step op => cases hdis
  subst ha
  have hp := performs_split he
  by_contra hlate
  have haborting := hinv _ _ hp.visits (by simpa using hlate)
  simp [Host.aborting, abort_worker hp.mem] at haborting

/-- A request published after `Abort` has returned stays in the connection until it is delivered,
or `Abort` is called again. -/
theorem abort_future (hv : (hostExec options ops).Visits (.new hostName port) hist h)
    (hprompt : Prompt ((hostExec options ops).trace (.new hostName port)))
    {pre post : List (Host × HostAct)} {h₀ : Host} {req : Request}
    (hpub : hist = pre ++ (h₀, .native (.publishRequest req)) :: post) :
    (Stream.new h₀.connection.nextStream h₀.connection.hostName req).ticket ∈
        h.connection.streams.map Stream.ticket ∨
      (∃ h₁ st, (h₁, .native (.success st)) ∈ post ∧
        st.ticket = (Stream.new h₀.connection.nextStream h₀.connection.hostName req).ticket) ∨
      ∃ h₁, (h₁, .step .abort) ∈ post := by
  subst hpub
  by_contra hlost
  simp only [not_or, not_exists, not_and] at hlost
  obtain ⟨hpending, hdel, habort⟩ := hlost
  obtain ⟨ops', -, hv'⟩ := host_visits hv
  rw [nativeConnection.project_append] at hv'
  refine hpending (published_pending hv' (fun hmem => ?_) fun hmem => ?_)
  · obtain ⟨⟨c, a⟩, he, hticket⟩ := List.mem_filterMap.1 hmem
    obtain ⟨h₁, he, -⟩ := mem_native.1 he
    cases a with
    | success st => exact hdel h₁ st he (Option.some.inj hticket)
    | _ => cases hticket
  · obtain ⟨⟨c, a⟩, he, hticket⟩ := List.mem_flatMap.1 hmem
    obtain ⟨h₁, he, -⟩ := mem_native.1 he
    cases a with
    | abort =>
      -- the request is late there
      obtain ⟨post₁, post₂, rfl⟩ := List.append_of_mem he
      have hlate : late (pre ++ (h₀, .native (.publishRequest req)) :: post₁) = true :=
        late_published fun h₂ h => habort h₂ (List.mem_append_left _ h)
      have hearly : late (pre ++ (h₀, .native (.publishRequest req)) :: post₁) = false :=
        prompt_late hprompt (by simpa using hv.1)
      rw [hlate] at hearly
      cases hearly
    | _ => cases hticket

/-- One iteration of the worker in which no flag is set. -/
def iterationOps (io : UpdateIo) : List HostOp :=
  [.updateQwfs {}, .updateQwfs {}, .updateQwfs {}, .updateQwfs io]

def hostConnectOps : List HostOp :=
  iterationOps {} ++ iterationOps {} ++ iterationOps { established := true }

/-- A request published once the worker has made the call is not lost. -/
theorem abort_future_answered : ∃ pre h₀ req post h,
    (hostExec {} (hostConnectOps ++ [.abort, .updateQwfs {}, .updateQwfs {}, .updateQwfs {},
      .publishRequest [{}], .updateQwfs {}, .updateQwfs { established := true }])).Visits
        (.new "h" "443") (pre ++ (h₀, .native (.publishRequest req)) :: post) h ∧
    ((Stream.new h₀.connection.nextStream h₀.connection.hostName req).ticket ∈
        h.connection.streams.map Stream.ticket ∨
      (∃ h₁ st, (h₁, .native (.success st)) ∈ post ∧
        st.ticket = (Stream.new h₀.connection.nextStream h₀.connection.hostName req).ticket) ∨
      ∃ h₁, (h₁, .step .abort) ∈ post) := by
  refine ⟨_, _, _, _, _, visits_split (n := 28) rfl, ?_⟩
  exact abort_future (visits_split (n := 28) rfl) (by decide) rfl

/-- The action ends the wait of a request: its success callback, or another `Abort`. -/
def HostAct.settles : HostAct → Bool
  | .native (.success _) | .step .abort => true
  | _ => false

/-- A request published after `Abort` has returned, but before the worker takes the flag, is lost. -/
theorem abort_future_overtaken : ∃ pre h₀ req post h,
    (hostExec {} (hostConnectOps ++ [.abort, .publishRequest [{}], .updateQwfs {}, .updateQwfs {},
      .updateQwfs {}])).Visits (.new "h" "443") (pre ++ (h₀, .native (.publishRequest req)) :: post) h ∧
    (∃ h₁, (h₁, .step .abort) ∈ pre) ∧ h.connection.streams = [] ∧ ∀ e ∈ post, e.2.settles = false :=
  ⟨_, _, _, _, _, visits_split (n := 23) rfl, ⟨_, List.mem_of_getElem? (i := 21) rfl⟩, rfl, by decide⟩

end Nhh3
