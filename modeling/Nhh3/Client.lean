import Mathlib.Data.List.Infix
import Mathlib.Data.List.ReduceOption
import Nhh3.Integrity
import Nhh3.Migration
import Nhh3.Responses
/-!
# What a client gets: Nhh3Impl.cs

Between the turns of a host's threads other hosts take theirs. To its native
connection that makes no difference: a lock is held from the first action of a
step to the last, so the connection sees its own calls, one after the other. What
holds in every run of a connection then holds of what its client gets.
-/

namespace Nhh3

open Lib Lib.Prog Connection

variable {text : Bytes → String} {s s' s₁ : Nhh3Statics} {log seen : List Seen} {id : Nat} {t : Turn}
  {turns : List Turn} {x x' : Nhh3Impl} {hist : List (Connection × Act)} {reqs : List Request}
  {hostName port : String} {options : QwfsOptions}

/-! ## One host among the threads -/

/-- The requests that a turn publishes on this host. -/
def Turn.publishedTo (id : Nat) : Turn → List Request
  | .lock id' (.publishRequest requests) => if id' = id then requests.map RequestParamaters.request else []
  | _ => []

def publishedTo (id : Nat) (turns : List Turn) : List Request := turns.flatMap (Turn.publishedTo id)

/-- What native code has still to do under the lock. -/
def Nhh3Impl.rest (x : Nhh3Impl) : P Unit := x.lockObject.elim (.ret ()) Prod.snd

theorem rest_free (h : x.lockObject = none) : x.rest = .ret () := by rw [Nhh3Impl.rest, h]; rfl

theorem rest_locked {op : HostOp} {rest : P Unit} (h : x.lockObject = some (op, rest)) : x.rest = rest := by
  rw [Nhh3Impl.rest, h]
  rfl

/-- Its next action, and the connection it finds. -/
def Nhh3Impl.acts (x : Nhh3Impl) : List (Connection × Act) :=
  match x.rest.next x.host.connection with
  | .act a _ => [(x.host.connection, a)]
  | _ => []

namespace Nhh3Statics

/-- The action that native code performs for this host in a turn. -/
def performed (s : Nhh3Statics) (id : Nat) : Turn → List (Connection × Act)
  | .native id' => if id' = id then (s.nhh3ImplList id).elim [] Nhh3Impl.acts else []
  | _ => []

/-- All that it performs for this host. -/
def history (text : Bytes → String) (id : Nat) : List Turn → Nhh3Statics → List (Connection × Act)
  | [], _ => []
  | t :: ts, s => s.performed id t ++ match s.turn text t with
    | none => []
    | some (_, s) => history text id ts s

end Nhh3Statics

/-- The callbacks of a history. -/
def calledBack (hist : List (Connection × Act)) : List Callback := hist.filterMap fun e => e.2.callsBack

/-- What a turn does to one host: the requests it publishes, and the action it performs. -/
inductive Nhh3Impl.Moved (x : Nhh3Impl) : List Request → List (Connection × Act) → Nhh3Impl → Prop where
  | stays : Moved x [] [] x
  | flagged (op : HostOp) : Moved x [] [] { x with host := apply (HostAct.step op) x.host }
  | locked (op : HostOp) : x.lockObject = none →
      Moved x ((x.host.calls op).flatMap Op.published) [] ⟨x.host, some (op, exec (x.host.calls op))⟩
  | acted {op : HostOp} {rest k : P Unit} {a : Act} : x.lockObject = some (op, rest) →
      rest.next x.host.connection = .act a k →
      Moved x [] [(x.host.connection, a)] ⟨apply (HostAct.native a) x.host, some (op, k)⟩
  | returned {op : HostOp} {rest : P Unit} : x.lockObject = some (op, rest) →
      rest.next x.host.connection = .ret () → Moved x [] [] ⟨apply (HostAct.step op) x.host, none⟩

theorem calls_published (h : Host) (op : HostOp) :
    (Turn.lock id op).publishedTo id = (h.calls op).flatMap Op.published := by
  cases op with
  | updateQwfs io => cases hw : h.worker <;> simp [Turn.publishedTo, Host.calls, hw, Op.published]
  | publishRequest requests =>
    rw [Turn.publishedTo, if_pos rfl, Host.calls, List.flatMap_map]
    exact List.map_eq_flatMap
  | _ => rfl

/-- A callback adds to the lists of responses only. -/
theorem callback_impl (s : Nhh3Statics) (id : Nat) (cb : Callback) :
    (s.callback text id cb).nhh3ImplList = s.nhh3ImplList := by
  rw [Nhh3Statics.callback]
  split <;> rfl

/-- What native code does in a turn, to the host that it is called for. -/
theorem native_host {op : HostOp} {rest : P Unit} (hx : s.nhh3ImplList id = some x)
    (hlock : x.lockObject = some (op, rest)) (h : s.native text id x op rest = some (seen, s')) :
    ∃ x', x.Moved [] x.acts x' ∧ s'.nhh3ImplList = Function.update s.nhh3ImplList id (some x') ∧
      ∀ id', issuedFor id' seen = if id = id' then calledBack x.acts else [] := by
  have hrest := rest_locked hlock
  unfold Nhh3Statics.native at h
  cases hnext : rest.next x.host.connection with
  | act a k =>
    have hacts : x.acts = [(x.host.connection, a)] := by rw [Nhh3Impl.acts, hrest, hnext]
    refine ⟨⟨apply (HostAct.native a) x.host, some (op, k)⟩, hacts ▸ .acted hlock hnext, ?_⟩
    rw [hnext] at h
    rw [hacts]
    cases hcb : a.callsBack with
    | none =>
      simp only [hcb, Option.some.injEq, Prod.mk.injEq] at h
      obtain ⟨rfl, rfl⟩ := h
      exact ⟨rfl, fun id' => by simp [issuedFor, calledBack, hcb]⟩
    | some cb =>
      simp only [hcb, Option.some.injEq, Prod.mk.injEq] at h
      obtain ⟨rfl, rfl⟩ := h
      refine ⟨callback_impl .., fun id' => ?_⟩
      by_cases hid : id = id' <;> simp [issuedFor, calledBack, hcb, hid]
  | ret b =>
    have hacts : x.acts = [] := by rw [Nhh3Impl.acts, hrest, hnext]
    refine ⟨⟨apply (HostAct.step op) x.host, none⟩, hacts ▸ .returned hlock hnext, ?_⟩
    rw [hnext] at h
    cases op with
    | update starts =>
      obtain ⟨responses, -, h⟩ := Option.map_eq_some_iff.1 h
      cases h
      exact ⟨rfl, fun id' => by simp [issuedFor, hacts, calledBack]⟩
    | _ =>
      cases h
      exact ⟨rfl, fun id' => by simp [issuedFor, hacts, calledBack]⟩
  | fail e =>
    have hacts : x.acts = [] := by rw [Nhh3Impl.acts, hrest, hnext]
    refine ⟨x, hacts ▸ .stays, ?_⟩
    rw [hnext] at h
    dsimp only at h
    split at h
    · cases h
      exact ⟨(Function.update_eq_self_iff.2 hx.symm).symm, fun id' => by simp [issuedFor, hacts, calledBack]⟩
    · cases h

/-- What a turn does to a host that it does not take down. -/
theorem turn_host (h : s.turn text t = some (seen, s')) (hkept : t ≠ .destroy id)
    (hx : s.nhh3ImplList id = some x) : ∃ x', s'.nhh3ImplList id = some x' ∧
      x.Moved (t.publishedTo id) (s.performed id t) x' ∧
      issuedFor id seen = calledBack (s.performed id t) := by
  rw [Nhh3Statics.turn] at h
  split at h
  · cases h
  cases t with
  | construct id' hostName port options =>
    simp only [Nhh3Statics.takeTurn] at h
    split at h
    · rename_i hif
      cases h
      have hid : id' ≠ id := by
        rintro rfl
        simp [hx] at hif
      exact ⟨x, (s.setImpl_other _ hid.symm).trans hx, .stays, rfl⟩
    · cases h
  | destroy id' =>
    obtain ⟨y, -, h⟩ := Option.bind_eq_some_iff.1 h
    split at h
    · cases h
      have hid : id ≠ id' := fun hid => hkept (by rw [hid])
      exact ⟨x, (Function.update_of_ne hid ..).trans hx, .stays, rfl⟩
    · cases h
  | update id' =>
    obtain ⟨_, -, h⟩ := Option.bind_eq_some_iff.1 h
    obtain ⟨_, -, h⟩ := Option.bind_eq_some_iff.1 h
    split at h
    · cases h
      exact ⟨x, hx, .stays, rfl⟩
    · cases h
  | flag id' op =>
    obtain ⟨y, hy, h⟩ := Option.bind_eq_some_iff.1 h
    split at h
    · cases h
      by_cases hid : id' = id
      · subst hid
        cases hx.symm.trans hy
        exact ⟨_, s.setImpl_self .., .flagged op, rfl⟩
      · exact ⟨x, (s.setImpl_other _ (Ne.symm hid)).trans hx, .stays, rfl⟩
    · cases h
  | lock id' op =>
    obtain ⟨y, hy, h⟩ := Option.bind_eq_some_iff.1 h
    obtain ⟨caller, -, h⟩ := Option.bind_eq_some_iff.1 h
    split at h
    · rename_i hif
      cases h
      have hissued : issuedFor id (if op.updates then [.streams id' y.host.connection.h3Streams] else []) = [] := by
        split <;> rfl
      by_cases hid : id' = id
      · subst hid
        cases hx.symm.trans hy
        refine ⟨_, s.setImpl_self .., ?_, hissued⟩
        rw [calls_published x.host op]
        exact .locked op (Option.isNone_iff_eq_none.1 hif.2)
      · refine ⟨x, (s.setImpl_other _ (Ne.symm hid)).trans hx, ?_, hissued⟩
        have hnone : (Turn.lock id' op).publishedTo id = [] := by
          cases op with
          | publishRequest requests => exact if_neg hid
          | _ => rfl
        rw [hnone]
        exact .stays
    · cases h
  | native id' =>
    obtain ⟨y, hy, h⟩ := Option.bind_eq_some_iff.1 h
    obtain ⟨⟨op, rest⟩, hlock, h⟩ := Option.bind_eq_some_iff.1 h
    obtain ⟨y', hmoved, hlist, hissued⟩ := native_host hy hlock h
    rw [hissued, hlist]
    by_cases hid : id' = id
    · subst hid
      cases hx.symm.trans hy
      have hacts : s.performed id' (.native id') = x.acts := by simp [Nhh3Statics.performed, hx]
      rw [hacts, if_pos rfl]
      exact ⟨y', Function.update_self .., hmoved, rfl⟩
    · have hacts : s.performed id (.native id') = [] := if_neg hid
      rw [hacts, if_neg hid]
      exact ⟨x, (Function.update_of_ne (Ne.symm hid) ..).trans hx, .stays, rfl⟩

/-- The host's connection is where its own calls have brought it, after the options. -/
def Nhh3Impl.Follows (hostName port : String) (options : QwfsOptions) (x : Nhh3Impl) (reqs : List Request)
    (hist : List (Connection × Act)) : Prop :=
  ∃ ops, ops.flatMap Op.published = reqs ∧
    Underway Op.run (.new hostName port) (.setOptions options :: ops) hist x.rest x.host.connection

theorem follows_moved {r : List Request} {acts : List (Connection × Act)} (hm : x.Moved r acts x')
    (h : x.Follows hostName port options reqs hist) :
    x'.Follows hostName port options (reqs ++ r) (hist ++ acts) := by
  obtain ⟨ops, hops, hway⟩ := h
  cases hm with
  | stays => exact ⟨ops, by rw [hops, List.append_nil], by rwa [List.append_nil]⟩
  | flagged op =>
    rw [← step_connection op] at hway
    exact ⟨ops, by rw [hops, List.append_nil], by rwa [List.append_nil]⟩
  | locked op hfree =>
    rw [rest_free hfree] at hway
    refine ⟨ops ++ x.host.calls op, by rw [List.flatMap_append, hops], ?_⟩
    rw [List.append_nil]
    exact hway.begin _
  | @acted op rest k a hlock hnext =>
    rw [rest_locked hlock] at hway
    exact ⟨ops, by rw [hops, List.append_nil], hway.act hnext⟩
  | @returned op rest hlock hnext =>
    rw [rest_locked hlock, ← step_connection op] at hway
    rw [← step_connection op] at hnext
    refine ⟨ops, by rw [hops, List.append_nil], ?_⟩
    rw [List.append_nil]
    exact hway.ret hnext

/-- The constructor sets the options. -/
theorem follows_constructed (h : s.turn text (.construct id hostName port options) = some (seen, s₁)) :
    ∃ x, s₁.nhh3ImplList id = some x ∧ seen = [] ∧ s.caller = .idle ∧
      x.Follows hostName port options [] ((exec [.setOptions options]).trace (.new hostName port)) := by
  rw [Nhh3Statics.turn] at h
  split at h
  · cases h
  simp only [Nhh3Statics.takeTurn] at h
  split at h
  · rename_i hif
    cases h
    exact ⟨_, s.setImpl_self .., rfl, hif.1, [], rfl, .of_run rfl⟩
  · cases h

/-- The turns of all threads, seen from one host. -/
theorem take_host (h : s.take text turns = some (log, s')) (hkept : .destroy id ∉ turns)
    (hx : s.nhh3ImplList id = some x) (hf : x.Follows hostName port options reqs hist) :
    ∃ x', s'.nhh3ImplList id = some x' ∧
      x'.Follows hostName port options (reqs ++ publishedTo id turns) (hist ++ s.history text id turns) ∧
      issuedFor id log = calledBack (s.history text id turns) := by
  induction turns generalizing s x reqs hist log with
  | nil =>
    cases h
    exact ⟨x, hx, by simpa [publishedTo, Nhh3Statics.history] using hf, rfl⟩
  | cons t ts ih =>
    obtain ⟨⟨seen₁, s₁⟩, ht, h⟩ := Option.bind_eq_some_iff.1 h
    obtain ⟨⟨seen₂, s₂⟩, hts, h⟩ := Option.bind_eq_some_iff.1 h
    cases h
    obtain ⟨hne, hkept⟩ := not_or.1 (List.mem_cons.not.1 hkept)
    obtain ⟨x₁, hx₁, hmoved, hissued⟩ := turn_host ht (Ne.symm hne) hx
    obtain ⟨x', hx', hf', hissued'⟩ := ih hts hkept hx₁ (follows_moved hmoved hf)
    have hhist : s.history text id (t :: ts) = s.performed id t ++ s₁.history text id ts := by
      rw [Nhh3Statics.history, ht]
    refine ⟨x', hx', ?_, ?_⟩
    · rw [hhist, publishedTo, List.flatMap_cons, ← List.append_assoc, ← List.append_assoc]
      exact hf'
    · rw [issuedFor_append, hissued, hissued', hhist, calledBack, calledBack, calledBack, List.filterMap_append]

/-- Whatever the threads of the other hosts do between the actions of its own, a host's native connection
is where a sequential run of the host's own calls comes to, with the same actions in the same states:
the options first, then the calls of each step, with the requests in the order they were published. The
callbacks that were issued for the host are those of this run, and while no step is under way, the run
is complete. -/
theorem threads_sequential (text : Bytes → String) {s s₁ s' : Nhh3Statics} {seen log : List Seen} {id : Nat}
    {hostName port : String} {options : QwfsOptions} {turns : List Turn}
    (hnew : s.turn text (.construct id hostName port options) = some (seen, s₁))
    (hturns : s₁.take text turns = some (log, s')) (hkept : .destroy id ∉ turns) :
    ∃ x ops, s'.nhh3ImplList id = some x ∧ ops.flatMap Op.published = publishedTo id turns ∧
      (exec (.setOptions options :: ops)).Visits (.new hostName port)
        ((exec [.setOptions options]).trace (.new hostName port) ++ s₁.history text id turns) x.host.connection ∧
      issuedFor id log = calledBack (s₁.history text id turns) ∧
      (x.lockObject = none →
        (exec (.setOptions options :: ops)).run (.new hostName port) = .ok ((), x.host.connection)) := by
  obtain ⟨x₁, hx₁, -, -, hf⟩ := follows_constructed hnew
  obtain ⟨x, hx, ⟨ops, hops, hway⟩, hissued⟩ := take_host hturns hkept hx₁ hf
  refine ⟨x, ops, hx, hops, hway.visits, hissued, fun hfree => ?_⟩
  rw [rest_free hfree] at hway
  exact hway.ended.1

/-- The first host, before any other. -/
def firstHost : Nhh3Statics := (Nhh3Statics.start.setImpl 0 ⟨.constructed "h" "443" {}, none⟩).setResponses 0 []

theorem turn_firstHost : Nhh3Statics.start.turn latin1 (.construct 0 "h" "443" {}) = some ([], firstHost) := rfl

/-- The turn takes no host down. -/
def Turn.spares : Turn → Bool
  | .destroy _ => false
  | _ => true

theorem kept_of_spares (h : turns.all Turn.spares = true) : .destroy id ∉ turns := fun hmem => by
  cases List.all_eq_true.1 h _ hmem

/-- Another host connects and starts a request meanwhile. -/
theorem threads_sequential_download : ∃ log s' x ops,
    firstHost.take latin1 downloadTurns.tail = some (log, s') ∧ s'.nhh3ImplList 0 = some x ∧
    ops.flatMap Op.published = [({} : RequestParamaters).request] ∧
    (exec (.setOptions {} :: ops)).Visits (.new "h" "443")
      ((exec [.setOptions {}]).trace (.new "h" "443") ++ firstHost.history latin1 0 downloadTurns.tail)
      x.host.connection := by
  have hany : ((firstHost.take latin1 downloadTurns.tail).any fun _ => true) = true := by decide +kernel
  obtain ⟨⟨log, s'⟩, hturns, -⟩ := (Option.any_eq_true ..).1 hany
  obtain ⟨x, ops, hx, hops, hv, -, -⟩ := threads_sequential latin1 turn_firstHost hturns (kept_of_spares rfl)
  exact ⟨log, s', x, ops, hturns, hx, hops.trans rfl, hv⟩

/-! ## Which requests are published -/

/-- The request that an action publishes. -/
def requestIn : Connection × Act → List Request
  | (_, .publishRequest req) => [req]
  | _ => []

section Published
variable {c : Connection} {ops : List Op}

theorem requestIn_run (op : Op) (c : Connection) : (op.run.trace c).flatMap requestIn = op.published := by
  by_cases hop : ∃ req, op = .publishRequest req
  · obtain ⟨req, rfl⟩ := hop
    rfl
  have hnone : op.published = [] := by
    cases op with
    | publishRequest req => exact absurd ⟨req, rfl⟩ hop
    | _ => rfl
  rw [hnone, List.flatMap_eq_nil_iff]
  rintro ⟨c', a⟩ he
  have htrace : (exec [op]).trace c = op.run.trace c := by
    rw [trace_session_cons]
    cases op.run.run c <;> exact List.append_nil _
  rw [← htrace] at he
  obtain ⟨op', hop', hmay⟩ := exec_may he
  cases List.mem_singleton.1 hop'
  cases a with
  | publishRequest req =>
    refine absurd ?_ hop
    rcases hmay with hmay | hmay
    · cases hmay
    · cases op <;> cases hmay
      exact ⟨_, rfl⟩
  | _ => rfl

/-- The requests of a run are those of its calls, up to where it has come. -/
theorem requestIn_exec (ops : List Op) (c : Connection) :
    ((exec ops).trace c).flatMap requestIn <+: ops.flatMap Op.published ∧
      ∀ c', (exec ops).run c = .ok ((), c') →
        ((exec ops).trace c).flatMap requestIn = ops.flatMap Op.published := by
  induction ops generalizing c with
  | nil => exact ⟨List.prefix_rfl, fun _ _ => rfl⟩
  | cons op ops ih =>
    rw [trace_session_cons, run_session_cons, List.flatMap_append, requestIn_run, List.flatMap_cons]
    cases hrun : op.run.run c with
    | error e => exact ⟨(List.prefix_append_right_inj _).2 List.nil_prefix, fun _ h => by cases h⟩
    | ok r =>
      obtain ⟨hstarts, heq⟩ := ih r.2
      exact ⟨(List.prefix_append_right_inj _).2 hstarts, fun c' h => by rw [heq c' h]⟩

theorem not_published {a : Act} (hA : Addressed c) (hE : Enabled c a) (h : ∀ req, a ≠ .publishRequest req) :
    requestIn (c, a) = [] ∧ issuedBy (c, a) = none ∧ (apply a c).nextStream = c.nextStream := by
  cases hb : a.books with
  | false =>
    refine ⟨?_, (no_books hb).1, (tickets_keep hA hE hb).2⟩
    cases a <;> first | rfl | cases hb
  | true =>
    cases a with
    | publishRequest req => exact absurd rfl (h req)
    | success st => exact ⟨rfl, rfl, rfl⟩
    | abort => exact ⟨rfl, rfl, rfl⟩
    | _ => cases hb

/-- Each publication gives out the ticket of the next address. -/
theorem issued_numbered (hv : (exec ops).Visits (.new hostName port) hist c) :
    issued hist = (publishedFrom 0 hostName (hist.flatMap requestIn)).map Stream.ticket := by
  have hJ : c.hostName = hostName ∧ c.nextStream = (hist.flatMap requestIn).length ∧
      issued hist = (publishedFrom 0 hostName (hist.flatMap requestIn)).map Stream.ticket := by
    refine exec_inv (J := fun hist c => c.hostName = hostName ∧ c.nextStream = (hist.flatMap requestIn).length ∧
      issued hist = (publishedFrom 0 hostName (hist.flatMap requestIn)).map Stream.ticket)
      (K := fun _ _ => True) ⟨rfl, rfl, rfl⟩ (fun hist c a hA hE _ h => ?_) (fun _ _ => trivial) hv
    obtain ⟨hname, hnext, hissued⟩ := h
    refine ⟨(hostName_apply a c).trans hname, ?_⟩
    rw [issued_concat, List.flatMap_append, List.flatMap_singleton]
    by_cases hreq : ∃ req, a = .publishRequest req
    · obtain ⟨req, rfl⟩ := hreq
      simp only [apply, nextStream_publishRequest, issuedBy, requestIn, List.length_append,
        publishedFrom_append, List.map_append, hissued, hnext, hname, Nat.zero_add]
      exact ⟨rfl, rfl⟩
    · obtain ⟨hnone, hissuedBy, hkept⟩ := not_published hA hE fun req ha => hreq ⟨req, ha⟩
      rw [hnone, hissuedBy, hkept, List.append_nil]
      exact ⟨hnext, (List.append_nil _).trans hissued⟩
  exact hJ.2.2

end Published

/-! ## What the responses say -/

/-- The response tells what the network told the stream since the request was last started. -/
structure Received.Told (text : Bytes → String) (r : Received) (st : Stream) (res : ResponseParamaters) : Prop where
  status : res.status = QwfsStatus.wait.toInt
  code : res.responseCode = r.responseCode
  headers : ∃ list, res.headers = some list ∧
    list.flatMap (fun h => [h.name, h.value]) = r.headers.map fun s => some (text s)
  path : res.saveFilePath = st.saveFilePath
  body : st.saveFilePath = "" → res.body.getD [] = r.body
  file : st.saveFilePath ≠ "" → st.file = some r.body

/-- A response is about a request that was served, or about a failure. -/
inductive Answers (text : Bytes → String) (hist : List (Connection × Act)) :
    Option Stream.Ticket → ResponseParamaters → Prop where
  | served {before : List (Connection × Act)} {c : Connection} {st : Stream} {res : ResponseParamaters} :
      before ++ [(c, .success st)] <+: hist → (received before st.self).Told text st res →
      Answers text hist (some st.ticket) res
  | failed {res : ResponseParamaters} : res.status < 0 → res.body = none → res.headers = none →
      Answers text hist none res

/-- The request that a callback reports as served, or that it reports a failure. -/
def Act.answered : Act → Option (Option Stream.Ticket)
  | .success st => some (some st.ticket)
  | .error _ => some none
  | _ => none

def answered (hist : List (Connection × Act)) : List (Option Stream.Ticket) :=
  hist.filterMap fun e => e.2.answered

theorem reduceOption_answered (hist : List (Connection × Act)) : (answered hist).reduceOption = delivered hist := by
  rw [List.reduceOption, answered, delivered, List.filterMap_filterMap]
  congr 1
  funext e
  obtain ⟨c, a⟩ := e
  cases a <;> rfl

section Told
variable {c : Connection} {st : Stream} {res : ResponseParamaters} {ops : List Op} {r : Received}

theorem flatMap_decoded (headers : List (Bytes × Bytes)) :
    (headers.map (decoded text)).flatMap (fun h => [h.name, h.value]) =
      (stored headers).map fun s => some (text s) := by
  induction headers with
  | nil => rfl
  | cons h headers ih =>
    rw [List.map_cons, List.flatMap_cons, ih]
    rfl

/-- What a synchronised stream reports is what it received. -/
theorem told_carried (h : InSync r st) (hc : Carries text st.callSuccessCallback res) : r.Told text st res := by
  have hbody := h.body
  have hfile := h.file
  rw [Stream.callSuccessCallback] at hc
  cases hf : st.file with
  | none =>
    have hpath := hfile.1 hf
    simp only [hf, Option.isSome_none, Bool.false_eq_true, if_false] at hc
    rw [Stream.content, hf] at hbody
    generalize hheaders : st.resHeaders = list at hc
    cases hc with
    | successBinary code headers native size body hcut =>
      refine ⟨rfl, h.code, ⟨_, rfl, ?_⟩, hpath.symm, fun _ => hcut.trans hbody, fun hne => absurd hpath hne⟩
      rw [flatMap_decoded, ← h.headers, hheaders]
  | some content =>
    have hpath : st.saveFilePath ≠ "" := fun hp => by simp [hfile.2 hp] at hf
    simp only [hf, Option.isSome_some, if_true] at hc
    rw [Stream.content, hf] at hbody
    generalize hheaders : st.resHeaders = list at hc
    cases hc with
    | successFile code headers path =>
      refine ⟨rfl, h.code, ⟨_, rfl, ?_⟩, rfl, fun hp => absurd hp hpath, fun _ => ?_⟩
      · rw [flatMap_decoded, ← h.headers, hheaders]
      · exact hf.trans (congrArg some hbody)

/-- Where the condition was met up to now, the streams are clean. -/
theorem clean_visits (hv : (exec ops).Visits (.new hostName port) hist c)
    (hM : ∀ e ∈ hist, IntegrityMeets e.1 e.2) : Clean hist c := by
  refine visits_inv (J := fun hist c => (∀ e ∈ hist, IntegrityMeets e.1 e.2) → Clean hist c) (fun _ => ?_)
    (fun hist c a hp hJ hM => ?_) hv hM
  · exact { waiting := fun _ h => (nomatch h), active := fun _ h => (nomatch h), status := nofun }
  · obtain ⟨hA, hE⟩ := exec_enabled hp
    obtain ⟨hM, hlast⟩ := List.forall_mem_append.1 hM
    exact clean_apply hA hE (hlast (c, a) List.mem_cons_self) (hJ hM)

/-- The callbacks of a run, one by one, and the responses that carry them. -/
theorem answers_carried {after : List (Connection × Act)} {responses : List ResponseParamaters}
    (hv : (exec ops).Visits (.new hostName port) hist c) (hM : ∀ e ∈ hist, IntegrityMeets e.1 e.2)
    (before : List (Connection × Act)) (hhist : before ++ after = hist)
    (hc : List.Forall₂ (Carries text) (calledBack after) responses) :
    List.Forall₂ (Answers text hist) (answered after) responses := by
  induction after generalizing before responses with
  | nil =>
    cases hc
    exact .nil
  | cons e after ih =>
    obtain ⟨c₁, a⟩ := e
    have hstarts : before ++ [(c₁, a)] <+: hist := ⟨after, by rw [← hhist, List.append_assoc]; rfl⟩
    have hp : (exec ops).Performs (.new hostName port) before c₁ a := hstarts.trans hv.1
    cases a with
    | success st =>
      cases hc with
      | @cons _ res _ responses hcarries hc =>
        refine .cons (.served hstarts ?_) (ih (before ++ [(c₁, .success st)]) (by simpa using hhist) hc)
        have hclean := clean_visits hp.visits fun e he => hM e (hstarts.subset (List.mem_append_left _ he))
        obtain ⟨hst, hdone⟩ := (exec_enabled hp).2
        rcases hclean.active st hst with h | h
        · exact told_carried h hcarries
        · exact absurd hdone h.2.2
    | error st =>
      cases hc with
      | @cons _ res _ responses hcarries hc =>
        refine .cons ?_ (ih (before ++ [(c₁, .error st)]) (by simpa using hhist) hc)
        have hst : st.status < .wait := (exec_enabled hp).2.2
        cases hcarries
        exact .failed hst rfl rfl
    | _ => exact ih (before ++ [(c₁, _)]) (by simpa using hhist) hc

end Told

theorem publishedFrom_mono (n : Nat) (hostName : String) {reqs reqs' : List Request} (h : reqs <+: reqs') :
    publishedFrom n hostName reqs <+: publishedFrom n hostName reqs' := by
  obtain ⟨rest, rfl⟩ := h
  rw [publishedFrom_append]
  exact List.prefix_append ..

/-! ## Every interleaving -/

/-- The responses that `Update` of this host returned, or is about to return. -/
def Nhh3Statics.received (s : Nhh3Statics) (id : Nat) (log : List Seen) : List ResponseParamaters :=
  (returnedBy id log).flatten ++ s.underWay id

/-- What is delivered after a moment at which no `Update` is under way. -/
theorem delivered_since {log₀ : List Seen} (h₀ : Delivered text log₀ s id) (hidle : s.caller = .idle)
    (h : Delivered text (log₀ ++ log) s' id) :
    List.Forall₂ (Carries text) (issuedFor id log) (s'.received id log) := by
  rw [Delivered, underWay_idle hidle, List.append_nil] at h₀
  rw [Delivered, issuedFor_append, returnedBy_append, List.flatten_append, List.append_assoc] at h
  have hdrop := List.forall₂_drop (issuedFor id log₀).length h
  rwa [List.drop_left, h₀.length_eq, List.drop_left] at hdrop

/-- A host from its constructor on, and what its `Update`s return of the callbacks. -/
theorem host_carried {log₀ : List Seen} (hrun : Runs text log₀ s)
    (hnew : s.turn text (.construct id hostName port options) = some (seen, s₁))
    (hturns : s₁.take text turns = some (log, s')) (hkept : .destroy id ∉ turns) (hfine : Fine (log₀ ++ log)) :
    ∃ x, s'.nhh3ImplList id = some x ∧
      x.Follows hostName port options (publishedTo id turns)
        ((exec [.setOptions options]).trace (.new hostName port) ++ s₁.history text id turns) ∧
      List.Forall₂ (Carries text) (calledBack (s₁.history text id turns)) (s'.received id log) := by
  obtain ⟨x₁, hx₁, rfl, hidle, hf⟩ := follows_constructed hnew
  obtain ⟨x, hx, hfollows, hissued⟩ := take_host hturns hkept hx₁ hf
  have hruns : Runs text (log₀ ++ [] ++ log) s' := runs_take (hrun.turn _ hnew) hturns
  rw [List.append_nil] at hruns
  have hcarried := delivered_since ((runs_delivered hrun (List.forall_mem_append.1 hfine).1).2 id) hidle
    ((runs_delivered hruns hfine).2 id)
  rw [hissued] at hcarried
  exact ⟨x, hx, hfollows, hcarried⟩

/-- From `PublishRequest` to the lists that `Update` returns, in any interleaving of the threads of all
hosts: each response to a host answers a request that was published on it and that no other response
answers, or reports a failure; an answer tells exactly what the network told since the request was last
started, whatever happened on other hosts and other requests. No request is lost: between two steps each
one is answered, or pending in the connection, or was discarded by an `Abort`, and only one of these. -/
theorem client_answered (text : Bytes → String) {s s₁ s' : Nhh3Statics} {log₀ seen log : List Seen} {id : Nat}
    {hostName port : String} {options : QwfsOptions} {turns : List Turn} (hrun : Runs text log₀ s)
    (hnew : s.turn text (.construct id hostName port options) = some (seen, s₁))
    (hturns : s₁.take text turns = some (log, s')) (hkept : .destroy id ∉ turns) (hfine : Fine (log₀ ++ log))
    (hmeets : ∀ e ∈ s₁.history text id turns, IntegrityMeets e.1 e.2) :
    ∃ x hist answers published, s'.nhh3ImplList id = some x ∧
      hist = (exec [.setOptions options]).trace (.new hostName port) ++ s₁.history text id turns ∧
      published = (publishedFrom 0 hostName (publishedTo id turns)).map Stream.ticket ∧
      List.Forall₂ (Answers text hist) answers (s'.received id log) ∧
      answers.reduceOption.Nodup ∧ answers.reduceOption ⊆ published ∧
      (x.lockObject = none → ∀ t ∈ published, (x.host.connection.streams.map Stream.ticket).count t +
        answers.reduceOption.count t + (discarded hist).count t = 1) := by
  obtain ⟨x, hx, ⟨ops, hops, hway⟩, hcarried⟩ := host_carried hrun hnew hturns hkept hfine
  generalize hhist : (exec [.setOptions options]).trace (.new hostName port) ++
    s₁.history text id turns = hist at hway
  have hM : ∀ e ∈ hist, IntegrityMeets e.1 e.2 := by
    rw [← hhist]
    refine List.forall_mem_append.2 ⟨fun e he => ?_, hmeets⟩
    rcases List.mem_pair.1 he with rfl | rfl <;> trivial
  have hbooked := (exec_booked hway.visits).balanced
  have hnumbered := issued_numbered hway.visits
  refine ⟨x, hist, answered hist, _, hx, rfl, rfl, ?_, ?_, ?_, fun hfree t ht => ?_⟩
  · have hcalled : calledBack hist = calledBack (s₁.history text id turns) := by
      rw [← hhist, calledBack, List.filterMap_append]
      rfl
    rw [← hcalled] at hcarried
    exact answers_carried hway.visits hM [] rfl hcarried
  · rw [reduceOption_answered]
    exact Multiset.coe_nodup.1 hbooked.nodup_delivered
  · rw [reduceOption_answered]
    intro t ht
    have hissued : t ∈ issued hist := bins_issued hway.visits (.inl ht)
    rw [hnumbered] at hissued
    have hstarts : hist.flatMap requestIn <+: publishedTo id turns := by
      rw [← hops]
      exact (List.IsPrefix.flatMap hway.visits.1 _).trans (requestIn_exec (.setOptions options :: ops) _).1
    exact ((publishedFrom_mono 0 hostName hstarts).map _).subset hissued
  · rw [rest_free hfree] at hway
    obtain ⟨hran, htrace⟩ := hway.ended
    have hall : hist.flatMap requestIn = publishedTo id turns := by
      rw [← htrace, ← hops]
      exact (requestIn_exec (.setOptions options :: ops) _).2 _ hran
    rw [← hall, ← hnumbered] at ht
    have hcount := hbooked.count (Multiset.mem_coe.2 ht)
    rw [reduceOption_answered]
    simpa only [ledger, tickets, Multiset.coe_count] using hcount

/-- One response, to the one request. -/
theorem client_answered_download : ∃ log s' hist answers,
    firstHost.take latin1 downloadTurns.tail = some (log, s') ∧ s'.received 0 log = [downloadResponse] ∧
    List.Forall₂ (Answers latin1 hist) answers [downloadResponse] ∧ answers.reduceOption.Nodup := by
  have hany : ((firstHost.take latin1 downloadTurns.tail).any fun r => decide (Fine r.1 ∧
      r.2.received 0 r.1 = [downloadResponse])) = true := by decide +kernel
  have hmeets : ∀ e ∈ firstHost.history latin1 0 downloadTurns.tail, IntegrityMeets e.1 e.2 := by decide +kernel
  obtain ⟨⟨log, s'⟩, hturns, hlog⟩ := (Option.any_eq_true ..).1 hany
  obtain ⟨hfine, hreceived⟩ := of_decide_eq_true hlog
  obtain ⟨x, hist, answers, published, -, -, -, hanswers, hnodup, -, -⟩ :=
    client_answered latin1 .start turn_firstHost hturns (kept_of_spares rfl) hfine hmeets
  exact ⟨log, s', hist, answers, hturns, hreceived, hreceived ▸ hanswers, hnodup⟩

end Nhh3
