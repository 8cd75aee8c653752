import Mathlib.Data.List.Forall2
import Nhh3.Threads
/-!
# Responses reach their caller

Whatever the threads of the other hosts do meanwhile, the callbacks that native
code calls for a host end up in the lists that `Update` of this host returns, each
in one of them, in order. The invariant says where the caller is and whose lock is
held; the connections are in states that their own calls lead to.
-/

namespace Nhh3

open Lib Lib.Prog Connection

variable {text : Bytes → String} {s s' : Nhh3Statics} {log seen : List Seen} {id : Nat}

/-! ## What IssueCallbacks calls back about -/

/-- Some calls lead to this state. -/
def Connection.Reachable (c : Connection) : Prop :=
  ∃ hostName port ops, (exec ops).run (.new hostName port) = .ok ((), c)

section Streams
variable {c c' : Connection} {a : Act} {st st' : Stream}

theorem reachable_exec {ops : List Op} (h : c.Reachable) (hrun : (exec ops).run c = .ok ((), c')) :
    c'.Reachable := by
  obtain ⟨hostName, port, ops₀, h₀⟩ := h
  refine ⟨hostName, port, ops₀ ++ ops, ?_⟩
  rw [(session_append Op.run ops₀ ops _).1, h₀]
  exact hrun

theorem paired_handled (hh : Handled c a st st') (h : st.Paired) : st'.Paired := by
  obtain ⟨headers, h⟩ := h
  cases hh with
  | @headers _ list _ _ _ hst =>
    refine ⟨headers ++ list, ?_⟩
    rw [Stream.eventHeaders_ok hst, stored_append, ← h]
    rfl
  | data _ hst =>
    rcases Stream.eventData_cases hst with ⟨_, _, -, rfl⟩ | ⟨_, _, _, _, -, rfl, -⟩ <;> exact ⟨headers, h⟩
  | finished => exact ⟨headers, h⟩

theorem paired_apply (hA : Addressed c) (hE : Enabled c a) (h : ∀ st ∈ c.streams, st.Paired) :
    ∀ st ∈ (apply a c).streams, st.Paired := by
  have hactive : ∀ st ∈ c.h3Streams, st.Paired := fun st hst => h st (mem_streams.2 (.inl hst))
  have hwaiting : ∀ st ∈ c.waiting, st.Paired := fun st hst => h st (waiting_subset hst)
  intro x hx
  rcases mem_streams.1 hx with hx | hx
  · cases active_from hA hE hx with
    | kept hy hb =>
      cases hb with
      | same => exact hactive _ hy
      | progress => exact (hactive _ hy).same rfl
      | handled hh => exact paired_handled hh (hactive _ hy)
      | @shutdown y =>
        rw [Stream.shutdown]
        split
        · exact ⟨[], rfl⟩
        · exact hactive _ hy
    | started hst hid =>
      obtain ⟨q, h3, -, -, rfl⟩ := starting_started hst hid
      exact (hwaiting _ (starting_mem hst)).same rfl
  · cases waiting_from hA hE (List.mem_append.2 hx) with
    | same hy => exact hwaiting _ hy
    | published => exact ⟨[], rfl⟩
    | handled hy hh => exact paired_handled hh (hwaiting _ hy)
    | failed hst hid =>
      obtain ⟨_, _, _, _, _, _, rfl⟩ := (starting_failed hst hid).rest
      exact (hwaiting _ (starting_mem hst)).same rfl
    | requeued hy => exact hactive _ hy
    | shelved hy => exact hactive _ hy

theorem reachable_paired (h : c.Reachable) : ∀ st ∈ c.streams, st.Paired := by
  obtain ⟨hostName, port, ops, hrun⟩ := h
  have hnew : ∀ st ∈ (new hostName port).streams, st.Paired := fun st h => absurd h List.not_mem_nil
  exact exec_inv (J := fun _ c => ∀ st ∈ c.streams, st.Paired) (K := fun _ _ => True) hnew
    (fun _ _ _ hA hE _ h => paired_apply hA hE h) (fun _ _ => trivial) (visits_end hrun)

/-- The action calls back only about streams with `R`. -/
def Act.About (R : Stream → Prop) : Act → Prop
  | .success st => st.status = .completed ∧ R st
  | .error st => R st
  | _ => True

/-- A program that calls back only about streams with `R`, and faults only if `F`. -/
abbrev CallsAbout (R : Stream → Prop) (F : Prop) (p : P Unit) (c : Connection) : Prop :=
  p.Sat (fun _ => True) (fun _ _ => True) (fun _ a => a.About R) (fun _ _ => F) (fun _ _ => True) c

theorem about_issueLoop {R : Stream → Prop} (starts : Nat → StartIo) {sts : List Stream}
    (h : ∀ st ∈ sts, R st ∧ Settled st) (c : Connection) : CallsAbout R False (issueLoop starts sts) c := by
  induction sts generalizing c with
  | nil => trivial
  | cons st sts ih =>
    obtain ⟨⟨hst, hsettled⟩, hrest⟩ := List.forall_mem_cons.1 h
    refine Sat.bind (R := fun _ _ => True) ?_ fun _ c' _ => ih hrest c'
    unfold issueCallback
    split
    · exact fun _ => ⟨⟨‹_›, hst⟩, trivial⟩
    split
    · rename_i herror
      refine Sat.perform (fun _ => hst) fun _ => ?_
      rw [if_pos (hsettled herror)]
      exact fun _ => ⟨trivial, trivial⟩
    · trivial

/-- The native calls of `Update`; `GetProgress` resets the progress of the streams. -/
theorem about_update {R : Stream → Prop} (starts : Nat → StartIo)
    (h : ∀ st ∈ c.h3Streams, R st.addProgress ∧ Settled st) :
    CallsAbout R False (exec [.getProgress, .issueCallbacks starts]) c := by
  have hissue : ∀ c', (∀ st ∈ c'.h3Streams, R st ∧ Settled st) →
      CallsAbout R False (exec [.issueCallbacks starts]) c' := fun c' h' =>
    Sat.bind (R := fun _ _ => True) (fun _ => ⟨trivial, fun _ => about_issueLoop starts h' _⟩) fun _ _ _ => trivial
  refine Sat.bind (R := fun _ c' => ∀ st ∈ c'.h3Streams, R st ∧ Settled st)
    (fun _ => ⟨trivial, fun _ _ => ⟨trivial, ?_⟩⟩) fun _ c' h' => hissue c' h'
  intro st' hst'
  obtain ⟨st, hst, rfl⟩ := List.mem_map.1 hst'
  exact h st hst

/-- Other calls call back about nothing. -/
theorem about_others {R : Stream → Prop} {ops : List Op} (h : ∀ op ∈ ops, op.issues = false) (c : Connection) :
    CallsAbout R True (exec ops) c := by
  refine Acts.always (acts_session fun op hop => Acts.perform trivial ?_) c
  refine (acts_body op).mono fun a ha => ?_
  have hcallback := may_callback ha
  rw [h op hop] at hcallback
  cases a <;> first | trivial | cases hcallback

end Streams

/-! ## Every interleaving -/

/-- The callbacks that native code called for this host. -/
def issuedFor (id : Nat) (log : List Seen) : List Callback :=
  log.filterMap fun
    | .issued id' cb => if id' = id then some cb else none
    | _ => none

/-- The lists that `Update` of this host returned. -/
def returnedBy (id : Nat) (log : List Seen) : List (List ResponseParamaters) :=
  log.filterMap fun
    | .returned id' responses => if id' = id then some responses else none
    | _ => none

/-- The list of the host, while an `Update` of it is under way. -/
def Nhh3Statics.underWay (s : Nhh3Statics) (id : Nat) : List ResponseParamaters :=
  if s.caller = .cleared id ∨ s.caller = .updating id then (s.responseForEachHost id).getD [] else []

/-- Each callback called for the host is in one list that its `Update` returned, or in the one that
it is about to return, in the order they were called; and nothing else is. -/
def Delivered (text : Bytes → String) (log : List Seen) (s : Nhh3Statics) (id : Nat) : Prop :=
  List.Forall₂ (Carries text) (issuedFor id log) ((returnedBy id log).flatten ++ s.underWay id)

/-- What is left of a step under the lock: the rest of calls on a connection that calls led to, in
which only `Update` calls back, about streams that are delivered. -/
structure UnderLock (op : HostOp) (rest : P Unit) (c : Connection) : Prop where
  run : ∃ c₀ ops, c₀.Reachable ∧ (exec ops).run c₀ = rest.run c
  about : CallsAbout (fun st => op.updates = true ∧ Deliverable st ∧ st.Paired) (op.updates = false) rest c

def Nhh3Impl.Sound (x : Nhh3Impl) : Prop :=
  match x.lockObject with
  | none => x.host.connection.Reachable
  | some (op, rest) => UnderLock op rest x.host.connection

/-- Where the caller is while the step holds the lock of this host. -/
def HostOp.Holds (id : Nat) (caller : Caller) : HostOp → Prop
  | .updateQwfs _ => True
  | .publishRequest _ => caller = .publishing id
  | .update _ => caller = .updating id
  | _ => False

/-- The locks, the lists and the caller fit together. -/
structure Nhh3Statics.Sound (s : Nhh3Statics) : Prop where
  impls : ∀ id x, s.nhh3ImplList id = some x → x.Sound
  keys : ∀ id x, s.nhh3ImplList id = some x → ∃ responses, s.responseForEachHost id = some responses
  holds : ∀ id x op rest, s.nhh3ImplList id = some x → x.lockObject = some (op, rest) → op.Holds id s.caller
  updating : ∀ id, s.caller = .updating id → ∃ x op rest,
    s.nhh3ImplList id = some x ∧ x.lockObject = some (op, rest) ∧ op.updates = true
  kept : ∀ id, s.caller ≠ .lost id

theorem step_connection (op : HostOp) (h : Host) : (apply (HostAct.step op) h).connection = h.connection :=
  connection_apply (.step op) h

theorem Deliverable.addProgress {st : Stream} (h : Deliverable st) : Deliverable st.addProgress :=
  ⟨h.settled, h.headers, h.body⟩

section Locks
variable {x : Nhh3Impl} {op : HostOp} {rest k : P Unit} {c : Connection} {a : Act} {cb : Callback}
  {caller caller' : Caller}

theorem reachable_constructed (hostName port : String) (options : QwfsOptions) :
    (Host.constructed hostName port options).connection.Reachable :=
  ⟨hostName, port, [.setOptions options], rfl⟩

/-- A step begins its native calls. -/
theorem underLock_begin {h : Host} (hr : h.connection.Reachable)
    (hfine : op.updates = true → ∀ st ∈ h.connection.h3Streams, Deliverable st) :
    UnderLock op (exec (h.calls op)) h.connection := by
  refine ⟨⟨_, _, hr, rfl⟩, ?_⟩
  cases op with
  | update starts =>
    refine (about_update starts fun st hst => ?_).faults fun _ _ hf => hf.elim
    have hD := hfine rfl st hst
    exact ⟨⟨rfl, hD.addProgress, (reachable_paired hr st (mem_streams.2 (.inl hst))).same rfl⟩, hD.settled⟩
  | updateQwfs io =>
    refine (about_others (fun op hop => ?_) _).faults fun _ _ _ => rfl
    cases hw : h.worker <;> simp [Host.calls, hw] at hop <;> subst hop <;> rfl
  | publishRequest requests =>
    refine (about_others (fun op hop => ?_) _).faults fun _ _ _ => rfl
    obtain ⟨r, -, rfl⟩ := List.mem_map.1 hop
    rfl
  | _ => exact (about_others (fun _ hop => absurd hop List.not_mem_nil) _).faults fun _ _ _ => rfl

/-- Native code performs an action. -/
theorem UnderLock.act (h : UnderLock op rest c) (hnext : rest.next c = .act a k) :
    UnderLock op k (apply a c) := by
  obtain ⟨c₀, ops, hr, hrun⟩ := h.run
  exact ⟨⟨c₀, ops, hr, hrun.trans (next_act hnext).1⟩, (sat_next_act h.about hnext).2⟩

/-- Native code has returned. -/
theorem UnderLock.ret (h : UnderLock op rest c) (hnext : rest.next c = .ret ()) : c.Reachable := by
  obtain ⟨c₀, ops, hr, hrun⟩ := h.run
  exact reachable_exec hr (hrun.trans (next_ret hnext))

/-- A callback comes from `Update`, and C# can make a response of it. -/
theorem UnderLock.callback (text : Bytes → String) (h : UnderLock op rest c) (hnext : rest.next c = .act a k)
    (hcb : a.callsBack = some cb) :
    op.updates = true ∧ ∃ res, cb.added text = some res ∧ Carries text cb res := by
  have habout := (sat_next_act h.about hnext).1
  cases a with
  | success st =>
    cases hcb
    exact ⟨habout.2.1, added_success habout.2.2.1 habout.2.2.2 habout.1⟩
  | error st =>
    cases hcb
    exact ⟨habout.1, _, rfl, .error ..⟩
  | _ => cases hcb

theorem worker_of_updates (h : op.updates = true) : op.ofWorker = false := by
  cases op <;> first | rfl | cases h

theorem enter_cases (h : caller.enter id op = some caller') :
    op.ofWorker = true ∧ caller' = caller ∨
    (∃ requests, op = .publishRequest requests) ∧ caller = .idle ∧ caller' = .publishing id ∨
    op.updates = true ∧ caller = .cleared id ∧ caller' = .updating id := by
  cases op with
  | updateQwfs io =>
    cases h
    exact .inl ⟨rfl, rfl⟩
  | publishRequest requests =>
    cases caller <;> cases h
    exact .inr (.inl ⟨⟨_, rfl⟩, rfl, rfl⟩)
  | update starts =>
    cases caller with
    | cleared id' =>
      simp only [Caller.enter] at h
      split at h
      · cases h
        exact .inr (.inr ⟨rfl, by rw [‹id' = id›], rfl⟩)
      · cases h
    | _ => cases h
  | _ => cases caller <;> cases h

/-- A step that does not belong to where the caller is, is the worker's. -/
theorem holds_change (h : op.Holds id caller) (hp : caller ≠ .publishing id) (hu : caller ≠ .updating id) :
    op.Holds id caller' := by
  cases op with
  | updateQwfs io => trivial
  | publishRequest requests => exact absurd h hp
  | update starts => exact absurd h hu
  | _ => exact h.elim

theorem Nhh3Statics.Sound.lock (hs : s.Sound) (hx : s.nhh3ImplList id = some x)
    (hlock : x.lockObject = some (op, rest)) : UnderLock op rest x.host.connection := by
  have h := hs.impls id x hx
  rwa [Nhh3Impl.Sound, hlock] at h

theorem Nhh3Statics.Sound.holdsUpdate (hs : s.Sound) (hx : s.nhh3ImplList id = some x)
    (hlock : x.lockObject = some (op, rest)) (hop : op.updates = true) : s.caller = .updating id := by
  have h := hs.holds id x op rest hx hlock
  cases op with
  | update starts => exact h
  | _ => cases hop

end Locks

section Steps
variable {x : Nhh3Impl} {op : HostOp} {caller : Caller}

/-- Another caller, and no host that waits for the caller there. -/
theorem Nhh3Statics.Sound.setCaller (hs : s.Sound) (hleft : ∀ id, s.caller ≠ .publishing id ∧ s.caller ≠ .updating id)
    (hupdating : ∀ id, caller ≠ .updating id) (hkept : ∀ id, caller ≠ .lost id) :
    { s with caller }.Sound where
  impls := hs.impls
  keys := hs.keys
  holds id x op rest hx hlock := holds_change (hs.holds id x op rest hx hlock) (hleft id).1 (hleft id).2
  updating id h := absurd h (hupdating id)
  kept := hkept

theorem Nhh3Statics.Sound.setResponses (hs : s.Sound) (id : Nat) (responses : List ResponseParamaters) :
    (s.setResponses id responses).Sound where
  impls := hs.impls
  keys id' x hx := by
    by_cases hid : id' = id
    · subst hid
      exact ⟨responses, s.setResponses_self ..⟩
    · obtain ⟨responses', h⟩ := hs.keys id' x hx
      exact ⟨responses', (s.setResponses_other responses hid).trans h⟩
  holds := hs.holds
  updating := hs.updating
  kept := hs.kept

/-- One host is set, and the caller goes on if it was the caller's step. -/
theorem Nhh3Statics.Sound.setImpl (hs : s.Sound) {responses : List ResponseParamaters}
    (hkey : s.responseForEachHost id = some responses) (x : Nhh3Impl) (caller : Caller) (hx : x.Sound)
    (hholds : ∀ op rest, x.lockObject = some (op, rest) → op.Holds id caller)
    (hcaller : caller = s.caller ∨ ∀ id' ≠ id, s.caller ≠ .publishing id' ∧ s.caller ≠ .updating id')
    (hupdating : ∀ id', caller = .updating id' →
      id' = id ∧ (∃ op rest, x.lockObject = some (op, rest) ∧ op.updates = true) ∨
        id' ≠ id ∧ s.caller = .updating id')
    (hkept : ∀ id', caller ≠ .lost id') : { s.setImpl id x with caller }.Sound := by
  have hother : ∀ {id' y}, id' ≠ id → (s.setImpl id x).nhh3ImplList id' = some y → s.nhh3ImplList id' = some y :=
    fun hid h => (s.setImpl_other x hid).symm.trans h
  have hself : ∀ {y}, (s.setImpl id x).nhh3ImplList id = some y → x = y := fun h =>
    Option.some.inj ((s.setImpl_self id x).symm.trans h)
  constructor
  case impls =>
    intro id' y hy
    by_cases hid : id' = id
    · subst hid
      exact hself hy ▸ hx
    · exact hs.impls id' y (hother hid hy)
  case keys =>
    intro id' y hy
    by_cases hid : id' = id
    · subst hid
      exact ⟨responses, hkey⟩
    · exact hs.keys id' y (hother hid hy)
  case holds =>
    intro id' y op rest hy hlock
    by_cases hid : id' = id
    · subst hid
      exact hholds op rest (hself hy ▸ hlock)
    · have hold := hs.holds id' y op rest (hother hid hy) hlock
      rcases hcaller with rfl | hleft
      · exact hold
      · exact holds_change hold (hleft id' hid).1 (hleft id' hid).2
  case updating =>
    intro id' h
    rcases hupdating id' h with ⟨rfl, op, rest, hlock, hop⟩ | ⟨hid, hcaller⟩
    · exact ⟨x, op, rest, s.setImpl_self .., hlock, hop⟩
    · obtain ⟨y, op, rest, hy, hlock, hop⟩ := hs.updating id' hcaller
      exact ⟨y, op, rest, (s.setImpl_other x hid).trans hy, hlock, hop⟩
  case kept => exact hkept

/-- The host whose `Update` the caller is in. -/
theorem Nhh3Statics.Sound.updatingHost (hs : s.Sound) (hx : s.nhh3ImplList id = some x)
    (h : s.caller = .updating id) : ∃ op rest, x.lockObject = some (op, rest) ∧ op.updates = true := by
  obtain ⟨y, op, rest, hy, hlock, hop⟩ := hs.updating id h
  rw [hx] at hy
  cases hy
  exact ⟨op, rest, hlock, hop⟩

/-- One host goes on, in the same step under its lock or in none. -/
theorem Nhh3Statics.Sound.goOn (hs : s.Sound) (hx : s.nhh3ImplList id = some x) (x' : Nhh3Impl) (hx' : x'.Sound)
    (hsame : x'.lockObject.map Prod.fst = x.lockObject.map Prod.fst) : (s.setImpl id x').Sound := by
  have hstep : ∀ op, (∃ rest, x'.lockObject = some (op, rest)) ↔ ∃ rest, x.lockObject = some (op, rest) := by
    intro op
    have h := congrArg (· = some op) hsame
    simpa using h
  obtain ⟨responses, hkey⟩ := hs.keys id x hx
  refine hs.setImpl hkey x' s.caller hx' (fun op rest hlock => ?_) (.inl rfl) (fun id' hid' => ?_) hs.kept
  · obtain ⟨rest', hold⟩ := (hstep op).1 ⟨rest, hlock⟩
    exact hs.holds id x op rest' hx hold
  · by_cases hid : id' = id
    · subst hid
      obtain ⟨op, rest, hlock, hop⟩ := hs.updatingHost hx hid'
      obtain ⟨rest', hnew⟩ := (hstep op).2 ⟨rest, hlock⟩
      exact .inl ⟨rfl, op, rest', hnew, hop⟩
    · exact .inr ⟨hid, hid'⟩

/-- A step takes the lock, and the caller with it if it is the caller's step. -/
theorem Nhh3Statics.Sound.enter (hs : s.Sound) (hx : s.nhh3ImplList id = some x) (hfree : x.lockObject = none)
    (henter : s.caller.enter id op = some caller)
    (hfine : op.updates = true → ∀ st ∈ x.host.connection.h3Streams, Deliverable st) :
    { s.setImpl id ⟨x.host, some (op, exec (x.host.calls op))⟩ with caller }.Sound := by
  have hr := hs.impls id x hx
  rw [Nhh3Impl.Sound, hfree] at hr
  obtain ⟨responses, hkey⟩ := hs.keys id x hx
  refine hs.setImpl hkey ⟨x.host, some (op, exec (x.host.calls op))⟩ caller (underLock_begin hr hfine) ?_ ?_ ?_ ?_
  · rintro _ _ ⟨⟩
    rcases enter_cases henter with ⟨hop, -⟩ | ⟨⟨_, rfl⟩, -, rfl⟩ | ⟨hop, -, rfl⟩
    · cases op with
      | updateQwfs io => trivial
      | _ => cases hop
    · rfl
    · cases op with
      | update starts => rfl
      | _ => cases hop
  · rcases enter_cases henter with ⟨-, rfl⟩ | ⟨-, hidle, -⟩ | ⟨-, hcleared, -⟩
    · exact .inl rfl
    · exact .inr fun _ _ => by rw [hidle]; exact ⟨nofun, nofun⟩
    · exact .inr fun _ _ => by rw [hcleared]; exact ⟨nofun, nofun⟩
  · intro id' hid'
    rcases enter_cases henter with ⟨-, rfl⟩ | ⟨-, -, rfl⟩ | ⟨hop, -, rfl⟩
    · refine .inr ⟨fun hid => ?_, hid'⟩
      subst hid
      obtain ⟨op', rest, hlock, -⟩ := hs.updatingHost hx hid'
      rw [hfree] at hlock
      cases hlock
    · cases hid'
    · cases hid'
      exact .inl ⟨rfl, op, _, rfl, hop⟩
  · intro id'
    rcases enter_cases henter with ⟨-, rfl⟩ | ⟨-, -, rfl⟩ | ⟨-, -, rfl⟩
    · exact hs.kept id'
    · nofun
    · nofun

/-- The lock is left, and the caller with it if it was the caller's step. -/
theorem Nhh3Statics.Sound.leave {rest : P Unit} {h : Host} (hs : s.Sound) (hx : s.nhh3ImplList id = some x)
    (hlock : x.lockObject = some (op, rest)) (hr : h.connection.Reachable) :
    { s.setImpl id ⟨h, none⟩ with caller := if op.ofWorker then s.caller else .idle }.Sound := by
  have hholds := hs.holds id x op rest hx hlock
  obtain ⟨responses, hkey⟩ := hs.keys id x hx
  refine hs.setImpl hkey ⟨h, none⟩ _ hr (fun _ _ h => nomatch h) ?_ (fun id' hid' => ?_) fun id' => ?_
  · cases op with
    | updateQwfs io => exact .inl rfl
    | publishRequest requests =>
      refine .inr fun id' hid' => ?_
      rw [show s.caller = .publishing id from hholds]
      exact ⟨fun h => hid' (Caller.publishing.inj h).symm, nofun⟩
    | update starts =>
      refine .inr fun id' hid' => ?_
      rw [show s.caller = .updating id from hholds]
      exact ⟨nofun, fun h => hid' (Caller.updating.inj h).symm⟩
    | _ => exact hholds.elim
  · split at hid'
    · rename_i hworker
      refine .inr ⟨fun hid => ?_, hid'⟩
      subst hid
      obtain ⟨op', rest', hlock', hop⟩ := hs.updatingHost hx hid'
      rw [hlock] at hlock'
      cases hlock'
      rw [worker_of_updates hop] at hworker
      cases hworker
    · cases hid'
  · split
    · exact hs.kept id'
    · nofun

end Steps

/-- The streams that `Update` finds have what can be delivered. -/
def Seen.Fine : Seen → Prop
  | .streams _ sts => ∀ st ∈ sts, Deliverable st
  | _ => True

instance : (e : Seen) → Decidable e.Fine
  | .streams _ sts => inferInstanceAs (Decidable (∀ st ∈ sts, Deliverable st))
  | .issued _ _ | .returned _ _ => inferInstanceAs (Decidable True)

abbrev Fine (seen : List Seen) : Prop := ∀ e ∈ seen, e.Fine

section Moves
variable {x : Nhh3Impl} {op : HostOp} {rest k : P Unit} {a : Act} {cb : Callback}

/-- A callback of C# adds one response to the list of its host. -/
theorem Nhh3Statics.Sound.callback (text : Bytes → String) (hs : s.Sound) (hx : s.nhh3ImplList id = some x)
    (hlock : x.lockObject = some (op, rest)) (hnext : rest.next x.host.connection = .act a k)
    (hcb : a.callsBack = some cb) : ∃ res responses, Carries text cb res ∧
      s.responseForEachHost id = some responses ∧ s.caller = .updating id ∧
      (s.setImpl id ⟨apply (HostAct.native a) x.host, some (op, k)⟩).callback text id cb =
        (s.setImpl id ⟨apply (HostAct.native a) x.host, some (op, k)⟩).setResponses id (responses ++ [res]) := by
  obtain ⟨hop, res, hadded, hcarries⟩ := (hs.lock hx hlock).callback text hnext hcb
  obtain ⟨responses, hresponses⟩ := hs.keys id x hx
  refine ⟨res, responses, hcarries, hresponses, hs.holdsUpdate hx hlock hop, ?_⟩
  simp [Nhh3Statics.callback, hadded, Nhh3Statics.setImpl, hresponses]

/-- No turn breaks what fits together. -/
theorem sound_moved (h : Moved text s seen s') (hfine : Fine seen) (hs : s.Sound) : s'.Sound := by
  cases h with
  | @constructed id hostName port options hidle hnone =>
    refine (hs.setResponses id _).setImpl (s.setResponses_self ..) ⟨.constructed hostName port options, none⟩
      s.caller (reachable_constructed ..) (fun _ _ h => nomatch h) (.inl rfl) (fun id' h => ?_) hs.kept
    rw [hidle] at h
    cases h
  | @destroyed id x hidle hx hfree =>
    have hother : ∀ {id' y}, Function.update s.nhh3ImplList id none id' = some y →
        id' ≠ id ∧ s.nhh3ImplList id' = some y := by
      intro id' y h
      by_cases hid : id' = id
      · subst hid
        rw [Function.update_self] at h
        cases h
      · exact ⟨hid, by rwa [Function.update_of_ne hid] at h⟩
    constructor
    case impls => exact fun id' y hy => hs.impls id' y (hother hy).2
    case keys =>
      intro id' y hy
      obtain ⟨hid, hold⟩ := hother hy
      obtain ⟨responses, hkey⟩ := hs.keys id' y hold
      exact ⟨responses, (Function.update_of_ne hid _ _).trans hkey⟩
    case holds => exact fun id' y op rest hy hlock => hs.holds id' y op rest (hother hy).2 hlock
    case updating =>
      intro id' h
      rw [show s.caller = .updating id' from h] at hidle
      cases hidle
    case kept => exact hs.kept
  | @cleared id x hidle hx =>
    refine (hs.setResponses id []).setCaller (fun id' => ?_) nofun nofun
    rw [show (s.setResponses id []).caller = .idle from hidle]
    exact ⟨nofun, nofun⟩
  | @flagged id x op hx hcalls =>
    refine hs.goOn hx { x with host := apply (HostAct.step op) x.host } ?_ rfl
    have hold := hs.impls id x hx
    unfold Nhh3Impl.Sound at hold ⊢
    dsimp only
    rwa [step_connection]
  | @locked id x op caller hx hfree henter =>
    refine hs.enter hx hfree henter fun hop => ?_
    rw [if_pos hop] at hfine
    exact hfine _ (List.mem_singleton_self _)
  | @acted id x op rest k a hx hlock hnext hcb =>
    have hU := (hs.lock hx hlock).act hnext
    exact hs.goOn hx ⟨apply (HostAct.native a) x.host, some (op, k)⟩ hU (by rw [hlock]; rfl)
  | @issued id x op rest k a cb hx hlock hnext hcb =>
    obtain ⟨res, responses, -, -, -, heq⟩ := hs.callback text hx hlock hnext hcb
    rw [heq]
    refine Nhh3Statics.Sound.setResponses ?_ id _
    have hU := (hs.lock hx hlock).act hnext
    exact hs.goOn hx ⟨apply (HostAct.native a) x.host, some (op, k)⟩ hU (by rw [hlock]; rfl)
  | @returned id x op rest responses hx hlock hnext hop hresponses =>
    have hr := (hs.lock hx hlock).ret hnext
    rw [← step_connection op] at hr
    have hleave := hs.leave hx hlock hr
    rw [worker_of_updates hop] at hleave
    exact hleave
  | @finished id x op rest hx hlock hnext hop =>
    have hr := (hs.lock hx hlock).ret hnext
    rw [← step_connection op] at hr
    exact hs.leave hx hlock hr
  | failed hx hlock hnext hop =>
    have hf := sat_next_fail (hs.lock hx hlock).about hnext
    rw [hop] at hf
    cases hf

theorem issuedFor_append (id : Nat) (log seen : List Seen) :
    issuedFor id (log ++ seen) = issuedFor id log ++ issuedFor id seen := List.filterMap_append

theorem returnedBy_append (id : Nat) (log seen : List Seen) :
    returnedBy id (log ++ seen) = returnedBy id log ++ returnedBy id seen := List.filterMap_append

/-- Nothing is called or returned, and the list under way is the same. -/
theorem Delivered.same (h : Delivered text log s id) (hissued : issuedFor id seen = [])
    (hreturned : returnedBy id seen = []) (hway : s'.underWay id = s.underWay id) :
    Delivered text (log ++ seen) s' id := by
  rwa [Delivered, issuedFor_append, returnedBy_append, hissued, hreturned, List.append_nil, List.append_nil, hway]

theorem underWay_out (hcleared : s.caller ≠ .cleared id) (hupdating : s.caller ≠ .updating id) :
    s.underWay id = [] :=
  if_neg (not_or.2 ⟨hcleared, hupdating⟩)

theorem underWay_idle (h : s.caller = .idle) : s.underWay id = [] :=
  underWay_out (by rw [h]; nofun) (by rw [h]; nofun)

theorem underWay_updating {responses : List ResponseParamaters} (h : s.caller = .updating id)
    (hresponses : s.responseForEachHost id = some responses) : s.underWay id = responses := by
  rw [Nhh3Statics.underWay, if_pos (.inr h), hresponses]
  rfl

/-- In `Update` of one host, no `Update` of another is under way. -/
theorem underWay_other {id' : Nat} (h : s.caller = .updating id') (hid : id' ≠ id) : s.underWay id = [] :=
  underWay_out (by rw [h]; nofun) (by rw [h]; exact fun heq => hid (Caller.updating.inj heq))

/-- What is called back for a host reaches its list, and that list its caller. -/
theorem delivered_moved (h : Moved text s seen s') (hs : s.Sound) (id : Nat) (hd : Delivered text log s id) :
    Delivered text (log ++ seen) s' id := by
  cases h with
  | constructed hostName port options hidle hnone =>
    refine hd.same rfl rfl (Eq.trans ?_ (underWay_idle hidle).symm)
    exact underWay_idle hidle
  | destroyed hidle hx hfree =>
    refine hd.same rfl rfl (Eq.trans ?_ (underWay_idle hidle).symm)
    exact underWay_idle hidle
  | @cleared id' x hidle hx =>
    refine hd.same rfl rfl (Eq.trans ?_ (underWay_idle hidle).symm)
    by_cases hid : id' = id
    · subst hid
      simp [Nhh3Statics.underWay]
    · exact underWay_out (fun heq => hid (Caller.cleared.inj heq)) nofun
  | flagged hx hcalls => exact hd.same rfl rfl rfl
  | @locked id' x op caller hx hfree henter =>
    refine hd.same (by split <;> rfl) (by split <;> rfl) ?_
    rcases enter_cases henter with ⟨-, rfl⟩ | ⟨-, hidle, rfl⟩ | ⟨-, hcleared, rfl⟩
    · rfl
    · refine Eq.trans ?_ (underWay_idle hidle).symm
      exact underWay_out (fun h => nomatch h) (fun h => nomatch h)
    · simp [Nhh3Statics.underWay, Nhh3Statics.setImpl, hcleared]
  | acted hx hlock hnext hcb => exact hd.same rfl rfl rfl
  | @issued id' x op rest k a cb hx hlock hnext hcb =>
    obtain ⟨res, responses, hcarries, hresponses, hcaller, heq⟩ := hs.callback text hx hlock hnext hcb
    rw [heq]
    by_cases hid : id' = id
    · subst hid
      rw [Delivered, underWay_updating hcaller hresponses] at hd
      have hissued : issuedFor id' [.issued id' cb] = [cb] := by simp [issuedFor]
      have hway : ((s.setImpl id' ⟨apply (HostAct.native a) x.host, some (op, k)⟩).setResponses id'
          (responses ++ [res])).underWay id' = responses ++ [res] :=
        underWay_updating hcaller (Nhh3Statics.setResponses_self ..)
      rw [Delivered, issuedFor_append, returnedBy_append, hissued, hway, ← List.append_assoc]
      refine List.rel_append ?_ (.cons hcarries .nil)
      simpa [returnedBy] using hd
    · refine hd.same (by simp [issuedFor, hid]) rfl (Eq.trans ?_ (underWay_other hcaller hid).symm)
      exact underWay_other hcaller hid
  | @returned id' x op rest responses hx hlock hnext hop hresponses =>
    have hcaller := hs.holdsUpdate hx hlock hop
    by_cases hid : id' = id
    · subst hid
      rw [Delivered, underWay_updating hcaller hresponses] at hd
      rw [Delivered, issuedFor_append, returnedBy_append, underWay_idle rfl]
      simpa [issuedFor, returnedBy] using hd
    · refine hd.same rfl (by simp [returnedBy, hid]) ?_
      exact (underWay_idle rfl).trans (underWay_other hcaller hid).symm
  | @finished id' x op rest hx hlock hnext hop =>
    refine hd.same rfl rfl ?_
    have hholds := hs.holds id' x op rest hx hlock
    cases op with
    | updateQwfs io => rfl
    | publishRequest requests =>
      have hcaller : s.caller = .publishing id' := hholds
      exact (underWay_idle rfl).trans (underWay_out (by rw [hcaller]; nofun) (by rw [hcaller]; nofun)).symm
    | update starts => cases hop
    | _ => exact hholds.elim
  | failed hx hlock hnext hop =>
    have hf := sat_next_fail (hs.lock hx hlock).about hnext
    rw [hop] at hf
    cases hf

end Moves

section Runs
variable {x : Nhh3Impl} {op : HostOp} {rest : P Unit}

theorem sound_start : Nhh3Statics.start.Sound where
  impls _ _ h := nomatch h
  keys _ _ h := nomatch h
  holds _ _ _ _ h := nomatch h
  updating _ h := nomatch h
  kept _ h := nomatch h

theorem runs_delivered (h : Runs text log s) (hfine : Fine log) : s.Sound ∧ ∀ id, Delivered text log s id := by
  induction h with
  | start => exact ⟨sound_start, fun id => .nil⟩
  | turn t _ hturn ih =>
    obtain ⟨hlog, hseen⟩ := List.forall_mem_append.1 hfine
    obtain ⟨hs, hd⟩ := ih hlog
    have hmoved := moved_of_turn hturn
    exact ⟨sound_moved hmoved hseen hs, fun id => delivered_moved hmoved hs id (hd id)⟩

/-- The next turn of a caller in native code: its `Update` returns, or native code gets nearer to its end. -/
theorem turn_updating (text : Bytes → String) (hs : s.Sound) (hx : s.nhh3ImplList id = some x)
    (hlock : x.lockObject = some (op, rest)) (hop : op.updates = true) :
    (∃ responses s', s.turn text (.native id) = some ([.returned id responses], s')) ∨
      ∃ seen s' x' k, s.turn text (.native id) = some (seen, s') ∧ Fine seen ∧ s'.nhh3ImplList id = some x' ∧
        x'.lockObject = some (op, k) ∧
        (rest.trace x.host.connection).length = (k.trace x'.host.connection).length + 1 := by
  have hturn : s.turn text (.native id) = s.native text id x op rest := by
    simp [Nhh3Statics.turn, hs.holdsUpdate hx hlock hop, Caller.gone, Nhh3Statics.takeTurn, hx, hlock]
  rw [hturn, Nhh3Statics.native]
  cases hnext : rest.next x.host.connection with
  | ret b =>
    obtain ⟨responses, hkey⟩ := hs.keys id x hx
    cases op with
    | update starts =>
      refine .inl ⟨responses,
        { s.setImpl id ⟨apply (HostAct.step (.update starts)) x.host, none⟩ with caller := .idle }, ?_⟩
      simp only [Nhh3Statics.setImpl, hkey, Option.map_some]
    | _ => cases hop
  | act a k =>
    have hlength : (rest.trace x.host.connection).length =
        (k.trace (apply (HostAct.native a) x.host).connection).length + 1 := by
      rw [(next_act hnext).2]
      rfl
    dsimp only
    cases hcb : a.callsBack with
    | none =>
      exact .inr ⟨[], _, ⟨_, some (op, k)⟩, k, rfl, fun _ hmem => absurd hmem List.not_mem_nil, s.setImpl_self ..,
        rfl, hlength⟩
    | some cb =>
      obtain ⟨res, responses, -, -, -, heq⟩ := hs.callback text hx hlock hnext hcb
      refine .inr ⟨[.issued id cb], _, ⟨_, some (op, k)⟩, k, rfl, ?_, ?_, rfl, hlength⟩
      · exact List.forall_mem_singleton.2 trivial
      · rw [heq]
        exact s.setImpl_self ..
  | fail e =>
    have hf := sat_next_fail (hs.lock hx hlock).about hnext
    rw [hop] at hf
    cases hf

/-- An `Update` that is under way comes to its end, if only the caller takes its turns. -/
theorem update_returns (hrun : Runs text log s) (hfine : Fine log) (hx : s.nhh3ImplList id = some x)
    (hlock : x.lockObject = some (op, rest)) (hop : op.updates = true) : ∃ seen responses s',
      Runs text (log ++ seen ++ [.returned id responses]) s' := by
  -- by what native code has still to do
  induction hn : (rest.trace x.host.connection).length generalizing log s x rest with
  | zero =>
    rcases turn_updating text (runs_delivered hrun hfine).1 hx hlock hop with ⟨responses, s', h⟩ |
      ⟨_, _, _, _, _, _, _, _, hlength⟩
    · exact ⟨[], responses, s', by simpa using hrun.turn _ h⟩
    · omega
  | succ n ih =>
    rcases turn_updating text (runs_delivered hrun hfine).1 hx hlock hop with ⟨responses, s', h⟩ |
      ⟨seen, s', x', k, h, hseen, hx', hlock', hlength⟩
    · exact ⟨[], responses, s', by simpa using hrun.turn _ h⟩
    · obtain ⟨seen', responses, s'', hrun'⟩ := ih (hrun.turn _ h) (List.forall_mem_append.2 ⟨hfine, hseen⟩) hx' hlock'
        (by omega)
      exact ⟨seen ++ seen', responses, s'', by simpa using hrun'⟩

/-- For any hosts and any interleaving of their threads: in every state that is reached, each callback
that native code called for a host is carried by one response in one list that `Update` of that host
returned, or returns once the caller goes on; in the order they were called, and nothing else is in
these lists. So it is whenever the streams that `Update` finds have what can be delivered. -/
theorem responses_delivered (text : Bytes → String) {log : List Seen} {s : Nhh3Statics} (h : Runs text log s)
    (hfine : Fine log) (id : Nat) : Delivered text log s id ∧
      (s.caller = .updating id → ∃ seen responses s', Runs text (log ++ seen ++ [.returned id responses]) s') := by
  obtain ⟨hs, hd⟩ := runs_delivered h hfine
  refine ⟨hd id, fun hcaller => ?_⟩
  obtain ⟨x, op, rest, hx, hlock, hop⟩ := hs.updating id hcaller
  exact update_returns h hfine hx hlock hop

end Runs

/-! ## Two runs -/

/-- Turns, one after the other. -/
def Nhh3Statics.take (text : Bytes → String) : List Turn → Nhh3Statics → Option (List Seen × Nhh3Statics)
  | [], s => some ([], s)
  | t :: ts, s => do
    let (seen, s) ← s.turn text t
    let (seen', s) ← Nhh3Statics.take text ts s
    return (seen ++ seen', s)

theorem runs_take {turns : List Turn} (h : Runs text log s) (hturns : s.take text turns = some (seen, s')) :
    Runs text (log ++ seen) s' := by
  induction turns generalizing log s seen with
  | nil =>
    cases hturns
    rwa [List.append_nil]
  | cons t ts ih =>
    obtain ⟨⟨seen₁, s₁⟩, h₁, hturns⟩ := Option.bind_eq_some_iff.1 hturns
    obtain ⟨⟨seen₂, s₂⟩, h₂, hturns⟩ := Option.bind_eq_some_iff.1 hturns
    cases hturns
    rw [← List.append_assoc]
    exact ih (h.turn t h₁) h₂

/-- Each byte is a character. -/
def latin1 (s : Bytes) : String := String.ofList (s.map fun b => Char.ofNat b.toNat)

/-- A step takes the lock, and native code this many turns. -/
def stepTurns (id : Nat) (op : HostOp) (n : Nat) : List Turn := .lock id op :: List.replicate n (.native id)

/-- The worker looks at the three flags, and calls `qwfsUpdate`. -/
def workerTurns (id : Nat) (io : UpdateIo) (n : Nat) : List Turn :=
  List.replicate 3 (.flag id (.updateQwfs {})) ++ stepTurns id (.updateQwfs io) n

/-- A host connects, and a request is published and started. -/
def requestTurns (id : Nat) : List Turn :=
  .construct id "h" "443" {} :: workerTurns id {} 3 ++ workerTurns id {} 3 ++
    workerTurns id { established := true } 4 ++ stepTurns id (.publishRequest [{}]) 3 ++ workerTurns id {} 3

/-- An event arrives. -/
def eventTurns (id : Nat) (event : H3Event) (n : Nat) : List Turn :=
  workerTurns id { polls := [{ streamId := 0, event }] } n

/-- Two hosts: one has a response, and the other's worker goes on while the first one's `Update` is
under way. -/
def downloadTurns : List Turn :=
  requestTurns 0 ++ requestTurns 1 ++ eventTurns 0 (.headers [(ascii ":status", ascii "200")]) 3 ++
    eventTurns 0 (.data (.buffered [1, 2])) 3 ++ eventTurns 0 .finished 3 ++
    [.update 0, .lock 0 (.update fun _ => {}), .native 0, .native 0] ++ eventTurns 1 .finished 3 ++
    [.native 0, .native 0, .native 0]

/-- What its caller gets. -/
def downloadResponse : ResponseParamaters where
  headers := some [⟨some ":status", some "200"⟩]
  body := some [1, 2]
  responseCode := 200

theorem responses_delivered_download : ∃ log s, Runs latin1 log s ∧
    issuedFor 0 log = [.successBinary 200 [ascii ":status", ascii "200"] (some [1, 2]) 2] ∧
    returnedBy 0 log = [[downloadResponse]] ∧ Delivered latin1 log s 0 ∧ Delivered latin1 log s 1 := by
  have hany : ((Nhh3Statics.start.take latin1 downloadTurns).any fun r => decide (Fine r.1 ∧
      issuedFor 0 r.1 = [.successBinary 200 [ascii ":status", ascii "200"] (some [1, 2]) 2] ∧
      returnedBy 0 r.1 = [[downloadResponse]])) = true := by decide +kernel
  obtain ⟨⟨log, s⟩, hrun, hlog⟩ := (Option.any_eq_true ..).1 hany
  obtain ⟨hfine, hissued, hreturned⟩ := of_decide_eq_true hlog
  have hruns := runs_take .start hrun
  exact ⟨log, s, hruns, hissued, hreturned, (responses_delivered latin1 hruns hfine 0).1,
    (responses_delivered latin1 hruns hfine 1).1⟩

/-- The body of a request cannot be read. -/
def failedTurns : List Turn :=
  requestTurns 0 ++ eventTurns 0 (.data (.failed (QuicheH3Err.transport QuicheErr.streamReset))) 3 ++
    .update 0 :: stepTurns 0 (.update fun _ => {}) 5

/-- The error callback is called, and `IssueCallbacks` fails in the retry that follows: no `Update`
returns the response. -/
theorem responses_delivered_retry : ∃ log s, Runs latin1 log s ∧ (∀ t, s.turn latin1 t = none) ∧
    (issuedFor 0 log).length = 1 ∧ returnedBy 0 log = [] ∧ ¬ Delivered latin1 log s 0 := by
  have hany : ((Nhh3Statics.start.take latin1 failedTurns).any fun r => decide (r.2.caller = .lost 0 ∧
      (issuedFor 0 r.1).length = 1 ∧ returnedBy 0 r.1 = [] ∧ r.2.underWay 0 = [])) = true := by decide +kernel
  obtain ⟨⟨log, s⟩, hrun, hlog⟩ := (Option.any_eq_true ..).1 hany
  obtain ⟨hlost, hissued, hreturned, hway⟩ := of_decide_eq_true hlog
  dsimp only at hlost hissued hreturned hway
  refine ⟨log, s, runs_take .start hrun, fun t => ?_, hissued, hreturned, fun h => ?_⟩
  · rw [Nhh3Statics.turn, hlost]
    exact if_pos rfl
  · have hlength := List.Forall₂.length_eq h
    rw [hissued, hreturned, hway] at hlength
    cases hlength

end Nhh3
