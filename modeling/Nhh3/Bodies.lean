import Mathlib.Data.List.TakeDrop
import Nhh3.Headers
/-!
# How a body is put together: EventData

The chunks of a body arrive between HEADERS events. `EventData` writes each to the
file or copies it behind the others, into a block that is allocated once if a
content-length is known by then and grown while none is. `Sink` is the arithmetic of
that, without the bytes.
-/

namespace Nhh3

/-! ## What arrives -/

/-- What arrives for a stream: a HEADERS event, or a DATA event with the bytes quiche hands over and
the answer of `malloc` or `realloc`, if one is asked for a block. -/
inductive Arrival where
  | headers (list : List (Bytes × Bytes))
  | data (chunk : Bytes) (malloc : Bool := true)
  deriving DecidableEq, Repr

def Stream.arrive (st : Stream) : Arrival → Except Fault Stream
  | .headers list => st.eventHeaders list
  | .data chunk malloc => st.eventData (.buffered chunk malloc)

def Stream.arrivals (st : Stream) : List Arrival → Except Fault Stream
  | [] => .ok st
  | a :: arrivals => do (← st.arrive a).arrivals arrivals

def headersIn (arrivals : List Arrival) : List (Bytes × Bytes) :=
  arrivals.flatMap fun
    | .headers list => list
    | .data _ _ => []

/-- The chunks, each with the content-length that was read by then. -/
def chunksFrom (length : Nat) : List Arrival → List (Nat × Bytes)
  | [] => []
  | .headers list :: arrivals => chunksFrom (Stream.numberIn "content-length" list length) arrivals
  | .data chunk _ :: arrivals => (length, chunk) :: chunksFrom length arrivals

/-- What `malloc` and `realloc` answer where they are asked: for the first bytes, and as long as no
content-length was read. -/
def mallocsFrom (length written : Nat) : List Arrival → List Bool
  | [] => []
  | .headers list :: arrivals => mallocsFrom (Stream.numberIn "content-length" list length) written arrivals
  | .data chunk malloc :: arrivals =>
    (if written = 0 ∨ length = 0 then [malloc] else []) ++ mallocsFrom length (written + chunk.length) arrivals

def joined (chunks : List (Nat × Bytes)) : Bytes := chunks.flatMap Prod.snd

/-- The content-length declared before the data; 0 if there is none. -/
def declaredLength (chunks : List (Nat × Bytes)) : Nat := (chunks.head?.map Prod.fst).getD 0

inductive Sink where
  | file
  /-- A block, by the size last allocated. -/
  | memory (allocated : Nat)
  deriving DecidableEq, Repr

/-- The size of the block a chunk of `n` bytes is copied into, behind the `written` ones. -/
def blockSize (allocated written length n : Nat) : Nat :=
  if written = 0 then if length ≠ 0 then length else n
  else if length = 0 then written + n else allocated

/-- One chunk of `n` bytes; `none` if the copy leaves the block. -/
def Sink.put (s : Sink) (written length n : Nat) : Option Sink :=
  match s with
  | .file => some .file
  | .memory allocated =>
    if written + n ≤ blockSize allocated written length n then
      some (.memory (blockSize allocated written length n))
    else none

def Sink.puts (s : Sink) (written : Nat) : List (Nat × Bytes) → Option Sink
  | [] => some s
  | c :: cs => do (← s.put written c.1 c.2.length).puts (written + c.2.length) cs

/-- Once a chunk came without a content-length, all others do. -/
def Undeclared (chunks : List (Nat × Bytes)) : Prop := chunks.Pairwise fun a b => a.1 = 0 → b.1 = 0

variable {chunks : List (Nat × Bytes)} {s s' : Sink} {written allocated : Nat}

theorem puts_cons {c : Nat × Bytes} (h : s.put written c.1 c.2.length = some s') :
    s.puts written (c :: chunks) = s'.puts (written + c.2.length) chunks := by
  rw [Sink.puts, h]
  rfl

theorem puts_file : Sink.file.puts written chunks = some .file := by
  induction chunks generalizing written with
  | nil => rfl
  | cons c cs ih => exact ih

/-- Without a content-length the block grows with the chunk. -/
theorem put_undeclared (allocated written n : Nat) :
    (Sink.memory allocated).put written 0 n = some (.memory (written + n)) := by
  by_cases hw : written = 0 <;> simp [Sink.put, blockSize, hw]

/-- With one it stays as it is, behind the first bytes. -/
theorem put_declared {length n : Nat} (hw : 0 < written) (hl : length ≠ 0) :
    (Sink.memory allocated).put written length n =
      if written + n ≤ allocated then some (.memory allocated) else none := by
  simp [Sink.put, blockSize, Nat.ne_of_gt hw, hl]

/-- A block that is full can only be grown. -/
theorem puts_full (hw : 0 < written) (hpos : ∀ c ∈ chunks, 0 < c.2.length) :
    ((Sink.memory written).puts written chunks).isSome ↔ ∀ c ∈ chunks, c.1 = 0 := by
  induction chunks generalizing written with
  | nil => simp [Sink.puts]
  | cons c cs ih =>
    have hc := hpos c (by simp)
    by_cases hl : c.1 = 0
    · have hput := put_undeclared written written c.2.length
      rw [← hl] at hput
      simp only [puts_cons hput, List.forall_mem_cons, hl, true_and]
      exact ih (by omega) fun x hx => hpos x (by simp [hx])
    · have hput : (Sink.memory written).put written c.1 c.2.length = none := by
        rw [put_declared hw hl]
        exact if_neg (by omega)
      simp [Sink.puts, hput, hl]

/-- A chunk without a content-length leaves a full block. -/
theorem puts_undeclared {c : Nat × Bytes} (hl : c.1 = 0) (hpos : ∀ x ∈ c :: chunks, 0 < x.2.length) :
    ((Sink.memory allocated).puts written (c :: chunks)).isSome ↔ Undeclared (c :: chunks) := by
  obtain ⟨hc, hcs⟩ := List.forall_mem_cons.1 hpos
  have hput := put_undeclared allocated written c.2.length
  rw [← hl] at hput
  rw [puts_cons hput, puts_full (by omega) hcs, Undeclared, List.pairwise_cons]
  simp only [hl, forall_const]
  refine ⟨fun hall => ⟨hall, ?_⟩, fun h => h.1⟩
  exact List.pairwise_of_forall_mem_list fun a _ b hb _ => hall b hb

/-- A chunk with one says nothing about those behind it. -/
theorem undeclared_cons {c : Nat × Bytes} (hl : c.1 ≠ 0) : Undeclared (c :: chunks) ↔ Undeclared chunks := by
  simp [Undeclared, hl]

/-- A block for the whole body is enough as long as it is not grown to what has arrived. -/
theorem puts_room (hw : 0 < written) (hpos : ∀ c ∈ chunks, 0 < c.2.length)
    (hroom : written + (joined chunks).length ≤ allocated) :
    ((Sink.memory allocated).puts written chunks).isSome ↔ Undeclared chunks := by
  induction chunks generalizing written with
  | nil => simp [Sink.puts, Undeclared]
  | cons c cs ih =>
    by_cases hl : c.1 = 0
    · exact puts_undeclared hl hpos
    · obtain ⟨hc, hcs⟩ := List.forall_mem_cons.1 hpos
      simp only [joined, List.flatMap_cons, List.length_append] at hroom ih
      have hput : (Sink.memory allocated).put written c.1 c.2.length = some (.memory allocated) := by
        rw [put_declared hw hl]
        exact if_pos (by omega)
      rw [puts_cons hput, undeclared_cons hl]
      exact ih (by omega) hcs (by omega)

/-- From an empty block: if the data keeps to the declared length, every copy fits exactly if a
content-length is not declared only after data has come without one. -/
theorem puts_iff (hpos : ∀ c ∈ chunks, 0 < c.2.length)
    (hfits : declaredLength chunks = 0 ∨ (joined chunks).length ≤ declaredLength chunks) :
    ((Sink.memory allocated).puts 0 chunks).isSome ↔ Undeclared chunks := by
  cases chunks with
  | nil => simp [Sink.puts, Undeclared]
  | cons c cs =>
    by_cases hl : c.1 = 0
    · exact puts_undeclared hl hpos
    · obtain ⟨hc, hcs⟩ := List.forall_mem_cons.1 hpos
      simp only [declaredLength, List.head?_cons, Option.map_some, Option.getD_some, joined,
        List.flatMap_cons, List.length_append] at hfits
      -- the first chunk allocates what is declared
      have hput : (Sink.memory allocated).put 0 c.1 c.2.length = some (.memory c.1) := by
        simp only [Sink.put, blockSize, hl, ↓reduceIte, ne_eq, not_false_eq_true]
        exact if_pos (by omega)
      rw [puts_cons hput, undeclared_cons hl]
      exact puts_room (by omega) hcs (by unfold joined; omega)

/-! ## EventData puts the chunks there -/

/-- What the stream holds while its body arrives. -/
structure Stream.Holds (st : Stream) (body : Bytes) (s : Sink) : Prop where
  handles : st.quicheH3Connection.isSome ∧ st.quicheQuicConnection.isSome
  written : st.writeSize = body.length
  sink : match s with
    | .file => st.file = some body
    | .memory allocated => st.file = none ∧ (body ≠ [] → st.body = some ⟨allocated, body⟩)

namespace Stream
variable {st st' : Stream} {body chunk : Bytes} {malloc : Bool}

theorem Holds.content_eq (h : st.Holds body s) : st.content = body := by
  cases s with
  | file =>
    have hf : st.file = some body := h.sink
    simp [Stream.content, hf]
  | memory allocated =>
    obtain ⟨hf, hb⟩ := h.sink
    by_cases hbody : body = []
    · simp [Stream.content, hf, h.written, hbody]
    · simp [Stream.content, hf, hb hbody, h.written]

/-- Headers leave the body alone. -/
theorem Holds.eventHeaders {list : List (Bytes × Bytes)} (h : st.Holds body s)
    (hrun : st.eventHeaders list = .ok st') : st'.Holds body s := by
  rw [eventHeaders_ok hrun]
  exact ⟨h.handles, h.written, h.sink⟩

theorem eventData_eq (h : st.Holds body s) (hfits : chunk.length ≤ recvTmpBufSize) :
    st.eventData (.buffered chunk malloc) = (st.store chunk malloc).map fun st =>
      { st with writeSize := st.writeSize + chunk.length, progress := st.progress + chunk.length } := by
  obtain ⟨h3, hh3⟩ := Option.isSome_iff_exists.1 h.handles.1
  obtain ⟨q, hq⟩ := Option.isSome_iff_exists.1 h.handles.2
  simp only [eventData, hh3, hq, List.take_of_length_le hfits, clampSize_eq]
  rw [List.take_of_length_le le_rfl]
  rfl

/-- The block `EventData` copies into, and the bytes in it so far. -/
theorem Holds.allocate {size : Nat} (h : st.Holds body (.memory size))
    (hmalloc : body.length = 0 ∨ st.bodySize = 0 → malloc = true) (n : Nat) : ∃ bytes,
    st.allocate n malloc = some ⟨blockSize size body.length st.bodySize n, bytes⟩ ∧
      bytes.take body.length = body := by
  rw [Stream.allocate, h.written, blockSize]
  by_cases hbody : body = []
  · subst hbody
    rw [hmalloc (.inl rfl)]
    exact ⟨[], rfl, rfl⟩
  · have hb := h.sink.2 hbody
    have hlen : body.length ≠ 0 := by simpa using hbody
    rw [if_neg hlen, if_neg hlen, hb]
    by_cases hl : st.bodySize = 0
    · rw [if_pos hl, if_pos hl, if_pos (hmalloc (.inr hl))]
      exact ⟨body, rfl, by simp⟩
    · rw [if_neg hl, if_neg hl]
      exact ⟨body, rfl, by simp⟩

/-- Without a block the copy goes through a null pointer. -/
theorem Holds.allocate_none {size : Nat} (h : st.Holds body (.memory size))
    (hmalloc : ¬ (body.length = 0 ∨ st.bodySize = 0 → malloc = true)) (n : Nat) : st.allocate n malloc = none := by
  obtain ⟨hasks, hno⟩ := Classical.not_imp.1 hmalloc
  rw [Stream.allocate, h.written]
  by_cases hlen : body.length = 0
  · rw [if_pos hlen, if_neg hno]
  · rw [if_neg hlen, if_pos (hasks.resolve_left hlen), if_neg hno]

/-- A chunk goes where the sink says; or there is no block for it, or the copy leaves the block. -/
theorem Holds.eventData (h : st.Holds body s) (hfits : chunk.length ≤ recvTmpBufSize) (malloc : Bool) :
    (∀ st', st.eventData (.buffered chunk malloc) = .ok st' → st'.bodySize = st.bodySize ∧
      (s ≠ .file → body.length = 0 ∨ st.bodySize = 0 → malloc = true) ∧
      ∃ s', s.put body.length st.bodySize chunk.length = some s' ∧ st'.Holds (body ++ chunk) s') ∧
    ((s ≠ .file → body.length = 0 ∨ st.bodySize = 0 → malloc = true) →
      (s.put body.length st.bodySize chunk.length).isSome →
      ∃ st', st.eventData (.buffered chunk malloc) = .ok st') := by
  rw [eventData_eq h hfits]
  cases s with
  | file =>
    have hf : st.file = some body := h.sink
    simp only [store, hf, Except.map]
    refine ⟨?_, fun _ _ => ⟨_, rfl⟩⟩
    rintro st' hst
    cases hst
    exact ⟨rfl, fun hne => absurd rfl hne, .file, rfl, h.handles, by simp [h.written], rfl⟩
  | memory size =>
    have hf := h.sink.1
    by_cases hmalloc : body.length = 0 ∨ st.bodySize = 0 → malloc = true
    · obtain ⟨bytes, hallocate, hbytes⟩ := h.allocate hmalloc chunk.length
      simp only [store, hf, hallocate, h.written, hbytes, Sink.put]
      by_cases hroom : body.length + chunk.length ≤ blockSize size body.length st.bodySize chunk.length
      · rw [if_pos hroom, if_pos hroom]
        refine ⟨?_, fun _ _ => ⟨_, rfl⟩⟩
        rintro st' hst
        cases hst
        exact ⟨rfl, fun _ => hmalloc, _, rfl, h.handles, by simp, rfl, fun _ => rfl⟩
      · rw [if_neg hroom, if_neg hroom]
        constructor
        · rintro st' hst
          cases hst
        · rintro - hsome
          cases hsome
    · simp only [store, hf, h.allocate_none hmalloc chunk.length]
      constructor
      · rintro st' hst
        cases hst
      · intro hall
        exact absurd (hall Sink.noConfusion) hmalloc

theorem accepted_headers (list : List (Bytes × Bytes)) (as : List Arrival) :
    (∀ name ∈ ["content-length", ":status"], AllAccepted name (headersIn (.headers list :: as))) ↔
      (∀ name ∈ ["content-length", ":status"], AllAccepted name list) ∧
        ∀ name ∈ ["content-length", ":status"], AllAccepted name (headersIn as) := by
  simp only [AllAccepted, headersIn, List.flatMap_cons, List.forall_mem_append]
  exact ⟨fun h => ⟨fun name hn => (h name hn).1, fun name hn => (h name hn).2⟩,
    fun h name hn => ⟨h.1 name hn, h.2 name hn⟩⟩

theorem mallocs_data (length written : Nat) (chunk : Bytes) (malloc : Bool) (as : List Arrival) :
    false ∉ mallocsFrom length written (.data chunk malloc :: as) ↔
      (written = 0 ∨ length = 0 → malloc = true) ∧ false ∉ mallocsFrom length (written + chunk.length) as := by
  rw [mallocsFrom, List.mem_append, not_or]
  refine and_congr_left fun _ => ?_
  by_cases hasks : written = 0 ∨ length = 0
  · rw [if_pos hasks]
    cases malloc <;> simp [hasks]
  · rw [if_neg hasks]
    simp [hasks]

/-- A chunk does not move the sink. -/
theorem put_ne_file {written length n : Nat} (h : s.put written length n = some s') : s' ≠ .file ↔ s ≠ .file := by
  cases s with
  | file =>
    cases h
    rfl
  | memory allocated =>
    rw [Sink.put] at h
    split_ifs at h
    cases h
    exact iff_of_true Sink.noConfusion Sink.noConfusion

/-- What has arrived is held, if it all could be taken in; and it could be exactly if no header value
throws, each block asked for is there and no copy leaves the block. -/
theorem Holds.arrivals (h : st.Holds body s) (as : List Arrival)
    (hchunks : ∀ c ∈ chunksFrom st.bodySize as, c.2.length ≤ recvTmpBufSize) :
    (∀ st', st.arrivals as = .ok st' →
      (∀ name ∈ ["content-length", ":status"], AllAccepted name (headersIn as)) ∧
      (s ≠ .file → false ∉ mallocsFrom st.bodySize body.length as) ∧
      ∃ s', s.puts body.length (chunksFrom st.bodySize as) = some s' ∧
        st'.Holds (body ++ joined (chunksFrom st.bodySize as)) s') ∧
    ((∀ name ∈ ["content-length", ":status"], AllAccepted name (headersIn as)) →
      (s ≠ .file → false ∉ mallocsFrom st.bodySize body.length as) →
      (s.puts body.length (chunksFrom st.bodySize as)).isSome → ∃ st', st.arrivals as = .ok st') := by
  induction as generalizing st body s with
  | nil =>
    refine ⟨?_, fun _ _ _ => ⟨st, rfl⟩⟩
    rintro st' hst
    cases hst
    exact ⟨fun name _ header hmem => absurd hmem List.not_mem_nil, fun _ => List.not_mem_nil, s, rfl,
      by simpa [joined, chunksFrom] using h⟩
  | cons a as ih =>
    rw [Stream.arrivals]
    cases a with
    | headers list =>
      rw [accepted_headers, ← eventHeaders_isOk st]
      cases hrun : st.arrive (.headers list) with
      | error e =>
        constructor
        · rintro st' ⟨⟩
        · rintro ⟨⟨st', hst⟩, -⟩
          cases hrun.symm.trans hst
      | ok st₁ =>
        have hsize : st₁.bodySize = numberIn "content-length" list st.bodySize := by
          rw [eventHeaders_ok hrun]
        have hih := ih (h.eventHeaders hrun) (by rw [hsize]; exact hchunks)
        rw [hsize] at hih
        exact ⟨fun st' hst => ⟨⟨⟨st₁, hrun⟩, (hih.1 st' hst).1⟩, (hih.1 st' hst).2⟩,
          fun hall hmallocs hputs => hih.2 hall.2 hmallocs hputs⟩
    | data chunk malloc =>
      obtain ⟨hfits, hrest⟩ := List.forall_mem_cons.1 hchunks
      obtain ⟨hok, hsome⟩ := h.eventData hfits malloc
      simp only [mallocs_data]
      cases hrun : st.arrive (.data chunk malloc) with
      | error e =>
        refine ⟨by rintro st' ⟨⟩, fun _ hmallocs hputs => ?_⟩
        cases hput : s.put body.length st.bodySize chunk.length with
        | none =>
          rw [chunksFrom, Sink.puts, hput] at hputs
          cases hputs
        | some s' =>
          obtain ⟨st', hst⟩ := hsome (fun hne => (hmallocs hne).1) (by rw [hput]; rfl)
          cases hrun.symm.trans hst
      | ok st₁ =>
        obtain ⟨hsize, hmalloc, s', hput, hholds⟩ := hok st₁ hrun
        have hih := ih hholds (by rw [hsize]; exact hrest)
        rw [hsize, List.length_append, put_ne_file hput] at hih
        rw [chunksFrom, puts_cons hput]
        simp only [joined, List.flatMap_cons, ← List.append_assoc]
        refine ⟨fun st' hst => ?_, fun hall hmallocs => hih.2 hall fun hne => (hmallocs hne).2⟩
        obtain ⟨hall, hmallocs, hheld⟩ := hih.1 st' hst
        exact ⟨hall, fun hne => ⟨hmalloc hne, hmallocs hne⟩, hheld⟩

/-- Nothing of an attempt is held: as the constructor and `Clear` leave a stream. -/
def Blank (st : Stream) : Prop := st.file = none ∧ st.bodySize = 0 ∧ st.writeSize = 0

theorem blank_clear (st : Stream) : st.clear.Blank := ⟨rfl, rfl, rfl⟩

/-- The sink of a request: the file, or a block that is not allocated yet. -/
def sink (st : Stream) : Sink := if st.saveFilePath = "" then .memory 0 else .file

theorem holds_start {q : Option Nat} {h3 : Option H3Conn} {io : StartIo} {id : Int} (hblank : st.Blank)
    (hstart : st.start q h3 io = .ok (st', id)) (hid : 0 ≤ id) :
    st'.Holds [] st'.sink ∧ st'.bodySize = 0 := by
  obtain ⟨q, h3, -, -, hok, -⟩ := start_cases hstart
  obtain ⟨hfile, hlength, hwrite⟩ := hblank
  rw [hok hid]
  refine ⟨⟨⟨rfl, rfl⟩, hwrite, ?_⟩, hlength⟩
  by_cases hpath : st.saveFilePath = ""
  · simp [sink, started, hpath, hfile]
  · simp [sink, started, hpath]

end Stream

theorem sink_ne_file {st : Stream} : st.sink ≠ .file ↔ st.saveFilePath = "" := by
  unfold Stream.sink
  split
  · rename_i hpath
    exact iff_of_true Sink.noConfusion hpath
  · rename_i hpath
    exact iff_of_false (fun hne => hne rfl) hpath

end Nhh3
