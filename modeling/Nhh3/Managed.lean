import Mathlib.Data.List.TakeWhile
import Nhh3.Guards
/-!
# Callbacks into C#: qwfs_h3_stream.cpp and Nhh3Impl.cs

Native code passes a response to one of three callbacks, as arrays and sizes; the
C# functions behind them copy it into a `ResponseParamaters`. Their numbers are
`int`s, so they fail for what is larger than an `int` counts.
-/

namespace Nhh3

/-! ## The callbacks of qwfs_h3_stream.cpp -/

/-- A call of one of the callbacks, with its arguments behind the host's id. The arrays
come with their sizes. -/
inductive Callback where
  | successFile (responseCode : Nat) (headers : List Bytes) (filePath : String)
  | successBinary (responseCode : Nat) (headers : List Bytes) (body : Option Bytes) (bodySize : Nat)
  | error (status : QwfsStatus) (errorDetail : String)
  deriving DecidableEq, Repr

def Stream.callSuccessCallback (st : Stream) : Callback :=
  if st.file.isSome then .successFile st.responseCode st.resHeaders st.saveFilePath
  else .successBinary st.responseCode st.resHeaders (st.body.map Block.bytes) st.writeSize

def Stream.callErrorCallback (st : Stream) : Callback := .error st.status st.errorDetail

/-! ## The callback functions of Nhh3Impl.cs -/

/-- One element of the array of headers; `none` is a null string. -/
structure Headers where
  name : Option String := none
  value : Option String := none
  deriving DecidableEq, Repr

structure ResponseParamaters where
  headers : Option (List Headers) := none
  body : Option Bytes := none
  saveFilePath : String := ""
  responseCode : Nat := 0
  status : Int := QwfsStatus.wait.toInt
  errorMessage : String := ""
  deriving DecidableEq, Repr

/-- The cast of a `ulong` to `int`, and what `int` arithmetic makes of a number. -/
def toInt32 (n : Nat) : Int := (n : Int).bmod (2 ^ 32)

section Managed
-- how the platform decodes a string of `char`
variable (text : Bytes → String)

/-- The function `Marshal.PtrToStringAnsi`: the string ends at the NUL. -/
def ptrToStringAnsi (s : Bytes) : String := text (s.takeWhile (· ≠ 0))

/-- `Marshal.ReadIntPtr` at the offset `elementSize * num`, an `int`; it faults outside the array. -/
def readIntPtr (headers : List Bytes) (num : Nat) : Option Bytes :=
  if toInt32 (8 * num) = 8 * num then headers[num]? else none

/-- The loop of `ReadResponseHeaders` from `num` on, for `n` more rounds. -/
def readHeadersLoop (headers : List Bytes) : Nat → Nat → List Headers → Option (List Headers)
  | 0, _, res => some res
  | n + 1, num, res => do
    let ptr ← readIntPtr headers num
    let header ← res[num / 2]?
    let s := some (ptrToStringAnsi text ptr)
    readHeadersLoop headers n (num + 1)
      (res.set (num / 2) (if num % 2 = 0 then { header with name := s } else { header with value := s }))

/-- The function `ReadResponseHeaders`; `none` is an exception. -/
def readResponseHeaders (headers : List Bytes) : Option (List Headers) :=
  readHeadersLoop text headers (toInt32 headers.length).toNat 0 (List.replicate (headers.length / 2) {})

def requestFileSuccess (responseCode : Nat) (headers : List Bytes) (filePath : String) :
    Option ResponseParamaters := do
  let headers ← readResponseHeaders text headers
  return { saveFilePath := filePath, responseCode, headers }

/-- A body of more bytes than an `int` counts has no array. -/
def requestBinarySuccess (responseCode : Nat) (headers : List Bytes) (body : Option Bytes) (bodySize : Nat) :
    Option ResponseParamaters := do
  let headers ← readResponseHeaders text headers
  match body with
  | some bytes =>
    if 0 < bodySize then
      if bodySize < 2 ^ 31 then return { responseCode, headers, body := bytes.take bodySize } else none
    else return { responseCode, headers }
  | none => return { responseCode, headers }

def requestError (status : QwfsStatus) (errorDetail : String) : ResponseParamaters where
  status := status.toInt
  errorMessage := errorDetail

/-- What the callback adds to the list of its host; `none` is an exception. -/
def Callback.added : Callback → Option ResponseParamaters
  | .successFile responseCode headers filePath => requestFileSuccess text responseCode headers filePath
  | .successBinary responseCode headers body bodySize =>
    requestBinarySuccess text responseCode headers body bodySize
  | .error status errorDetail => some (requestError status errorDetail)

end Managed

/-! ## What a callback becomes -/

variable {text : Bytes → String}

/-- How `EventHeaders` stores the pairs it is given. -/
def stored (headers : List (Bytes × Bytes)) : List Bytes := headers.flatMap fun h => [h.1, h.2]

/-- The pair as an element of the array of headers. -/
def decoded (text : Bytes → String) (h : Bytes × Bytes) : Headers := ⟨some (text h.1), some (text h.2)⟩

/-- The response carries what native code passed to the callback: each name with its value, in
the order they came. -/
inductive Carries (text : Bytes → String) : Callback → ResponseParamaters → Prop where
  | successFile (responseCode : Nat) (headers : List (Bytes × Bytes)) (filePath : String) :
      Carries text (.successFile responseCode (stored headers) filePath)
        { responseCode, headers := headers.map (decoded text), saveFilePath := filePath }
  | successBinary (responseCode : Nat) (headers : List (Bytes × Bytes)) (native : Option Bytes) (bodySize : Nat)
      (body : Option Bytes) : body.getD [] = (native.getD []).take bodySize →
      Carries text (.successBinary responseCode (stored headers) native bodySize)
        { responseCode, headers := headers.map (decoded text), body }
  | error (status : QwfsStatus) (errorDetail : String) :
      Carries text (.error status errorDetail) { status := status.toInt, errorMessage := errorDetail }

section Headers
variable {headers : List (Bytes × Bytes)}

theorem stored_append (headers headers' : List (Bytes × Bytes)) :
    stored (headers ++ headers') = stored headers ++ stored headers' :=
  List.flatMap_append

theorem length_stored : (stored headers).length = 2 * headers.length := by
  induction headers with
  | nil => rfl
  | cons h headers ih =>
    have hcons : stored (h :: headers) = h.1 :: h.2 :: stored headers := rfl
    rw [hcons, List.length_cons, List.length_cons, List.length_cons, ih]
    omega

theorem toInt32_eq {n : Nat} (h : n < 2 ^ 31) : toInt32 n = n :=
  Int.bmod_eq_of_le (by omega) (by omega)

/-- A string without a NUL is read to its end. -/
theorem ptrToStringAnsi_eq {s : Bytes} (h : 0 ∉ s) : ptrToStringAnsi text s = text s := by
  have hall : ∀ b ∈ s, decide (b ≠ 0) = true := fun b hb => decide_eq_true fun hb0 => h (hb0 ▸ hb)
  rw [ptrToStringAnsi, List.takeWhile_eq_self_iff.2 hall]

theorem readIntPtr_eq {strings : List Bytes} {num : Nat} (h : num < 2 ^ 28) :
    readIntPtr strings num = strings[num]? := by
  have hoffset : toInt32 (8 * num) = 8 * num := by
    rw [toInt32_eq (by omega)]
    omega
  rw [readIntPtr, if_pos hoffset]

/-- Two rounds of the loop: a name, and the value behind it. -/
theorem readHeadersLoop_pair (text : Bytes → String) (done : List Headers) (before after : List Bytes)
    {name value : Bytes} (m n : Nat)
    (hbefore : before.length = 2 * done.length) (hsize : before.length + 2 ≤ 2 ^ 28)
    (hname : 0 ∉ name) (hvalue : 0 ∉ value) :
    readHeadersLoop text (before ++ name :: value :: after) (n + 2) (2 * done.length)
        (done ++ List.replicate (m + 1) ({} : Headers)) =
      readHeadersLoop text (before ++ name :: value :: after) n (2 * (done.length + 1))
        ((done ++ [decoded text (name, value)]) ++ List.replicate m ({} : Headers)) := by
  have h0 : readIntPtr (before ++ name :: value :: after) (2 * done.length) = some name := by
    rw [readIntPtr_eq (by omega), List.getElem?_append_right (by omega)]
    simp [hbefore]
  have h1 : readIntPtr (before ++ name :: value :: after) (2 * done.length + 1) = some value := by
    rw [readIntPtr_eq (by omega), List.getElem?_append_right (by omega)]
    simp [hbefore]
  have hindex : (2 * done.length + 1) / 2 = done.length := by omega
  have hodd : (2 * done.length + 1) % 2 = 1 := by omega
  simp [readHeadersLoop, h0, h1, hindex, hodd, ptrToStringAnsi_eq hname, ptrToStringAnsi_eq hvalue, decoded,
    List.replicate_succ, Nat.mul_add]

theorem readHeadersLoop_stored (text : Bytes → String) (done rest : List (Bytes × Bytes))
    (hsize : 2 * (done ++ rest).length ≤ 2 ^ 28) (hnul : ∀ s ∈ stored rest, 0 ∉ s) :
    readHeadersLoop text (stored (done ++ rest)) (2 * rest.length) (2 * done.length)
        (done.map (decoded text) ++ List.replicate rest.length ({} : Headers)) =
      some ((done ++ rest).map (decoded text)) := by
  induction rest generalizing done with
  | nil => simp [readHeadersLoop]
  | cons h rest ih =>
    have hsplit : stored (done ++ h :: rest) = stored done ++ h.1 :: h.2 :: stored rest := by
      rw [stored_append]
      rfl
    have hroom : (stored done).length + 2 ≤ 2 ^ 28 := by
      rw [List.length_append, List.length_cons] at hsize
      rw [length_stored]
      omega
    have hpair := readHeadersLoop_pair text (done.map (decoded text)) (stored done) (stored rest) rest.length
      (2 * rest.length) (by rw [length_stored, List.length_map]) hroom (hnul h.1 (by simp [stored]))
      (hnul h.2 (by simp [stored]))
    have hnext := ih (done ++ [h]) (by simpa using hsize) fun s hs =>
      hnul s (List.mem_append_right [h.1, h.2] hs)
    rw [List.length_map, ← hsplit] at hpair
    rw [List.append_assoc, List.singleton_append, List.map_append, List.length_append] at hnext
    exact hpair.trans hnext

/-- The function `ReadResponseHeaders` pairs the strings again. -/
theorem readResponseHeaders_stored (text : Bytes → String) (hsize : (stored headers).length ≤ 2 ^ 28)
    (hnul : ∀ s ∈ stored headers, 0 ∉ s) :
    readResponseHeaders text (stored headers) = some (headers.map (decoded text)) := by
  have hloop := readHeadersLoop_stored text [] headers (by rwa [length_stored] at hsize) hnul
  have hcount : (toInt32 (stored headers).length).toNat = 2 * headers.length := by
    rw [length_stored] at hsize ⊢
    rw [toInt32_eq (by omega), Int.toNat_natCast]
  rw [readResponseHeaders, hcount, length_stored, Nat.mul_div_cancel_left _ (by decide)]
  exact hloop

end Headers

/-! ## Streams whose callback can be made -/

section Streams
variable {st st' : Stream}

/-- The headers of the stream, as its handlers stored them. -/
def Stream.Paired (st : Stream) : Prop := ∃ headers, st.resHeaders = stored headers

theorem Stream.Paired.same (h : st.Paired) (heq : st'.resHeaders = st.resHeaders) : st'.Paired := by
  obtain ⟨headers, h⟩ := h
  exact ⟨headers, heq.trans h⟩

/-- The callback for the stream is called, reaches the list, and native code goes on: the stream is
not retried, and what it has fits the `int`s of C#. -/
structure Deliverable (st : Stream) : Prop where
  settled : Settled st
  headers : st.status = .completed → st.resHeaders.length ≤ 2 ^ 28 ∧ ∀ s ∈ st.resHeaders, 0 ∉ s
  body : st.status = .completed → st.file = none → st.writeSize < 2 ^ 31

instance (st : Stream) : Decidable (Deliverable st) :=
  decidable_of_iff (Settled st ∧
      (st.status = .completed → st.resHeaders.length ≤ 2 ^ 28 ∧ ∀ s ∈ st.resHeaders, 0 ∉ s) ∧
      (st.status = .completed → st.file = none → st.writeSize < 2 ^ 31))
    ⟨fun h => ⟨h.1, h.2.1, h.2.2⟩, fun h => ⟨h.settled, h.headers, h.body⟩⟩

theorem added_success (hD : Deliverable st) (hP : st.Paired) (hs : st.status = .completed) :
    ∃ res, st.callSuccessCallback.added text = some res ∧ Carries text st.callSuccessCallback res := by
  obtain ⟨headers, hheaders⟩ := hP
  obtain ⟨hsize, hnul⟩ := hD.headers hs
  rw [hheaders] at hsize hnul
  have hread := readResponseHeaders_stored text hsize hnul
  unfold Stream.callSuccessCallback
  rw [hheaders]
  split
  · exact ⟨_, by simp [Callback.added, requestFileSuccess, hread], .successFile ..⟩
  · rename_i hfile
    have hbody := hD.body hs (by simpa using hfile)
    cases hnative : st.body.map Block.bytes with
    | none =>
      exact ⟨_, by simp [Callback.added, requestBinarySuccess, hread], .successBinary _ _ _ _ none (by simp)⟩
    | some bytes =>
      by_cases hpos : 0 < st.writeSize
      · exact ⟨_, by simpa [Callback.added, requestBinarySuccess, hread, hpos] using hbody,
          .successBinary _ _ _ _ (some (bytes.take st.writeSize)) rfl⟩
      · have hzero : st.writeSize = 0 := by omega
        exact ⟨_, by simp [Callback.added, requestBinarySuccess, hread, hzero],
          .successBinary _ _ _ _ none (by simp [hzero])⟩

end Streams

end Nhh3
