import Mathlib.Data.Nat.Find
import Nhh3.Connection
import Nhh3.Lib.Overlay
/-!
# The session file of 0-RTT: SaveSessionForZeroRtt and LoadSessionForZeroRtt

The session is written with one `fwrite` and read in a loop, each time to the start of
one buffer. The loop tests for the end of the file only, and quiche is given as many
bytes of the buffer as were read in all.
-/

namespace Nhh3

open Lib Lib.Overlay

/-! ## Saving -/

/-- What `SaveSessionForZeroRtt` meets: the session of the connection, whether `fopen` succeeds, and how
much `fwrite` writes. -/
structure SaveIo where
  session : Bytes
  fopen : Bool := true
  written : Nat

/-- The result, and the file if it was opened. What `fwrite` returns is not looked at. -/
def saveSessionForZeroRtt (path : String) (io : SaveIo) : Bool × Option Bytes :=
  if path = "" then (false, none)
  else if io.session.length = 0 then (false, none)
  else if io.fopen then (true, some (io.session.take io.written))
  else (false, none)

/-! ## Loading -/

/-- The size of `buffer`. -/
def sessionBufferSize : Nat := 1024 * 512

/-- What one `fread` does: the bytes it puts into the buffer, and what `feof` and `ferror` say then.
Fewer bytes than asked for come only with one of the two. -/
structure Fread where
  data : Bytes
  feof : Bool
  ferror : Bool
  fits : data.length ≤ sessionBufferSize
  short : data.length < sessionBufferSize → feof = true ∨ ferror = true

structure LoadIo where
  fopen : Bool := true
  /-- The outcomes of `fread`, one after the other. -/
  fread : Nat → Fread
  /-- Whether `quiche_conn_set_session` takes the session. -/
  setSession : Bool := true

/-- What becomes of a load. -/
inductive Loaded where
  /-- It gives up before quiche is asked. -/
  | failed
  /-- `quiche_conn_set_session` gets these bytes. -/
  | handed (data : Bytes)
  /-- It gets a length that goes past the buffer. -/
  | overread
  deriving DecidableEq

/-- The loop, from outcome `n` on: the buffer and `totalReadSize` when `feof` ends it. The branch for
`ferror` is empty. -/
def readLoop (fread : Nat → Fread) : Nat → Nat → Bool → Bytes → Nat → Option (Bytes × Nat)
  | _, _, true, buffer, total => some (buffer, total)
  | 0, _, false, _, _ => none
  | fuel + 1, n, false, buffer, total =>
    readLoop fread fuel (n + 1) (fread n).feof (fill buffer (fread n).data)
      ((total + (fread n).data.length) % 2 ^ 64)

/-- The function `LoadSessionForZeroRtt`; `none` if it is still reading. -/
def loadSessionForZeroRtt (path : String) (io : LoadIo) (fuel : Nat) : Option Loaded :=
  if path = "" then some .failed
  else if io.fopen then do
    let (buffer, total) ← readLoop io.fread fuel 0 false (List.replicate sessionBufferSize 0) 0
    if 0 ≥ total then some .failed
    else if total ≤ sessionBufferSize then some (.handed (buffer.take total))
    else some .overread
  else some .failed

/-- The result of the load. -/
def Loaded.result (setSession : Bool) : Loaded → Bool
  | .failed => false
  | .handed _ | .overread => setSession

/-- The connection takes the result for the answer it is given. -/
theorem loadSession_result {c : Connection} {io : LoadIo} {fuel : Nat} {l : Loaded}
    (h : loadSessionForZeroRtt c.zeroRttSessionPath io fuel = some l) (i : InitIo)
    (hi : i.session = l.result io.setSession) : c.loadSessionForZeroRtt i = l.result io.setSession := by
  unfold Connection.loadSessionForZeroRtt
  by_cases hp : c.zeroRttSessionPath = ""
  · rw [loadSessionForZeroRtt, if_pos hp] at h
    cases h
    simp [hp, Loaded.result]
  · simp [hp, hi]

/-! ## How the loop ends -/

/-- The chunks of `k` outcomes from `n` on. -/
def chunksOf (fread : Nat → Fread) (n k : Nat) : List Bytes := (List.range' n k).map fun i => (fread i).data

/-- The end of the file is first reported by outcome `k`. -/
structure EndsAt (fread : Nat → Fread) (k : Nat) : Prop where
  ends : (fread k).feof = true
  before : ∀ i < k, (fread i).feof = false

/-- The file is read as it is: the chunks up to its end make it up. -/
def Reads (fread : Nat → Fread) (file : Bytes) : Prop :=
  ∀ k, EndsAt fread k → (chunksOf fread 0 (k + 1)).flatten = file

section Loop
variable {fread : Nat → Fread} {file buffer : Bytes} {fuel k n total : Nat}

/-- Until the end of the file is reported, the loop goes on. -/
theorem readLoop_none (h : ∀ i, n ≤ i → i < n + fuel → (fread i).feof = false) :
    readLoop fread fuel n false buffer total = none := by
  induction fuel generalizing n buffer total with
  | zero => rfl
  | succ fuel ih =>
    rw [readLoop, h n le_rfl (by omega)]
    exact ih fun i hi hlt => h i (by omega) (by omega)

/-- At the end of the file every chunk was written over the buffer, and counted. -/
theorem readLoop_some (hends : (fread (n + k)).feof = true)
    (hbefore : ∀ i, n ≤ i → i < n + k → (fread i).feof = false) (hfuel : k < fuel) :
    readLoop fread fuel n false buffer (total % 2 ^ 64) = some (overlay buffer (chunksOf fread n (k + 1)),
      (total + (chunksOf fread n (k + 1)).flatten.length) % 2 ^ 64) := by
  induction k generalizing n fuel buffer total with
  | zero =>
    obtain ⟨fuel, rfl⟩ := Nat.exists_eq_add_one.2 hfuel
    rw [readLoop, show (fread n).feof = true from hends, readLoop]
    simp [chunksOf, overlay]
  | succ k ih =>
    obtain ⟨fuel, rfl⟩ := Nat.exists_eq_add_one.2 (Nat.zero_lt_of_lt hfuel)
    rw [readLoop, hbefore n le_rfl (by omega), Nat.mod_add_mod]
    rw [ih (by rwa [Nat.add_right_comm, Nat.add_assoc]) (fun i hi hlt => hbefore i (by omega) (by omega))
      (by omega)]
    have hcons : chunksOf fread n (k + 1 + 1) = (fread n).data :: chunksOf fread (n + 1) (k + 1) := rfl
    rw [hcons, List.flatten_cons, List.length_append, Nat.add_assoc]
    rfl

theorem endsAt_find (h : ∃ k, (fread k).feof = true) : EndsAt fread (Nat.find h) where
  ends := Nat.find_spec h
  before _ hi := Bool.eq_false_iff.2 (Nat.find_min h hi)

/-- The loop ends at the first report of the end of the file, and only there. -/
theorem readLoop_iff {r : Bytes × Nat} : (∃ fuel, readLoop fread fuel 0 false buffer 0 = some r) ↔
    ∃ k, EndsAt fread k ∧ r = (overlay buffer (chunksOf fread 0 (k + 1)),
      (chunksOf fread 0 (k + 1)).flatten.length % 2 ^ 64) := by
  have hsome : ∀ k fuel, EndsAt fread k → k < fuel → readLoop fread fuel 0 false buffer 0 =
      some (overlay buffer (chunksOf fread 0 (k + 1)), (chunksOf fread 0 (k + 1)).flatten.length % 2 ^ 64) := by
    intro k fuel hk hfuel
    have h : readLoop fread fuel 0 false buffer (0 % 2 ^ 64) = _ :=
      readLoop_some (k := k) (by rw [Nat.zero_add]; exact hk.ends) (fun i _ hlt => hk.before i (by omega)) hfuel
    rwa [Nat.zero_add] at h
  constructor
  · rintro ⟨fuel, hrun⟩
    by_cases h : ∃ k, k < fuel ∧ (fread k).feof = true
    · obtain ⟨k, hlt, hk⟩ := h
      have hsome' : ∃ k, (fread k).feof = true := ⟨k, hk⟩
      have hends := endsAt_find hsome'
      have hfirst : Nat.find hsome' < fuel := Nat.lt_of_le_of_lt (Nat.find_min' hsome' hk) hlt
      exact ⟨_, hends, Option.some.inj (hrun.symm.trans (hsome _ fuel hends hfirst))⟩
    · rw [readLoop_none fun i _ hlt => Bool.eq_false_iff.2 fun hi => h ⟨i, by omega, hi⟩] at hrun
      cases hrun
  · rintro ⟨k, hk, rfl⟩
    exact ⟨k + 1, hsome k (k + 1) hk (Nat.lt_succ_self k)⟩

end Loop

/-! ## The round trip -/

section RoundTrip
variable {path : String} {load : LoadIo} {save : SaveIo}

/-- A session that is saved was not empty, under a path that was not. -/
theorem save_ok {file : Bytes} (h : saveSessionForZeroRtt path save = (true, some file)) :
    path ≠ "" ∧ 0 < save.session.length := by
  unfold saveSessionForZeroRtt at h
  by_cases hp : path = ""
  · rw [if_pos hp] at h
    cases h
  by_cases hs : save.session.length = 0
  · rw [if_neg hp, if_pos hs] at h
    cases h
  exact ⟨hp, Nat.pos_of_ne_zero hs⟩

/-- What a load of an opened file comes to. -/
def loaded (r : Bytes × Nat) : Loaded :=
  if 0 ≥ r.2 then .failed
  else if r.2 ≤ sessionBufferSize then .handed (r.1.take r.2)
  else .overread

theorem load_opened (hp : path ≠ "") (hopen : load.fopen = true) (fuel : Nat) :
    loadSessionForZeroRtt path load fuel =
      (readLoop load.fread fuel 0 false (List.replicate sessionBufferSize 0) 0).map loaded := by
  rw [loadSessionForZeroRtt, if_neg hp, if_pos hopen]
  cases readLoop load.fread fuel 0 false (List.replicate sessionBufferSize 0) 0 with
  | none => rfl
  | some r =>
    show (if _ then _ else if _ then _ else _) = some (loaded r)
    unfold loaded
    split_ifs <;> rfl

theorem load_iff (hp : path ≠ "") (hopen : load.fopen = true) {l : Loaded} :
    (∃ fuel, loadSessionForZeroRtt path load fuel = some l) ↔ ∃ k, EndsAt load.fread k ∧
      l = loaded (overlay (List.replicate sessionBufferSize 0) (chunksOf load.fread 0 (k + 1)),
        (chunksOf load.fread 0 (k + 1)).flatten.length % 2 ^ 64) := by
  simp only [load_opened hp hopen, Option.map_eq_some_iff]
  constructor
  · rintro ⟨fuel, r, hr, rfl⟩
    obtain ⟨k, hk, rfl⟩ := readLoop_iff.1 ⟨fuel, hr⟩
    exact ⟨k, hk, rfl⟩
  · rintro ⟨k, hk, rfl⟩
    obtain ⟨fuel, hr⟩ := readLoop_iff.2 ⟨k, hk, rfl⟩
    exact ⟨fuel, _, hr, rfl⟩

/-- Quiche gets the whole file exactly if it fits the buffer and the buffer shows it. -/
theorem loaded_handed {file : Bytes} (hpos : 0 < file.length) {chunks : List Bytes} (hfile : chunks.flatten = file) :
    loaded (overlay (List.replicate sessionBufferSize 0) chunks, chunks.flatten.length % 2 ^ 64) = .handed file ↔
      file.length ≤ sessionBufferSize ∧ Whole 0 chunks := by
  subst hfile
  by_cases hfits : chunks.flatten.length ≤ sessionBufferSize
  · have hmod : chunks.flatten.length % 2 ^ 64 = chunks.flatten.length :=
      Nat.mod_eq_of_lt (lt_of_le_of_lt hfits (by decide))
    simp only [loaded, hmod, ge_iff_le, Nat.not_le.2 hpos, ↓reduceIte, hfits, Loaded.handed.injEq, true_and]
    exact take_overlay_iff hfits
  · simp only [hfits, false_and, iff_false]
    intro h
    unfold loaded at h
    split_ifs at h with h0 hn
    have hlen := congrArg List.length (Loaded.handed.inj h)
    rw [List.length_take] at hlen
    omega

end RoundTrip

/-- A load ends exactly if nothing is read or the end of the file is reported. It then hands quiche the
saved session exactly if the file could be opened, the session fits the buffer and all of it is in the
first chunk that is not empty, up to zeros. -/
theorem session_round_trip (path : String) (load : LoadIo) :
    ((∃ fuel, loadSessionForZeroRtt path load fuel ≠ none) ↔
      path = "" ∨ load.fopen = false ∨ ∃ k, EndsAt load.fread k) ∧
    ∀ save : SaveIo, saveSessionForZeroRtt path save = (true, some save.session) → Reads load.fread save.session →
      ((∃ fuel, loadSessionForZeroRtt path load fuel = some (.handed save.session)) ↔
        load.fopen = true ∧ ∃ k, EndsAt load.fread k ∧ save.session.length ≤ sessionBufferSize ∧
          Whole 0 (chunksOf load.fread 0 (k + 1))) := by
  constructor
  · by_cases hp : path = ""
    · simp [loadSessionForZeroRtt, hp]
    cases hopen : load.fopen with
    | false => simp [loadSessionForZeroRtt, hp, hopen]
    | true =>
      simp only [hp, Bool.true_eq_false, false_or, Option.ne_none_iff_exists']
      constructor
      · rintro ⟨fuel, l, hl⟩
        obtain ⟨k, hk, -⟩ := (load_iff hp hopen).1 ⟨fuel, hl⟩
        exact ⟨k, hk⟩
      · rintro ⟨k, hk⟩
        obtain ⟨fuel, hl⟩ := (load_iff hp hopen).2 ⟨k, hk, rfl⟩
        exact ⟨fuel, _, hl⟩
  · intro save hsave hreads
    obtain ⟨hp, hpos⟩ := save_ok hsave
    cases hopen : load.fopen with
    | false => simp [loadSessionForZeroRtt, hp, hopen]
    | true =>
      rw [load_iff hp hopen]
      simp only [true_and]
      refine exists_congr fun k => and_congr_right fun hk => ?_
      rw [eq_comm, loaded_handed hpos (hreads k hk)]

/-- The last read of a file. -/
def Fread.last (data : Bytes) : Fread where
  data := data.take sessionBufferSize
  feof := true
  ferror := false
  fits := List.length_take_le ..
  short _ := .inl rfl

/-- A read that fails. -/
def Fread.failing : Fread where
  data := []
  feof := false
  ferror := true
  fits := Nat.zero_le _
  short _ := .inr rfl

theorem session_round_trip_small :
    ∃ fuel, loadSessionForZeroRtt "s" { fread := fun _ => .last [1, 2, 3] } fuel = some (.handed [1, 2, 3]) :=
  ((session_round_trip "s" { fread := fun _ => .last [1, 2, 3] }).2 { session := [1, 2, 3], written := 3 } rfl
    (by
      intro k hk
      cases k with
      | zero => rfl
      | succ k => cases hk.before 0 (Nat.succ_pos k))).2
    ⟨rfl, 0, ⟨rfl, fun _ h => nomatch h⟩, by decide, fun _ h => nomatch h⟩

/-- Every read fails: the session is never loaded, and the loop never ends. -/
theorem session_round_trip_failing :
    saveSessionForZeroRtt "s" { session := [1], written := 1 } = (true, some [1]) ∧
      Reads (fun _ => .failing) [1] ∧
      ¬ ∃ fuel, loadSessionForZeroRtt "s" { fread := fun _ => .failing } fuel ≠ none := by
  refine ⟨rfl, fun k hk => (nomatch hk.ends), ?_⟩
  rintro ⟨fuel, h⟩
  refine h ?_
  rw [load_opened (by decide) rfl, readLoop_none fun _ _ _ => rfl]
  rfl

end Nhh3
