import Mathlib.Data.List.TakeWhile
import Nhh3.Stream
/-!
# What the server says in its headers: EventHeaders

`EventHeaders` reads content-length and :status with `std::stoull`, which takes more
than numerals and throws on the rest. The texts it accepts are a grammar here, the
numerals a part of it, and what a list of headers declares is read off the numerals.
-/

namespace Nhh3

/-! ## The language of std::stoull -/

/-- The number, if the text is exactly a decimal numeral below 2^64. -/
def numeral (s : Bytes) : Option Nat :=
  if s ≠ [] ∧ s.all isDigit ∧ digitsValue s < 2 ^ 64 then some (digitsValue s) else none

/-- What `std::stoull` makes a number of: blanks, a sign, digits of a number below 2^64, and anything
that does not go on with a digit. -/
structure Accepts (s : Bytes) (n : Nat) (blanks sgn ds rest : Bytes) : Prop where
  text : s = blanks ++ (sgn ++ (ds ++ rest))
  blanks : ∀ b ∈ blanks, isSpace b
  sign : sgn = [] ∨ sgn = [43] ∨ sgn = [45]
  nonempty : ds ≠ []
  digits : ∀ b ∈ ds, isDigit b
  ends : ∀ b ∈ rest.head?, ¬ isDigit b
  fits : digitsValue ds < 2 ^ 64
  value : n = if sgn = [45] then (2 ^ 64 - digitsValue ds) % 2 ^ 64 else digitsValue ds

/-- The longest prefix in `p`, and the rest. -/
theorem takeWhile_dropWhile {p : UInt8 → Bool} {a b : Bytes} (ha : ∀ x ∈ a, p x)
    (hb : ∀ x ∈ b.head?, ¬ p x) : (a ++ b).takeWhile p = a ∧ (a ++ b).dropWhile p = b := by
  rw [List.takeWhile_append_of_pos ha, List.dropWhile_append_of_pos ha]
  cases b with
  | nil => simp
  | cons x b =>
    have hx : p x = false := by simpa using hb x rfl
    simp [hx]

theorem head_dropWhile {p : UInt8 → Bool} (s : Bytes) : ∀ b ∈ (s.dropWhile p).head?, ¬ p b := by
  intro b hb
  have h := List.head?_dropWhile_not p s
  rw [Option.mem_def.1 hb] at h
  simpa using h

theorem isSpace_of_isDigit {b : UInt8} (h : isDigit b) : ¬ isSpace b := by
  simp only [isDigit, isSpace, Bool.and_eq_true, Bool.or_eq_true, decide_eq_true_eq] at h ⊢
  rintro (rfl | ⟨-, h'⟩)
  · exact absurd h.1 (by decide)
  · exact absurd (UInt8.le_trans h.1 h') (by decide)

/-- A sign, split off the text behind it. -/
theorem sign_cases (s : Bytes) : ∃ sgn, s = sgn ++ (sign s).2 ∧ (sgn = [] ∨ sgn = [43] ∨ sgn = [45]) ∧
    ((sign s).1 = true ↔ sgn = [45]) := by
  unfold sign
  split
  · exact ⟨[45], rfl, by simp, by simp⟩
  · exact ⟨[43], rfl, by simp, by simp⟩
  · exact ⟨[], rfl, by simp, by simp⟩

/-- A text that starts with a digit has no sign. -/
theorem sign_append {sgn ds rest : Bytes} (hs : sgn = [] ∨ sgn = [43] ∨ sgn = [45]) (hne : ds ≠ [])
    (hd : ∀ b ∈ ds, isDigit b) : sign (sgn ++ (ds ++ rest)) = (decide (sgn = [45]), ds ++ rest) := by
  rcases hs with rfl | rfl | rfl
  · obtain ⟨d, ds, rfl⟩ := List.exists_cons_of_ne_nil hne
    have hdig := hd d (by simp)
    have h45 : d ≠ 45 := by rintro rfl; exact absurd hdig (by decide)
    have h43 : d ≠ 43 := by rintro rfl; exact absurd hdig (by decide)
    simp only [List.nil_append, List.cons_append, sign]
    split <;> simp_all
  · rfl
  · rfl

theorem stoull_iff {s : Bytes} {n : Nat} :
    stoull s = some n ↔ ∃ blanks sgn ds rest, Accepts s n blanks sgn ds rest := by
  constructor
  · intro h
    obtain ⟨sgn, htext, hsgn, hminus⟩ := sign_cases (s.dropWhile isSpace)
    simp only [stoull] at h
    split at h
    · cases h
    rename_i hds
    obtain ⟨hne, hlt⟩ := not_or.1 hds
    refine ⟨s.takeWhile isSpace, sgn, (sign (s.dropWhile isSpace)).2.takeWhile isDigit,
      (sign (s.dropWhile isSpace)).2.dropWhile isDigit, ?_, fun b hb => List.mem_takeWhile_imp hb, hsgn, hne,
      fun b hb => List.mem_takeWhile_imp hb, head_dropWhile _, by omega, ?_⟩
    · rw [List.takeWhile_append_dropWhile, ← htext, List.takeWhile_append_dropWhile]
    · rw [← Option.some.inj h]
      simp only [hminus]
  · rintro ⟨blanks, sgn, ds, rest, h⟩
    have hhead : ∀ b ∈ (sgn ++ (ds ++ rest)).head?, ¬ isSpace b := by
      intro b hb
      obtain ⟨d, ds, rfl⟩ := List.exists_cons_of_ne_nil h.nonempty
      rcases h.sign with rfl | rfl | rfl
      · cases hb
        exact isSpace_of_isDigit (h.digits _ (by simp))
      · cases hb; decide
      · cases hb; decide
    simp only [stoull, h.text, (takeWhile_dropWhile h.blanks hhead).2, sign_append h.sign h.nonempty h.digits,
      (takeWhile_dropWhile h.digits h.ends).1]
    rw [if_neg (not_or.2 ⟨h.nonempty, Nat.not_le.2 h.fits⟩), h.value]
    simp

/-- A numeral is read as what it denotes. -/
theorem stoull_numeral {s : Bytes} {n : Nat} (h : numeral s = some n) : stoull s = some n := by
  unfold numeral at h
  split at h
  · rename_i hs
    refine stoull_iff.2 ⟨[], [], s, [], ⟨by simp, by simp, .inl rfl, hs.1, ?_, by simp, hs.2.2, ?_⟩⟩
    · simpa using hs.2.1
    · simpa using (Option.some.inj h).symm
  · cases h

/-! ## What a list of headers declares -/

/-- The last numeral under the name, or the value before: other values declare nothing. -/
def declared (name : String) (headers : List (Bytes × Bytes)) (old : Nat) : Nat :=
  headers.foldl (fun n h => if h.1 = ascii name then (numeral h.2).getD n else n) old

/-- The last value under the name is a numeral, or is read as what the numerals before it declare. -/
def LastPlain (name : String) (headers : List (Bytes × Bytes)) (old : Nat) : Prop :=
  ∀ before v after, headers = before ++ (ascii name, v) :: after → (∀ h ∈ after, h.1 ≠ ascii name) →
    (numeral v).isSome ∨ stoull v = some (declared name before old)

/-- Every value under the name is one that `std::stoull` accepts. -/
def AllAccepted (name : String) (headers : List (Bytes × Bytes)) : Prop :=
  ∀ h ∈ headers, h.1 = ascii name → ∃ n blanks sgn ds rest, Accepts h.2 n blanks sgn ds rest

variable {name : String} {headers : List (Bytes × Bytes)} {old : Nat} {st st' : Stream}

/-- Either no header has the name, or there is a last one. -/
theorem last_or_none (name : String) (headers : List (Bytes × Bytes)) :
    (∀ h ∈ headers, h.1 ≠ ascii name) ∨
    ∃ before v after, headers = before ++ (ascii name, v) :: after ∧ ∀ h ∈ after, h.1 ≠ ascii name := by
  induction headers with
  | nil => exact .inl nofun
  | cons h headers ih =>
    rcases ih with hnone | ⟨before, v, after, rfl, hafter⟩
    · by_cases hname : h.1 = ascii name
      · exact .inr ⟨[], h.2, headers, by rw [← hname]; rfl, hnone⟩
      · exact .inl (by simpa [hname] using hnone)
    · exact .inr ⟨h :: before, v, after, rfl, hafter⟩

/-- Headers with other names do not count. -/
theorem foldl_others {f : Nat → Bytes × Bytes → Nat} (hf : ∀ n h, h.1 ≠ ascii name → f n h = n)
    (h : ∀ h ∈ headers, h.1 ≠ ascii name) : headers.foldl f old = old := by
  induction headers generalizing old with
  | nil => rfl
  | cons x headers ih =>
    rw [List.foldl_cons, hf _ _ (h x (by simp))]
    exact ih fun y hy => h y (by simp [hy])

theorem declared_others (h : ∀ h ∈ headers, h.1 ≠ ascii name) : declared name headers old = old :=
  foldl_others (fun _ _ hne => if_neg hne) h

theorem numberIn_others (h : ∀ h ∈ headers, h.1 ≠ ascii name) : Stream.numberIn name headers old = old :=
  foldl_others (fun _ _ hne => if_neg hne) h

/-- If the last value is a numeral, it is what the headers declare. -/
theorem declared_last {before after : List (Bytes × Bytes)} {v : Bytes} (h : ∀ h ∈ after, h.1 ≠ ascii name) :
    declared name (before ++ (ascii name, v) :: after) old = (numeral v).getD (declared name before old) := by
  rw [declared, List.foldl_append, List.foldl_cons]
  exact (declared_others h).trans (if_pos rfl)

theorem numberIn_last {before after : List (Bytes × Bytes)} {v : Bytes} (h : ∀ h ∈ after, h.1 ≠ ascii name) :
    Stream.numberIn name (before ++ (ascii name, v) :: after) old =
      (stoull v).getD (Stream.numberIn name before old) := by
  rw [Stream.numberIn, List.foldl_append, List.foldl_cons]
  exact (numberIn_others h).trans (if_pos rfl)

theorem allAccepted_iff : AllAccepted name headers ↔ ∀ h ∈ headers, h.1 = ascii name → (stoull h.2).isSome := by
  simp only [AllAccepted, Option.isSome_iff_exists, stoull_iff]

/-- What `EventHeaders` reads is what the headers declare, exactly if their last value is plain. -/
theorem numberIn_eq_declared (hall : AllAccepted name headers) :
    Stream.numberIn name headers old = declared name headers old ↔ LastPlain name headers old := by
  rcases last_or_none name headers with hnone | ⟨before, v, after, rfl, hafter⟩
  · rw [numberIn_others hnone, declared_others hnone]
    refine ⟨fun _ before v after heq _ => ?_, fun _ => rfl⟩
    exact absurd rfl (hnone (ascii name, v) (by simp [heq]))
  obtain ⟨n, hn⟩ := Option.isSome_iff_exists.1 (allAccepted_iff.1 hall (ascii name, v) (by simp) rfl)
  dsimp only at hn
  rw [numberIn_last hafter, declared_last hafter, hn, Option.getD_some]
  constructor
  · intro heq before' v' after' hsplit hafter'
    -- there is only one last header of the name
    obtain ⟨rfl, rfl⟩ : before' = before ∧ v' = v := by
      rcases List.append_eq_append_iff.1 hsplit.symm with ⟨mid, rfl, hmid⟩ | ⟨mid, rfl, hmid⟩
      · cases mid with
        | nil => simp_all
        | cons x mid =>
          cases hmid
          exact absurd rfl (hafter' (ascii name, v) (by simp))
      · cases mid with
        | nil => simp_all
        | cons x mid =>
          cases hmid
          exact absurd rfl (hafter (ascii name, v') (by simp))
    cases hv : numeral v' with
    | some m => exact .inl rfl
    | none =>
      rw [hv, Option.getD_none] at heq
      exact .inr (by rw [hn, heq])
  · intro hplain
    cases hv : numeral v with
    | some m =>
      rw [stoull_numeral hv] at hn
      exact (Option.some.inj hn).symm
    | none =>
      rcases hplain before v after rfl hafter with hsome | hsame
      · rw [hv] at hsome
        cases hsome
      · rw [hn] at hsame
        exact Option.some.inj hsame

/-! ## EventHeaders over the headers of a stream -/

theorem readNumber_isOk (old : Nat) {header : Bytes × Bytes} :
    (∃ n, Stream.readNumber name header old = .ok n) ↔ (header.1 = ascii name → (stoull header.2).isSome) := by
  unfold Stream.readNumber
  split
  · rename_i hname
    cases stoull header.2 <;> simp [hname]
  · rename_i hname
    simp [hname]

theorem getHeader_isOk {header : Bytes × Bytes} : (∃ st', st.getHeader header = .ok st') ↔
    ∀ name ∈ ["content-length", ":status"], header.1 = ascii name → (stoull header.2).isSome := by
  simp only [List.forall_mem_cons, List.not_mem_nil, IsEmpty.forall_iff, implies_true, and_true]
  rw [← readNumber_isOk st.bodySize, ← readNumber_isOk st.responseCode]
  unfold Stream.getHeader
  cases Stream.readNumber "content-length" header st.bodySize with
  | error e => exact ⟨fun ⟨_, h⟩ => (nomatch h), fun ⟨⟨_, h⟩, _⟩ => (nomatch h)⟩
  | ok bodySize =>
    cases Stream.readNumber ":status" header st.responseCode with
    | error e => exact ⟨fun ⟨_, h⟩ => (nomatch h), fun ⟨_, _, h⟩ => (nomatch h)⟩
    | ok responseCode => exact ⟨fun _ => ⟨⟨_, rfl⟩, _, rfl⟩, fun _ => ⟨_, rfl⟩⟩

/-- Only a value that `std::stoull` throws on keeps `EventHeaders` from completing. -/
theorem eventHeaders_isOk (st : Stream) : (∃ st', st.eventHeaders headers = .ok st') ↔
    ∀ name ∈ ["content-length", ":status"], AllAccepted name headers := by
  simp only [allAccepted_iff]
  induction headers generalizing st with
  | nil =>
    refine ⟨fun _ name _ h hmem => ?_, fun _ => ⟨st, rfl⟩⟩
    cases hmem
  | cons header headers ih =>
    have hcons : (∀ name ∈ ["content-length", ":status"], ∀ h ∈ header :: headers, h.1 = ascii name →
          (stoull h.2).isSome) ↔
        (∃ st', st.getHeader header = .ok st') ∧
          ∀ name ∈ ["content-length", ":status"], ∀ h ∈ headers, h.1 = ascii name → (stoull h.2).isSome := by
      rw [getHeader_isOk]
      simp only [List.forall_mem_cons (a := header)]
      exact ⟨fun h => ⟨fun name hn => (h name hn).1, fun name hn => (h name hn).2⟩,
        fun h name hn => ⟨h.1 name hn, h.2 name hn⟩⟩
    rw [hcons]
    unfold Stream.eventHeaders
    cases hh : st.getHeader header with
    | error e =>
      constructor
      · rintro ⟨st', hst⟩
        cases hst
      · rintro ⟨⟨st', hst⟩, -⟩
        cases hst
    | ok st₁ =>
      exact ⟨fun h => ⟨⟨st₁, rfl⟩, (ih st₁).1 h⟩, fun h => (ih st₁).2 h.2⟩

/-- HEADERS events of one stream, one after the other. -/
def Stream.headersEvents (st : Stream) (events : List (List (Bytes × Bytes))) : Except Fault Stream :=
  events.foldlM Stream.eventHeaders st

theorem eventHeaders_append (headers headers' : List (Bytes × Bytes)) :
    st.eventHeaders (headers ++ headers') = (do (← st.eventHeaders headers).eventHeaders headers') := by
  induction headers generalizing st with
  | nil => rfl
  | cons header headers ih =>
    simp only [List.cons_append, Stream.eventHeaders]
    cases st.getHeader header with
    | error e => rfl
    | ok st₁ => exact ih

/-- Where the list is split into events makes no difference. -/
theorem headersEvents_eq (events : List (List (Bytes × Bytes))) :
    st.headersEvents events = st.eventHeaders events.flatten := by
  induction events generalizing st with
  | nil => rfl
  | cons headers events ih =>
    rw [List.flatten_cons, eventHeaders_append]
    show (st.eventHeaders headers >>= fun st => st.headersEvents events) = _
    cases st.eventHeaders headers with
    | error e => rfl
    | ok st₁ => exact ih

/-- What the stream should hold once the headers were processed. -/
structure ParsedHeaders (headers : List (Bytes × Bytes)) (st st' : Stream) : Prop where
  bodySize : st'.bodySize = declared "content-length" headers st.bodySize
  responseCode : st'.responseCode = declared ":status" headers st.responseCode
  resHeaders : st'.resHeaders = st.resHeaders ++ headers.flatMap fun h => [h.1, h.2]

/-- `EventHeaders` takes in what the server declares exactly if `std::stoull` throws on no value
and the last value of each number is plain. -/
theorem headers_parsed (st : Stream) (events : List (List (Bytes × Bytes))) :
    (∃ st', st.headersEvents events = .ok st' ∧ ParsedHeaders events.flatten st st') ↔
      (∀ name ∈ ["content-length", ":status"], AllAccepted name events.flatten) ∧
        LastPlain "content-length" events.flatten st.bodySize ∧
        LastPlain ":status" events.flatten st.responseCode := by
  rw [headersEvents_eq, ← eventHeaders_isOk st]
  constructor
  · rintro ⟨st', hrun, hparsed⟩
    have hall := (eventHeaders_isOk st).1 ⟨st', hrun⟩
    have hst := Stream.eventHeaders_ok hrun
    refine ⟨⟨st', hrun⟩, (numberIn_eq_declared (hall _ (by simp))).1 ?_,
      (numberIn_eq_declared (hall _ (by simp))).1 ?_⟩
    · rw [← hparsed.bodySize, hst]
    · rw [← hparsed.responseCode, hst]
  · rintro ⟨⟨st', hrun⟩, hlength, hstatus⟩
    have hall := (eventHeaders_isOk st).1 ⟨st', hrun⟩
    refine ⟨st', hrun, ?_⟩
    rw [Stream.eventHeaders_ok hrun]
    exact { bodySize := (numberIn_eq_declared (hall _ (by simp))).2 hlength,
            responseCode := (numberIn_eq_declared (hall _ (by simp))).2 hstatus, resHeaders := rfl }

/-- An empty content-length throws; a negative one is taken for a length near 2^64. -/
theorem headers_parsed_invalid :
    (¬ ∃ st', (Stream.new 0 "" {}).headersEvents [[(ascii "content-length", [])]] = .ok st' ∧
      ParsedHeaders [(ascii "content-length", [])] (Stream.new 0 "" {}) st') ∧
    ¬ ∃ st', (Stream.new 0 "" {}).headersEvents [[(ascii "content-length", ascii "-1")]] = .ok st' ∧
      ParsedHeaders [(ascii "content-length", ascii "-1")] (Stream.new 0 "" {}) st' := by
  constructor
  · rintro ⟨st', hrun, -⟩
    cases hrun
  · rintro ⟨st', hrun, hparsed⟩
    cases hrun
    exact absurd hparsed.bodySize (by decide)

end Nhh3
