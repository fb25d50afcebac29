import Ppaass.Agent.Proof.Address
import Ppaass.Agent.Transport

/-!
# The SOCKS5 decoders

What one call of each decoder does. The method-selection decoder reads past the end of a buffer that
holds fewer methods than it declares (`decode_safe_iff`). The request decoder takes bytes off a
request that is not complete and returns an error, so that it depends on where the reads were cut
(`decode_segments_iff`).
-/

namespace Ppaass.Agent

open Wire Framed

/-! ## Method selection -/

namespace Socks5AuthCommandContentCodec

theorem run_getMethods {n : Nat} {buf : Bytes} (h : n ≤ buf.length) :
    (getMethods n).run ((), buf) = .ok ((buf.take n).map .ofU8) ((), buf.drop n) := by
  induction n generalizing buf with
  | zero => simp [getMethods]
  | succ n ih =>
    rcases buf with _ | ⟨b, buf⟩
    · simp at h
    · simp [getMethods, ih (Nat.le_of_succ_le_succ h)]

theorem run_getMethods_short {n : Nat} {buf : Bytes} (h : buf.length < n) :
    (getMethods n).run ((), buf) = .error (.panic "split_to out of bounds") ((), []) := by
  induction n generalizing buf with
  | zero => simp at h
  | succ n ih =>
    rcases buf with _ | ⟨b, buf⟩
    · simp [getMethods]
    · simp [getMethods, ih (Nat.lt_of_succ_lt_succ h)]

section
variable {v n : UInt8} {buf : Bytes}

theorem decode_short (h : buf.length < 2) : decode.run ((), buf) = .ok none ((), buf) := by
  simp only [decode, EStateM.run_bind, run_remaining, if_pos h, EStateM.run_pure]

theorem decode_eq (v n : UInt8) (buf : Bytes) :
    decode.run ((), v :: n :: buf) = decodeMethods.run ((), v :: n :: buf) := by
  have hlen : ¬ (v :: n :: buf).length < 2 := by simp
  simp only [decode, EStateM.run_bind, run_remaining, if_neg hlen]

theorem decode_badVersion (hv : v ≠ SOCKS_V5) :
    decode.run ((), v :: n :: buf) = .error (.err (.invalidVersion v)) ((), n :: buf) := by
  rw [decode_eq]
  simp [decodeMethods, hv]

theorem decode_methods (h : n.toNat ≤ buf.length) : decode.run ((), SOCKS_V5 :: n :: buf) =
    .ok (some ⟨(buf.take n.toNat).map .ofU8⟩) ((), buf.drop n.toNat) := by
  rw [decode_eq]
  simp [decodeMethods, run_getMethods h]

theorem decode_methods_short (h : buf.length < n.toNat) : decode.run ((), SOCKS_V5 :: n :: buf) =
    .error (.panic "split_to out of bounds") ((), []) := by
  rw [decode_eq]
  simp [decodeMethods, run_getMethods_short h]

end

/-- A version 5 buffer of two bytes or more holds the methods it declares. -/
def HoldsMethods : Bytes → Prop
  | v :: n :: buf => v = SOCKS_V5 → n.toNat ≤ buf.length
  | _ => True

/-- `decode` on `front` asks for more, and once `rest` has arrived it takes the whole message. -/
def Resumes (front rest methods : Bytes) : Prop :=
  ∃ buf, decode.run ((), front) = .ok none ((), buf) ∧ ∀ more,
    decode.run ((), buf ++ rest ++ more) = .ok (some ⟨methods.map .ofU8⟩) ((), more)

/-- A message that has not arrived in full is resumed where its front holds the methods it declares,
which is to say nothing of them. -/
theorem resumes_iff {n : UInt8} {methods front rest : Bytes} (hn : methods.length = n.toNat)
    (hcut : front ++ rest = SOCKS_V5 :: n :: methods) (hrest : rest ≠ []) :
    Resumes front rest methods ↔ HoldsMethods front := by
  rcases front with _ | ⟨v, _ | ⟨n', buf⟩⟩
  · refine iff_of_true ⟨[], decode_short (by simp), fun more => ?_⟩ trivial
    rw [hcut, List.cons_append, List.cons_append, decode_methods (by simp [← hn]),
      List.take_left' hn, List.drop_left' hn]
  · refine iff_of_true ⟨[v], decode_short (by simp), fun more => ?_⟩ trivial
    rw [hcut, List.cons_append, List.cons_append, decode_methods (by simp [← hn]),
      List.take_left' hn, List.drop_left' hn]
  · -- the front declares more methods than it holds
    simp only [List.cons_append, List.cons.injEq] at hcut
    obtain ⟨rfl, rfl, hcut⟩ := hcut
    have hshort : buf.length < n'.toNat := by
      have := List.length_pos_iff.2 hrest
      rw [← hn, ← hcut, List.length_append]
      omega
    refine iff_of_false ?_ fun h => Nat.not_le.2 hshort (h rfl)
    rintro ⟨buf', hnone, -⟩
    rw [decode_methods_short hshort] at hnone
    cases hnone

/-- **A call panics where the buffer holds fewer methods than it declares**, and otherwise never; so
that a part of a message is resumed only where it holds no part of the declaration. -/
theorem decode_safe_iff (buf : Bytes) :
    (¬ Panics (decode.run ((), buf)) ↔ HoldsMethods buf) ∧
    ∀ (n : UInt8) (methods rest : Bytes), methods.length = n.toNat →
      buf ++ rest = SOCKS_V5 :: n :: methods → rest ≠ [] →
      (Resumes buf rest methods ↔ HoldsMethods buf) := by
  refine ⟨?_, fun n methods rest => resumes_iff⟩
  rcases buf with _ | ⟨v, _ | ⟨n, buf⟩⟩
  · exact iff_of_true (fun ⟨_, _, h⟩ => by rw [decode_short (by simp)] at h; cases h) trivial
  · exact iff_of_true (fun ⟨_, _, h⟩ => by rw [decode_short (by simp)] at h; cases h) trivial
  by_cases hv : v = SOCKS_V5
  · subst hv
    by_cases hlen : n.toNat ≤ buf.length
    · exact iff_of_true (fun ⟨_, _, h⟩ => by rw [decode_methods hlen] at h; cases h) fun _ => hlen
    · refine iff_of_false (fun h => h ⟨_, _, decode_methods_short (Nat.not_le.1 hlen)⟩) fun h => ?_
      exact hlen (h rfl)
  · exact iff_of_true (fun ⟨_, _, h⟩ => by rw [decode_badVersion hv] at h; cases h)
      fun h => (hv h).elim

/-- Version 5 and one method, whole and cut after the version. -/
theorem decode_safe_one : ¬ Panics (decode.run ((), [5, 1, 0])) ∧ Resumes [5] [1, 0] [0] :=
  ⟨(decode_safe_iff [5, 1, 0]).1.2 fun _ => by decide,
    ((decode_safe_iff [5]).2 1 [0] [1, 0] rfl rfl (by simp)).2 trivial⟩

/-- Version 5 with one method declared and none there. -/
theorem declared_method_missing : Panics (decode.run ((), [5, 1])) ∧ ¬ Resumes [5, 1] [0] [0] := by
  refine ⟨⟨_, _, rfl⟩, ?_⟩
  rintro ⟨buf, hnone, -⟩
  cases hnone

end Socks5AuthCommandContentCodec

/-! ## Requests -/

/-- The bytes of a request. -/
inductive RequestOf : Bytes → Socks5InitCommand → Prop
  | mk {type : UInt8} {requestType : Socks5InitCommandType} {bytes : Bytes} {a : Socks5Address}
      (htype : Socks5InitCommandType.tryFrom type = .ok requestType) (reserved : UInt8)
      (ha : AddressAt bytes a []) :
      RequestOf (SOCKS_V5 :: type :: reserved :: bytes) ⟨requestType, a⟩

theorem requestOf_toBytes {type : UInt8} {requestType : Socks5InitCommandType} {a : Socks5Address}
    (htype : Socks5InitCommandType.tryFrom type = .ok requestType) (reserved : UInt8)
    (ha : a.Sendable) : RequestOf (SOCKS_V5 :: type :: reserved :: a.toBytes) ⟨requestType, a⟩ := by
  have hat := addressAt_toBytes ha []
  rw [List.append_nil] at hat
  exact .mk htype reserved hat

namespace Socks5InitCommandContentCodec

section
variable {req buf front more : Bytes} {command : Socks5InitCommand}

theorem decode_short (h : buf.length < 4) : decode.run ((), buf) = .ok none ((), buf) := by
  simp only [decode, EStateM.run_bind, run_remaining, if_pos h, EStateM.run_pure]

theorem decode_long (h : 4 ≤ buf.length) : decode.run ((), buf) = decodeRequest.run ((), buf) := by
  simp only [decode, EStateM.run_bind, run_remaining, if_neg (Nat.not_lt.2 h)]

/-- A call that finds four bytes returns a request or an error. -/
theorem decode_long_cases (h : 4 ≤ buf.length) :
    (∃ command rest, decode.run ((), buf) = .ok (some command) ((), rest)) ∨
      ∃ e st, decode.run ((), buf) = .error (.err e) st := by
  rw [decode_long h]
  rcases buf with _ | ⟨v, _ | ⟨t, _ | ⟨r, buf⟩⟩⟩
  iterate 3 · simp at h
  by_cases hv : v = SOCKS_V5
  · rcases ht : Socks5InitCommandType.tryFrom t with e | requestType
    · exact .inr ⟨e, ((), r :: buf), by simp [decodeRequest, hv, ht]⟩
    rcases addressAt_or_error Socks5DecodeError.parse () buf with ⟨a, rest, ha⟩ | ⟨e, st, herr⟩
    · have hparse := parse_of_addressAt Socks5DecodeError.parse () ha
      exact .inl ⟨⟨requestType, a⟩, rest, by simp [decodeRequest, hv, ht, hparse]⟩
    · exact .inr ⟨.parse e, st, by simp [decodeRequest, hv, ht, herr]⟩
  · exact .inr ⟨.invalidVersion v, ((), t :: r :: buf), by simp [decodeRequest, hv]⟩

/-- A call asks for more only on a buffer of fewer than four bytes. -/
theorem decode_waits : Waits decode () := by
  intro buf st h
  rcases Nat.lt_or_ge buf.length 4 with hlen | hlen
  · rw [decode_short hlen] at h
    cases h
    rfl
  · rcases decode_long_cases hlen with ⟨command, rest, hrun⟩ | ⟨e, st', hrun⟩ <;>
      rw [hrun] at h <;> cases h

/-- **A request that has arrived is taken off the buffer.** -/
theorem decode_request (h : RequestOf req command) (more : Bytes) :
    decode.run ((), req ++ more) = .ok (some command) ((), more) := by
  cases h with
  | @mk type requestType bytes a htype reserved ha =>
    have hparse := parse_of_addressAt Socks5DecodeError.parse () (ha.append more)
    rw [List.nil_append] at hparse
    have hpos : 1 ≤ bytes.length := by cases ha <;> simp
    rw [decode_long (by simp; omega)]
    simp [decodeRequest, htype, hparse]

/-- **A part of a request that is long enough to be looked at is an error.** -/
theorem decode_part (h : RequestOf req command) {tail : Bytes} (hreq : front ++ tail = req)
    (htail : tail ≠ []) (hlen : 4 ≤ front.length) :
    ∃ e st, decode.run ((), front) = .error (.err e) st := by
  cases h with
  | @mk type requestType bytes a htype reserved ha =>
    rcases front with _ | ⟨v, _ | ⟨t, _ | ⟨r, front⟩⟩⟩
    iterate 3 · simp at hlen
    simp only [List.cons_append, List.cons.injEq] at hreq
    obtain ⟨rfl, rfl, rfl, rfl⟩ := hreq
    obtain ⟨e, st, hparse⟩ :=
      parse_of_not_addressAt Socks5DecodeError.parse () (not_addressAt_part ha htail)
    rw [decode_long hlen]
    exact ⟨.parse e, st, by simp [decodeRequest, htype, hparse]⟩

end

/-- **A request is taken off whichever way it was cut into reads** exactly when no read ends inside
it at its fourth byte or later: a call that finds four bytes of it takes bytes off and fails. -/
theorem decode_segments_iff {req : Bytes} {command : Socks5InitCommand}
    (hreq : RequestOf req command) :
    (∀ (reads : List Bytes) (more : Bytes), reads.flatten = req ++ more →
      (TakesOff decode () req command reads ↔
        ∀ pre, pre <+: reads → ¬ (4 ≤ pre.flatten.length ∧ pre.flatten.length < req.length))) ∧
    ∀ front, front <+: req → front ≠ req →
      (decode.run ((), front) = .ok none ((), front) ↔ front.length < 4) := by
  have hpart : ∀ front, front <+: req → front ≠ req →
      (decode.run ((), front) = .ok none ((), front) ↔ front.length < 4) := by
    rintro front ⟨tail, htail⟩ hne
    refine ⟨fun hnone => ?_, decode_short⟩
    by_contra hlen
    have hrest : tail ≠ [] := by
      rintro rfl
      exact hne (by simpa using htail)
    obtain ⟨e, st, herr⟩ := decode_part hreq htail hrest (Nat.not_lt.1 hlen)
    rw [herr] at hnone
    cases hnone
  refine ⟨fun reads more hflat => ?_, hpart⟩
  have hne : req ≠ [] := by
    cases hreq
    simp
  rw [takesOff_iff decode_waits (decode_request hreq) hne hflat]
  have hfront : ∀ {pre : List Bytes}, pre <+: reads → pre.flatten.length < req.length →
      pre.flatten <+: req ∧ pre.flatten ≠ req := by
    rintro pre ⟨post, rfl⟩ hlt
    refine ⟨List.prefix_of_prefix_length_le ⟨post.flatten, ?_⟩ (List.prefix_append req more)
      (Nat.le_of_lt hlt), fun h => ?_⟩
    · rw [← hflat, List.flatten_append]
    · rw [h] at hlt
      exact Nat.lt_irrefl _ hlt
  constructor
  · rintro h pre hpre ⟨h4, hlt⟩
    have hnil : pre ≠ [] := by
      rintro rfl
      simp at h4
    have hshort := (hpart _ (hfront hpre hlt).1 (hfront hpre hlt).2).1 (h pre hpre hnil hlt)
    exact Nat.not_lt.2 h4 hshort
  · intro h pre hpre _ hlt
    exact decode_short (Nat.not_le.1 fun h4 => h pre hpre ⟨h4, hlt⟩)

/-- CONNECT to 1.2.3.4:80. -/
def connectRequest : Bytes := [5, 1, 0, 1, 1, 2, 3, 4, 0, 80]

theorem connectRequest_of :
    RequestOf connectRequest ⟨.connect, .ip (.v4 ⟨1, 2, 3, 4⟩ 80)⟩ :=
  .mk (show Socks5InitCommandType.tryFrom 1 = .ok .connect from rfl) 0 (.ipv4 1 2 3 4 80 [])

/-- The request as a whole and cut after its first three bytes. -/
theorem decode_segments_connect :
    TakesOff decode () connectRequest ⟨.connect, .ip (.v4 ⟨1, 2, 3, 4⟩ 80)⟩
      [[5, 1, 0], [1, 1, 2, 3, 4, 0, 80, 9]] := by
  refine ((decode_segments_iff connectRequest_of).1 _ [9] rfl).2 ?_
  rintro pre ⟨post, hpost⟩ ⟨h4, hlt⟩
  rcases pre with _ | ⟨c, _ | ⟨d, pre⟩⟩
  · simp at h4
  · simp only [List.cons_append, List.cons.injEq] at hpost
    rw [hpost.1] at h4
    simp at h4
  · simp only [List.cons_append, List.cons.injEq] at hpost
    rw [hpost.1, hpost.2.1] at hlt
    simp [connectRequest] at hlt
    omega

/-- The request cut after its sixth byte. -/
theorem cut_request_refused :
    ([[5, 1, 0, 1, 1, 2], [3, 4, 0, 80]] : List Bytes).flatten = connectRequest ++ [] ∧
    ¬ TakesOff decode () connectRequest ⟨.connect, .ip (.v4 ⟨1, 2, 3, 4⟩ 80)⟩
      [[5, 1, 0, 1, 1, 2], [3, 4, 0, 80]] ∧
    ∃ e st, decode.run ((), [5, 1, 0, 1, 1, 2]) = .error (.err e) st := by
  have herr : ∃ e st, decode.run ((), [5, 1, 0, 1, 1, 2]) = .error (.err e) st :=
    decode_part connectRequest_of
      (show [5, 1, 0, 1, 1, 2] ++ [3, 4, 0, 80] = connectRequest from rfl)
      (by simp) (by simp)
  refine ⟨rfl, ?_, herr⟩
  rintro ⟨pre, chunk, post, -, -, -, hrun⟩
  obtain ⟨e, st, herr⟩ := herr
  simp [pollReads, herr] at hrun

end Socks5InitCommandContentCodec

end Ppaass.Agent
