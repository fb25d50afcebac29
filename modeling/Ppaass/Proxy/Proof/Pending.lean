import Ppaass.Proxy.Proof.Counter

/-!
# The counter does not wrap

A transport is pending from its `fetch_add` to its `fetch_sub`. The counter is the number of pending
transports modulo 2 ^ 64 (`number_eq_pending`), so that as long as fewer than 2 ^ 64 are pending it
is no smaller than their number, and no `fetch_sub` finds it at 0 (`counter_ge_pending`).
-/

namespace Ppaass.Proxy

open Prog Relation

/-- A task of the transport has executed `fetch_sub`. -/
def decremented (t : TransportTasks) : Bool :=
  (t.trace none).any isFetchSub || (t.trace (some .up)).any isFetchSub ||
    (t.trace (some .down)).any isFetchSub

/-- Started, and not decremented yet. -/
def pending (t : TransportTasks) : Bool := started t && !decremented t

def ProxyServer.pendingTransports (s : ProxyServer) : Nat := s.transports.countP pending

/-- How often the tasks of the transport have executed `fetch_sub`. -/
def allSubs (t : TransportTasks) : Nat :=
  subs (t.trace none) + subs (t.trace (some .up)) + subs (t.trace (some .down))

theorem any_isFetchSub {t : Trace proxySig} : t.any isFetchSub = true ↔ 0 < subs t := by
  simp [subs, List.countP_pos_iff]

theorem up_balanced {t : Trace proxySig} (h : Respects upAssertion t) : subs t = 0 := by
  refine List.countP_eq_zero.2 fun e he => ?_
  obtain ⟨t', -, hallowed⟩ := h.mem he
  obtain ⟨op, a⟩ := e
  cases op with
  | fetchSub => exact hallowed.elim
  | _ => simp [isFetchSub]

section
variable {t : TransportTasks}

/-- **A transport subtracts at most once, and no more than it has added.** -/
theorem allSubs_le (h : t.Holds spawn spec) :
    allSubs t ≤ adds (t.trace none) ∧ adds (t.trace none) ≤ 1 := by
  obtain ⟨hle, hbal⟩ := balanced h
  have hup := up_balanced (h.respects (some .up))
  exact ⟨by unfold allSubs; omega, hle⟩

theorem pending_iff : pending t = true ↔ 0 < adds (t.trace none) ∧ allSubs t = 0 := by
  rw [pending, Bool.and_eq_true, Bool.not_eq_true', ← Bool.not_eq_true, decremented,
    Bool.or_eq_true, Bool.or_eq_true, any_isFetchSub, any_isFetchSub, any_isFetchSub, started_iff,
    allSubs]
  omega

/-- What a transport adds to the counter says whether it is pending. -/
theorem net_eq (h : t.Holds spawn spec) : net t = if pending t then 1 else 0 := by
  obtain ⟨hle, hone⟩ := allSubs_le h
  have hup := up_balanced (h.respects (some .up))
  unfold net
  unfold allSubs at hle
  split
  · next hp =>
    have := (pending_iff.1 hp).2
    have := (pending_iff.1 hp).1
    unfold allSubs at *
    omega
  · next hp =>
    rw [pending_iff, allSubs] at hp
    omega

/-- A transport that executes `fetch_sub` was pending. -/
theorem pending_of_step {t' : TransportTasks} {side : Option Side} (h : t.Holds spawn spec)
    (hstep : Tasks.Step spawn t side (some ⟨.fetchSub, ()⟩) t') : pending t = true := by
  obtain ⟨hle', hone'⟩ := allSubs_le (h.step spec_sound hstep)
  have htrace := h.trace_step spec_sound hstep
  have hadds : adds (t'.trace none) = adds (t.trace none) := by
    rw [htrace]
    split
    · next hside => rw [after, adds_snoc, hside]; rfl
    · rfl
  have hsubs : allSubs t' = allSubs t + 1 := by
    rw [allSubs, allSubs, htrace, htrace, htrace]
    rcases side with _ | _ | _ <;>
      simp [after, subs_snoc, isFetchSub] <;> omega
  rw [pending_iff]
  omega

theorem sum_net_eq {ts : List TransportTasks} (h : ∀ t ∈ ts, t.Holds spawn spec) :
    (ts.map net).sum = ts.countP pending := by
  induction ts with
  | nil => rfl
  | cons t ts ih =>
    rw [List.map_cons, List.sum_cons, List.countP_cons, net_eq (h t (by simp)),
      ih fun x hx => h x (by simp [hx])]
    omega

end

namespace ProxyServer

variable {config : ProxyConfig} {s s' : ProxyServer}

theorem reachable_inv (h : Reachable config s) : Inv s := by
  induction h with
  | refl => exact inv_new
  | tail _ hs ih =>
    obtain ⟨l, hs⟩ := hs
    exact inv_step ih hs

/-- **The counter is the number of pending transports**, as far as 64 bits can tell. -/
theorem number_eq_pending (h : Reachable config s) :
    s.transportNumber = UInt64.ofNat s.pendingTransports := by
  obtain ⟨hts, hn⟩ := reachable_inv h
  rw [hn, sum_net_eq hts]
  rfl

theorem toNat_number (h : Reachable config s) (hlt : s.pendingTransports < 2 ^ 64) :
    s.transportNumber.toNat = s.pendingTransports := by
  rw [number_eq_pending h, UInt64.toNat_ofNat', Nat.mod_eq_of_lt hlt]

/-- A task that executes `fetch_sub` belongs to a pending transport. -/
theorem pending_of_fetchSub {side : Option Side} (h : Reachable config s)
    (hstep : Step config s (.task side (some ⟨.fetchSub, ()⟩)) s') : 0 < s.pendingTransports := by
  have hinv := reachable_inv h
  cases hstep with
  | @task n pre post t t' side e hs =>
    exact List.countP_pos_iff.2 ⟨t, by simp, pending_of_step (hinv.transports t (by simp)) hs⟩

/-- **The counter does not wrap** while fewer than 2 ^ 64 transports are pending: it is no smaller
than their number, and not 0 where a `fetch_sub` is executed. Each transport executes `fetch_sub` at
most once, after its own `fetch_add`. -/
theorem counter_ge_pending (h : Reachable config s) :
    (∀ t ∈ s.transports, allSubs t ≤ adds (t.trace none) ∧ adds (t.trace none) ≤ 1) ∧
    (s.pendingTransports < 2 ^ 64 → s.pendingTransports ≤ s.transportNumber.toNat ∧
      ∀ side s', Step config s (.task side (some ⟨.fetchSub, ()⟩)) s' → s.transportNumber ≠ 0) := by
  refine ⟨fun t ht => allSubs_le ((reachable_inv h).transports t ht), fun hlt => ?_⟩
  have hnumber := toNat_number h hlt
  refine ⟨Nat.le_of_eq hnumber.symm, fun side s' hstep hzero => ?_⟩
  have hpos := pending_of_fetchSub h hstep
  rw [hzero] at hnumber
  exact absurd hnumber.symm (Nat.ne_of_gt hpos)

/-- One pending transport, which then executes `fetch_sub`. -/
theorem counter_ge_pending_served : ∃ s s' : ProxyServer,
    Step ⟨none, none, none⟩ s (.task none (some ⟨.fetchSub, ()⟩)) s' ∧ s'.transportNumber = 0 ∧
    (∀ t ∈ s.transports, allSubs t ≤ adds (t.trace none) ∧ adds (t.trace none) ≤ 1) ∧
    s.pendingTransports = 1 ∧ s.pendingTransports ≤ s.transportNumber.toNat ∧
    s.transportNumber ≠ 0 := by
  obtain ⟨t, t', hserved, hstep, hlive, -, hsubs⟩ := exists_served
  have h : Reachable ⟨none, none, none⟩ ⟨1, [t]⟩ :=
    ReflTransGen.mono (fun _ _ ⟨l, hs, _⟩ => ⟨l, hs⟩) _ _ hserved
  have hnone : ∀ who, (t.trace who).any isFetchSub = false := by
    intro who
    rw [← Bool.not_eq_true, any_isFetchSub, hsubs who]
    exact Nat.lt_irrefl 0
  have hstarted : started t = true := (Bool.and_eq_true_iff.1 hlive).1
  have hone : ProxyServer.pendingTransports ⟨1, [t]⟩ = 1 := by
    simp [pendingTransports, pending, decremented, hnone, hstarted]
  obtain ⟨hfew, hbound⟩ := counter_ge_pending h
  obtain ⟨hle, hne⟩ := hbound (by rw [hone]; decide)
  exact ⟨_, _, hstep, rfl, hfew, hone, hle, hne none _ hstep⟩

/-- A transport that has executed `fetch_add` and nothing else. -/
def justStarted (config : ProxyConfig) : TransportTasks where
  main := ⟨do
    let transportId ← await .newUuid
    (Transport.exec config transportId).run, [⟨.fetchAdd, ()⟩]⟩
  task _ := none

/-- Any number of transports may be pending. -/
theorem reachable_started (config : ProxyConfig) (n : Nat) :
    Reachable config ⟨UInt64.ofNat n, List.replicate n (justStarted config)⟩ := by
  induction n with
  | zero => exact .refl
  | succ n ih =>
    have hstart : Tasks.Step spawn (Tasks.new (serve config)) none (some ⟨.fetchAdd, ()⟩)
        (justStarted config) := .main (.mk _ (.vis _ _ _))
    have hstep := @Step.task config (UInt64.ofNat n) (List.replicate n (justStarted config)) []
      _ _ _ _ hstart
    rw [List.replicate_succ', UInt64.ofNat_add]
    exact .tail (.tail ih ⟨_, .accept _ _⟩) ⟨_, hstep⟩

/-- With 2 ^ 64 pending transports the counter is at 0. -/
theorem counter_wraps : ¬ ∀ config s, Reachable config s →
    s.pendingTransports ≤ s.transportNumber.toNat := by
  intro h
  have hle := h ⟨none, none, none⟩ _ (reachable_started ⟨none, none, none⟩ (2 ^ 64))
  have hpending : ∀ n, ProxyServer.pendingTransports
      ⟨UInt64.ofNat n, List.replicate n (justStarted ⟨none, none, none⟩)⟩ = n := by
    intro n
    rw [pendingTransports, List.countP_replicate]
    exact if_pos rfl
  rw [hpending, UInt64.toNat_ofNat'] at hle
  omega

end ProxyServer

end Ppaass.Proxy
