import Ppaass.Proxy.Proof.Operations
import Ppaass.Proxy.Server

/-!
# The live-transport counter

Every transport adds one to the counter first. It takes it back once: in `Transport::exec`, or, once
the relay tasks are spawned, in the task from the destination to the agent (`tasks_spec`). The
exception are transports whose first event is not served: they return at once and never take it
back, so that the counter counts them for ever.
-/

namespace Ppaass.Proxy

open Prog Relation

/-! ## Adds and subtracts of a trace -/

def adds (t : Trace proxySig) : Nat := t.countP isFetchAdd

def subs (t : Trace proxySig) : Nat := t.countP isFetchSub

/-- Neither the counter nor a spawn. -/
def Quiet : ProxyOp → Prop
  | .fetchAdd | .fetchSub | .spawnAgentToDst | .spawnDstToAgent _ _ => False
  | _ => True

/-- Counted, with the subtraction still to come in the task itself. -/
def Counted (t : Trace proxySig) : Prop :=
  adds t = 1 ∧ subs t = 0 ∧ ∀ side, ¬ Tasks.Spawned spawn side t

/-- Counted, with the subtraction made or left to the relay task. -/
def Settled (t : Trace proxySig) : Prop :=
  adds t = 1 ∧ (subs t = 1 ∧ ¬ Tasks.Spawned spawn .down t ∨
    subs t = 0 ∧ Tasks.Spawned spawn .down t)

section
variable {t : Trace proxySig} {e : ProxyOp} (a : e.Ans)

theorem adds_snoc (e : Event proxySig) : adds (t ++ [e]) = adds t + (isFetchAdd e).toNat := by
  cases h : isFetchAdd e <;> simp [adds, List.countP_append, h]

theorem subs_snoc (e : Event proxySig) : subs (t ++ [e]) = subs t + (isFetchSub e).toNat := by
  cases h : isFetchSub e <;> simp [subs, List.countP_append, h]

theorem counted_snoc (he : Quiet e) (h : Counted t) : Counted (t ++ [⟨e, a⟩]) := by
  obtain ⟨hadds, hsubs, hspawned⟩ := h
  refine ⟨?_, ?_, fun side => ?_⟩
  · rw [adds_snoc, hadds]
    cases e <;> first | exact he.elim | rfl
  · rw [subs_snoc, hsubs]
    cases e <;> first | exact he.elim | rfl
  · rw [Tasks.spawned_snoc]
    rintro (h | ⟨p, hp⟩)
    · exact hspawned side h
    · cases e <;> first | exact he.elim | cases hp

end

/-! ## The tasks -/

def mainAssertion : Assertion proxySig
  | some .fetchAdd, t => t = []
  | some .fetchSub, t => Counted t
  | some .spawnAgentToDst, t => Counted t
  | some (.spawnDstToAgent _ _), t =>
    adds t = 1 ∧ subs t = 0 ∧ ¬ Tasks.Spawned spawn .down t
  | _, _ => True

/-- Either the first event was not served, or the subtraction is made or left to the relay task. -/
def mainPost (t : Trace proxySig) : Prop :=
  (∃ answer, ⟨.agentNext, answer⟩ ∈ t ∧ served answer = false ∧ Counted t) ∨ Settled t

def downAssertion : Assertion proxySig
  | some .fetchAdd, _ => False
  | some .fetchSub, t => subs t = 0
  | _, _ => True

def upAssertion : Assertion proxySig
  | some .fetchAdd, _ => False
  | some .fetchSub, _ => False
  | _, _ => True

def spec : Tasks.Spec proxySig (Except ProxyServerError Unit) where
  assertion
    | none => mainAssertion
    | some .up => upAssertion
    | some .down => downAssertion
  mainPost _ := mainPost
  post
    | .up, _ => True
    | .down, t => subs t = 1

theorem mainAssertion_quiet {e : ProxyOp} {t : Trace proxySig} (he : Quiet e) :
    mainAssertion (some e) t := by
  cases e <;> first | exact he.elim | trivial

/-- What does not touch the counter keeps a transport counted. -/
theorem counted_of_quiet {α : Type} {p : Prog proxySig α} {t : Trace proxySig}
    (hp : Only Quiet p) (ht : Counted t) : wp mainAssertion p (fun _ t => Counted t) t :=
  wp_only Counted hp ht (fun _ _ => trivial) fun _ _ ht he =>
    ⟨mainAssertion_quiet he, fun a => counted_snoc a he ht⟩

theorem ConnectOp.quiet {e : ProxyOp} (he : ConnectOp e) : Quiet e := by
  cases e <;> first | exact he.elim | trivial

theorem UdpOp.quiet {e : ProxyOp} (he : UdpOp e) : Quiet e := by
  cases e <;> first | exact he.elim | trivial

section
variable {t : Trace proxySig} (config : ProxyConfig)

/-- The TCP handler spawns the relay tasks, or returns an error. -/
theorem tcpHandler_spec (request : TcpHandlerRequest) (ht : Counted t) :
    wp mainAssertion (TcpHandler.exec config request).run
      (fun r t => match r with | .ok _ => Settled t | .error _ => Counted t) t := by
  have hsend : ∀ message t, Counted t → wp mainAssertion (agentSend message)
      (fun _ t => Counted t) t :=
    fun _ _ => counted_of_quiet (only_agentSend trivial trivial)
  have hconnect := only_mono (only_initDstConnection config request.transportId request.dstAddress)
    fun _ => ConnectOp.quiet
  refine wp_run_bind.2 (wp_lift.2 (wp_mono (counted_of_quiet hconnect ht) fun r t ht => ?_))
  cases r with
  | error e =>
    refine wp_run_bind.2 ((wp_awaitM _).2 ⟨trivial, fun id => wp_run_bind.2 (wp_lift.2 ?_)⟩)
    refine wp_mono (hsend _ _ (counted_snoc id trivial ht)) fun r t ht => ?_
    cases r <;> exact ht
  | ok u =>
    refine wp_run_bind.2 ((wp_awaitM _).2 ⟨trivial, fun id => wp_run_bind.2 (wp_lift.2 ?_)⟩)
    refine wp_mono (hsend _ _ (counted_snoc id trivial ht)) fun r t ht => ?_
    cases r with
    | error e => exact ht
    | ok u =>
      refine wp_run_bind.2 ((wp_orFail _ _).2 (wp_run_bind.2 ((wp_awaitM _).2 ⟨ht, fun a => ?_⟩)))
      obtain ⟨hadds, hsubs, hspawned⟩ := ht
      have hadds' : adds (t ++ [⟨.spawnAgentToDst, a⟩]) = 1 := by rw [adds_snoc, hadds]; rfl
      have hsubs' : subs (t ++ [⟨.spawnAgentToDst, a⟩]) = 0 := by rw [subs_snoc, hsubs]; rfl
      refine (wp_awaitM _).2 ⟨⟨hadds', hsubs', ?_⟩, fun b => ?_⟩
      · rw [Tasks.spawned_snoc]
        rintro (h | ⟨p, hp⟩)
        · exact hspawned _ h
        · cases hp
      · refine ⟨by rw [adds_snoc, hadds']; rfl, .inr ⟨by rw [subs_snoc, hsubs']; rfl, ?_⟩⟩
        exact Tasks.spawned_snoc.2 (.inr ⟨_, rfl⟩)

theorem settled_fetchSub {a : Unit} (h : Counted t) : Settled (t ++ [⟨.fetchSub, a⟩]) := by
  obtain ⟨hadds, hsubs, hspawned⟩ := h
  refine ⟨by rw [adds_snoc, hadds]; rfl, .inl ⟨by rw [subs_snoc, hsubs]; rfl, ?_⟩⟩
  rw [Tasks.spawned_snoc]
  rintro (h | ⟨p, hp⟩)
  · exact hspawned _ h
  · cases hp

theorem execTcp_spec (transportId userToken : String)
    (payloadEncryption : PpaassMessagePayloadEncryption) (src dst : PpaassUnifiedAddress)
    (ht : Counted t) :
    wp mainAssertion
      (Transport.execTcp config transportId userToken payloadEncryption (.init src dst)).run
      (fun _ => Settled) t := by
  refine wp_run_bind.2 (wp_lift.2 (wp_mono (tcpHandler_spec config _ ht) fun r t ht => ?_))
  cases r with
  | ok u => exact ht
  | error e => exact (wp_awaitM .fetchSub).2 ⟨ht, fun a => settled_fetchSub ht⟩

theorem execUdp_spec (transportId userToken : String)
    (payloadEncryption : PpaassMessagePayloadEncryption) (payload : AgentUdpPayload)
    (ht : Counted t) :
    wp mainAssertion
      (Transport.execUdp config transportId userToken payloadEncryption payload).run
      (fun _ => Settled) t := by
  refine wp_run_bind.2 (wp_lift.2 (wp_mono
    (counted_of_quiet (only_mono (only_udpHandler config _) fun _ => UdpOp.quiet) ht)
    fun r t ht => ?_))
  cases r with
  | ok u => exact (wp_awaitM .fetchSub).2 ⟨ht, fun a => settled_fetchSub ht⟩
  | error e =>
    exact wp_run_bind.2 ((wp_awaitM .fetchSub).2 ⟨ht, fun a => settled_fetchSub ht⟩)

/-- `Transport::exec` of a counted transport. -/
theorem transport_spec (transportId : String) (ht : Counted t) :
    wp mainAssertion (Transport.exec config transportId).run (fun _ => mainPost) t := by
  refine wp_run_bind.2 ((wp_awaitM _).2 ⟨trivial, fun answer => ?_⟩)
  have ht' : Counted (t ++ [⟨.agentNext, answer⟩]) := counted_snoc answer trivial ht
  have hunserved : served answer = false → ∀ t', Counted t' →
      ⟨.agentNext, answer⟩ ∈ t' → mainPost t' := fun h t' ht hmem => .inl ⟨answer, hmem, h, ht⟩
  rcases answer with _ | e | message
  · exact hunserved rfl _ ht' (by simp)
  · exact hunserved rfl _ ht' (by simp)
  · refine wp_run_bind.2 ((wp_orFail _ _).2 (wp_run_bind.2 ((wp_awaitM _).2
      ⟨trivial, fun token => ?_⟩)))
    have ht'' := counted_snoc token (e := .random32Bytes) trivial ht'
    obtain ⟨id, user, encryption, payload⟩ := message
    rcases payload with (⟨src, dst⟩ | content) | payload
    · exact wp_mono (execTcp_spec config _ _ _ src dst ht'') fun _ _ => .inr
    · exact hunserved rfl _ ht'' (by simp)
    · exact wp_mono (execUdp_spec config _ _ _ payload ht'') fun _ _ => .inr

theorem serve_spec : wp mainAssertion (ProxyServer.serve config) (fun _ => mainPost) [] := by
  refine wp_bind.2 ((wp_await _).2 ⟨rfl, fun a => ?_⟩)
  refine wp_bind.2 ((wp_await _).2 ⟨trivial, fun id => ?_⟩)
  refine transport_spec config id (counted_snoc id trivial ⟨rfl, rfl, fun side => ?_⟩)
  rw [Tasks.spawned_snoc]
  rintro (h | ⟨p, hp⟩)
  · exact Tasks.spawned_nil _ h
  · cases hp

/-- The relay task from the destination to the agent subtracts once. -/
theorem relayDstToAgent_spec (userToken : String)
    (payloadEncryption : PpaassMessagePayloadEncryption) :
    wp downAssertion (TcpHandler.relayDstToAgent userToken payloadEncryption)
      (fun _ t => subs t = 1) [] := by
  have hforward : wp downAssertion (TcpHandler.dstToAgent userToken payloadEncryption).run
      (fun _ t => subs t = 0) [] := by
    refine wp_only (fun t => subs t = 0) (only_dstToAgent _ _) rfl (fun _ _ => trivial) ?_
    intro t e ht he
    cases e <;> first
      | exact he.elim
      | exact ⟨trivial, fun a => by rw [subs_snoc, ht]; rfl⟩
  refine wp_bind.2 (wp_mono hforward fun _ t ht => wp_bind.2 ((wp_await _).2 ⟨ht, fun a => ?_⟩))
  refine wp_bind.2 ((wp_await _).2 ⟨trivial, fun b => ?_⟩)
  show subs _ = 1
  rw [subs_snoc, subs_snoc, ht]
  rfl

theorem relayAgentToDst_spec : wp upAssertion TcpHandler.relayAgentToDst (fun _ _ => True) [] := by
  refine wp_only (fun _ => True) only_relayAgentToDst trivial (fun _ _ => trivial) ?_
  intro t e _ he
  cases e <;> first | exact he.elim | exact ⟨trivial, fun _ => trivial⟩

theorem spec_sound : spec.Sound spawn where
  spawns {e side p} he := by
    cases e <;> cases he
    · exact relayAgentToDst_spec
    · exact relayDstToAgent_spec _ _
  once {e side p t} he h := by
    cases e <;> cases he
    · exact h.2.2 _
    · exact h.2.2

end

/-! ## One transport -/

theorem main_balanced {t : Trace proxySig} (h : Respects mainAssertion t) :
    adds t ≤ 1 ∧ subs t ≤ adds t ∧ (Tasks.Spawned spawn .down t → adds t = 1 ∧ subs t = 0) := by
  induction h with
  | nil => exact ⟨by decide, by decide, fun h => (Tasks.spawned_nil _ h).elim⟩
  | @snoc t e _ he ih =>
    obtain ⟨op, a⟩ := e
    rw [adds_snoc, subs_snoc, Tasks.spawned_snoc]
    cases op with
    | fetchAdd =>
      cases (he : t = [])
      simp [adds, subs, isFetchAdd, isFetchSub, spawn, Tasks.spawned_nil]
    | fetchSub =>
      obtain ⟨hadds, hsubs, hspawned⟩ : Counted t := he
      simp [isFetchAdd, isFetchSub, spawn, hadds, hsubs, hspawned]
    | spawnDstToAgent u k =>
      obtain ⟨hadds, hsubs, -⟩ : adds t = 1 ∧ subs t = 0 ∧ ¬ Tasks.Spawned spawn .down t := he
      simp [isFetchAdd, isFetchSub, hadds, hsubs]
    | _ => simpa [isFetchAdd, isFetchSub, spawn] using ih

theorem down_balanced {t : Trace proxySig} (h : Respects downAssertion t) : subs t ≤ 1 := by
  induction h with
  | nil => decide
  | @snoc t e _ he ih =>
    obtain ⟨op, a⟩ := e
    rw [subs_snoc]
    cases op with
    | fetchSub => exact Nat.le_of_eq (congrArg (· + 1) (he : subs t = 0))
    | _ => simpa [isFetchSub] using ih

/-- What a transport adds to the counter. -/
def net (t : TransportTasks) : Nat :=
  adds (t.trace none) - subs (t.trace none) - subs (t.trace (some .down))

section
variable {t t' : TransportTasks}

/-- A transport subtracts no more than it added. -/
theorem balanced (h : t.Holds spawn spec) :
    adds (t.trace none) ≤ 1 ∧
      subs (t.trace none) + subs (t.trace (some .down)) ≤ adds (t.trace none) := by
  obtain ⟨hle, hsubs, hspawned⟩ := main_balanced (h.respects none)
  have hdown := down_balanced (h.respects (some .down))
  refine ⟨hle, ?_⟩
  cases htask : t.task .down with
  | none =>
    have hnil : t.trace (some .down) = [] := by simp [Tasks.trace, htask]
    rw [hnil]
    exact hsubs
  | some th =>
    obtain ⟨hadds, hzero⟩ := hspawned ((h.spawned .down).1 (by simp [htask]))
    omega

/-- **The counter follows what the transports add.** -/
theorem net_step {side : Option Side} {e : Option (Event proxySig)} (h : t.Holds spawn spec)
    (hstep : Tasks.Step spawn t side e t') (k : Nat) :
    ProxyServer.counted (UInt64.ofNat (k + net t)) e = UInt64.ofNat (k + net t') := by
  have hmain := h.trace_step spec_sound hstep none
  have hdown := h.trace_step spec_sound hstep (some .down)
  obtain ⟨hle', hbal'⟩ := balanced (h.step spec_sound hstep)
  obtain ⟨hle, hbal⟩ := balanced h
  cases e with
  | none =>
    have : net t' = net t := by
      unfold net
      rw [hmain, hdown]
      rcases side with _ | _ | _ <;> rfl
    rw [this]
    rfl
  | some e =>
    obtain ⟨op, a⟩ := e
    have hallowed := h.allowed hstep
    -- only the main program adds, and it or the task from the destination subtracts
    cases op with
    | fetchAdd =>
      rcases side with _ | _ | _
      · have hnil : t.trace none = [] := hallowed
        have hnet : net t = 0 := by simp [net, hnil, adds]
        have hnet' : net t' = 1 := by
          have hadds' : adds (t'.trace none) = 1 := by rw [hmain, if_pos rfl, hnil]; rfl
          have hsubs' : subs (t'.trace none) = 0 := by rw [hmain, if_pos rfl, hnil]; rfl
          rw [hdown, if_neg (by simp)] at hbal'
          have hsubs : subs (t.trace (some .down)) = 0 := by
            rw [hnil] at hbal
            exact Nat.le_zero.1 (le_trans (Nat.le_add_left _ _) hbal)
          rw [net, hadds', hsubs', hdown, if_neg (by simp), hsubs]
        rw [hnet, hnet']
        exact (UInt64.ofNat_add k 1).symm
      · exact hallowed.elim
      · exact hallowed.elim
    | fetchSub =>
      have hnet : net t = net t' + 1 := by
        rcases side with _ | _ | _
        · rw [hmain, hdown, if_pos rfl, if_neg (by simp)] at hbal'
          rw [net, net, hmain, hdown, if_pos rfl, if_neg (by simp)]
          simp only [after, adds_snoc, subs_snoc, isFetchAdd, isFetchSub, Bool.toNat_true,
            Bool.toNat_false] at hbal' ⊢
          omega
        · exact hallowed.elim
        · rw [hmain, hdown, if_pos rfl, if_neg (by simp)] at hbal'
          rw [net, net, hmain, hdown, if_pos rfl, if_neg (by simp)]
          simp only [after, subs_snoc, isFetchSub, Bool.toNat_true] at hbal' ⊢
          omega
      rw [hnet, ← Nat.add_assoc]
      show UInt64.ofNat (k + net t' + 1) - 1 = _
      rw [UInt64.ofNat_add]
      exact UInt64.add_sub_cancel ..
    | _ =>
      have hnet : net t' = net t := by
        rw [net, net, hmain, hdown]
        rcases side with _ | _ | _ <;>
          simp [after, adds_snoc, subs_snoc, isFetchAdd, isFetchSub]
      rw [hnet]
      rfl

theorem started_iff : started t = true ↔ 0 < adds (t.trace none) := by
  simp [started, adds, List.countP_pos_iff, Tasks.trace]

/-- The first event of the transport, if there was one yet, is served. -/
def Served (t : TransportTasks) : Prop :=
  ∀ answer, ⟨.agentNext, answer⟩ ∈ t.trace none → served answer = true

/-- A finished transport has taken back what it added. -/
theorem net_finished (h : t.Holds spawn spec) (hserved : Served t) (hfin : finished t = true) :
    net t = 0 := by
  obtain ⟨hmain, hdown⟩ := Bool.and_eq_true_iff.1 hfin
  obtain ⟨r, hpost⟩ := h.main.done hmain
  have hpost : mainPost (t.trace none) := hpost
  rcases hpost with ⟨answer, hmem, hno, -⟩ | ⟨hadds, hsettled⟩
  · rw [hserved answer hmem] at hno
    cases hno
  · have hle := (balanced h).2
    unfold net
    rcases hsettled with ⟨hsubs, -⟩ | ⟨-, hspawned⟩
    · omega
    · obtain ⟨th, hth⟩ := Option.ne_none_iff_exists'.1 ((h.spawned .down).2 hspawned)
      rw [hth] at hdown
      obtain ⟨_, hsubs⟩ := (h.task hth).done hdown
      have hsubs : subs th.trace = 1 := hsubs
      have htrace : t.trace (some .down) = th.trace := by simp [Tasks.trace, hth]
      rw [htrace]
      omega

theorem net_le_live (h : t.Holds spawn spec) (hserved : Served t) :
    net t ≤ if live t then 1 else 0 := by
  have hle : net t ≤ adds (t.trace none) := by
    unfold net
    omega
  obtain ⟨hone, -⟩ := balanced h
  split
  · omega
  · next hlive =>
    rw [live, Bool.and_eq_true, Bool.not_eq_true', not_and_or, Bool.not_eq_false, started_iff]
      at hlive
    rcases hlive with hstart | hfin
    · omega
    · exact Nat.le_of_eq (net_finished h hserved hfin)

end

/-! ## All transports -/

theorem sum_net_le {ts : List TransportTasks} (h : ∀ t ∈ ts, t.Holds spawn spec ∧ Served t) :
    (ts.map net).sum ≤ ts.countP live := by
  induction ts with
  | nil => exact le_rfl
  | cons t ts ih =>
    obtain ⟨ht, hserved⟩ := h t (by simp)
    have := net_le_live ht hserved
    have := ih fun x hx => h x (by simp [hx])
    rw [List.map_cons, List.sum_cons, List.countP_cons]
    omega

/-- Of the server's state: what holds of each transport, and that the counter is what they add. -/
structure Inv (s : ProxyServer) : Prop where
  transports : ∀ t ∈ s.transports, t.Holds spawn spec
  number : s.transportNumber = UInt64.ofNat (s.transports.map net).sum

namespace ProxyServer

variable {config : ProxyConfig} {s s' : ProxyServer} {l : Label}

theorem inv_step (h : Inv s) (hstep : Step config s l s') : Inv s' := by
  obtain ⟨hts, hn⟩ := h
  cases hstep with
  | accept n ts =>
    refine ⟨fun t ht => ?_, ?_⟩
    · rcases List.mem_append.1 ht with ht | ht
      · exact hts t ht
      · rw [List.mem_singleton.1 ht]
        exact .new (serve_spec config)
    · rw [List.map_append, List.sum_append]
      exact hn
  | @task n pre post t t' side e hs =>
    have ht := hts t (by simp)
    refine ⟨fun x hx => ?_, ?_⟩
    · rcases List.mem_append.1 hx with hx | hx
      · exact hts x (by simp [hx])
      rcases List.mem_cons.1 hx with rfl | hx
      · exact ht.step spec_sound hs
      · exact hts x (by simp [hx])
    · have hsum : ∀ x, ((pre ++ x :: post).map net).sum =
          (pre.map net).sum + (post.map net).sum + net x := by
        intro x
        simp only [List.map_append, List.map_cons, List.sum_append, List.sum_cons]
        omega
      rw [hsum] at hn ⊢
      exact (congrArg (counted · e) hn).trans (net_step ht hs _)

theorem served_step (h : Inv s) (hserved : ∀ t ∈ s.transports, Served t)
    (hstep : Step config s l s') (hl : l.served = true) : ∀ t ∈ s'.transports, Served t := by
  cases hstep with
  | accept n ts =>
    intro t ht
    rcases List.mem_append.1 ht with ht | ht
    · exact hserved t ht
    · rw [List.mem_singleton.1 ht]
      intro answer hmem
      cases hmem
  | @task n pre post t t' side e hs =>
    intro x hx
    rcases List.mem_append.1 hx with hx | hx
    · exact hserved x (by simp [hx])
    rcases List.mem_cons.1 hx with rfl | hx
    · have ht := hserved t (by simp)
      intro answer hmem
      rw [(h.transports t (by simp)).trace_step spec_sound hs none] at hmem
      split at hmem
      · next hside =>
        subst hside
        cases e with
        | none => exact ht answer hmem
        | some e =>
          rcases List.mem_append.1 hmem with hmem | hmem
          · exact ht answer hmem
          · rw [← List.mem_singleton.1 hmem] at hl
            exact hl
      · exact ht answer hmem
    · exact hserved x (by simp [hx])

theorem inv_new : Inv new := ⟨fun _ ht => (List.not_mem_nil ht).elim, rfl⟩

theorem reachableServed_inv (h : ReachableServed config s) :
    Inv s ∧ ∀ t ∈ s.transports, Served t := by
  induction h with
  | refl => exact ⟨inv_new, fun _ ht => (List.not_mem_nil ht).elim⟩
  | tail _ hs ih =>
    obtain ⟨l, hs, hl⟩ := hs
    exact ⟨inv_step ih.1 hs, served_step ih.1 ih.2 hs hl⟩

/-- **The counter and the live transports**: where every first event is served, the counter is at
most the number of transports that have started and not finished, and is 0 once all have
finished. -/
theorem counter_le_live (h : ReachableServed config s) :
    s.transportNumber.toNat ≤ s.liveTransports ∧
      ((∀ t ∈ s.transports, finished t = true) → s.transportNumber = 0) := by
  obtain ⟨⟨hts, hn⟩, hserved⟩ := reachableServed_inv h
  refine ⟨?_, fun hfin => ?_⟩
  · rw [hn, UInt64.toNat_ofNat']
    exact (Nat.mod_le _ _).trans (sum_net_le fun t ht => ⟨hts t ht, hserved t ht⟩)
  · have hzero : (s.transports.map net).sum = 0 := by
      rw [List.sum_eq_zero_iff_forall_eq_nat]
      rintro n hn
      obtain ⟨t, ht, rfl⟩ := List.mem_map.1 hn
      exact net_finished (hts t ht) (hserved t ht) (hfin t ht)
    rw [hn, hzero]
    rfl

/-- The main program of a lone transport performs its next operation. -/
theorem step_main {n : UInt64} {t : TransportTasks} (op : ProxyOp) (a : op.Ans)
    {k : op.Ans → Prog proxySig _} (ht : t.main.prog = .vis op k) :
    Step config ⟨n, [t]⟩ (.task none (some ⟨op, a⟩)) ⟨counted n (some ⟨op, a⟩),
      [Tasks.spawned spawn { t with main := ⟨k a, t.main.trace ++ [⟨op, a⟩]⟩ }
        (some ⟨op, a⟩)]⟩ :=
  .task n [] [] (.main (.performs (S := proxySig) op a ht))

/-- A transport that has sent a datagram to its destination, and is about to finish. -/
theorem exists_served : ∃ t t', ReachableServed ⟨none, none, none⟩ ⟨1, [t]⟩ ∧
    Step ⟨none, none, none⟩ ⟨1, [t]⟩ (.task none (some ⟨.fetchSub, ()⟩)) ⟨0, [t']⟩ ∧
    live t = true ∧ finished t' = true ∧ ∀ who, subs (t.trace who) = 0 := by
  let token : BlockMode.Block 32 := ⟨List.replicate 32 7, rfl⟩
  let packet := generateAgentUdpDataMessage "m1" "user1" .plain (.ip (.v4 ⟨10, 0, 0, 1⟩ 5000))
    (.ip (.v4 ⟨8, 8, 8, 8⟩ 53)) [104, 105] false
  have h0 : ReachableServed ⟨none, none, none⟩ ⟨0, [Tasks.new (serve _)]⟩ :=
    .single ⟨_, .accept _ _, rfl⟩
  have h1 := h0.tail ⟨_, step_main .fetchAdd () rfl, rfl⟩
  have h2 := h1.tail ⟨_, step_main .newUuid "t1" rfl, rfl⟩
  have h3 := h2.tail ⟨_, step_main .agentNext (some (.ok packet)) rfl, rfl⟩
  have h4 := h3.tail ⟨_, step_main .random32Bytes token rfl, rfl⟩
  have h5 := h4.tail ⟨_, step_main (.udpBind _) (.ok ()) rfl, rfl⟩
  have h6 := h5.tail ⟨_, step_main (.udpConnect _) (some (.ok ())) rfl, rfl⟩
  have h7 := h6.tail ⟨_, step_main (.udpSend _) (.ok ()) rfl, rfl⟩
  have h8 := h7.tail ⟨_, step_main .agentClose (.ok ()) rfl, rfl⟩
  refine ⟨_, _, h8, step_main .fetchSub () rfl, rfl, rfl, ?_⟩
  rintro (_ | _ | _) <;> rfl

/-- The transport takes back what it has added. -/
theorem counter_le_live_served : ∃ s s' : ProxyServer, s.transportNumber = 1 ∧
    s.transportNumber.toNat ≤ s.liveTransports ∧ s'.transports ≠ [] ∧
    (∀ t ∈ s'.transports, finished t = true) ∧ s'.transportNumber = 0 := by
  obtain ⟨t, t', h, hstep, -, hfinished, -⟩ := exists_served
  have h' : ReachableServed ⟨none, none, none⟩ ⟨0, [t']⟩ := h.tail ⟨_, hstep, rfl⟩
  have hall : ∀ x ∈ [t'], finished x = true := by simpa using hfinished
  exact ⟨_, _, rfl, (counter_le_live h).1, List.cons_ne_nil t' [], hall,
    (counter_le_live h').2 hall⟩

/-- The agent closes its connection before a first message: the transport has finished, and the
counter still counts it. -/
theorem closed_first_event_leaks :
    ¬ ∀ config s, Reachable config s → s.transportNumber.toNat ≤ s.liveTransports := by
  intro h
  have hrun : Reachable ⟨none, none, none⟩ ⟨1, [⟨⟨.ret (.ok ()),
      [⟨.fetchAdd, ()⟩, ⟨.newUuid, "t1"⟩, ⟨.agentNext, none⟩]⟩, fun _ => none⟩]⟩ :=
    .tail (.tail (.tail (.single ⟨_, .accept _ _⟩)
      ⟨.task none (some ⟨.fetchAdd, ()⟩), .task _ [] [] (.main (.mk _ (.vis _ _ _)))⟩)
      ⟨.task none (some ⟨.newUuid, "t1"⟩), .task _ [] [] (.main (.mk _ (.vis _ _ _)))⟩)
      ⟨.task none (some ⟨.agentNext, none⟩), .task _ [] [] (.main (.mk _ (.vis _ _ _)))⟩
  exact absurd (h _ _ hrun) (by decide)

end ProxyServer

end Ppaass.Proxy
