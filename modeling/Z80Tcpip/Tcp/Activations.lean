import Z80Tcpip.Tcp.ConnectOutcome

/-!
# The recursion of tcp_send and tcp_recv_timeout

The functions of the stack once more, with the activations of `tcp_send` and
`tcp_recv_timeout` that are open and every stack of them that there has been.
Forgetting these gives the functions back.
-/

namespace Z80Tcpip
namespace Tcp

open Foundation

variable {P : Platform} {σ : Type}

/-- An open call, a `tcp_send` with the number of its transmissions so far. -/
inductive Activation where
  | tcpSend (transmitted : Nat)
  | tcpRecvTimeout
  deriving DecidableEq

def Activation.isSend : Activation -> Bool
  | .tcpSend _ => true
  | .tcpRecvTimeout => false

def Activation.transmitted : Activation -> Nat
  | .tcpSend n => n
  | .tcpRecvTimeout => 0

structure Traced (σ : Type) where
  world : World σ
  stack : List Activation
  seen : List (List Activation)

def Traced.start (w : World σ) : Traced σ where
  world := w
  stack := []
  seen := [[]]

def Traced.setStack (t : Traced σ) (stack : List Activation) : Traced σ :=
  { t with stack := stack, seen := t.seen ++ [stack] }

def Traced.enter (t : Traced σ) (a : Activation) : Traced σ :=
  t.setStack (a :: t.stack)

def Traced.leave (t : Traced σ) : Traced σ :=
  t.setStack t.stack.tail

/-- One transmission more for the innermost call. -/
def countTransmission : List Activation -> List Activation
  | .tcpSend n :: stack => .tcpSend (n + 1) :: stack
  | stack => stack

def Traced.transmit (t : Traced σ) (len : Nat) (data : Option (Buffer len))
    (window : UInt16) : Traced σ :=
  { t with world := t.world.transmit len data window }.setStack
    (countTransmission t.stack)

/-- The end of a call, if it is reached. -/
def leaving : Option Int × Traced σ -> Option Int × Traced σ
  | (none, t) => (none, t)
  | (some rc, t) => (some rc, t.leave)

/-!
## The functions
-/

mutual

def sendTraced (L : Link P σ) : Nat -> Traced σ -> (len : Nat) ->
    Option (Buffer len) -> UInt16 -> Option Int × Traced σ
  | 0, t, _, _, _ => (none, t)
  | fuel + 1, t, len, data, window =>
      leaving
        (sendAgainTraced L fuel (t.enter (.tcpSend 0)) len data window 0)

def sendAgainTraced (L : Link P σ) : Nat -> Traced σ -> (len : Nat) ->
    Option (Buffer len) -> UInt16 -> Nat -> Option Int × Traced σ
  | 0, t, _, _, _, _ => (none, t)
  | fuel + 1, t, len, data, window, retries =>
      let t := t.transmit len data window
      if 1 < t.world.tcp.seq ∧ len = 0 then (some 0, t)
      else
        match recvTraced L fuel t 0 with
        | (none, t) => (none, t)
        | (some rc, t) =>
            if rc = -(P.eagain : Int) then
              if retries < 5 then
                sendAgainTraced L fuel t len data window (retries + 1)
              else (some (-1), t)
            else if rc < 0 then (some rc, t)
            else (some 0, t)

def recvTraced (L : Link P σ) : Nat -> Traced σ -> UInt16 ->
    Option Int × Traced σ
  | 0, t, _ => (none, t)
  | fuel + 1, t, len => recvTimeoutTraced L fuel t len P.rs232Tps

def recvTimeoutTraced (L : Link P σ) : Nat -> Traced σ -> UInt16 -> Int16 ->
    Option Int × Traced σ
  | 0, t, _, _ => (none, t)
  | fuel + 1, t, len, timeout =>
      let t := t.enter .tcpRecvTimeout
      leaving
        (if clampLen t.world.tcp len ≠ 0 then
          match sendTraced L fuel t 0 none (clampLen t.world.tcp len) with
          | (none, t) => (none, t)
          | (some _, t) => recvAgainTraced L fuel t timeout
        else recvAgainTraced L fuel t timeout)

def recvAgainTraced (L : Link P σ) : Nat -> Traced σ -> Int16 ->
    Option Int × Traced σ
  | 0, t, _ => (none, t)
  | fuel + 1, t, timeout =>
      match L.recvPacket t.world.tcp.ip.pkt timeout t.world.line with
      | none => (none, t)
      | some (len, pkt, line) =>
          let w := t.world.received pkt line
          if len < 0 then (some len, { t with world := w })
          else
            let (tcp, action) := tcpInput P w.tcp len.toNat
            let t := { t with world := { w with tcp := tcp } }
            match action with
            | .ret rc => (some rc, t)
            | .again => recvAgainTraced L fuel t timeout
            | .ackSyn =>
                match sendTraced L fuel t 0 none 0 with
                | (none, t) => (none, t)
                | (some _, t) => (some 0, t)
            | .ackData =>
                match sendTraced L fuel t 0 none 0 with
                | (none, t) => (none, t)
                | (some _, t) =>
                    (some (len - 20 - t.world.tcp.ths.toNat), t)

end

def connectLoopTraced (L : Link P σ) (fuel : Nat) (register : Nat -> UInt8) :
    Nat -> Traced σ -> Option Int × Traced σ
  | 0, t => (some (-1), t)
  | turns + 1, t =>
      match sendTraced L fuel { t with world := t.world.resetNumbers } 0 none 1
        with
      | (none, t) => (none, t)
      | (some rc, t) =>
          if 0 ≤ rc then (some rc, t)
          else
            connectLoopTraced L fuel register turns
              { t with world := t.world.nextPort (register turns) }

def connectTraced (L : Link P σ) (fuel : Nat) (register : Nat -> UInt8)
    (t : Traced σ) : Option Int × Traced σ :=
  connectLoopTraced L fuel register 5
    { t with world :=
      { t.world with tcp := { t.world.tcp with ths := 0 } } }

/-!
## Forgetting the stack
-/

def forget (r : Option Int × Traced σ) : Option Int × World σ :=
  (r.1, r.2.world)

theorem forget_leaving (r : Option Int × Traced σ) :
    forget (leaving r) = forget r := by
  rcases r with ⟨_ | rc, t⟩
  · rfl
  · rfl

section Forget

variable {L : Link P σ} {fuel : Nat}

theorem forget_sendAgain
    (hrecv : forall t : Traced σ, forget (recvTraced L fuel t 0) =
      tcpRecv L fuel t.world 0)
    (hsend : forall (t : Traced σ) (len : Nat) (data : Option (Buffer len))
      (window : UInt16) (retries : Nat),
        forget (sendAgainTraced L fuel t len data window retries) =
          tcpSendAgain L fuel t.world len data window retries)
    (t : Traced σ) (len : Nat) (data : Option (Buffer len))
    (window : UInt16) (retries : Nat) :
    forget (sendAgainTraced L (fuel + 1) t len data window retries) =
      tcpSendAgain L (fuel + 1) t.world len data window retries := by
  have hcall := hrecv (t.transmit len data window)
  rw [sendAgainTraced, tcpSendAgain]
  by_cases hdone : 1 < (t.world.transmit len data window).tcp.seq ∧ len = 0
  · rw [if_pos hdone]
    exact congrArg forget (if_pos hdone)
  · rw [if_neg hdone]
    refine (congrArg forget (if_neg hdone)).trans ?_
    change _ = tcpRecv L fuel (t.world.transmit len data window) 0 at hcall
    rw [<- hcall]
    rcases recvTraced L fuel (t.transmit len data window) 0 with ⟨_ | rc, t'⟩
    · rfl
    · simp only [forget]
      split_ifs
      · exact hsend t' len data window (retries + 1)
      · rfl
      · rfl
      · rfl

theorem forget_recvAgain
    (hsend : forall (t : Traced σ) (len : Nat) (data : Option (Buffer len))
      (window : UInt16), forget (sendTraced L fuel t len data window) =
        tcpSend L fuel t.world len data window)
    (hrecv : forall (t : Traced σ) (timeout : Int16),
      forget (recvAgainTraced L fuel t timeout) =
        tcpRecvAgain L fuel t.world timeout)
    (t : Traced σ) (timeout : Int16) :
    forget (recvAgainTraced L (fuel + 1) t timeout) =
      tcpRecvAgain L (fuel + 1) t.world timeout := by
  rw [recvAgainTraced, tcpRecvAgain]
  rcases L.recvPacket t.world.tcp.ip.pkt timeout t.world.line with
    _ | ⟨len, pkt, line⟩
  · rfl
  · simp only
    split_ifs with hneg
    · rfl
    · rcases tcpInput P (t.world.received pkt line).tcp len.toNat with
        ⟨tcp, action⟩
      cases action with
      | ret rc => rfl
      | again =>
          exact hrecv { t with
            world := { t.world.received pkt line with tcp := tcp } } timeout
      | ackSyn =>
          have hcall := hsend { t with
            world := { t.world.received pkt line with tcp := tcp } } 0 none 0
          simp only at hcall ⊢
          rw [<- hcall]
          rcases sendTraced L fuel { t with
            world := { t.world.received pkt line with tcp := tcp } } 0 none 0
            with ⟨_ | rc, t'⟩
          · rfl
          · rfl
      | ackData =>
          have hcall := hsend { t with
            world := { t.world.received pkt line with tcp := tcp } } 0 none 0
          simp only at hcall ⊢
          rw [<- hcall]
          rcases sendTraced L fuel { t with
            world := { t.world.received pkt line with tcp := tcp } } 0 none 0
            with ⟨_ | rc, t'⟩
          · rfl
          · rfl

/-- Every function of the stack is its traced version without the trace. -/
theorem forget_calls (L : Link P σ) (fuel : Nat) :
    (forall (t : Traced σ) (len : Nat) (data : Option (Buffer len))
      (window : UInt16), forget (sendTraced L fuel t len data window) =
        tcpSend L fuel t.world len data window) ∧
    (forall (t : Traced σ) (len : Nat) (data : Option (Buffer len))
      (window : UInt16) (retries : Nat),
        forget (sendAgainTraced L fuel t len data window retries) =
          tcpSendAgain L fuel t.world len data window retries) ∧
    (forall (t : Traced σ) (len : UInt16),
      forget (recvTraced L fuel t len) = tcpRecv L fuel t.world len) ∧
    (forall (t : Traced σ) (len : UInt16) (timeout : Int16),
      forget (recvTimeoutTraced L fuel t len timeout) =
        tcpRecvTimeout L fuel t.world len timeout) ∧
    forall (t : Traced σ) (timeout : Int16),
      forget (recvAgainTraced L fuel t timeout) =
        tcpRecvAgain L fuel t.world timeout := by
  induction fuel with
  | zero =>
      exact ⟨fun _ _ _ _ => rfl, fun _ _ _ _ _ => rfl, fun _ _ => rfl,
        fun _ _ _ => rfl, fun _ _ => rfl⟩
  | succ fuel ih =>
      rcases ih with ⟨hsend, hsendAgain, hrecv, htimeout, hrecvAgain⟩
      refine ⟨?_, ?_, ?_, ?_, ?_⟩
      · intro t len data window
        rw [sendTraced, forget_leaving, hsendAgain, tcpSend]
        rfl
      · exact forget_sendAgain (fun t => hrecv t 0) hsendAgain
      · intro t len
        rw [recvTraced, tcpRecv, htimeout]
      · intro t len timeout
        rw [recvTimeoutTraced, tcpRecvTimeout, forget_leaving]
        by_cases hlen : clampLen t.world.tcp len ≠ 0
        · rw [if_pos hlen]
          refine (congrArg forget (if_pos hlen)).trans ?_
          have hcall := hsend (t.enter .tcpRecvTimeout) 0 none
            (clampLen t.world.tcp len)
          change _ = tcpSend L fuel t.world 0 none
            (clampLen t.world.tcp len) at hcall
          rw [<- hcall]
          change forget (match sendTraced L fuel (t.enter .tcpRecvTimeout) 0
            none (clampLen t.world.tcp len) with
            | (none, t) => (none, t)
            | (some _, t) => recvAgainTraced L fuel t timeout) = _
          rcases sendTraced L fuel (t.enter .tcpRecvTimeout) 0 none
            (clampLen t.world.tcp len) with ⟨_ | rc, t'⟩
          · rfl
          · exact hrecvAgain t' timeout
        · rw [if_neg hlen]
          refine (congrArg forget (if_neg hlen)).trans ?_
          exact hrecvAgain (t.enter .tcpRecvTimeout) timeout
      · exact forget_recvAgain hsend hrecvAgain

end Forget

/-!
## How deep it gets
-/

/-- At most two calls of `tcp_send` and one of `tcp_recv_timeout` are open, and
none has transmitted more than six segments. -/
structure Shallow (stack : List Activation) : Prop where
  sends : stack.countP Activation.isSend ≤ 2
  recvs : stack.count .tcpRecvTimeout ≤ 1
  transmitted : forall a, a ∈ stack -> a.transmitted ≤ 6

/-- There is room for one more `tcp_send`. -/
structure OneSend (stack : List Activation) : Prop where
  sends : stack.countP Activation.isSend ≤ 1
  recvs : stack.count .tcpRecvTimeout ≤ 1
  transmitted : forall a, a ∈ stack -> a.transmitted ≤ 6

theorem OneSend.shallow {stack : List Activation} (h : OneSend stack) :
    Shallow stack :=
  ⟨Nat.le_trans h.sends (by decide), h.recvs, h.transmitted⟩

theorem OneSend.push {stack : List Activation} (h : OneSend stack) {n : Nat}
    (hn : n ≤ 6) : Shallow (.tcpSend n :: stack) where
  sends := by
    rw [List.countP_cons_of_pos rfl]
    exact Nat.succ_le_succ h.sends
  recvs := by
    rw [List.count_cons_of_ne (fun heq => by cases heq)]
    exact h.recvs
  transmitted := by
    intro a ha
    cases List.mem_cons.mp ha with
    | inl heq =>
        rw [heq]
        exact hn
    | inr hmem =>
        exact h.transmitted a hmem

theorem oneSend_single {n : Nat} (hn : n ≤ 6) : OneSend [.tcpSend n] where
  sends := Nat.le_refl 1
  recvs := Nat.zero_le 1
  transmitted := by
    intro a ha
    rw [List.mem_singleton.mp ha]
    exact hn

theorem oneSend_nil : OneSend [] where
  sends := Nat.zero_le 1
  recvs := Nat.zero_le 1
  transmitted := by
    intro a ha
    cases ha

/-- A stack without an open `tcp_recv_timeout`. -/
theorem OneSend.pushRecv {stack : List Activation} (h : OneSend stack)
    (hnone : .tcpRecvTimeout ∉ stack) :
    OneSend (.tcpRecvTimeout :: stack) where
  sends := by
    rw [List.countP_cons_of_neg (by decide)]
    exact h.sends
  recvs := by
    rw [List.count_cons_self, List.count_eq_zero_of_not_mem hnone]
  transmitted := by
    intro a ha
    cases List.mem_cons.mp ha with
    | inl heq =>
        rw [heq]
        exact Nat.zero_le 6
    | inr hmem =>
        exact h.transmitted a hmem

/-- The stack is this one, and so far no stack was too deep. -/
structure At (stack : List Activation) (t : Traced σ) : Prop where
  stack_eq : t.stack = stack
  seen : forall st, st ∈ t.seen -> Shallow st

theorem At.setStack {stack stack' : List Activation} {t : Traced σ}
    (h : At stack t) (hshallow : Shallow stack') :
    At stack' (t.setStack stack') where
  stack_eq := rfl
  seen := by
    intro st hst
    cases List.mem_append.mp hst with
    | inl hold =>
        exact h.seen st hold
    | inr hnew =>
        rw [List.mem_singleton.mp hnew]
        exact hshallow

theorem At.enter {stack : List Activation} {t : Traced σ} (h : At stack t)
    {a : Activation} (hshallow : Shallow (a :: stack)) :
    At (a :: stack) (t.enter a) := by
  rw [Traced.enter, h.stack_eq]
  exact h.setStack hshallow

theorem At.leave {stack : List Activation} {a : Activation} {t : Traced σ}
    (h : At (a :: stack) t) (hshallow : Shallow stack) :
    At stack t.leave := by
  rw [Traced.leave, h.stack_eq]
  exact h.setStack hshallow

theorem At.transmit {stack : List Activation} {n : Nat} {t : Traced σ}
    (h : At (.tcpSend n :: stack) t)
    (hshallow : Shallow (.tcpSend (n + 1) :: stack)) (len : Nat)
    (data : Option (Buffer len)) (window : UInt16) :
    At (.tcpSend (n + 1) :: stack) (t.transmit len data window) := by
  have hworld : At (.tcpSend n :: stack)
      { t with world := t.world.transmit len data window } :=
    ⟨h.stack_eq, h.seen⟩
  rw [Traced.transmit, h.stack_eq]
  exact hworld.setStack hshallow

theorem At.world {stack : List Activation} {t : Traced σ} (h : At stack t)
    (w : World σ) : At stack { t with world := w } :=
  ⟨h.stack_eq, h.seen⟩

theorem leaving_some {r : Option Int × Traced σ} {rc : Int} {t' : Traced σ}
    (h : leaving r = (some rc, t')) :
    exists t : Traced σ, r = (some rc, t) ∧ t' = t.leave := by
  rcases r with ⟨_ | rc', t⟩
  · cases h
  · cases h
    exact ⟨t, rfl, rfl⟩

section Depth

variable {L : Link P σ}

theorem sendAgainTraced_ack (L : Link P σ) (fuel retries : Nat)
    (t : Traced σ) (window : UInt16) (hconn : 1 < t.world.tcp.seq) :
    sendAgainTraced L (fuel + 1) t 0 none window retries =
      (some 0, t.transmit 0 none window) := by
  have hdone : 1 < (t.transmit 0 none window).world.tcp.seq ∧ 0 = 0 :=
    ⟨hconn, rfl⟩
  rw [sendAgainTraced]
  exact if_pos hdone

/-- An acknowledgement opens and closes one `tcp_send`. -/
theorem sendTraced_ack {fuel : Nat} {stack : List Activation}
    {t t' : Traced σ} {window : UInt16} {rc : Int} (hat : At stack t)
    (hroom : OneSend stack) (hconn : 1 < t.world.tcp.seq)
    (h : sendTraced L fuel t 0 none window = (some rc, t')) :
    At stack t' ∧ t'.world = t.world.transmit 0 none window := by
  match fuel with
  | 0 => cases h
  | 1 => cases h
  | fuel + 2 =>
      rw [sendTraced, sendAgainTraced_ack L fuel 0 (t.enter (.tcpSend 0))
        window hconn] at h
      cases h
      have hsent := (hat.enter (hroom.push (Nat.zero_le 6))).transmit
        (hroom.push (by decide)) 0 none window
      exact ⟨hsent.leave hroom.shallow, rfl⟩

/-- A packet that the stack acts upon leaves the connection established. -/
theorem tcpInput_connects {tcp tcp' : TcpContext} {len : Nat}
    {action : Action} (h : tcpInput P tcp len = (tcp', action))
    (hseq : 1 < tcp.seq ∨ tcp.seq = 1)
    (hgoes : forall rc : Int, action ≠ .ret rc) : 1 < tcp'.seq := by
  unfold tcpInput at h
  cases hchecks : sanityChecks P tcp len with
  | some rc =>
      rw [hchecks] at h
      cases h
      exact absurd rfl (hgoes rc)
  | none =>
      rw [hchecks] at h
      simp only at h
      by_cases hone : tcp.seq = 1
      · rw [if_pos hone] at h
        unfold synInput at h
        split_ifs at h with hack hsyn
        · cases h
          exact absurd rfl (hgoes _)
        · cases h
          have htwo := not_not.mp hack
          rw [readHeaderSize_seq, hone] at htwo
          show 1 < headerAck (readHeaderSize tcp)
          rw [htwo]
          decide
        · cases h
          exact absurd rfl (hgoes _)
      · have hconn : 1 < tcp.seq := hseq.resolve_right hone
        have hadvance : 1 < (advanceSeq (readHeaderSize tcp)).seq := by
          rw [advanceSeq_seq]
          split
          case isTrue hlt =>
            exact UInt32.lt_trans hconn hlt
          case isFalse =>
            exact hconn
        rw [if_neg hone] at h
        unfold connectedInput at h
        split_ifs at h
        · cases h
          exact hconn
        · cases h
          exact absurd rfl (hgoes _)
        · cases h
          exact hadvance
        · cases h
          exact absurd rfl (hgoes _)

/-- From the label `again` of `tcp_recv_timeout` to its end: packets are looked
at one by one, and at most one acknowledgement is sent. -/
theorem recvAgainTraced_at {fuel : Nat} {stack : List Activation}
    {timeout : Int16} (hroom : OneSend stack) :
    forall {t t' : Traced σ} {rc : Int}, At stack t ->
      1 < t.world.tcp.seq ∨ t.world.tcp.seq = 1 ->
        recvAgainTraced L fuel t timeout = (some rc, t') -> At stack t' := by
  induction fuel with
  | zero =>
      intro t t' rc _ _ h
      cases h
  | succ fuel ih =>
      intro t t' rc hat hseq h
      rw [recvAgainTraced] at h
      rcases hrecv : L.recvPacket t.world.tcp.ip.pkt timeout t.world.line with
        _ | ⟨len, pkt, line⟩
      · rw [hrecv] at h
        cases h
      · rw [hrecv] at h
        simp only at h
        split_ifs at h with hneg
        · cases h
          exact hat.world _
        · rcases hinput : tcpInput P (t.world.received pkt line).tcp len.toNat
            with ⟨tcp, action⟩
          rw [hinput] at h
          have hconn := tcpInput_connects hinput hseq
          have hat' := hat.world { t.world.received pkt line with tcp := tcp }
          have hack : forall {r : Option Int × Traced σ},
              r = sendTraced L fuel { t with
                world := { t.world.received pkt line with tcp := tcp } }
                0 none 0 -> 1 < tcp.seq ->
              forall {rc' : Int} {t1 : Traced σ}, r = (some rc', t1) ->
                At stack t1 := by
            intro r hr hconn rc' t1 hsome
            rw [hr] at hsome
            exact (sendTraced_ack hat' hroom hconn hsome).1
          cases action with
          | ret rc' =>
              cases h
              exact hat'
          | again =>
              exact ih hat' (Or.inl (hconn (fun _ hno => by cases hno))) h
          | ackSyn =>
              simp only at h
              rcases hsend : sendTraced L fuel { t with
                world := { t.world.received pkt line with tcp := tcp } }
                0 none 0 with ⟨_ | rc', t1⟩
              · rw [hsend] at h
                cases h
              · rw [hsend] at h
                cases h
                exact hack hsend.symm (hconn (fun _ hno => by cases hno)) rfl
          | ackData =>
              simp only at h
              rcases hsend : sendTraced L fuel { t with
                world := { t.world.received pkt line with tcp := tcp } }
                0 none 0 with ⟨_ | rc', t1⟩
              · rw [hsend] at h
                cases h
              · rw [hsend] at h
                cases h
                exact hack hsend.symm (hconn (fun _ hno => by cases hno)) rfl

/-- The connection is established, or its SYN is out and no window is asked
for. -/
def Callable (tcp : TcpContext) (len : Nat) : Prop :=
  1 < tcp.seq ∨ tcp.seq = 1 ∧ len = 0

theorem recvTimeoutTraced_at {fuel : Nat} {stack : List Activation}
    {t t' : Traced σ} {len : UInt16} {timeout : Int16} {rc : Int}
    (hroom : OneSend stack) (hnone : .tcpRecvTimeout ∉ stack)
    (hat : At stack t) (hcall : Callable t.world.tcp len.toNat)
    (h : recvTimeoutTraced L fuel t len timeout = (some rc, t')) :
    At stack t' := by
  cases fuel with
  | zero => cases h
  | succ fuel =>
      have hopen := hroom.pushRecv hnone
      have hentered := hat.enter hopen.shallow
      rw [recvTimeoutTraced] at h
      rcases leaving_some h with ⟨t1, hcalls, hleft⟩
      rw [hleft]
      refine At.leave ?_ hroom.shallow (a := .tcpRecvTimeout)
      by_cases hlen : clampLen t.world.tcp len ≠ 0
      · have hconn : 1 < t.world.tcp.seq := by
          cases hcall with
          | inl hconn =>
              exact hconn
          | inr hsyn =>
              have hzero : len = 0 := UInt16.toNat_inj.mp hsyn.2
              rw [hzero, clampLen_zero] at hlen
              exact absurd rfl hlen
        replace hcalls := (if_pos hlen).symm.trans hcalls
        rcases hsend : sendTraced L fuel (t.enter .tcpRecvTimeout) 0 none
          (clampLen t.world.tcp len) with ⟨_ | rc', t2⟩
        · change (match sendTraced L fuel (t.enter .tcpRecvTimeout) 0 none
            (clampLen t.world.tcp len) with
            | (none, t) => (none, t)
            | (some _, t) => recvAgainTraced L fuel t timeout) = _ at hcalls
          rw [hsend] at hcalls
          cases hcalls
        · change (match sendTraced L fuel (t.enter .tcpRecvTimeout) 0 none
            (clampLen t.world.tcp len) with
            | (none, t) => (none, t)
            | (some _, t) => recvAgainTraced L fuel t timeout) = _ at hcalls
          rw [hsend] at hcalls
          rcases sendTraced_ack hentered hopen hconn hsend with
            ⟨hat2, hworld⟩
          have hconn2 : 1 < t2.world.tcp.seq := by
            rw [hworld]
            exact hconn
          exact recvAgainTraced_at hopen hat2 (Or.inl hconn2) hcalls
      · replace hcalls := (if_neg hlen).symm.trans hcalls
        refine recvAgainTraced_at hopen hentered ?_ hcalls
        cases hcall with
        | inl hconn => exact Or.inl hconn
        | inr hsyn => exact Or.inr hsyn.1

/-- A timeout leaves the connection in the same state. -/
theorem recvTraced_callable {fuel len : Nat} {t t' : Traced σ}
    (hcall : Callable t.world.tcp len)
    (h : recvTraced L fuel t 0 = (some (-(P.eagain : Int)), t')) :
    Callable t'.world.tcp len := by
  have heagain := P.eagain_pos
  have hforget := (forget_calls L fuel).2.2.1 t 0
  rw [h] at hforget
  have hrecv : tcpRecv L fuel t.world 0 =
      (some (-(P.eagain : Int)), t'.world) := hforget.symm
  cases hcall with
  | inl hconn =>
      cases fuel with
      | zero => cases hrecv
      | succ fuel =>
          rw [tcpRecv] at hrecv
          exact Or.inl
            ((received_of_tcpRecvTimeout hconn hrecv).connected hconn)
  | inr hsyn =>
      generalize hrc : -(P.eagain : Int) = rc at hrecv
      generalize t'.world = w' at hrecv ⊢
      cases tcpRecv_syn hsyn.1 hrecv with
      | failed _ hstill =>
          exact Or.inr ⟨hstill.seq_eq.trans hsyn.1, hsyn.2⟩
      | answered => omega

theorem recvTraced_at {fuel n : Nat} {t t' : Traced σ} {len : Nat} {rc : Int}
    (hn : n ≤ 6) (hat : At [.tcpSend n] t)
    (hcall : Callable t.world.tcp len)
    (h : recvTraced L fuel t 0 = (some rc, t')) : At [.tcpSend n] t' := by
  cases fuel with
  | zero => cases h
  | succ fuel =>
      rw [recvTraced] at h
      refine recvTimeoutTraced_at (oneSend_single hn) ?_ hat ?_ h
      · intro hmem
        cases List.mem_singleton.mp hmem
      · cases hcall with
        | inl hconn => exact Or.inl hconn
        | inr hsyn => exact Or.inr ⟨hsyn.1, rfl⟩

/-- From the label `again` of `tcp_send` to its end: with `retries` tries behind
it, the call transmits one segment for each of those that are left. -/
theorem sendAgainTraced_at {fuel : Nat} :
    forall {t t' : Traced σ} {n len : Nat} {data : Option (Buffer len)}
      {window : UInt16} {retries : Nat} {rc : Int}, n ≤ retries ->
      retries ≤ 5 -> At [.tcpSend n] t -> Callable t.world.tcp len ->
        sendAgainTraced L fuel t len data window retries = (some rc, t') ->
          exists m : Nat, At [.tcpSend m] t' := by
  induction fuel with
  | zero =>
      intro t t' n len data window retries rc _ _ _ _ h
      cases h
  | succ fuel ih =>
      intro t t' n len data window retries rc hn hretries hat hcall h
      have hsix : n + 1 ≤ 6 := by
        omega
      have hsent := hat.transmit (oneSend_single hsix).shallow len data window
      have hcall' : Callable (t.transmit len data window).world.tcp len :=
        hcall
      rw [sendAgainTraced] at h
      by_cases hdone : 1 < (t.transmit len data window).world.tcp.seq ∧ len = 0
      · rw [if_pos hdone] at h
        cases h
        exact ⟨n + 1, hsent⟩
      · rw [if_neg hdone] at h
        rcases hrecv : recvTraced L fuel (t.transmit len data window) 0 with
          ⟨_ | rc', t1⟩
        · rw [hrecv] at h
          cases h
        · have hat1 := recvTraced_at hsix hsent hcall' hrecv
          rw [hrecv] at h
          simp only at h
          split_ifs at h with hagain hmore
          · rw [hagain] at hrecv
            exact ih (by omega) (by omega) hat1
              (recvTraced_callable hcall' hrecv) h
          · cases h
            exact ⟨n + 1, hat1⟩
          · cases h
            exact ⟨n + 1, hat1⟩
          · cases h
            exact ⟨n + 1, hat1⟩

/-- A call of `tcp_send` from the program. -/
theorem sendTraced_at {fuel len : Nat} {t t' : Traced σ}
    {data : Option (Buffer len)} {window : UInt16} {rc : Int}
    (hat : At [] t) (hcall : Callable t.world.tcp len)
    (h : sendTraced L fuel t len data window = (some rc, t')) :
    At [] t' := by
  cases fuel with
  | zero => cases h
  | succ fuel =>
      rw [sendTraced] at h
      rcases leaving_some h with ⟨t1, hsend, hleft⟩
      have hentered := hat.enter (oneSend_nil.push (Nat.zero_le 6))
      rcases sendAgainTraced_at (Nat.le_refl 0) (Nat.zero_le 5) hentered hcall
        hsend with ⟨m, hat1⟩
      rw [hleft]
      exact hat1.leave oneSend_nil.shallow

theorem connectLoopTraced_at {fuel : Nat} {register : Nat -> UInt8}
    {turns : Nat} :
    forall {t t' : Traced σ} {rc : Int}, At [] t ->
      connectLoopTraced L fuel register turns t = (some rc, t') ->
        At [] t' := by
  induction turns with
  | zero =>
      intro t t' rc hat h
      cases h
      exact hat
  | succ turns ih =>
      intro t t' rc hat h
      rw [connectLoopTraced] at h
      rcases hsend : sendTraced L fuel
        { t with world := t.world.resetNumbers } 0 none 1 with ⟨_ | rc', t1⟩
      · rw [hsend] at h
        cases h
      · have hat1 := sendTraced_at (hat.world t.world.resetNumbers)
          (Or.inr ⟨rfl, rfl⟩) hsend
        rw [hsend] at h
        simp only at h
        split_ifs at h
        · cases h
          exact hat1
        · exact ih (hat1.world _) h

theorem forget_connectLoop {fuel : Nat} {register : Nat -> UInt8}
    (turns : Nat) : forall t : Traced σ,
      forget (connectLoopTraced L fuel register turns t) =
        connectLoop L fuel register turns t.world := by
  induction turns with
  | zero =>
      intro t
      rfl
  | succ turns ih =>
      intro t
      have hcall := (forget_calls L fuel).1
        { t with world := t.world.resetNumbers } 0 none 1
      rw [connectLoopTraced, connectLoop]
      simp only at hcall
      rw [<- hcall]
      rcases sendTraced L fuel { t with world := t.world.resetNumbers } 0
        none 1 with ⟨_ | rc, t1⟩
      · rfl
      · simp only [forget]
        split_ifs
        · rfl
        · exact ih _

end Depth

/-!
## Every call returns
-/

theorem tcpRecv_script_ends (fuel : Nat) {w : World Script}
    (hconn : 1 < w.tcp.seq) (hfuel : w.line.length + 5 ≤ fuel) :
    exists (rc : Int) (w' : World Script),
      tcpRecv (scriptLink P) fuel w 0 = (some rc, w') ∧
        1 < w'.tcp.seq ∧ w'.line.length ≤ w.line.length := by
  cases fuel with
  | zero => omega
  | succ fuel =>
      rcases tcpRecvTimeout_script_returns (P := P) P.rs232Tps hconn
        (show w.line.length + 4 ≤ fuel by omega) with
        ⟨rc, w', hcall, hreceived⟩
      exact ⟨rc, w', hcall, hreceived.connected hconn,
        hreceived.line_suffix.length_le⟩

theorem tcpSendAgain_script_returns {n : Nat} :
    forall {fuel retries len : Nat} {data : Option (Buffer len)}
      {window : UInt16} {w : World Script}, 1 < w.tcp.seq ->
      5 - retries = n -> w.line.length + n + 6 ≤ fuel ->
        exists (rc : Int) (w' : World Script),
          tcpSendAgain (scriptLink P) fuel w len data window retries =
            (some rc, w') := by
  induction n with
  | zero =>
      intro fuel retries len data window w hconn hn hfuel
      cases fuel with
      | zero => omega
      | succ fuel =>
          rcases tcpRecv_script_ends (P := P) fuel
            (w := w.transmit len data window) hconn
            (show w.line.length + 5 ≤ fuel by omega) with
            ⟨rc, w1, hrecv, _⟩
          rw [tcpSendAgain, hrecv]
          simp only
          split_ifs
          · exact ⟨_, _, rfl⟩
          · omega
          · exact ⟨_, _, rfl⟩
          · exact ⟨_, _, rfl⟩
          · exact ⟨_, _, rfl⟩
  | succ n ih =>
      intro fuel retries len data window w hconn hn hfuel
      cases fuel with
      | zero => omega
      | succ fuel =>
          rcases tcpRecv_script_ends (P := P) fuel
            (w := w.transmit len data window) hconn
            (show w.line.length + 5 ≤ fuel by omega) with
            ⟨rc, w1, hrecv, hconn1, hline⟩
          have hline1 : w1.line.length ≤ w.line.length := hline
          rw [tcpSendAgain, hrecv]
          simp only
          split_ifs
          · exact ⟨_, _, rfl⟩
          · exact ih hconn1 (by omega) (by omega)
          · exact ⟨_, _, rfl⟩
          · exact ⟨_, _, rfl⟩
          · exact ⟨_, _, rfl⟩

/-!
## The theorem
-/

/-- The calls that programs make: `tcp_connect` sends a SYN, the others are for
an established connection. -/
inductive Entry where
  | send (r : Request)
  | recvTimeout (len : UInt16) (timeout : Int16)
  | connect (register : Nat -> UInt8)

def Entry.run (L : Link P σ) (fuel : Nat) (w : World σ) :
    Entry -> Option Int × World σ
  | .send r => tcpSend L fuel w r.len r.data r.window
  | .recvTimeout len timeout => tcpRecvTimeout L fuel w len timeout
  | .connect register => tcpConnect L fuel register w

def Entry.traced (L : Link P σ) (fuel : Nat) (t : Traced σ) :
    Entry -> Option Int × Traced σ
  | .send r => sendTraced L fuel t r.len r.data r.window
  | .recvTimeout len timeout => recvTimeoutTraced L fuel t len timeout
  | .connect register => connectTraced L fuel register t

/-- The arguments in use: those of `tcp_connect` while the SYN is out, any
others once the connection is established. -/
def Entry.Used (tcp : TcpContext) : Entry -> Prop
  | .send r =>
      1 < tcp.seq ∨ tcp.seq = 1 ∧ r = { len := 0, data := none, window := 1 }
  | .recvTimeout len _ => 1 < tcp.seq ∨ tcp.seq = 1 ∧ len = 0
  | .connect _ => True

theorem forget_entry (L : Link P σ) (fuel : Nat) (t : Traced σ)
    (entry : Entry) :
    forget (entry.traced L fuel t) = entry.run L fuel t.world := by
  cases entry with
  | send r =>
      exact (forget_calls L fuel).1 t r.len r.data r.window
  | recvTimeout len timeout =>
      exact (forget_calls L fuel).2.2.2.1 t len timeout
  | connect register =>
      exact forget_connectLoop 5 _

theorem Entry.returns {w : World Script} {entry : Entry}
    (h : entry.Used w.tcp) {fuel : Nat} (hfuel : w.line.length + 12 ≤ fuel) :
    exists (rc : Int) (w' : World Script),
      entry.run (scriptLink P) fuel w = (some rc, w') := by
  have hanswers : (scriptLink P).Answers := scriptLink_answers P
  cases entry with
  | send r =>
      cases fuel with
      | zero => omega
      | succ fuel =>
          rw [Entry.run, tcpSend]
          cases h with
          | inl hconn =>
              exact tcpSendAgain_script_returns hconn rfl (by omega)
          | inr hsyn =>
              rw [hsyn.2]
              exact tcpSendAgain_syn_returns hanswers hsyn.1 rfl (by omega)
  | recvTimeout len timeout =>
      rw [Entry.run]
      cases h with
      | inl hconn =>
          have hfuel3 : fuel = fuel - 3 + 3 := by
            omega
          rcases openWindow_same w len with ⟨_, hseq, _, hline⟩
          rw [hfuel3, tcpRecvTimeout_openWindow _ _ len timeout hconn]
          apply tcpRecvAgain_script_returns hline
          · rw [hseq]
            exact hconn
          · omega
      | inr hsyn =>
          have hfuel4 : fuel = fuel - 4 + 3 + 1 := by
            omega
          rw [hfuel4, hsyn.2, tcpRecvTimeout, clampLen_zero,
            if_neg (fun hne => hne rfl)]
          exact tcpRecvAgain_syn_returns hanswers _ timeout hsyn.1
  | connect register =>
      have hfuel12 : fuel = fuel - 12 + 12 := by
        omega
      rw [Entry.run, tcpConnect, hfuel12]
      exact connectLoop_returns hanswers _ register 5 _

theorem at_start (w : World σ) : At [] (Traced.start w) where
  stack_eq := rfl
  seen := by
    intro st hst
    rw [List.mem_singleton.mp hst]
    exact oneSend_nil.shallow

theorem Entry.traced_at {L : Link P σ} {fuel : Nat} {w : World σ}
    {entry : Entry} {rc : Int} {t' : Traced σ} (h : entry.Used w.tcp)
    (hrun : entry.traced L fuel (Traced.start w) = (some rc, t')) :
    At [] t' := by
  cases entry with
  | send r =>
      apply sendTraced_at (at_start w) ?_ hrun
      cases h with
      | inl hconn =>
          exact Or.inl hconn
      | inr hsyn =>
          exact Or.inr ⟨hsyn.1, by rw [hsyn.2]⟩
  | recvTimeout len timeout =>
      apply recvTimeoutTraced_at oneSend_nil List.not_mem_nil (at_start w) ?_
        hrun
      cases h with
      | inl hconn =>
          exact Or.inl hconn
      | inr hsyn =>
          exact Or.inr ⟨hsyn.1, by rw [hsyn.2]; rfl⟩
  | connect register =>
      exact connectLoopTraced_at ((at_start w).world _) hrun

/-- Whatever frames come before the line falls silent, every call returns; on
the way at most two calls of `tcp_send` and one of `tcp_recv_timeout` are open,
and no `tcp_send` transmits more than six segments. -/
theorem recursion_shallow (P : Platform) (w : World Script) (entry : Entry)
    (hused : entry.Used w.tcp) :
    exists enough : Nat, forall fuel : Nat, enough ≤ fuel ->
      exists (rc : Int) (t' : Traced Script),
        entry.traced (scriptLink P) fuel (Traced.start w) = (some rc, t') ∧
        entry.run (scriptLink P) fuel w = (some rc, t'.world) ∧
        t'.stack = [] ∧ forall stack, stack ∈ t'.seen -> Shallow stack := by
  refine ⟨w.line.length + 12, ?_⟩
  intro fuel hfuel
  rcases Entry.returns (P := P) hused hfuel with ⟨rc, w', hrun⟩
  have hforget := forget_entry (scriptLink P) fuel (Traced.start w) entry
  rcases htraced : entry.traced (scriptLink P) fuel (Traced.start w) with
    ⟨rc', t'⟩
  rw [htraced] at hforget
  have hsame : (rc', t'.world) = (some rc, w') := hforget.trans hrun
  rw [Prod.mk.injEq] at hsame
  rw [hsame.1] at htraced
  have hat := Entry.traced_at hused htraced
  refine ⟨rc, t', ?_, ?_, hat.stack_eq, hat.seen⟩
  · rw [hsame.1]
  · rw [hrun, hsame.2]

/-- A segment of data on an established connection: nothing comes in at first,
then a zero window probe, and then data that acknowledges it. -/
theorem recursion_shallow_answered :
    exists (fuel : Nat) (rc : Int) (t' : Traced Script),
      (Entry.send { len := 1, data := none, window := 20 }).traced
        (scriptLink Platform.spectrum) fuel
        (Traced.start
          { tcp := TcpContext.loopback 2 7
            line := [none, some (peerSegment 6 2 [0x40]),
              some (peerSegment 7 3 [0x41])]
            sent := [] }) = (some rc, t') ∧
      (Entry.send { len := 1, data := none, window := 20 }).run
        (scriptLink Platform.spectrum) fuel
        { tcp := TcpContext.loopback 2 7
          line := [none, some (peerSegment 6 2 [0x40]),
            some (peerSegment 7 3 [0x41])]
          sent := [] } = (some rc, t'.world) ∧
      t'.stack = [] ∧ forall stack, stack ∈ t'.seen -> Shallow stack := by
  rcases recursion_shallow Platform.spectrum
    { tcp := TcpContext.loopback 2 7
      line := [none, some (peerSegment 6 2 [0x40]),
        some (peerSegment 7 3 [0x41])]
      sent := [] }
    (.send { len := 1, data := none, window := 20 }) (Or.inl (by decide)) with
    ⟨enough, hall⟩
  exact ⟨enough, hall enough (Nat.le_refl enough)⟩

end Tcp
end Z80Tcpip
