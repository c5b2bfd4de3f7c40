import Z80Tcpip.Tcp.Runs

/-!
# All that a client puts on the wire

A client connects and then makes any calls of the stack.  Every packet that
`send_packet` is given on the way is a valid segment to the same destination and
fits the packet buffer.
-/

namespace Z80Tcpip
namespace Tcp

open Foundation

variable {P : Platform} {σ : Type}

/-- What has been sent between `w` and `w'`. -/
def Emits (w w' : World σ) : Prop :=
  w'.tcp.ip.daddr = w.tcp.ip.daddr ∧
    w'.tcp.ip.pktSize = w.tcp.ip.pktSize ∧
      exists new : List Transmission, w'.sent = w.sent ++ new ∧
        forall t, t ∈ new -> ValidSegment t ∧
          t.tcp.ip.daddr = w.tcp.ip.daddr ∧
            40 + t.request.len ≤ w.tcp.ip.pktSize.toNat

theorem Emits.silent {w w' : World σ}
    (hdaddr : w'.tcp.ip.daddr = w.tcp.ip.daddr)
    (hsize : w'.tcp.ip.pktSize = w.tcp.ip.pktSize) (hsent : w'.sent = w.sent) :
    Emits w w' := by
  refine ⟨hdaddr, hsize, [], ?_, ?_⟩
  · rw [hsent, List.append_nil]
  · intro t ht
    cases ht

theorem Emits.trans {w w' w'' : World σ} (h : Emits w w')
    (h' : Emits w' w'') : Emits w w'' := by
  rcases h with ⟨hdaddr, hsize, new, hsent, hnew⟩
  rcases h' with ⟨hdaddr', hsize', new', hsent', hnew'⟩
  refine ⟨hdaddr'.trans hdaddr, hsize'.trans hsize, new ++ new', ?_, ?_⟩
  · rw [hsent', hsent, List.append_assoc]
  · intro t ht
    rcases List.mem_append.mp ht with hold | hlater
    · exact hnew t hold
    · rcases hnew' t hlater with ⟨hvalid, htdaddr, hlen⟩
      rw [hsize] at hlen
      exact ⟨hvalid, htdaddr.trans hdaddr, hlen⟩

theorem Sends.emits {ok : Request -> Prop} {w w' : World σ}
    (h : Sends ok w w')
    (hok : forall r, ok r -> 40 + r.len ≤ w.tcp.ip.pktSize.toNat) :
    Emits w w' := by
  rcases h with ⟨⟨_, hdaddr, hsize, _, _⟩, new, hsent, hnew⟩
  refine ⟨hdaddr, hsize, new, hsent, ?_⟩
  intro t ht
  rcases hnew t ht with ⟨⟨_, htdaddr, htsize, _, _⟩, htok, hpacket⟩
  have hroom := hok t.request htok
  have hvalid := validSegment_tcpTransmit t.tcp t.request
    (by rw [htsize]; exact hroom)
  rw [← hpacket] at hvalid
  exact ⟨hvalid, htdaddr, hroom⟩

theorem OwnOrAck.fits {r r' : Request} {size : Nat} (h : OwnOrAck r r')
    (hr : 40 + r.len ≤ size) : 40 + r'.len ≤ size := by
  rcases h with h | h
  · rw [h]
    exact hr
  · rw [h]
    show 40 + 0 ≤ size
    omega

theorem tcpSend_emits (L : Link P σ) (fuel : Nat) (w : World σ) {len : Nat}
    (data : Option (Buffer len)) (window : UInt16)
    (h : 40 + len ≤ w.tcp.ip.pktSize.toNat) :
    Emits w (tcpSend L fuel w len data window).2 :=
  ((stackSends L fuel).send w len data window).emits
    (fun _ hr => hr.fits h)

theorem connectLoop_emits (L : Link P σ) (fuel : Nat)
    (register : Nat -> UInt8) (turns : Nat) :
    forall w : World σ, 40 ≤ w.tcp.ip.pktSize.toNat ->
      Emits w (connectLoop L fuel register turns w).2 := by
  induction turns with
  | zero =>
      intro w _
      exact .silent rfl rfl rfl
  | succ turns ih =>
      intro w hsize
      have hsyn : Emits w (tcpSend L fuel w.resetNumbers 0 none 1).2 :=
        Emits.trans (.silent rfl rfl rfl)
          (tcpSend_emits L fuel w.resetNumbers none 1 hsize)
      rw [connectLoop]
      rcases hcall : tcpSend L fuel w.resetNumbers 0 none 1 with ⟨_ | rc, w1⟩
      · rw [hcall] at hsyn
        exact hsyn
      · rw [hcall] at hsyn
        simp only
        split
        · exact hsyn
        · refine (hsyn.trans (.silent rfl rfl rfl)).trans (ih _ ?_)
          show 40 ≤ w1.tcp.ip.pktSize.toNat
          rw [hsyn.right.left]
          exact hsize

theorem Call.emits (L : Link P σ) (fuel : Nat) (w : World σ) (call : Call)
    (hsize : 40 ≤ w.tcp.ip.pktSize.toNat)
    (hfit : forall r, call = .send r -> 40 + r.len ≤ w.tcp.ip.pktSize.toNat) :
    Emits w (call.run L fuel w).2 := by
  cases call with
  | fill bytes => exact .silent rfl rfl rfl
  | send r => exact tcpSend_emits L fuel w r.data r.window (hfit r rfl)
  | recv len timeout =>
      exact ((stackSends L fuel).recvTimeout w len timeout).emits
        (fun _ hr => hr.fits hsize)

theorem runCalls_emits (L : Link P σ) (fuel : Nat) {calls : List Call} :
    forall {w : World σ}, 40 ≤ w.tcp.ip.pktSize.toNat ->
      (forall r, Call.send r ∈ calls ->
        40 + r.len ≤ w.tcp.ip.pktSize.toNat) ->
      Emits w (runCalls L fuel calls w) := by
  induction calls with
  | nil =>
      intro w _ _
      exact .silent rfl rfl rfl
  | cons call more ih =>
      intro w hsize hfit
      have hcall := call.emits L fuel w hsize
        (fun r hr => hfit r (hr ▸ List.mem_cons_self))
      rw [runCalls]
      rcases hrun : call.run L fuel w with ⟨_ | rc, w1⟩
      · rw [hrun] at hcall
        exact hcall
      · rw [hrun] at hcall
        have hsize1 : w1.tcp.ip.pktSize = w.tcp.ip.pktSize := hcall.right.left
        refine hcall.trans (ih ?_ ?_)
        · rw [hsize1]
          exact hsize
        · intro r hr
          rw [hsize1]
          exact hfit r (List.mem_cons_of_mem call hr)

/-- A client: `tcp_connect`, and if it succeeds any calls of the stack. -/
def clientRun (L : Link P σ) (fuel : Nat) (register : Nat -> UInt8)
    (calls : List Call) (w : World σ) : World σ :=
  match tcpConnect L fuel register w with
  | (none, w) => w
  | (some rc, w) => if rc < 0 then w else runCalls L fuel calls w

theorem clientRun_emits (L : Link P σ) (fuel : Nat) (register : Nat -> UInt8)
    {calls : List Call} {w : World σ} (hsize : 40 ≤ w.tcp.ip.pktSize.toNat)
    (hfit : forall r, Call.send r ∈ calls ->
      40 + r.len ≤ w.tcp.ip.pktSize.toNat) :
    Emits w (clientRun L fuel register calls w) := by
  have hconnect : Emits w (tcpConnect L fuel register w).2 :=
    Emits.trans (.silent rfl rfl rfl)
      (connectLoop_emits L fuel register 5
        { w with tcp := { w.tcp with ths := 0 } } hsize)
  rw [clientRun]
  rcases hrun : tcpConnect L fuel register w with ⟨_ | rc, w1⟩
  · rw [hrun] at hconnect
    exact hconnect
  · rw [hrun] at hconnect
    have hsize1 : w1.tcp.ip.pktSize = w.tcp.ip.pktSize := hconnect.right.left
    simp only
    split
    · exact hconnect
    · refine hconnect.trans (runCalls_emits L fuel ?_ ?_)
      · rw [hsize1]
        exact hsize
      · intro r hr
        rw [hsize1]
        exact hfit r hr

end Tcp
end Z80Tcpip
