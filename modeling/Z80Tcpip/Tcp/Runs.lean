import Z80Tcpip.Foundation.Trace
import Z80Tcpip.Tcp.Connect

/-!
# Runs of an established connection

A program makes any calls of the stack, one after another, on a connection that
is established.  What happens during the calls is a run of small steps: a
segment is transmitted, `recv_packet` times out, or a packet is looked at.
-/

namespace Z80Tcpip
namespace Tcp

open Foundation

variable {P : Platform} {σ : Type}

/-!
## Calls
-/

inductive Call where
  /-- The program writes to `tcp_tx_buffer(tcp)`. -/
  | fill (bytes : List UInt8)
  | send (r : Request)
  | recv (len : UInt16) (timeout : Int16)

def World.filled (w : World σ) (bytes : List UInt8) : World σ :=
  w.received (w.tcp.ip.pkt.write 40 bytes) w.line

def Call.run (L : Link P σ) (fuel : Nat) (w : World σ) :
    Call -> Option Int × World σ
  | .fill bytes => (some 0, w.filled bytes)
  | .send r => tcpSend L fuel w r.len r.data r.window
  | .recv len timeout => tcpRecvTimeout L fuel w len timeout

/-- The calls one after another; one that does not return is the last. -/
def runCalls (L : Link P σ) (fuel : Nat) : List Call -> World σ -> World σ
  | [], w => w
  | call :: more, w =>
      match call.run L fuel w with
      | (none, w) => w
      | (some _, w) => runCalls L fuel more w

/-!
## Steps
-/

inductive Event where
  | filled
  | sent
  | timeout
  | packet (bs : List UInt8)

inductive Step (L : Link P σ) : World σ -> Event -> World σ -> Prop
  | filled (w : World σ) (bytes : List UInt8) :
      Step L w .filled (w.filled bytes)
  | sent (w : World σ) (r : Request) :
      Step L w .sent (w.transmit r.len r.data r.window)
  | timeout {w : World σ} {line : σ} {timeout : Int16}
      (hrecv : L.recvPacket w.tcp.ip.pkt timeout w.line =
        some (-(P.eagain : Int), w.tcp.ip.pkt, line)) :
      Step L w .timeout (w.received w.tcp.ip.pkt line)
  | refused {w : World σ} {bs : List UInt8} {line : σ} {timeout : Int16}
      (hrecv : Delivers L timeout w bs line) (hbad : ¬ Passes w.tcp bs) :
      Step L w (.packet bs) (w.arrive bs line)
  | probe {w : World σ} {bs : List UInt8} {line : σ} {timeout : Int16}
      (hrecv : Delivers L timeout w bs line) (hpass : Passes w.tcp bs)
      (hprobe : IsProbe w.tcp bs) :
      Step L w (.packet bs) (w.noted bs line)
  | acked {w : World σ} {bs : List UInt8} {line : σ} {timeout : Int16}
      (hrecv : Delivers L timeout w bs line) (htaken : TakenIn w.tcp bs)
      (hfresh : ¬ FreshData w.tcp bs) :
      Step L w (.packet bs) (w.acked bs line)
  | accepted {w : World σ} {bs : List UInt8} {line : σ} {timeout : Int16}
      (hrecv : Delivers L timeout w bs line) (htaken : TakenIn w.tcp bs)
      (hfresh : FreshData w.tcp bs) :
      Step L w (.packet bs) (w.accepted bs line)

/-- From `w` to `w'` by steps of the stack. -/
def Runs (L : Link P σ) (w w' : World σ) : Prop :=
  exists run : List (Event × World σ), Trace (Step L) w run w'

theorem Runs.refl (L : Link P σ) (w : World σ) : Runs L w w :=
  ⟨[], .nil w⟩

theorem Runs.trans {L : Link P σ} {w w' w'' : World σ} (h : Runs L w w')
    (h' : Runs L w' w'') : Runs L w w'' := by
  rcases h with ⟨run, hrun⟩
  rcases h' with ⟨more, hmore⟩
  exact ⟨run ++ more, hrun.append hmore⟩

theorem Runs.of_step {L : Link P σ} {w w' : World σ} {e : Event}
    (h : Step L w e w') : Runs L w w' :=
  ⟨_, .single h⟩

theorem Step.connected {L : Link P σ} {w w' : World σ} {e : Event}
    (h : Step L w e w') (hconn : 1 < w.tcp.seq) : 1 < w'.tcp.seq := by
  cases h with
  | filled => exact hconn
  | sent => exact hconn
  | timeout => exact hconn
  | refused => exact hconn
  | probe => exact hconn
  | acked => exact one_lt_acked_seq _ _ hconn
  | accepted => exact one_lt_accepted_seq _ _ hconn

theorem Runs.connected {L : Link P σ} {w w' : World σ} (h : Runs L w w')
    (hconn : 1 < w.tcp.seq) : 1 < w'.tcp.seq := by
  rcases h with ⟨run, hrun⟩
  have hstep : forall (w1 : World σ) (e : Event) (w2 : World σ),
      Step L w1 e w2 -> 1 < w1.tcp.seq -> True ∧ 1 < w2.tcp.seq :=
    fun _ _ _ hstep hconn => ⟨trivial, hstep.connected hconn⟩
  exact (hrun.upholds hstep hconn).right.right

/-!
## The calls take steps
-/

/-- A bare acknowledgement, also when the fuel ends before it is sent. -/
theorem tcpSend_ack_runs (L : Link P σ) (fuel : Nat) {w : World σ}
    (window : UInt16) (hconn : 1 < w.tcp.seq) :
    Runs L w (tcpSend L fuel w 0 none window).2 := by
  match fuel with
  | 0 => exact .refl L w
  | 1 => exact .refl L w
  | fuel + 2 =>
      rw [tcpSend_ack_returns L fuel window hconn]
      exact .of_step (.sent w { len := 0, data := none, window := window })

theorem tcpRecvAction_ackData_runs (L : Link P σ) (fuel : Nat)
    (timeout : Int16) (len : Nat) {w : World σ} (hconn : 1 < w.tcp.seq) :
    Runs L w (tcpRecvAction L fuel timeout len w .ackData).2 := by
  have hack := tcpSend_ack_runs L fuel 0 hconn
  rw [tcpRecvAction]
  rcases hsend : tcpSend L fuel w 0 none 0 with ⟨_ | rc, w'⟩
  · rw [hsend] at hack
    exact hack
  · rw [hsend] at hack
    exact hack

theorem tcpRecvAgain_runs (L : Link P σ) (timeout : Int16) {fuel : Nat} :
    forall {w : World σ}, 1 < w.tcp.seq ->
      Runs L w (tcpRecvAgain L fuel w timeout).2 := by
  induction fuel with
  | zero =>
      intro w _
      exact .refl L w
  | succ fuel ih =>
      intro w hconn
      rcases hrecv : L.recvPacket w.tcp.ip.pkt timeout w.line with
        _ | ⟨len, pkt, line⟩
      · rw [tcpRecvAgain, hrecv]
        exact .refl L w
      · rcases L.recvPacket_spec hrecv with
          ⟨hlen, hpkt⟩ | ⟨bs, hfit, hlen, hpkt⟩
        · subst hlen hpkt
          rw [tcpRecvAgain_idle fuel hrecv]
          exact .of_step (.timeout hrecv)
        · subst hlen hpkt
          have hdeliver : Delivers L timeout w bs line := ⟨hfit, hrecv⟩
          by_cases hpass : Passes w.tcp bs
          · by_cases hprobe : IsProbe w.tcp bs
            · have hinput :=
                tcpInput_probe (P := P) line hfit hconn hpass hprobe
              rw [tcpRecvAgain_packet fuel hdeliver hinput]
              exact Runs.trans (.of_step (.probe hdeliver hpass hprobe))
                (ih hconn)
            · have hinput :=
                tcpInput_not_probe (P := P) line hfit hconn hpass hprobe
              have htaken : TakenIn w.tcp bs := ⟨hpass, hprobe⟩
              split_ifs at hinput with hdata hseq
              · rw [tcpRecvAgain_packet fuel hdeliver hinput]
                exact .of_step (.acked hdeliver htaken
                  (fun hfresh => hfresh.right hseq))
              · rw [tcpRecvAgain_packet fuel hdeliver hinput]
                exact Runs.trans
                  (.of_step (.accepted hdeliver htaken ⟨hdata, hseq⟩))
                  (tcpRecvAction_ackData_runs L fuel timeout bs.length
                    (one_lt_accepted_seq bs line hconn))
              · rw [tcpRecvAgain_packet fuel hdeliver hinput]
                exact .of_step (.acked hdeliver htaken
                  (fun hfresh => hdata hfresh.left))
          · rcases tcpInput_refused (P := P) line hfit hpass with
              ⟨rc, _, hinput⟩
            rw [tcpRecvAgain_packet fuel hdeliver hinput]
            exact .of_step (.refused hdeliver hpass)

theorem tcpRecvTimeout_runs (L : Link P σ) (fuel : Nat) {w : World σ}
    (len : UInt16) (timeout : Int16) (hconn : 1 < w.tcp.seq) :
    Runs L w (tcpRecvTimeout L fuel w len timeout).2 := by
  cases fuel with
  | zero => exact .refl L w
  | succ fuel =>
      rw [tcpRecvTimeout]
      split_ifs
      · have hopen := tcpSend_ack_runs L fuel (clampLen w.tcp len) hconn
        rcases hsend : tcpSend L fuel w 0 none (clampLen w.tcp len) with
          ⟨_ | rc, w1⟩
        · rw [hsend] at hopen
          exact hopen
        · rw [hsend] at hopen
          exact hopen.trans
            (tcpRecvAgain_runs L timeout (hopen.connected hconn))
      · exact tcpRecvAgain_runs L timeout hconn

theorem tcpRecv_runs (L : Link P σ) (fuel : Nat) {w : World σ} (len : UInt16)
    (hconn : 1 < w.tcp.seq) : Runs L w (tcpRecv L fuel w len).2 := by
  cases fuel with
  | zero => exact .refl L w
  | succ fuel =>
      rw [tcpRecv]
      exact tcpRecvTimeout_runs L fuel len P.rs232Tps hconn

theorem tcpSendAgain_runs (L : Link P σ) (len : Nat)
    (data : Option (Buffer len)) (window : UInt16) {fuel : Nat} :
    forall {retries : Nat} {w : World σ}, 1 < w.tcp.seq ->
      Runs L w (tcpSendAgain L fuel w len data window retries).2 := by
  induction fuel with
  | zero =>
      intro retries w _
      exact .refl L w
  | succ fuel ih =>
      intro retries w hconn
      have hsent : Runs L w (w.transmit len data window) :=
        .of_step (.sent w { len := len, data := data, window := window })
      rw [tcpSendAgain]
      by_cases hdone : 1 < (w.transmit len data window).tcp.seq ∧ len = 0
      · rw [if_pos hdone]
        exact hsent
      · rw [if_neg hdone]
        have hwait := hsent.trans
          (tcpRecv_runs L fuel (w := w.transmit len data window) 0 hconn)
        rcases hrecv : tcpRecv L fuel (w.transmit len data window) 0 with
          ⟨_ | rc, w1⟩
        · rw [hrecv] at hwait
          exact hwait
        · rw [hrecv] at hwait
          simp only
          split_ifs
          · exact hwait.trans (ih (hwait.connected hconn))
          · exact hwait
          · exact hwait
          · exact hwait

theorem Call.runs (L : Link P σ) (fuel : Nat) {w : World σ} (call : Call)
    (hconn : 1 < w.tcp.seq) : Runs L w (call.run L fuel w).2 := by
  cases call with
  | fill bytes => exact .of_step (.filled w bytes)
  | send r =>
      cases fuel with
      | zero => exact .refl L w
      | succ fuel =>
          rw [Call.run, tcpSend]
          exact tcpSendAgain_runs L r.len r.data r.window hconn
  | recv len timeout => exact tcpRecvTimeout_runs L fuel len timeout hconn

/-- Whatever is received while `tcp_send` waits, the connection stays
established. -/
theorem tcpSend_established {L : Link P σ} {fuel len : Nat}
    {data : Option (Buffer len)} {window : UInt16} {w w' : World σ} {rc : Int}
    (hconn : 1 < w.tcp.seq)
    (h : tcpSend L fuel w len data window = (some rc, w')) :
    1 < w'.tcp.seq := by
  have hruns := Call.runs L fuel
    (.send { len := len, data := data, window := window }) hconn
  rw [Call.run, h] at hruns
  exact hruns.connected hconn

/-- Whatever calls a program makes, they take steps of the stack. -/
theorem runCalls_runs (L : Link P σ) (fuel : Nat) {calls : List Call} :
    forall {w : World σ}, 1 < w.tcp.seq ->
      Runs L w (runCalls L fuel calls w) := by
  induction calls with
  | nil =>
      intro w _
      exact .refl L w
  | cons call more ih =>
      intro w hconn
      have hcall := call.runs L fuel hconn
      rw [runCalls]
      rcases hrun : call.run L fuel w with ⟨_ | rc, w1⟩
      · rw [hrun] at hcall
        exact hcall
      · rw [hrun] at hcall
        exact hcall.trans (ih (hcall.connected hconn))

end Tcp
end Z80Tcpip
