import Mathlib.Data.List.Infix
import Z80Tcpip.Tcp.Runs
import Z80Tcpip.Tcp.ScriptRuns

/-!
# The client as a machine

What a program that calls the stack does on an established connection, as a
machine that knows which call of `tcp_send` is waiting for its acknowledgement.
While a call waits nothing else is sent but bare acknowledgements and the same
payload again, and that only as long as no packet has ended the wait.
-/

namespace Z80Tcpip
namespace Tcp

open Foundation

variable {P : Platform} {σ : Type}

/-!
## The machine
-/

/-- A call of `tcp_send` with payload that has not returned: its arguments,
`oseq`, and whether a packet has come that ends the wait. -/
structure Sending where
  request : Request
  oseq : UInt32
  answered : Bool

structure Client (σ : Type) where
  world : World σ
  sending : Option Sending

def Client.idle (w : World σ) : Client σ where
  world := w
  sending := none

inductive Move where
  | heard (e : Event)
  | acks
  | begins (r : Request)
  | repeats
  | ends

instance (tcp : TcpContext) (bs : List UInt8) : Decidable (TakenIn tcp bs) :=
  inferInstanceAs (Decidable (_ ∧ _))

/-- `tcp_recv` does not return a negative value for the packet. -/
def EndsWait (tcp : TcpContext) : Event -> Bool
  | .packet bs =>
      decide (TakenIn tcp bs ∧ 20 + packetHeaderSize bs ≤ bs.length)
  | _ => false

def Sending.answer (s : Sending) (b : Bool) : Sending :=
  { s with answered := s.answered || b }

inductive Client.Step (L : Link P σ) : Client σ -> Move -> Client σ -> Prop
  | heard {w w' : World σ} {e : Event} (waiting : Option Sending)
      (hstep : Tcp.Step L w e w') (he : e ≠ .sent) :
      Client.Step L ⟨w, waiting⟩ (.heard e)
        ⟨w', waiting.map (·.answer (EndsWait w.tcp e))⟩
  | acks (w : World σ) (waiting : Option Sending) (r : Request)
      (hlen : r.len = 0) :
      Client.Step L ⟨w, waiting⟩ .acks
        ⟨w.transmit r.len r.data r.window, waiting⟩
  | begins (w : World σ) (r : Request) (hlen : 0 < r.len) :
      Client.Step L ⟨w, none⟩ (.begins r)
        ⟨w.transmit r.len r.data r.window, some ⟨r, w.tcp.seq, false⟩⟩
  | repeats (w : World σ) (s : Sending) (hwait : s.answered = false) :
      Client.Step L ⟨w, some s⟩ .repeats
        ⟨w.transmit s.request.len s.request.data s.request.window, some s⟩
  | ends (w : World σ) (s : Sending) :
      Client.Step L ⟨w, some s⟩ .ends ⟨w, none⟩

/-- What the program has asked to be sent. -/
def requests (run : List (Move × Client σ)) : List Request :=
  run.filterMap (fun x =>
    match x.1 with
    | .begins r => some r
    | _ => none)

theorem requests_append (run more : List (Move × Client σ)) :
    requests (run ++ more) = requests run ++ requests more := by
  rw [requests, List.filterMap_append]
  rfl

/-!
## Listening
-/

/-- From `c` to `c'` without a new payload. -/
def Goes (L : Link P σ) (c c' : Client σ) : Prop :=
  exists run : List (Move × Client σ),
    Trace (Client.Step L) c run c' ∧ requests run = []

theorem Goes.refl (L : Link P σ) (c : Client σ) : Goes L c c :=
  ⟨[], .nil c, rfl⟩

theorem Goes.trans {L : Link P σ} {c c' c'' : Client σ} (h : Goes L c c')
    (h' : Goes L c' c'') : Goes L c c'' := by
  rcases h with ⟨run, hrun, hnone⟩
  rcases h' with ⟨more, hmore, hnone'⟩
  refine ⟨run ++ more, hrun.append hmore, ?_⟩
  rw [requests_append, hnone, hnone']
  rfl

theorem Goes.of_acks (L : Link P σ) (w : World σ) (waiting : Option Sending)
    {r : Request} (hlen : r.len = 0) :
    Goes L ⟨w, waiting⟩ ⟨w.transmit r.len r.data r.window, waiting⟩ :=
  ⟨_, .single (.acks w waiting r hlen), rfl⟩

theorem Goes.of_heard {L : Link P σ} {w w' : World σ} {e : Event}
    (waiting : Option Sending) (hstep : Tcp.Step L w e w') (he : e ≠ .sent) :
    Goes L ⟨w, waiting⟩
      ⟨w', waiting.map (·.answer (EndsWait w.tcp e))⟩ :=
  ⟨_, .single (.heard waiting hstep he), rfl⟩

theorem Sending.answer_false (s : Sending) : s.answer false = s := by
  rw [Sending.answer, Bool.or_false]

theorem Sending.answer_answer (s : Sending) (b b' : Bool) :
    (s.answer b).answer b' = s.answer (b || b') := by
  rw [Sending.answer, Sending.answer, Sending.answer, Bool.or_assoc]

theorem map_answer_false (waiting : Option Sending) :
    waiting.map (·.answer false) = waiting := by
  cases waiting with
  | none => rfl
  | some s => rw [Option.map_some, s.answer_false]

theorem map_answer_answer (waiting : Option Sending) (b b' : Bool) :
    (waiting.map (·.answer b)).map (·.answer b') =
      waiting.map (·.answer (b || b')) := by
  cases waiting with
  | none => rfl
  | some s =>
      rw [Option.map_some, Option.map_some, Option.map_some, s.answer_answer]

/-- The client listens from `w` to `w'` and then knows whether the wait is
over. -/
def Listens (L : Link P σ) (w w' : World σ) (b : Bool) : Prop :=
  forall waiting : Option Sending,
    Goes L ⟨w, waiting⟩ ⟨w', waiting.map (·.answer b)⟩

theorem Listens.refl (L : Link P σ) (w : World σ) : Listens L w w false := by
  intro waiting
  rw [map_answer_false]
  exact .refl L _

theorem Listens.of_step {L : Link P σ} {w w' : World σ} {e : Event}
    (hstep : Tcp.Step L w e w') (he : e ≠ .sent) :
    Listens L w w' (EndsWait w.tcp e) :=
  fun waiting => .of_heard waiting hstep he

theorem Listens.trans {L : Link P σ} {w w' w'' : World σ} {b b' : Bool}
    (h : Listens L w w' b) (h' : Listens L w' w'' b') :
    Listens L w w'' (b || b') := by
  intro waiting
  have hmore := h' (waiting.map (·.answer b))
  rw [map_answer_answer] at hmore
  exact (h waiting).trans hmore

theorem Listens.behind {L : Link P σ} {w w' w'' : World σ} {b : Bool}
    (h : Listens L w w' false) (h' : Listens L w' w'' b) :
    Listens L w w'' b := by
  have hboth := h.trans h'
  rwa [Bool.false_or] at hboth

theorem Listens.acks (L : Link P σ) (w : World σ) {r : Request}
    (hlen : r.len = 0) :
    Listens L w (w.transmit r.len r.data r.window) false := by
  intro waiting
  rw [map_answer_false]
  exact .of_acks L w waiting hlen

theorem tcpSend_ack_listens (L : Link P σ) (fuel : Nat) {w : World σ}
    (window : UInt16) (hconn : 1 < w.tcp.seq) :
    Listens L w (tcpSend L fuel w 0 none window).2 false := by
  match fuel with
  | 0 => exact .refl L w
  | 1 => exact .refl L w
  | fuel + 2 =>
      rw [tcpSend_ack_returns L fuel window hconn]
      exact .acks L w (r := { len := 0, data := none, window := window }) rfl

theorem endsWait_of_not_taken {tcp : TcpContext} {bs : List UInt8}
    (h : ¬ TakenIn tcp bs) : EndsWait tcp (.packet bs) = false :=
  decide_eq_false (fun hboth => h hboth.left)

theorem endsWait_of_taken {tcp : TcpContext} {bs : List UInt8}
    (h : TakenIn tcp bs) (hlong : 20 + packetHeaderSize bs ≤ bs.length) :
    EndsWait tcp (.packet bs) = true :=
  decide_eq_true ⟨h, hlong⟩

/-- Where the wait goes on, nothing that ends it has been heard. -/
def StillWaits (P : Platform) (rc : Option Int) (b : Bool) : Prop :=
  rc = some (-(P.eagain : Int)) -> b = false

theorem stillWaits_of_ne {rc : Int} {b : Bool}
    (h : rc ≠ -(P.eagain : Int)) : StillWaits P (some rc) b :=
  fun hrc => absurd (Option.some.inj hrc) h

theorem tcpRecvAction_ackData_listens (L : Link P σ) (fuel : Nat)
    (timeout : Int16) (len : Nat) {w : World σ} (hconn : 1 < w.tcp.seq) :
    Listens L w (tcpRecvAction L fuel timeout len w .ackData).2 false := by
  have hack := tcpSend_ack_listens L fuel 0 hconn
  rw [tcpRecvAction]
  rcases hsend : tcpSend L fuel w 0 none 0 with ⟨_ | rc, w'⟩
  · rw [hsend] at hack
    exact hack
  · rw [hsend] at hack
    exact hack

/-- What `tcp_recv_timeout` returns for data it accepts is no error. -/
theorem tcpRecvAction_ackData_rc (L : Link P σ) (fuel : Nat)
    (timeout : Int16) {w : World σ} {bs : List UInt8} (line : σ)
    (hfit : bs.length ≤ w.tcp.ip.pktSize.toNat) (hlong : 40 ≤ bs.length)
    (hdata : CarriesData bs) (hconn : 1 < w.tcp.seq) (b : Bool) :
    StillWaits P
      (tcpRecvAction L fuel timeout bs.length (w.accepted bs line)
        .ackData).1 b := by
  have hconn' := one_lt_accepted_seq bs line hconn
  rw [tcpRecvAction]
  rcases hsend : tcpSend L fuel (w.accepted bs line) 0 none 0 with
    ⟨_ | rc, w'⟩
  · intro hrc
    cases hrc
  · rw [tcpSend_ack hconn' hsend]
    refine stillWaits_of_ne ?_
    rw [World.transmit_ths, accepted_ths line hfit hlong]
    unfold CarriesData at hdata
    omega

theorem tcpRecvAgain_listens (L : Link P σ) (timeout : Int16) {fuel : Nat} :
    forall {w : World σ}, 1 < w.tcp.seq ->
      exists b : Bool, Listens L w (tcpRecvAgain L fuel w timeout).2 b ∧
        StillWaits P (tcpRecvAgain L fuel w timeout).1 b := by
  induction fuel with
  | zero =>
      intro w _
      exact ⟨false, .refl L w, fun _ => rfl⟩
  | succ fuel ih =>
      intro w hconn
      rcases hrecv : L.recvPacket w.tcp.ip.pkt timeout w.line with
        _ | ⟨len, pkt, line⟩
      · rw [tcpRecvAgain, hrecv]
        exact ⟨false, .refl L w, fun _ => rfl⟩
      · rcases L.recvPacket_spec hrecv with
          ⟨hlen, hpkt⟩ | ⟨bs, hfit, hlen, hpkt⟩
        · subst hlen hpkt
          rw [tcpRecvAgain_idle fuel hrecv]
          exact ⟨false, .of_step (.timeout hrecv) (fun he => (by cases he)),
            fun _ => rfl⟩
        · subst hlen hpkt
          have hdeliver : Delivers L timeout w bs line := ⟨hfit, hrecv⟩
          have hmove : (Event.packet bs) ≠ .sent := fun he => (by cases he)
          by_cases hpass : Passes w.tcp bs
          · by_cases hprobe : IsProbe w.tcp bs
            · have hinput :=
                tcpInput_probe (P := P) line hfit hconn hpass hprobe
              rw [tcpRecvAgain_packet fuel hdeliver hinput]
              have hnoted : Listens L w (w.noted bs line) false := by
                rw [← endsWait_of_not_taken
                  (fun h : TakenIn w.tcp bs => h.right hprobe)]
                exact .of_step (.probe hdeliver hpass hprobe) hmove
              rcases ih (w := w.noted bs line) hconn with ⟨b, hmore, hstill⟩
              exact ⟨b, hnoted.behind hmore, hstill⟩
            · have hinput :=
                tcpInput_not_probe (P := P) line hfit hconn hpass hprobe
              have htaken : TakenIn w.tcp bs := ⟨hpass, hprobe⟩
              split_ifs at hinput with hdata hseq
              · rw [tcpRecvAgain_packet fuel hdeliver hinput]
                refine ⟨_, .of_step (.acked hdeliver htaken
                  (fun hfresh => hfresh.right hseq)) hmove, ?_⟩
                have heagain := P.eagain_pos
                exact stillWaits_of_ne (by omega)
              · rw [tcpRecvAgain_packet fuel hdeliver hinput]
                refine ⟨_, Listens.trans
                  (.of_step (.accepted hdeliver htaken ⟨hdata, hseq⟩) hmove)
                  (tcpRecvAction_ackData_listens L fuel timeout bs.length
                    (one_lt_accepted_seq bs line hconn)), ?_⟩
                exact tcpRecvAction_ackData_rc L fuel timeout line hfit
                  hpass.long hdata hconn _
              · rw [tcpRecvAgain_packet fuel hdeliver hinput]
                refine ⟨_, .of_step (.acked hdeliver htaken
                  (fun hfresh => hdata hfresh.left)) hmove, ?_⟩
                have heagain := P.eagain_pos
                intro hrc
                have hneg := Option.some.inj hrc
                refine decide_eq_false (fun hboth => ?_)
                have hlong := hboth.right
                omega
          · rcases tcpInput_refused (P := P) line hfit hpass with
              ⟨rc, _, hinput⟩
            rw [tcpRecvAgain_packet fuel hdeliver hinput]
            refine ⟨_, .of_step (.refused hdeliver hpass) hmove, ?_⟩
            exact fun _ => endsWait_of_not_taken (fun h => hpass h.left)

theorem tcpRecvTimeout_listens (L : Link P σ) (fuel : Nat) {w : World σ}
    (len : UInt16) (timeout : Int16) (hconn : 1 < w.tcp.seq) :
    exists b : Bool,
      Listens L w (tcpRecvTimeout L fuel w len timeout).2 b ∧
        StillWaits P (tcpRecvTimeout L fuel w len timeout).1 b := by
  cases fuel with
  | zero => exact ⟨false, .refl L w, fun _ => rfl⟩
  | succ fuel =>
      rw [tcpRecvTimeout]
      split_ifs
      · have hopen := tcpSend_ack_listens L fuel (clampLen w.tcp len) hconn
        rcases hsend : tcpSend L fuel w 0 none (clampLen w.tcp len) with
          ⟨_ | rc, w1⟩
        · rw [hsend] at hopen
          exact ⟨false, hopen, fun _ => rfl⟩
        · rw [hsend] at hopen
          have hworld := tcpSend_ack hconn hsend
          have hconn1 : 1 < w1.tcp.seq := by
            rw [hworld]
            exact hconn
          have hagain : exists b : Bool,
              Listens L w1 (tcpRecvAgain L fuel w1 timeout).2 b ∧
                StillWaits P (tcpRecvAgain L fuel w1 timeout).1 b :=
            tcpRecvAgain_listens L timeout hconn1
          rcases hagain with ⟨b, hmore, hstill⟩
          exact ⟨b, hopen.behind hmore, hstill⟩
      · exact tcpRecvAgain_listens L timeout hconn

theorem tcpRecv_listens (L : Link P σ) (fuel : Nat) {w : World σ}
    (len : UInt16) (hconn : 1 < w.tcp.seq) :
    exists b : Bool, Listens L w (tcpRecv L fuel w len).2 b ∧
      StillWaits P (tcpRecv L fuel w len).1 b := by
  cases fuel with
  | zero => exact ⟨false, .refl L w, fun _ => rfl⟩
  | succ fuel =>
      rw [tcpRecv]
      exact tcpRecvTimeout_listens L fuel len P.rs232Tps hconn

/-!
## Calls
-/

/-- A call of the stack in the world `w`: the moves it makes, up to where it
returns or its fuel ends.  It asks for `rs` to be sent. -/
def Serves (L : Link P σ) (c : Client σ) (rs : List Request)
    (result : Option Int × World σ) : Prop :=
  exists (run : List (Move × Client σ)) (c' : Client σ),
    Trace (Client.Step L) c run c' ∧ c'.world = result.2 ∧
      requests run <+: rs ∧
        (result.1 ≠ none -> c'.sending = none ∧ requests run = rs)

theorem Serves.behind {L : Link P σ} {c c' : Client σ} {rs : List Request}
    {result : Option Int × World σ} (h : Goes L c c')
    (h' : Serves L c' rs result) : Serves L c rs result := by
  rcases h with ⟨run, hrun, hnone⟩
  rcases h' with ⟨more, c'', hmore, hworld, hpart, hdone⟩
  have hboth : requests (run ++ more) = requests more := by
    rw [requests_append, hnone]
    rfl
  refine ⟨run ++ more, c'', hrun.append hmore, hworld, ?_, ?_⟩
  · rw [hboth]
    exact hpart
  · rw [hboth]
    exact hdone

theorem Serves.stopped {L : Link P σ} {c : Client σ} {rs : List Request}
    {w : World σ} (h : c.world = w) : Serves L c rs (none, w) :=
  ⟨[], c, .nil c, h, List.nil_prefix, fun hne => absurd rfl hne⟩

theorem Serves.of_goes {L : Link P σ} {w w' : World σ} {rc : Option Int}
    (h : Goes L (Client.idle w) (Client.idle w')) :
    Serves L (Client.idle w) [] (rc, w') := by
  rcases h with ⟨run, hrun, hnone⟩
  refine ⟨run, Client.idle w', hrun, rfl, ?_, fun _ => ⟨rfl, hnone⟩⟩
  rw [hnone]

theorem Listens.serves {L : Link P σ} {w : World σ}
    {result : Option Int × World σ} {b : Bool}
    (h : Listens L w result.2 b) : Serves L (Client.idle w) [] result :=
  .of_goes (h none)

/-- The end of a call of `tcp_send`. -/
theorem Serves.ended {L : Link P σ} (w : World σ) (s : Sending)
    (rc : Int) : Serves L ⟨w, some s⟩ [] (some rc, w) :=
  ⟨_, Client.idle w, .single (.ends w s), rfl, List.nil_prefix,
    fun _ => ⟨rfl, rfl⟩⟩

/-- `tcp_send` behind a transmission that it waits for.  The induction is on the
fuel; where `tcp_recv` asks for a repetition, the wait goes on unanswered. -/
theorem tcpSendAgain_serves (L : Link P σ) {s : Sending}
    (hwait : s.answered = false) (hlen : 0 < s.request.len) {fuel : Nat} :
    forall {retries : Nat} {w : World σ}, 1 < w.tcp.seq ->
      Serves L
        ⟨w.transmit s.request.len s.request.data s.request.window, some s⟩ []
        (tcpSendAgain L (fuel + 1) w s.request.len s.request.data
          s.request.window retries) := by
  induction fuel with
  | zero =>
      intro retries w hconn
      have hbusy : ¬ (1 < (w.transmit s.request.len s.request.data
          s.request.window).tcp.seq ∧ s.request.len = 0) := by
        omega
      rw [tcpSendAgain]
      simp only [if_neg hbusy]
      exact .stopped rfl
  | succ fuel ih =>
      intro retries w hconn
      have hconn1 : 1 < (w.transmit s.request.len s.request.data
          s.request.window).tcp.seq := hconn
      have hbusy : ¬ (1 < (w.transmit s.request.len s.request.data
          s.request.window).tcp.seq ∧ s.request.len = 0) := by
        omega
      rcases tcpRecv_listens L (fuel + 1) 0 hconn1 with ⟨b, hlisten, hstill⟩
      have hestablished := (tcpRecv_runs L (fuel + 1) 0 hconn1).connected hconn1
      have hgoes := hlisten (some s)
      rw [tcpSendAgain]
      simp only [if_neg hbusy]
      rcases hrecv : tcpRecv L (fuel + 1) (w.transmit s.request.len
          s.request.data s.request.window) 0 with ⟨_ | rc, w1⟩
      · rw [hrecv] at hgoes
        exact Serves.behind hgoes (.stopped rfl)
      · rw [hrecv] at hgoes hstill hestablished
        simp only
        split_ifs with hagain hmore
        case pos =>
          have hb : b = false := hstill (congrArg some hagain)
          rw [hb, map_answer_false] at hgoes
          have hrepeat : Goes L ⟨w1, some s⟩
              ⟨w1.transmit s.request.len s.request.data s.request.window,
                some s⟩ :=
            ⟨_, .single (.repeats w1 s hwait), rfl⟩
          exact Serves.behind (hgoes.trans hrepeat) (ih hestablished)
        case neg => exact Serves.behind hgoes (.ended w1 _ (-1))
        case pos => exact Serves.behind hgoes (.ended w1 _ rc)
        case neg => exact Serves.behind hgoes (.ended w1 _ 0)

/-- What a call asks to be sent. -/
def Call.requests : Call -> List Request
  | .send r => if 0 < r.len then [r] else []
  | _ => []

theorem tcpSend_serves (L : Link P σ) (fuel : Nat) {w : World σ} (r : Request)
    (hlen : 0 < r.len) (hconn : 1 < w.tcp.seq) :
    Serves L (Client.idle w) [r]
      (tcpSend L fuel w r.len r.data r.window) := by
  match fuel with
  | 0 => exact .stopped rfl
  | 1 => exact .stopped rfl
  | fuel + 2 =>
      have hbegin : Client.Step L (Client.idle w) (.begins r)
          ⟨w.transmit r.len r.data r.window,
            some ⟨r, w.tcp.seq, false⟩⟩ :=
        .begins w r hlen
      have hserve : Serves L
          ⟨w.transmit r.len r.data r.window, some ⟨r, w.tcp.seq, false⟩⟩ []
          (tcpSendAgain L (fuel + 1) w r.len r.data r.window 0) :=
        tcpSendAgain_serves L (s := ⟨r, w.tcp.seq, false⟩) rfl hlen hconn
      rcases hserve with ⟨run, c', hrun, hworld, hpart, hdone⟩
      have hnone : requests run = [] := List.prefix_nil.mp hpart
      refine ⟨_, c', .cons hbegin hrun, hworld, ?_, ?_⟩
      · show r :: requests run <+: [r]
        rw [hnone]
      · intro hne
        refine ⟨(hdone hne).left, ?_⟩
        show r :: requests run = [r]
        rw [hnone]

theorem Call.serves (L : Link P σ) (fuel : Nat) {w : World σ} (call : Call)
    (hconn : 1 < w.tcp.seq) :
    Serves L (Client.idle w) call.requests (call.run L fuel w) := by
  cases call with
  | fill bytes =>
      exact Listens.serves
        (.of_step (.filled w bytes) (fun he => (by cases he)))
  | send r =>
      rw [Call.requests]
      split_ifs with hlen
      · exact tcpSend_serves L fuel r hlen hconn
      · match fuel with
        | 0 => exact .stopped rfl
        | 1 => exact .stopped rfl
        | fuel + 2 =>
            have hzero : r.len = 0 := Nat.eq_zero_of_not_pos hlen
            have hdone : 1 < (w.transmit r.len r.data r.window).tcp.seq ∧
                r.len = 0 :=
              ⟨hconn, hzero⟩
            rw [Call.run, tcpSend, tcpSendAgain]
            simp only [if_pos hdone]
            exact .of_goes (.of_acks L w none hzero)
  | recv len timeout =>
      rcases tcpRecvTimeout_listens L fuel len timeout hconn with
        ⟨b, hlisten, _⟩
      exact hlisten.serves

/-- No call runs out of fuel. -/
def AllReturn (L : Link P σ) (fuel : Nat) : List Call -> World σ -> Prop
  | [], _ => True
  | call :: more, w =>
      (call.run L fuel w).1 ≠ none ∧
        AllReturn L fuel more (call.run L fuel w).2

/-- Whatever calls a program makes, the machine makes them: payload by payload
as the program asks, each waiting for the one before to return. -/
theorem runCalls_client_run (L : Link P σ) (fuel : Nat) {calls : List Call} :
    forall {w : World σ}, 1 < w.tcp.seq ->
      exists (run : List (Move × Client σ)) (c' : Client σ),
        Trace (Client.Step L) (Client.idle w) run c' ∧
          c'.world = runCalls L fuel calls w ∧
            requests run <+: calls.flatMap Call.requests ∧
              (AllReturn L fuel calls w ->
                c'.sending = none ∧
                  requests run = calls.flatMap Call.requests) := by
  induction calls with
  | nil =>
      intro w _
      exact ⟨[], Client.idle w, .nil _, rfl, List.prefix_rfl,
        fun _ => ⟨rfl, rfl⟩⟩
  | cons call more ih =>
      intro w hconn
      have hestablished := (call.runs L fuel hconn).connected hconn
      rcases call.serves L fuel hconn with
        ⟨run, c', hrun, hworld, hpart, hdone⟩
      rw [runCalls, AllReturn, List.flatMap_cons]
      rcases hcall : call.run L fuel w with ⟨_ | rc, w1⟩
      · rw [hcall] at hworld
        refine ⟨run, c', hrun, hworld, ?_, fun hall => absurd rfl hall.left⟩
        exact hpart.trans (List.prefix_append _ _)
      · rw [hcall] at hworld hdone hestablished
        rcases hdone (fun hne => (by cases hne)) with ⟨hidle, hasked⟩
        have hc' : c' = Client.idle w1 := by
          rcases c' with ⟨world, sending⟩
          cases hworld
          cases hidle
          rfl
        subst hc'
        rcases ih hestablished with
          ⟨later, c'', hlater, hworld', hpart', hdone'⟩
        refine ⟨run ++ later, c'', hrun.append hlater, hworld', ?_, ?_⟩
        · rw [requests_append, hasked]
          exact (List.prefix_append_right_inj _).mpr hpart'
        · intro hall
          rcases hdone' hall.right with ⟨hidle', hasked'⟩
          refine ⟨hidle', ?_⟩
          rw [requests_append, hasked, hasked']

/-- The acknowledgement comes behind a timeout. -/
theorem runCalls_client_run_late_ack :
    exists (run : List (Move × Client Script)) (c' : Client Script),
      Trace (Client.Step (scriptLink Platform.spectrum))
          (Client.idle
            { tcp := TcpContext.loopback 2 8
              line := [none, some (peerSegment 8 3 [])]
              sent := [] }) run c' ∧
        c'.world = runCalls (scriptLink Platform.spectrum) 12
          [.send { len := 1, data := some ⟨[0x41], rfl⟩, window := 0 }]
          { tcp := TcpContext.loopback 2 8
            line := [none, some (peerSegment 8 3 [])]
            sent := [] } ∧
        requests run <+:
          [{ len := 1, data := some ⟨[0x41], rfl⟩, window := 0 }] ∧
        (AllReturn (scriptLink Platform.spectrum) 12
            [.send { len := 1, data := some ⟨[0x41], rfl⟩, window := 0 }]
            { tcp := TcpContext.loopback 2 8
              line := [none, some (peerSegment 8 3 [])]
              sent := [] } ->
          c'.sending = none ∧ requests run =
            [{ len := 1, data := some ⟨[0x41], rfl⟩, window := 0 }]) :=
  runCalls_client_run (scriptLink Platform.spectrum) 12
    (w :=
      { tcp := TcpContext.loopback 2 8
        line := [none, some (peerSegment 8 3 [])]
        sent := [] })
    (by decide)

end Tcp
end Z80Tcpip
