import Z80Tcpip.Ip.Datagram
import Z80Tcpip.Tcp.Link

/-!
# ping

`icmp_echo_request` sends an echo request, waits for a frame and sends the
request again when none comes.  The first frame that does come decides, whoever
it is from.
-/

namespace Z80Tcpip
namespace Icmp

open Foundation
open Ip
open Tcp (Link Script scriptLink scriptRecv)

def IP_ICMP : UInt8 := 1
def ICMP_BUF_SIZE : Nat := 20 + 8 + 20 + 64
def ICMP_TYPE_ECHO_REPLY : UInt8 := 0
def ICMP_TYPE_ECHO : UInt8 := 8

structure World (σ : Type) where
  ip : IpContext
  line : σ
  sent : List (List UInt8)

variable {P : Platform} {σ : Type}

/-- The stores of `icmp_echo_request` in front of `ip_build_and_send`. -/
def echoStores (ip : IpContext) : Buffer ip.pktSize.toNat :=
  let pkt := ip.pkt.write 20 (List.replicate 64 0)
  let pkt := pkt.put 20 ICMP_TYPE_ECHO
  let cs := csum (pkt.slice 20 64)
  pkt.write 22 (leBytes 2 cs.toNat)

def World.sendRequest (w : World σ) : World σ :=
  let result := ipBuildAndSend { w.ip with pkt := echoStores w.ip } (20 + 16)
    IP_ICMP
  { w with ip := result.1, sent := w.sent ++ [result.2] }

/-- The checks on a frame of `len` bytes at the front of the buffer. -/
def echoResult (ip : IpContext) (len : Int) : Int :=
  if len < 28 then -1
  else if ip.pkt.get 0 ≠ 0x45 then -1
  else if ip.pkt.get 9 ≠ IP_ICMP then -1
  else if ip.pkt.get 20 ≠ ICMP_TYPE_ECHO_REPLY then -1
  else 0

/-- From the label `again` on; no retries left is where `--retries` gives
zero. -/
def echoAgain (L : Link P σ) : Nat -> World σ -> Option (Int × World σ)
  | 0, w => some (-1, w)
  | retries + 1, w =>
      match L.recvPacket w.sendRequest.ip.pkt P.rs232Tps w.sendRequest.line with
      | none => none
      | some (len, pkt, line) =>
          let w' : World σ :=
            { w.sendRequest with
              ip := { w.sendRequest.ip with pkt := pkt }
              line := line }
          if len = -(P.eagain : Int) then echoAgain L retries w'
          else some (echoResult w'.ip len, w')

/-- icmp.c `icmp_echo_request`. -/
def icmpEchoRequest (L : Link P σ) (w : World σ) : Option (Int × World σ) :=
  echoAgain L 5 w

/-- An IPv4 frame without options that holds an ICMP echo reply. -/
def EchoReply (frame : List UInt8) : Prop :=
  28 ≤ frame.length ∧ frame.getD 0 0 = 0x45 ∧ frame.getD 9 0 = IP_ICMP ∧
    frame.getD 20 0 = ICMP_TYPE_ECHO_REPLY

instance (frame : List UInt8) : Decidable (EchoReply frame) :=
  inferInstanceAs (Decidable (_ ∧ _ ∧ _ ∧ _))

/-- The source address of the frame is the one asked for. -/
def FromHost (ip : IpContext) (frame : List UInt8) : Prop :=
  field frame 12 4 = leBytes 4 ip.daddr.toNat

instance (ip : IpContext) (frame : List UInt8) :
    Decidable (FromHost ip frame) :=
  inferInstanceAs (Decidable (_ = _))

/-!
## Requests
-/

@[simp] theorem sendRequest_pktSize (w : World σ) :
    w.sendRequest.ip.pktSize = w.ip.pktSize := rfl

@[simp] theorem sendRequest_line (w : World σ) :
    w.sendRequest.line = w.line := rfl

theorem sendRequest_sent (w : World σ) :
    w.sendRequest.sent.length = w.sent.length + 1 := by
  rw [World.sendRequest, List.length_append, List.length_singleton]

/-- What goes out: a header for the host, and the first 16 bytes of the
message. -/
theorem sendRequest_packet (w : World σ) (h : 20 ≤ w.ip.pktSize.toNat) :
    w.sendRequest.sent = w.sent ++
      [ipHeader { w.ip with pkt := echoStores w.ip } (20 + 16) IP_ICMP ++
        (echoStores w.ip).slice 20 16] := by
  have hpacket := ipBuildAndSend_packet
    { w.ip with pkt := echoStores w.ip } IP_ICMP h
    (show ((20 + 16 : UInt16)).toNat = 20 + 16 by decide)
  rw [World.sendRequest, hpacket]

/-!
## Frames
-/

/-- The checks on a stored frame look at its first bytes only. -/
theorem echoResult_stored (ip : IpContext) {frame : List UInt8}
    (h : ICMP_BUF_SIZE ≤ ip.pktSize.toNat) :
    echoResult
        { ip with
          pkt := ip.pkt.write 0 (frame.take ip.pktSize.toNat) }
        (frame.take ip.pktSize.toNat).length =
      if EchoReply frame then 0 else -1 := by
  have hroom : 112 ≤ ip.pktSize.toNat := h
  have htake : (frame.take ip.pktSize.toNat).length =
      min ip.pktSize.toNat frame.length := List.length_take
  rw [echoResult]
  by_cases hshort : frame.length < 28
  · have hno : ¬ EchoReply frame := by
      intro hreply
      have hlen := hreply.1
      omega
    rw [if_neg hno, if_pos (by rw [htake]; omega)]
  · have hget : forall i : Nat, i ≤ 20 ->
        (ip.pkt.write 0 (frame.take ip.pktSize.toNat)).get i =
          frame.getD i 0 := by
      intro i hi
      rw [Buffer.get_write_front ip.pkt (by rw [htake]; omega)
        (by rw [htake]; omega), getD_take frame (by omega)]
    have hlong : 28 ≤ frame.length := Nat.le_of_not_lt hshort
    rw [if_neg (by rw [htake]; omega)]
    simp only
    rw [hget 0 (by decide), hget 9 (by decide), hget 20 (by decide)]
    by_cases h0 : frame.getD 0 0 = 0x45
    · by_cases h9 : frame.getD 9 0 = IP_ICMP
      · by_cases h20 : frame.getD 20 0 = ICMP_TYPE_ECHO_REPLY
        · rw [if_neg (not_not_intro h0), if_neg (not_not_intro h9),
            if_neg (not_not_intro h20), if_pos ⟨hlong, h0, h9, h20⟩]
        · rw [if_neg (not_not_intro h0), if_neg (not_not_intro h9),
            if_pos h20, if_neg (fun hall => h20 hall.2.2.2)]
      · rw [if_neg (not_not_intro h0), if_pos h9,
          if_neg (fun hall => h9 hall.2.2.1)]
    · rw [if_pos h0, if_neg (fun hall => h0 hall.2.1)]

/-!
## Runs over a script
-/

/-- The world after a request and a timeout. -/
theorem echoAgain_timeout {w : World Script} {rest : Script} (retries : Nat)
    (hline : w.line = none :: rest ∨ w.line = [] ∧ rest = []) :
    exists w' : World Script,
      echoAgain (scriptLink P) (retries + 1) w =
        echoAgain (scriptLink P) retries w' ∧
      w'.line = rest ∧ w'.sent.length = w.sent.length + 1 ∧
      w'.ip.pktSize = w.ip.pktSize := by
  refine ⟨{ w.sendRequest with
    ip := { w.sendRequest.ip with pkt := w.sendRequest.ip.pkt }
    line := rest }, ?_, rfl, sendRequest_sent w, rfl⟩
  have hrecv : (scriptLink P).recvPacket w.sendRequest.ip.pkt P.rs232Tps
      w.sendRequest.line =
        some (-(P.eagain : Int), w.sendRequest.ip.pkt, rest) := by
    rw [sendRequest_line]
    cases hline with
    | inl hnone =>
        rw [hnone]
        rfl
    | inr hover =>
        rw [hover.1, hover.2]
        rfl
  rw [echoAgain, hrecv]
  exact if_pos rfl

/-- A request and a frame. -/
theorem echoAgain_received {w : World Script} {frame : List UInt8}
    {rest : Script} (retries : Nat) (h : ICMP_BUF_SIZE ≤ w.ip.pktSize.toNat)
    (hline : w.line = some frame :: rest) :
    exists w' : World Script,
      echoAgain (scriptLink P) (retries + 1) w =
        some (if EchoReply frame then 0 else -1, w') ∧
      w'.line = rest ∧ w'.sent.length = w.sent.length + 1 := by
  have heagain := P.eagain_pos
  have hrecv : (scriptLink P).recvPacket w.sendRequest.ip.pkt P.rs232Tps
      w.sendRequest.line = some
        (((frame.take w.ip.pktSize.toNat).length : Int),
          w.sendRequest.ip.pkt.write 0 (frame.take w.ip.pktSize.toNat),
          rest) := by
    rw [sendRequest_line, hline]
    rfl
  refine ⟨{ w.sendRequest with
    ip :=
      { w.sendRequest.ip with
        pkt := w.sendRequest.ip.pkt.write 0
          (frame.take w.ip.pktSize.toNat) }
    line := rest }, ?_, rfl, sendRequest_sent w⟩
  rw [echoAgain, hrecv, <- echoResult_stored w.sendRequest.ip h]
  exact if_neg (by omega)

theorem echoAgain_frame {frame : List UInt8} {rest : Script} (k : Nat) :
    forall {retries : Nat} {w : World Script}, k < retries ->
      ICMP_BUF_SIZE ≤ w.ip.pktSize.toNat ->
      w.line = List.replicate k none ++ some frame :: rest ->
        exists w' : World Script,
          echoAgain (scriptLink P) retries w =
            some (if EchoReply frame then 0 else -1, w') ∧
          w'.line = rest ∧ w'.sent.length = w.sent.length + (k + 1) := by
  induction k with
  | zero =>
      intro retries w hlt h hline
      cases retries with
      | zero => cases hlt
      | succ retries => exact echoAgain_received retries h hline
  | succ k ih =>
      intro retries w hlt h hline
      cases retries with
      | zero => cases hlt
      | succ retries =>
          rcases echoAgain_timeout (P := P) retries (Or.inl hline) with
            ⟨w1, hstep, hrest, hsent, hsize⟩
          rcases ih (Nat.lt_of_succ_lt_succ hlt) (by rw [hsize]; exact h) hrest
            with ⟨w', hrun, hend, hcount⟩
          refine ⟨w', hstep.trans hrun, hend, ?_⟩
          omega

theorem echoAgain_silent (retries : Nat) :
    forall {w : World Script},
      (forall ev, ev ∈ w.line.take retries -> ev = none) ->
        exists w' : World Script,
          echoAgain (scriptLink P) retries w = some (-1, w') ∧
          w'.sent.length = w.sent.length + retries := by
  induction retries with
  | zero =>
      intro w _
      exact ⟨w, rfl, rfl⟩
  | succ retries ih =>
      intro w hnone
      have hline : w.line = none :: w.line.tail ∨
          w.line = [] ∧ w.line.tail = [] := by
        cases hl : w.line with
        | nil => exact Or.inr ⟨rfl, rfl⟩
        | cons ev rest =>
            rw [hl] at hnone
            rw [hnone ev List.mem_cons_self]
            exact Or.inl rfl
      rcases echoAgain_timeout (P := P) retries hline with
        ⟨w1, hstep, hrest, hsent, _⟩
      have hmore : forall ev, ev ∈ w1.line.take retries -> ev = none := by
        intro ev hev
        apply hnone ev
        rw [hrest, <- List.drop_one, List.take_drop] at hev
        have hmem := List.mem_of_mem_drop hev
        rwa [Nat.add_comm] at hmem
      rcases ih hmore with ⟨w', hrun, hcount⟩
      refine ⟨w', hstep.trans hrun, ?_⟩
      omega

/-- Among the first `n` answers there is a first frame, or there is none. -/
theorem first_frame (n : Nat) :
    forall script : Script,
      (exists (k : Nat) (frame : List UInt8) (rest : Script),
        script = List.replicate k none ++ some frame :: rest ∧ k < n) ∨
      forall ev, ev ∈ script.take n -> ev = none := by
  induction n with
  | zero =>
      intro script
      exact Or.inr (fun ev hev => by cases hev)
  | succ n ih =>
      intro script
      cases script with
      | nil => exact Or.inr (fun ev hev => by cases hev)
      | cons ev script =>
          cases ev with
          | some frame =>
              exact Or.inl ⟨0, frame, script, rfl, Nat.succ_pos n⟩
          | none =>
              cases ih script with
              | inl hfound =>
                  rcases hfound with ⟨k, frame, rest, hscript, hlt⟩
                  refine Or.inl ⟨k + 1, frame, rest, ?_,
                    Nat.succ_lt_succ hlt⟩
                  rw [hscript, List.replicate_succ, List.cons_append]
              | inr hnone =>
                  refine Or.inr (fun ev hev => ?_)
                  rw [List.take_succ_cons] at hev
                  cases List.mem_cons.mp hev with
                  | inl heq => exact heq
                  | inr hmem => exact hnone ev hmem

/-!
## The theorem
-/

theorem echoReply_of_result {frame : List UInt8}
    (h : (if EchoReply frame then (0 : Int) else -1) = 0) :
    EchoReply frame := by
  by_contra hno
  rw [if_neg hno] at h
  exact absurd h (by decide)

/-- What was asked for: zero exactly when a reply from the host comes before
the fifth timeout, whatever else is received. -/
def ReportsHost (P : Platform) (ip : IpContext) (script : Script) : Prop :=
  exists (rc : Int) (w' : World Script),
    icmpEchoRequest (scriptLink P) { ip := ip, line := script, sent := [] } =
      some (rc, w') ∧
    (rc = 0 <->
      exists (before : Script) (frame : List UInt8) (rest : Script),
        script = before ++ some frame :: rest ∧ before.count none < 5 ∧
          EchoReply frame ∧ FromHost ip frame)

/-- icmp.c `icmp_echo_request`: the first frame before the fifth timeout ends
the wait, and the result is zero exactly when it is an echo reply. -/
theorem icmpEchoRequest_first_frame (P : Platform) (ip : IpContext)
    (script : Script) (h : ICMP_BUF_SIZE ≤ ip.pktSize.toNat) :
    exists (rc : Int) (w' : World Script),
      icmpEchoRequest (scriptLink P) { ip := ip, line := script, sent := [] } =
        some (rc, w') ∧
      (rc = 0 ∨ rc = -1) ∧ w'.sent.length ≤ 5 ∧
      (rc = 0 <->
        exists (k : Nat) (frame : List UInt8) (rest : Script),
          script = List.replicate k none ++ some frame :: rest ∧ k < 5 ∧
            EchoReply frame) ∧
      forall (k : Nat) (frame : List UInt8) (rest : Script),
        script = List.replicate k none ++ some frame :: rest -> k < 5 ->
          w'.line = rest ∧ w'.sent.length = k + 1 := by
  have hframe : forall (k : Nat) (frame : List UInt8) (rest : Script),
      script = List.replicate k none ++ some frame :: rest -> k < 5 ->
        exists w' : World Script,
          icmpEchoRequest (scriptLink P)
              { ip := ip, line := script, sent := [] } =
            some (if EchoReply frame then 0 else -1, w') ∧
          w'.line = rest ∧ w'.sent.length = 0 + (k + 1) := by
    intro k frame rest hscript hk
    exact echoAgain_frame k hk h hscript
  cases first_frame 5 script with
  | inl hfound =>
      rcases hfound with ⟨k, frame, rest, hscript, hk⟩
      rcases hframe k frame rest hscript hk with ⟨w', hrun, _, hsent⟩
      refine ⟨_, w', hrun, ?_, by omega, ⟨?_, ?_⟩, ?_⟩
      · split_ifs
        · exact Or.inl rfl
        · exact Or.inr rfl
      · intro hzero
        exact ⟨k, frame, rest, hscript, hk, echoReply_of_result hzero⟩
      · intro hreply
        rcases hreply with ⟨j, frame', rest', hscript', hj, hreply⟩
        rcases hframe j frame' rest' hscript' hj with ⟨w2, hrun2, _, _⟩
        rw [hrun, Option.some.injEq, Prod.mk.injEq, if_pos hreply] at hrun2
        exact hrun2.1
      · intro j frame' rest' hscript' hj
        rcases hframe j frame' rest' hscript' hj with
          ⟨w2, hrun2, hline, hcount⟩
        rw [hrun, Option.some.injEq, Prod.mk.injEq] at hrun2
        rw [hrun2.2]
        exact ⟨hline, by omega⟩
  | inr hnone =>
      rcases echoAgain_silent (P := P) 5
        (w := { ip := ip, line := script, sent := [] }) hnone with
        ⟨w', hrun, hsent⟩
      have hfar : forall (k : Nat) (frame : List UInt8) (rest : Script),
          script = List.replicate k none ++ some frame :: rest ->
            ¬ k < 5 := by
        intro k frame rest hscript hk
        have hmem : some frame ∈ script.take 5 := by
          rw [hscript, List.take_append, List.length_replicate]
          apply List.mem_append_right
          cases hfive : 5 - k with
          | zero => omega
          | succ j => exact List.mem_cons_self
        cases hnone _ hmem
      refine ⟨-1, w', hrun, Or.inr rfl, ?_, ⟨?_, ?_⟩, ?_⟩
      · rw [hsent]
        exact Nat.le_refl 5
      · intro hzero
        exact absurd hzero (by decide)
      · intro hreply
        rcases hreply with ⟨k, frame, rest, hscript, hk, _⟩
        exact absurd hk (hfar k frame rest hscript)
      · intro k frame rest hscript hk
        exact absurd hk (hfar k frame rest hscript)

/-- ping.c's context, for the host 192.0.2.9. -/
def pingContext : IpContext where
  saddr := 0x020200c0
  daddr := 0x090200c0
  pktSize := 112
  id := 0
  pkt := ⟨List.replicate 112 0, rfl⟩
  pktSize_int := by decide

/-- The frame of 28 bytes with this protocol and source address, and a message
of type 0. -/
def shortFrame (proto : UInt8) (saddr : List UInt8) : List UInt8 :=
  [0x45, 0, 0, 28, 0, 0, 0, 0, 64, proto, 0, 0] ++ saddr ++
    [192, 0, 2, 2, 0, 0, 0, 0, 0, 0, 0, 0]

/-- A reply that comes in during the third wait, and one that comes in behind a
TCP segment. -/
theorem icmpEchoRequest_first_frame_third_wait :
    (exists w' : World Script,
      icmpEchoRequest (scriptLink Platform.spectrum)
        { ip := pingContext
          line := [none, none, some (shortFrame IP_ICMP [192, 0, 2, 9]), none]
          sent := [] } = some (0, w') ∧
      w'.line = [none] ∧ w'.sent.length = 3) ∧
    exists w' : World Script,
      icmpEchoRequest (scriptLink Platform.spectrum)
        { ip := pingContext
          line := [some (shortFrame IP_TCP [192, 0, 2, 7]),
            some (shortFrame IP_ICMP [192, 0, 2, 9])]
          sent := [] } = some (-1, w') ∧
      w'.line = [some (shortFrame IP_ICMP [192, 0, 2, 9])] ∧
      w'.sent.length = 1 := by
  constructor
  · rcases icmpEchoRequest_first_frame Platform.spectrum pingContext
      [none, none, some (shortFrame IP_ICMP [192, 0, 2, 9]), none]
      (by decide) with ⟨rc, w', hrun, _, _, hzero, hframe⟩
    have hrc : rc = 0 := hzero.mpr
      ⟨2, shortFrame IP_ICMP [192, 0, 2, 9], [none], rfl, by decide,
        by decide⟩
    rw [hrc] at hrun
    exact ⟨w', hrun, hframe 2 _ [none] rfl (by decide)⟩
  · rcases icmpEchoRequest_first_frame Platform.spectrum pingContext
      [some (shortFrame IP_TCP [192, 0, 2, 7]),
        some (shortFrame IP_ICMP [192, 0, 2, 9])]
      (by decide) with ⟨rc, w', hrun, hresult, _, hzero, hframe⟩
    have hrc : rc = -1 := by
      cases hresult with
      | inr hfail => exact hfail
      | inl hok =>
          rcases hzero.mp hok with ⟨k, frame, rest, hscript, _, hreply⟩
          cases k with
          | zero =>
              cases hscript
              exact absurd hreply (by decide)
          | succ k => cases hscript
    rw [hrc] at hrun
    exact ⟨w', hrun, hframe 0 _ _ rfl (by decide)⟩

/-- A reply from 192.0.2.7 counts, and a TCP segment in front of the reply of
the host ends the wait. -/
theorem icmpEchoRequest_other_host :
    ¬ ReportsHost Platform.spectrum pingContext
        [some (shortFrame IP_ICMP [192, 0, 2, 7])] ∧
      ¬ ReportsHost Platform.spectrum pingContext
        [some (shortFrame IP_TCP [192, 0, 2, 7]),
          some (shortFrame IP_ICMP [192, 0, 2, 9])] := by
  have hruns :
      (icmpEchoRequest (scriptLink Platform.spectrum)
        { ip := pingContext
          line := [some (shortFrame IP_ICMP [192, 0, 2, 7])]
          sent := [] }).map Prod.fst = some 0 ∧
      (icmpEchoRequest (scriptLink Platform.spectrum)
        { ip := pingContext
          line := [some (shortFrame IP_TCP [192, 0, 2, 7]),
            some (shortFrame IP_ICMP [192, 0, 2, 9])]
          sent := [] }).map Prod.fst = some (-1) := by
    decide +kernel
  constructor
  · intro hreports
    rcases hreports with ⟨rc, w', hrun, hiff⟩
    rw [hrun, Option.map_some, Option.some.injEq] at hruns
    rcases hiff.mp hruns.1 with ⟨before, frame, rest, hscript, _, _, hfrom⟩
    have hmem : some frame ∈
        [some (shortFrame IP_ICMP [192, 0, 2, 7])] := by
      rw [hscript]
      exact List.mem_append_right before List.mem_cons_self
    rw [List.mem_singleton, Option.some.injEq] at hmem
    rw [hmem] at hfrom
    exact absurd hfrom (by decide)
  · intro hreports
    rcases hreports with ⟨rc, w', hrun, hiff⟩
    rw [hrun, Option.map_some, Option.some.injEq] at hruns
    have hzero : rc = 0 := hiff.mpr
      ⟨[some (shortFrame IP_TCP [192, 0, 2, 7])],
        shortFrame IP_ICMP [192, 0, 2, 9], [], rfl, by decide, by decide,
        by decide⟩
    have hfail : rc = -1 := hruns.2
    omega

end Icmp
end Z80Tcpip
