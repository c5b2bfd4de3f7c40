import Z80Tcpip.Ip.EchoRequest

/-!
# The requests of ping

Whatever comes in, `icmp_echo_request` sends at most five echo requests, which
differ in their identification only.  The checksum of a message is computed over
64 bytes of which 16 are sent; the others are zero, and so it holds.
-/

namespace Z80Tcpip
namespace Icmp

open Foundation
open Ip
open Tcp (Link)

variable {P : Platform} {σ : Type}

/-- What is sent behind the header. -/
def echoMessage : List UInt8 :=
  [ICMP_TYPE_ECHO, 0, 0xf7, 0xff] ++ List.replicate 12 0

/-- Request `n` of a run. -/
def request (ip : IpContext) (n : Nat) : List UInt8 :=
  ipHeader { ip with id := ip.id + UInt16.ofNat n } (20 + 16) IP_ICMP ++
    echoMessage

/-- A datagram for the host, with a header and a message that check. -/
structure ValidRequest (ip : IpContext) (packet : List UInt8) : Prop where
  length_eq : packet.length = 36
  version : field packet 0 1 = [0x45]
  total_length : readBE (field packet 2 2) = 36
  ttl : field packet 8 1 = [64]
  protocol : field packet 9 1 = [IP_ICMP]
  source : field packet 12 4 = leBytes 4 ip.saddr.toNat
  destination : field packet 16 4 = leBytes 4 ip.daddr.toNat
  ip_sum : internetSum (field packet 0 20) = 0xFFFF
  message_type : field packet 20 2 = [ICMP_TYPE_ECHO, 0]
  message_sum : internetSum (field packet 20 16) = 0xFFFF

/-!
## One request
-/

/-- The message in the buffer. -/
theorem echoStores_slice (ip : IpContext) (h : 84 ≤ ip.pktSize.toNat) :
    (echoStores ip).slice 20 16 = echoMessage := by
  let zeroed := ip.pkt.write 20 (List.replicate 64 0)
  have hzeroed : zeroed.slice 20 64 =
      [] ++ [0] ++ List.replicate 63 0 :=
    ip.pkt.slice_write_eq rfl (by rw [List.length_replicate]; omega)
  have htyped : (zeroed.put 20 ICMP_TYPE_ECHO).slice 20 64 =
      [] ++ [ICMP_TYPE_ECHO] ++ List.replicate 63 0 := by
    rw [zeroed.put_eq_write _ (by omega)]
    exact Buffer.slice_write_middle 20 hzeroed [ICMP_TYPE_ECHO] rfl rfl
      (by omega)
  have hsplit : (zeroed.put 20 ICMP_TYPE_ECHO).slice 20 64 =
      [ICMP_TYPE_ECHO, 0] ++ [0, 0] ++ List.replicate 60 0 :=
    htyped
  have hsum : leBytes 2 (csum ((zeroed.put 20 ICMP_TYPE_ECHO).slice 20
      64)).toNat = [0xf7, 0xff] := by
    rw [htyped]
    decide
  have hstored : (echoStores ip).slice 20 64 =
      [ICMP_TYPE_ECHO, 0] ++
        leBytes 2 (csum ((zeroed.put 20 ICMP_TYPE_ECHO).slice 20 64)).toNat ++
          List.replicate 60 0 :=
    Buffer.slice_write_middle 22 hsplit _ (leBytes_length _ _) rfl (by omega)
  have hfront : (echoStores ip).slice 20 16 =
      ((echoStores ip).slice 20 64).take 16 := by
    rw [Buffer.slice, Buffer.slice, List.take_take]
    rfl
  rw [hfront, hstored, hsum]
  rfl

/-- The packet field by field, with the checksum of the header left open. -/
theorem request_layout (ip : IpContext) (n : Nat) :
    exists cs : UInt16,
      request ip n =
        [0x45] ++ ([0] ++ (beBytes 2 36 ++
          (leBytes 2 (ip.id + UInt16.ofNat n).toNat ++ ([0, 0] ++ ([64] ++
            ([IP_ICMP] ++ (leBytes 2 cs.toNat ++ (leBytes 4 ip.saddr.toNat ++
              (leBytes 4 ip.daddr.toNat ++ echoMessage))))))))) := by
  rw [request, ipHeader, ipHeaderFront, ipHeaderBack]
  simp only [List.append_assoc, List.cons_append, List.nil_append]
  exact ⟨_, rfl⟩

theorem request_valid (ip : IpContext) (n : Nat) :
    ValidRequest ip (request ip n) := by
  have hmessage : echoMessage.length = 16 := rfl
  rcases request_layout ip n with ⟨cs, hlayout⟩
  have hhead : field (request ip n) 0 20 =
      ipHeader { ip with id := ip.id + UInt16.ofNat n } (20 + 16) IP_ICMP := by
    rw [request, field_head _ (by simp)]
  have htail : field (request ip n) 20 16 = echoMessage := by
    rw [request, field_skip _ (by simp), ipHeader_length]
    exact field_all rfl
  constructor
  case length_eq =>
    rw [request, List.length_append, ipHeader_length, hmessage]
  case ip_sum =>
    rw [hhead]
    exact internetSum_ipHeader _ _ _
  case message_sum =>
    rw [htail]
    decide
  case message_type =>
    have hsub : field (request ip n) 20 2 =
        field (field (request ip n) 20 16) 0 2 := by
      rw [field, field, field, List.drop_zero, List.take_take]
      rfl
    rw [hsub, htail]
    rfl
  case total_length =>
    have htotal : field (request ip n) 2 2 = beBytes 2 36 := by
      simp (disch := simp) only [hlayout, field_skip, field_head,
        List.length_cons, List.length_nil, Nat.reduceAdd, Nat.reduceSub]
    rw [htotal]
    decide
  all_goals
    simp (disch := simp) only [hlayout, field_skip, field_head,
      leBytes_length, beBytes_length, List.length_cons, List.length_nil,
      Nat.reduceAdd, Nat.reduceSub]

theorem sendRequest_request (w : World σ) (h : 84 ≤ w.ip.pktSize.toNat) :
    w.sendRequest.sent = w.sent ++ [request w.ip 0] := by
  have hid : w.ip.id + UInt16.ofNat 0 = w.ip.id := UInt16.add_zero _
  rw [sendRequest_packet w (by omega), echoStores_slice w.ip h, request, hid]
  rfl

/-- The next request only counts on. -/
theorem request_succ (w : World σ) (pkt : Buffer w.sendRequest.ip.pktSize.toNat)
    (n : Nat) :
    request { w.sendRequest.ip with pkt := pkt } n = request w.ip (n + 1) := by
  have hid : w.ip.id + 1 + UInt16.ofNat n = w.ip.id + UInt16.ofNat (n + 1) := by
    rw [UInt16.add_assoc, UInt16.ofNat_add, UInt16.add_comm 1]
    rfl
  show ipHeader { w.ip with id := w.ip.id + 1 + UInt16.ofNat n } _ _ ++ _ = _
  rw [hid]
  rfl

/-!
## A run
-/

theorem echoAgain_sends (L : Link P σ) (retries : Nat) :
    forall {w w' : World σ} {rc : Int}, 84 ≤ w.ip.pktSize.toNat ->
      echoAgain L retries w = some (rc, w') ->
        exists n : Nat, n ≤ retries ∧ (0 < retries -> 0 < n) ∧
          w'.sent = w.sent ++ (List.range n).map (request w.ip) := by
  induction retries with
  | zero =>
      intro w w' rc _ hrun
      cases hrun
      exact ⟨0, Nat.le_refl 0, fun h => h, (List.append_nil _).symm⟩
  | succ retries ih =>
      intro w w' rc h hrun
      have hsent := sendRequest_request w h
      unfold echoAgain at hrun
      rcases hrecv : L.recvPacket w.sendRequest.ip.pkt P.rs232Tps
        w.sendRequest.line with _ | ⟨len, pkt, line⟩
      · rw [hrecv] at hrun
        cases hrun
      rw [hrecv] at hrun
      dsimp only at hrun
      split_ifs at hrun with hagain
      · let next : World σ :=
          { w.sendRequest with
            ip := { w.sendRequest.ip with pkt := pkt }
            line := line }
        rcases ih (w := next) h hrun with ⟨n, hn, _, hmore⟩
        have hnext : (List.range n).map (request next.ip) =
            (List.range n).map (fun i => request w.ip (i + 1)) :=
          List.map_congr_left (fun i _ => request_succ w pkt i)
        have hbefore : next.sent = w.sent ++ [request w.ip 0] := hsent
        refine ⟨n + 1, Nat.succ_le_succ hn, fun _ => Nat.succ_pos n, ?_⟩
        rw [hmore, hnext, hbefore, List.append_assoc, List.range_succ_eq_map,
          List.map_cons, List.map_map]
        rfl
      · cases hrun
        exact ⟨1, Nat.succ_le_succ (Nat.zero_le _), fun _ => Nat.one_pos,
          hsent⟩

/-- A call that times out; the next one goes on where it stopped. -/
theorem echoAgain_again {L : Link P σ} {w : World σ} {line : σ}
    (hrecv : L.recvPacket w.sendRequest.ip.pkt P.rs232Tps w.line =
      some (-(P.eagain : Int), w.sendRequest.ip.pkt, line)) (retries : Nat) :
    echoAgain L (retries + 1) w =
      echoAgain L retries { w.sendRequest with line := line } := by
  rw [<- sendRequest_line] at hrecv
  rw [echoAgain, hrecv]
  exact if_pos rfl

/-- A frame decides. -/
theorem echoAgain_answer {L : Link P σ} {w : World σ} {line : σ}
    {frame : List UInt8} (h : ICMP_BUF_SIZE ≤ w.ip.pktSize.toNat)
    (hrecv : L.recvPacket w.sendRequest.ip.pkt P.rs232Tps w.line =
      some (((frame.take w.ip.pktSize.toNat).length : Int),
        w.sendRequest.ip.pkt.write 0 (frame.take w.ip.pktSize.toNat), line))
    (retries : Nat) :
    exists w' : World σ,
      echoAgain L (retries + 1) w =
        some (if EchoReply frame then 0 else -1, w') ∧ w'.line = line := by
  have heagain := P.eagain_pos
  rw [<- sendRequest_line] at hrecv
  refine ⟨{ w.sendRequest with
    ip :=
      { w.sendRequest.ip with
        pkt := w.sendRequest.ip.pkt.write 0
          (frame.take w.ip.pktSize.toNat) }
    line := line }, ?_, rfl⟩
  rw [echoAgain, hrecv, <- echoResult_stored w.sendRequest.ip h]
  exact if_neg (by omega)

end Icmp
end Z80Tcpip
