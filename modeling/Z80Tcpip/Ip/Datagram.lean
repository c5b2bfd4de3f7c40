import Z80Tcpip.Foundation.Buffer
import Z80Tcpip.Ip.Checksum

/-!
# IP datagrams

`ip_build_and_send` builds the IP header at the front of the packet buffer, over
whatever stands there, and hands the datagram to `send_packet`.
-/

namespace Z80Tcpip
namespace Ip

open Foundation

def IP_TCP : UInt8 := 6

/-- ip.h `ip_context_t`.  Addresses are kept as they stand in memory.  The size
of the buffer is also passed as the `int` argument of `recv_packet`. -/
structure IpContext where
  saddr : UInt32
  daddr : UInt32
  pktSize : UInt16
  id : UInt16
  pkt : Buffer pktSize.toNat
  pktSize_int : pktSize.toNat < 32768

/-- The stores of `ip_build_and_send` before the checksum. -/
def ipHeaderStores (ip : IpContext) (totalLen : UInt16) (proto : UInt8) :
    Buffer ip.pktSize.toNat :=
  let pkt := ip.pkt.write 0 (List.replicate 20 0)
  let pkt := pkt.put 0 0x45
  let pkt := pkt.write 2 (leBytes 2 (htons totalLen).toNat)
  let pkt := pkt.write 4 (leBytes 2 ip.id.toNat)
  let pkt := pkt.put 8 64
  let pkt := pkt.put 9 proto
  let pkt := pkt.write 12 (leBytes 4 ip.saddr.toNat)
  pkt.write 16 (leBytes 4 ip.daddr.toNat)

/-- ip.c `ip_build_and_send`, with the bytes it passes to `send_packet`. -/
def ipBuildAndSend (ip : IpContext) (totalLen : UInt16) (proto : UInt8) :
    IpContext × List UInt8 :=
  let pkt := ipHeaderStores ip totalLen proto
  let cs := csum (pkt.slice 0 20)
  let pkt := pkt.write 10 (leBytes 2 cs.toNat)
  ({ ip with id := ip.id + 1, pkt := pkt }, pkt.slice 0 totalLen.toNat)

/-!
## The header
-/

/-- The header fields in front of the checksum. -/
def ipHeaderFront (ip : IpContext) (totalLen : UInt16) (proto : UInt8) :
    List UInt8 :=
  [0x45, 0] ++ beBytes 2 totalLen.toNat ++ leBytes 2 ip.id.toNat ++
    [0, 0, 64, proto]

/-- The header fields behind the checksum. -/
def ipHeaderBack (ip : IpContext) : List UInt8 :=
  leBytes 4 ip.saddr.toNat ++ leBytes 4 ip.daddr.toNat

def ipHeader (ip : IpContext) (totalLen : UInt16) (proto : UInt8) :
    List UInt8 :=
  let front := ipHeaderFront ip totalLen proto
  let back := ipHeaderBack ip
  front ++ leBytes 2 (csum (front ++ [0, 0] ++ back)).toNat ++ back

@[simp] theorem ipHeaderFront_length (ip : IpContext) (totalLen : UInt16)
    (proto : UInt8) : (ipHeaderFront ip totalLen proto).length = 10 := by
  simp [ipHeaderFront]

@[simp] theorem ipHeaderBack_length (ip : IpContext) :
    (ipHeaderBack ip).length = 8 := by
  simp [ipHeaderBack]

@[simp] theorem ipHeader_length (ip : IpContext) (totalLen : UInt16)
    (proto : UInt8) : (ipHeader ip totalLen proto).length = 20 := by
  simp [ipHeader]

theorem internetSum_ipHeader (ip : IpContext) (totalLen : UInt16)
    (proto : UInt8) : internetSum (ipHeader ip totalLen proto) = 65535 :=
  internetSum_csum _ (by simp) (by simp)

theorem ipHeaderStores_slice (ip : IpContext) (totalLen : UInt16)
    (proto : UInt8) (h : 20 ≤ ip.pktSize.toNat) :
    (ipHeaderStores ip totalLen proto).slice 0 20 =
      ipHeaderFront ip totalLen proto ++ [0, 0] ++ ipHeaderBack ip := by
  have hsplit : forall p : Buffer ip.pktSize.toNat,
      p.slice 0 20 = p.slice 0 1 ++ (p.slice 1 1 ++ (p.slice 2 2 ++
        (p.slice 4 2 ++ (p.slice 6 2 ++ (p.slice 8 1 ++ (p.slice 9 1 ++
          (p.slice 10 2 ++ (p.slice 12 4 ++ p.slice 16 4)))))))) := by
    intro p
    rw [p.slice_add 0 1 19, p.slice_add 1 1 18, p.slice_add 2 2 16,
      p.slice_add 4 2 14, p.slice_add 6 2 12, p.slice_add 8 1 11,
      p.slice_add 9 1 10, p.slice_add 10 2 8, p.slice_add 12 4 4]
  rw [hsplit]
  simp (disch := first | omega | (simp; done) | (simp; omega)) only
    [ipHeaderStores, Buffer.put_eq_write, Buffer.slice_write_before,
      Buffer.slice_write_after, Buffer.slice_write_eq,
      Buffer.slice_write_replicate]
  rw [leBytes_htons]
  simp [ipHeaderFront, ipHeaderBack]

theorem ipHeaderStores_after (ip : IpContext) (totalLen : UInt16)
    (proto : UInt8) {off len : Nat} (h : 20 ≤ ip.pktSize.toNat)
    (hoff : 20 ≤ off) :
    (ipHeaderStores ip totalLen proto).slice off len =
      ip.pkt.slice off len := by
  simp (disch := first | omega | (simp; omega)) only [ipHeaderStores,
    Buffer.put_eq_write, Buffer.slice_write_after]

/-!
## The datagram
-/

/-- Only the first 20 bytes of the buffer change. -/
theorem ipBuildAndSend_after (ip : IpContext) (totalLen : UInt16)
    (proto : UInt8) {off len : Nat} (h : 20 ≤ ip.pktSize.toNat)
    (hoff : 20 ≤ off) :
    (ipBuildAndSend ip totalLen proto).1.pkt.slice off len =
      ip.pkt.slice off len := by
  rw [← ipHeaderStores_after ip totalLen proto h hoff]
  exact Buffer.slice_write_after _ _ (by rw [leBytes_length]; omega)

theorem ipBuildAndSend_header (ip : IpContext) (totalLen : UInt16)
    (proto : UInt8) (h : 20 ≤ ip.pktSize.toNat) :
    (ipBuildAndSend ip totalLen proto).1.pkt.slice 0 20 =
      ipHeader ip totalLen proto := by
  have hstores := ipHeaderStores_slice ip totalLen proto h
  have hfield := Buffer.slice_write_middle 10 hstores
    (leBytes 2 (csum ((ipHeaderStores ip totalLen proto).slice 0 20)).toNat)
    (by simp) (by simp) (by omega)
  show ((ipHeaderStores ip totalLen proto).write 10 _).slice 0 20 = _
  rw [hfield, hstores]
  rfl

/-- The datagram is the header and what the caller had put behind it. -/
theorem ipBuildAndSend_packet (ip : IpContext) {totalLen : UInt16}
    (proto : UInt8) (h : 20 ≤ ip.pktSize.toNat) {len : Nat}
    (hlen : totalLen.toNat = 20 + len) :
    (ipBuildAndSend ip totalLen proto).2 =
      ipHeader ip totalLen proto ++ ip.pkt.slice 20 len := by
  show (ipBuildAndSend ip totalLen proto).1.pkt.slice 0 totalLen.toNat = _
  rw [hlen, Buffer.slice_add, ipBuildAndSend_header ip totalLen proto h,
    ipBuildAndSend_after ip totalLen proto h (by omega)]

end Ip
end Z80Tcpip
