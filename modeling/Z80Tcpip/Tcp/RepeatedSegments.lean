import Z80Tcpip.Tcp.ScriptRuns

/-!
# Retransmissions of a segment

`tcp_send` builds every transmission anew from the connection and, without a
data pointer, from the packet buffer, in which packets have been received since
the last one.  The segment is repeated as long as they leave the payload alone
and move no number.
-/

namespace Z80Tcpip
namespace Tcp

open Foundation

variable {P : Platform}

/-!
## The property and the condition
-/

/-- A data segment with the sequence number of the connection and its
payload. -/
def Repeats (tcp : TcpContext) {len : Nat} (data : Option (Buffer len))
    (t : Transmission) : Prop :=
  t.request.len ≠ 0 ->
    readBE (field t.packet 24 4) = tcp.seq.toNat ∧
      field t.packet 40 len = payload tcp data

/-- The part of the payload that waits in the packet buffer. -/
def inBuffer (tcp : TcpContext) {len : Nat} :
    Option (Buffer len) -> List UInt8
  | some _ => []
  | none => tcp.ip.pkt.slice 40 len

/-- The payload in the buffer once the packet `bs` has been received. -/
def overwritten (found bs : List UInt8) : List UInt8 :=
  (bs.drop 40).take found.length ++ found.drop (bs.length - 40)

/-- While `n` more transmissions are possible, each of them finds the payload
that was supplied, and no packet moves the sequence number before one.  A packet
that `tcp_recv` returns -EAGAIN for leads to the next transmission: one that
fails a check, or one whose header size happens to make up this value. -/
def Undisturbed (P : Platform) (tcp : TcpContext) (supplied : List UInt8) :
    Nat -> List UInt8 -> Script -> Prop
  | 0, _, _ => True
  | _ + 1, found, [] => found = supplied
  | n + 1, found, none :: rest =>
      found = supplied ∧ Undisturbed P tcp supplied n found rest
  | n + 1, found, some packet :: rest =>
      let bs := packet.take tcp.ip.pktSize.toNat
      let left := overwritten found bs
      if Checked tcp bs then
        if bs.getD 33 0 &&& TCP_RST ≠ 0 then True
        else if IsProbe tcp bs then
          Undisturbed P tcp supplied (n + 1) left rest
        else if (bs.length : Int) - 20 - packetHeaderSize bs =
            -(P.eagain : Int) then
          left = supplied ∧ packetAck bs ≤ tcp.seq ∧
            Undisturbed P tcp supplied n left rest
        else True
      else left = supplied ∧ Undisturbed P tcp supplied n left rest

theorem Undisturbed.congr {tcp tcp' : TcpContext}
    (hsession : SameSession tcp tcp') (hseq : tcp'.seq = tcp.seq)
    (hack : tcp'.ack = tcp.ack) (supplied : List UInt8) (line : Script) :
    forall (n : Nat) (found : List UInt8),
      Undisturbed P tcp' supplied n found line <->
        Undisturbed P tcp supplied n found line := by
  have hsize : tcp'.ip.pktSize = tcp.ip.pktSize := hsession.right.right.left
  induction line with
  | nil =>
      intro n found
      cases n with
      | zero => exact Iff.rfl
      | succ n => exact Iff.rfl
  | cons ev rest ih =>
      intro n found
      cases n with
      | zero => exact Iff.rfl
      | succ n =>
          cases ev with
          | none =>
              rw [Undisturbed, Undisturbed, ih]
          | some packet =>
              simp only [Undisturbed, hsize, IsProbe, hack, hseq,
                Checked.sameSession hsession, ih]
              congr!

theorem overwritten_nil (bs : List UInt8) : overwritten [] bs = [] := by
  rw [overwritten, List.length_nil, List.take_zero, List.drop_nil]
  rfl

theorem inBuffer_congr {tcp tcp' : TcpContext} (h : tcp'.ip = tcp.ip)
    {len : Nat} (data : Option (Buffer len)) :
    inBuffer tcp' data = inBuffer tcp data := by
  cases data with
  | some _ => rfl
  | none => rw [inBuffer, inBuffer, h]

theorem inBuffer_arrive {w : World Script} {bs : List UInt8} (line : Script)
    {len : Nat} (data : Option (Buffer len))
    (hroom : 40 + len ≤ w.tcp.ip.pktSize.toNat)
    (hfit : bs.length ≤ w.tcp.ip.pktSize.toNat) :
    inBuffer (w.arrive bs line).tcp data =
      overwritten (inBuffer w.tcp data) bs := by
  cases data with
  | some _ => exact (overwritten_nil bs).symm
  | none =>
      show (w.tcp.ip.pkt.write 0 bs).slice 40 len = _
      rw [Buffer.slice_write_front _ hfit, overwritten, inBuffer,
        Buffer.slice_length _ hroom]

/-!
## Waiting for an acknowledgement
-/

section Arrived

variable {w : World Script} {bs : List UInt8} {line : Script}
  {timeout : Int16} (hrecv : Delivers (scriptLink P) timeout w bs line)
  (supplied found : List UInt8) (n : Nat)

include hrecv

theorem undisturbed_unchecked (hbad : ¬ Checked w.tcp bs) :
    Undisturbed P w.tcp supplied (n + 1) found w.line <->
      overwritten found bs = supplied ∧
        Undisturbed P w.tcp supplied n (overwritten found bs) line := by
  rcases delivers_script hrecv with ⟨packet, hline, hbs⟩
  subst hbs
  rw [hline, Undisturbed]
  simp only [if_neg hbad]

theorem undisturbed_reset (hchecked : Checked w.tcp bs)
    (hrst : bs.getD 33 0 &&& TCP_RST ≠ 0) :
    Undisturbed P w.tcp supplied (n + 1) found w.line := by
  rcases delivers_script hrecv with ⟨packet, hline, hbs⟩
  subst hbs
  rw [hline, Undisturbed]
  simp only [if_pos hchecked, if_pos hrst]

theorem undisturbed_probe (hpass : Passes w.tcp bs)
    (hprobe : IsProbe w.tcp bs) :
    Undisturbed P w.tcp supplied (n + 1) found w.line <->
      Undisturbed P w.tcp supplied (n + 1) (overwritten found bs) line := by
  rcases delivers_script hrecv with ⟨packet, hline, hbs⟩
  subst hbs
  rw [hline, Undisturbed]
  simp only [if_pos (passes_iff.mp hpass).left,
    if_neg (not_not.mpr hpass.no_rst), if_pos hprobe]

theorem undisturbed_taken (htaken : TakenIn w.tcp bs) :
    Undisturbed P w.tcp supplied (n + 1) found w.line <->
      if (bs.length : Int) - 20 - packetHeaderSize bs = -(P.eagain : Int) then
        overwritten found bs = supplied ∧ packetAck bs ≤ w.tcp.seq ∧
          Undisturbed P w.tcp supplied n (overwritten found bs) line
      else True := by
  rcases delivers_script hrecv with ⟨packet, hline, hbs⟩
  subst hbs
  rw [hline, Undisturbed]
  simp only [if_pos (passes_iff.mp htaken.left).left,
    if_neg (not_not.mpr htaken.left.no_rst), if_neg htaken.right]

end Arrived

theorem undisturbed_idle {w : World Script} {line : Script} {timeout : Int16}
    (hrecv : (scriptLink P).recvPacket w.tcp.ip.pkt timeout w.line =
      some (-(P.eagain : Int), w.tcp.ip.pkt, line))
    {supplied found : List UInt8} {n : Nat} :
    Undisturbed P w.tcp supplied (n + 1) found w.line <->
      found = supplied ∧ Undisturbed P w.tcp supplied n found line := by
  rcases idle_script hrecv with ⟨hline, hrest⟩ | hline
  · rw [hline, hrest]
    cases n with
    | zero => exact (and_iff_left trivial).symm
    | succ n => exact and_self_iff.symm
  · rw [hline]
    exact Iff.rfl

/-- What a call of `tcp_recv` leaves for the next transmission. -/
structure Repeatable (P : Platform) {len : Nat} (data : Option (Buffer len))
    (w w' : World Script) : Prop where
  sent_eq : w'.sent = w.sent
  session : SameSession w.tcp w'.tcp
  ack_eq : w'.tcp.ack = w.tcp.ack
  line_suffix : w'.line <:+ w.line
  undisturbed_iff : forall (supplied : List UInt8) (n : Nat),
    Undisturbed P w.tcp supplied (n + 1) (inBuffer w.tcp data) w.line <->
      inBuffer w'.tcp data = supplied ∧ w'.tcp.seq = w.tcp.seq ∧
        Undisturbed P w.tcp supplied n (inBuffer w'.tcp data) w'.line

/-- What such a call has sent when it ends the wait. -/
structure WaitOver (P : Platform) {len : Nat} (data : Option (Buffer len))
    (w w' : World Script) : Prop where
  sent_eq : exists acks : List Transmission,
    w'.sent = w.sent ++ acks ∧ forall t, t ∈ acks -> t.request.len = 0
  undisturbed : forall (supplied : List UInt8) (n : Nat),
    Undisturbed P w.tcp supplied (n + 1) (inBuffer w.tcp data) w.line

theorem acked_seq_eq_iff (w : World Script) {bs : List UInt8} (line : Script)
    (hfit : bs.length ≤ w.tcp.ip.pktSize.toNat) (hlong : 40 ≤ bs.length) :
    (w.acked bs line).tcp.seq = w.tcp.seq <-> packetAck bs ≤ w.tcp.seq := by
  have hmax : (w.acked bs line).tcp.seq.toNat =
      max w.tcp.seq.toNat (packetAck bs).toNat :=
    opened_seq line hfit hlong
  rw [← UInt32.toNat_inj, UInt32.le_iff_toNat_le]
  omega

theorem repeatable_or_over {fuel len : Nat} (data : Option (Buffer len))
    {timeout : Int16} {rc : Int} {w' : World Script} :
    forall {w : World Script}, 1 < w.tcp.seq ->
      40 + len ≤ w.tcp.ip.pktSize.toNat ->
      tcpRecvAgain (scriptLink P) fuel w timeout = (some rc, w') ->
        if rc = -(P.eagain : Int) then Repeatable P data w w'
        else WaitOver P data w w' := by
  have heagain := P.eagain_pos
  have hne := P.eagain_ne_ereset
  have hreset : ERESET = 20 := rfl
  have hsilent : forall {w : World Script}, exists acks : List Transmission,
      w.sent = w.sent ++ acks ∧ forall t, t ∈ acks -> t.request.len = 0 := by
    intro w
    refine ⟨[], (List.append_nil _).symm, ?_⟩
    intro t ht
    cases ht
  induction fuel with
  | zero =>
      intro w _ _ h
      cases h
  | succ fuel ih =>
      intro w hconn hroom h
      cases recvCase hconn h with
      | idle hrecv =>
          rw [if_pos rfl]
          refine ⟨rfl, SameSession.refl _, rfl, ?_, ?_⟩
          · exact (Received.idle hrecv).line_suffix
          · intro supplied n
            rw [undisturbed_idle hrecv]
            exact and_congr_right (fun _ => (and_iff_right rfl).symm)
      | unchecked hrecv hbad =>
          rw [if_pos rfl]
          refine ⟨rfl, SameSession.refl _, rfl, hrecv.line_suffix, ?_⟩
          intro supplied n
          rw [inBuffer_arrive _ data hroom hrecv.left,
            undisturbed_unchecked hrecv supplied _ n hbad]
          exact and_congr_right (fun _ => (and_iff_right rfl).symm)
      | reset hrecv hchecked hrst =>
          rw [if_neg (by omega)]
          exact ⟨hsilent, fun supplied n =>
            undisturbed_reset hrecv supplied _ n hchecked hrst⟩
      | @probe _ bs line _ hrecv hpass hprobe hmore =>
          have hsession : SameSession w.tcp (w.noted bs line).tcp :=
            ⟨rfl, rfl, rfl, rfl, rfl⟩
          have hrest := ih (w := w.noted bs line) hconn hroom hmore
          have hleft : inBuffer (w.noted bs line).tcp data =
              overwritten (inBuffer w.tcp data) bs :=
            inBuffer_arrive line data hroom hrecv.left
          split_ifs at hrest ⊢ with hagain
          · refine ⟨hrest.sent_eq, hsession.trans hrest.session, hrest.ack_eq,
              hrest.line_suffix.trans hrecv.line_suffix, ?_⟩
            intro supplied n
            have hiff := hrest.undisturbed_iff supplied n
            simp only [Undisturbed.congr hsession rfl rfl, hleft] at hiff
            rw [undisturbed_probe hrecv supplied _ n hpass hprobe]
            exact hiff
          · refine ⟨hrest.sent_eq, ?_⟩
            intro supplied n
            have hover := hrest.undisturbed supplied n
            rw [Undisturbed.congr hsession rfl rfl, hleft] at hover
            exact (undisturbed_probe hrecv supplied _ n hpass hprobe).mpr hover
      | @bare bs line hrecv htaken hdata =>
          have hleft : inBuffer (w.acked bs line).tcp data =
              overwritten (inBuffer w.tcp data) bs :=
            (inBuffer_congr (acked_ip w bs line) data).trans
              (inBuffer_arrive line data hroom hrecv.left)
          have htaken_iff := fun supplied n =>
            undisturbed_taken hrecv supplied (inBuffer w.tcp data) n htaken
          split_ifs with hagain
          · refine ⟨rfl, acked_sameSession w bs line, acked_ack w bs line,
              hrecv.line_suffix, ?_⟩
            intro supplied n
            rw [htaken_iff, if_pos hagain, hleft,
              acked_seq_eq_iff w line hrecv.left htaken.left.long]
            exact Iff.rfl
          · refine ⟨hsilent, ?_⟩
            intro supplied n
            rw [htaken_iff, if_neg hagain]
            trivial
      | @old bs line hrecv htaken hdata hseq =>
          unfold CarriesData at hdata
          rw [if_neg (by omega)]
          refine ⟨hsilent, ?_⟩
          intro supplied n
          rw [undisturbed_taken hrecv supplied _ n htaken, if_neg (by omega)]
          trivial
      | @fresh bs line hrecv htaken hfresh =>
          have hdata : 20 + packetHeaderSize bs < bs.length := hfresh.left
          rw [if_neg (by omega)]
          refine ⟨⟨_, rfl, ?_⟩, ?_⟩
          · intro t ht
            rw [List.mem_singleton.mp ht]
          · intro supplied n
            rw [undisturbed_taken hrecv supplied _ n htaken, if_neg (by omega)]
            trivial

/-!
## Transmissions
-/

/-- The transmission at the label `again`. -/
def World.again (w : World Script) (r : Request) : Transmission where
  tcp := w.tcp
  request := r
  packet := (tcpTransmit w.tcp r.len r.data r.window).2

section Transmissions

variable {w w' : World Script} {len : Nat} {data : Option (Buffer len)}
  (window : UInt16)

theorem again_repeats_iff (hlen : 0 < len)
    (hroom : 40 + len ≤ w'.tcp.ip.pktSize.toNat) :
    Repeats w.tcp data
        (w'.again { len := len, data := data, window := window }) <->
      w'.tcp.seq = w.tcp.seq ∧ inBuffer w'.tcp data = inBuffer w.tcp data := by
  have hvalid := validSegment_tcpTransmit w'.tcp
    { len := len, data := data, window := window } hroom
  have hpayload : payload w'.tcp data = payload w.tcp data <->
      inBuffer w'.tcp data = inBuffer w.tcp data := by
    cases data with
    | none => exact Iff.rfl
    | some bs => exact iff_of_true rfl rfl
  rw [← hpayload, ← UInt32.toNat_inj, ← hvalid.payload_eq,
    ← hvalid.sequence_number]
  constructor
  · intro h
    exact h (Nat.ne_of_gt hlen)
  · intro h _
    exact h

theorem inBuffer_transmit (hroom : 40 + len ≤ w.tcp.ip.pktSize.toNat) :
    inBuffer (w.transmit len data window).tcp data = inBuffer w.tcp data := by
  cases data with
  | some bs => rfl
  | none =>
      have hsegment :=
        tcpTransmit_segment w.tcp (none : Option (Buffer len)) window hroom
      rw [tcpSegment, ← List.append_assoc] at hsegment
      have hfit : 20 + 20 ≤ w.tcp.ip.pktSize.toNat := by omega
      exact Buffer.slice_drop_front (k := 20) hsegment (by simp) hfit

theorem Repeats.congr {t : Transmission} (hseq : w'.tcp.seq = w.tcp.seq)
    (hbuffer : inBuffer w'.tcp data = inBuffer w.tcp data) :
    Repeats w'.tcp data t <-> Repeats w.tcp data t := by
  have hpayload : payload w'.tcp data = payload w.tcp data := by
    cases data with
    | none => exact hbuffer
    | some bs => rfl
  rw [Repeats, Repeats, hseq, hpayload]

theorem repeats_of_empty {tcp : TcpContext} {ts : List Transmission}
    (h : forall t, t ∈ ts -> t.request.len = 0) :
    forall t, t ∈ ts -> Repeats tcp data t :=
  fun t ht hne => absurd (h t ht) hne

end Transmissions

/-- What is known of the transmissions of a call from the label `again` on, when
`n` more are possible. -/
structure SentAgain (P : Platform) {len : Nat} (data : Option (Buffer len))
    (window : UInt16) (n : Nat) (w w' : World Script)
    (more : List Transmission) : Prop where
  sent_eq : w'.sent = w.sent ++
    w.again { len := len, data := data, window := window } :: more
  count_le : more.countP (fun t => t.request.len ≠ 0) ≤ n
  repeats_iff : (forall t, t ∈ more -> Repeats w.tcp data t) <->
    Undisturbed P w.tcp (inBuffer w.tcp data) n (inBuffer w.tcp data) w.line

section SentAgain

variable {len : Nat} {data : Option (Buffer len)} {window : UInt16}
  {w w2 w' : World Script}

theorem sentAgain_over {n : Nat}
    (hroom : 40 + len ≤ w.tcp.ip.pktSize.toNat)
    (h : WaitOver P data (w.transmit len data window) w') :
    exists more, SentAgain P data window n w w' more := by
  have hsession : SameSession w.tcp (w.transmit len data window).tcp :=
    ⟨rfl, rfl, rfl, rfl, rfl⟩
  rcases h.sent_eq with ⟨acks, hsent, hacks⟩
  refine ⟨acks, ?_, ?_, ?_⟩
  · rw [hsent]
    exact List.append_assoc _ _ _
  · rw [List.countP_eq_zero.mpr]
    · exact Nat.zero_le n
    · intro t ht
      simp [hacks t ht]
  · refine iff_of_true (repeats_of_empty hacks) ?_
    cases n with
    | zero => cases w.line <;> trivial
    | succ n =>
        have hover := h.undisturbed (inBuffer w.tcp data) n
        rwa [Undisturbed.congr hsession rfl rfl,
          inBuffer_transmit window hroom] at hover

theorem sentAgain_last
    (h : Repeatable P data (w.transmit len data window) w2) :
    SentAgain P data window 0 w w2 [] := by
  constructor
  case sent_eq => exact h.sent_eq
  case count_le => exact Nat.le_refl 0
  case repeats_iff =>
    refine iff_of_true (repeats_of_empty ?_) ?_
    · intro t ht
      cases ht
    · cases w.line <;> trivial

theorem sentAgain_next {n : Nat} {more : List Transmission} (hlen : 0 < len)
    (hroom : 40 + len ≤ w.tcp.ip.pktSize.toNat)
    (hwait : Repeatable P data (w.transmit len data window) w2)
    (h : SentAgain P data window n w2 w' more) :
    SentAgain P data window (n + 1) w w'
      (w2.again { len := len, data := data, window := window } :: more) := by
  have hsession : SameSession w.tcp (w.transmit len data window).tcp :=
    ⟨rfl, rfl, rfl, rfl, rfl⟩
  have hroom2 : 40 + len ≤ w2.tcp.ip.pktSize.toNat := by
    rw [hwait.session.right.right.left]
    exact hroom
  have hcond := hwait.undisturbed_iff (inBuffer w.tcp data) n
  rw [Undisturbed.congr hsession rfl rfl, inBuffer_transmit window hroom,
    Undisturbed.congr hsession rfl rfl] at hcond
  constructor
  case sent_eq =>
    rw [h.sent_eq, hwait.sent_eq]
    exact List.append_assoc _ _ _
  case count_le =>
    have hcount := h.count_le
    rw [List.countP_cons]
    split_ifs <;> omega
  case repeats_iff =>
    have hline : (w.transmit len data window).line = w.line := rfl
    rw [hline] at hcond
    rw [hcond, List.forall_mem_cons, again_repeats_iff window hlen hroom2,
      and_assoc, and_left_comm]
    refine and_congr_right (fun hbuffer => and_congr_right (fun hseq => ?_))
    have hrest := h.repeats_iff
    have hack : w2.tcp.ack = w.tcp.ack := hwait.ack_eq
    have hsession2 : SameSession w.tcp w2.tcp := hwait.session
    simp only [Repeats.congr hseq hbuffer] at hrest
    rw [hrest, hbuffer, Undisturbed.congr hsession2 hseq hack]

end SentAgain

theorem tcpRecv_script_returns {fuel : Nat} {w : World Script}
    (hconn : 1 < w.tcp.seq) (hfuel : w.line.length + 5 ≤ fuel) :
    exists (rc : Int) (w' : World Script) (fuel' : Nat),
      tcpRecv (scriptLink P) fuel w 0 = (some rc, w') ∧
        tcpRecvAgain (scriptLink P) fuel' w P.rs232Tps = (some rc, w') := by
  rcases tcpRecvAgain_script_returns (P := P) rfl hconn
    (show w.line.length + 3 ≤ fuel - 2 by omega) with ⟨rc, w', hcall⟩
  refine ⟨rc, w', fuel - 2, ?_, hcall⟩
  rw [← Nat.sub_add_cancel (show 2 ≤ fuel by omega), tcpRecv, tcpRecvTimeout,
    clampLen_zero, if_neg (fun hne => hne rfl)]
  exact hcall

/-- One round from the label `again`: the segment goes out, and what comes in
leads to the next round or ends the wait. -/
theorem tcpSendAgain_round {len : Nat} (data : Option (Buffer len))
    (window : UInt16) (hlen : 0 < len) {fuel : Nat} (retries : Nat)
    {w : World Script} (hconn : 1 < w.tcp.seq)
    (hroom : 40 + len ≤ w.tcp.ip.pktSize.toNat)
    (hfuel : w.line.length + 5 ≤ fuel) :
    exists w2 : World Script,
      (Repeatable P data (w.transmit len data window) w2 ∧ 1 < w2.tcp.seq ∧
        tcpSendAgain (scriptLink P) (fuel + 1) w len data window retries =
          if retries < 5 then
            tcpSendAgain (scriptLink P) fuel w2 len data window (retries + 1)
          else (some (-1), w2)) ∨
      (WaitOver P data (w.transmit len data window) w2 ∧ exists rc : Int,
        tcpSendAgain (scriptLink P) (fuel + 1) w len data window retries =
          (some rc, w2)) := by
  have hwait : ¬ (1 < (w.transmit len data window).tcp.seq ∧ len = 0) := by
    omega
  rcases tcpRecv_script_returns (P := P) (w := w.transmit len data window)
    hconn hfuel with ⟨rc, w2, fuel', hrecv, hagain⟩
  have hround := repeatable_or_over data
    (w := w.transmit len data window) hconn hroom hagain
  refine ⟨w2, ?_⟩
  rw [tcpSendAgain, if_neg hwait, hrecv]
  by_cases heagain : rc = -(P.eagain : Int)
  · rw [if_pos heagain] at hround
    have hconn2 : 1 < w2.tcp.seq :=
      (received_of_tcpRecvAgain (w := w.transmit len data window) hconn
        hagain).connected hconn
    refine Or.inl ⟨hround, hconn2, ?_⟩
    simp only [if_pos heagain]
  · rw [if_neg heagain] at hround
    refine Or.inr ⟨hround, ?_⟩
    simp only [if_neg heagain]
    split_ifs
    · exact ⟨rc, rfl⟩
    · exact ⟨0, rfl⟩

theorem tcpSendAgain_sentAgain {len : Nat} (data : Option (Buffer len))
    (window : UInt16) (hlen : 0 < len) {n : Nat} :
    forall {fuel retries : Nat} {w : World Script}, 1 < w.tcp.seq ->
      40 + len ≤ w.tcp.ip.pktSize.toNat -> retries + n = 5 ->
      w.line.length + n + 6 ≤ fuel ->
        exists (rc : Int) (w' : World Script) (more : List Transmission),
          tcpSendAgain (scriptLink P) fuel w len data window retries =
              (some rc, w') ∧
            SentAgain P data window n w w' more := by
  induction n with
  | zero =>
      intro fuel retries w hconn hroom hn hfuel
      rw [← Nat.sub_add_cancel (show 1 ≤ fuel by omega)]
      rcases tcpSendAgain_round (P := P) data window hlen retries hconn hroom
        (show w.line.length + 5 ≤ fuel - 1 by omega) with
        ⟨w2, ⟨hround, _, hsend⟩ | ⟨hover, rc, hsend⟩⟩
      · rw [hsend, if_neg (by omega)]
        exact ⟨-1, w2, [], rfl, sentAgain_last hround⟩
      · rcases sentAgain_over (n := 0) hroom hover with ⟨more, hmore⟩
        exact ⟨rc, w2, more, hsend, hmore⟩
  | succ n ih =>
      intro fuel retries w hconn hroom hn hfuel
      rw [← Nat.sub_add_cancel (show 1 ≤ fuel by omega)]
      rcases tcpSendAgain_round (P := P) data window hlen retries hconn hroom
        (show w.line.length + 5 ≤ fuel - 1 by omega) with
        ⟨w2, ⟨hround, hconn2, hsend⟩ | ⟨hover, rc, hsend⟩⟩
      · have hline : w2.line.length ≤ w.line.length :=
          hround.line_suffix.length_le
        have hroom2 : 40 + len ≤ w2.tcp.ip.pktSize.toNat := by
          rw [hround.session.right.right.left]
          exact hroom
        rcases @ih (fuel - 1) (retries + 1) w2 hconn2 hroom2 (by omega)
          (by omega) with ⟨rc', w', more, hmore, hsent⟩
        rw [hsend, if_pos (by omega)]
        exact ⟨rc', w', _, hmore, sentAgain_next hlen hroom hround hsent⟩
      · rcases sentAgain_over (n := n + 1) hroom hover with ⟨more, hmore⟩
        exact ⟨rc, w2, more, hsend, hmore⟩

/-!
## All the transmissions of a call
-/

/-- `tcp_send` transmits a data segment at most six times, and all of them are
the segment it was given exactly when nothing disturbs them. -/
theorem segment_repeated_iff (P : Platform) (fuel : Nat) {w : World Script}
    {len : Nat} (data : Option (Buffer len)) (window : UInt16)
    (hconn : 2 ≤ w.tcp.seq) (hlen : 0 < len)
    (hroom : 40 + len ≤ w.tcp.ip.pktSize.toNat) :
    exists (rc : Int) (w' : World Script) (new : List Transmission),
      tcpSend (scriptLink P) (fuel + w.line.length + 12) w len data window =
          (some rc, w') ∧
        w'.sent = w.sent ++ new ∧
        new.countP (fun t => t.request.len ≠ 0) ≤ 6 ∧
        ((forall t, t ∈ new -> Repeats w.tcp data t) <->
          Undisturbed P w.tcp (inBuffer w.tcp data) 5 (inBuffer w.tcp data)
            w.line) := by
  have hconn' : 1 < w.tcp.seq := one_lt_of_two_le hconn
  rcases tcpSendAgain_sentAgain (P := P) data window hlen hconn' hroom
    (Nat.zero_add 5)
    (show w.line.length + 5 + 6 ≤ fuel + w.line.length + 11 by omega) with
    ⟨rc, w', more, hsend, hmore⟩
  refine ⟨rc, w', _, hsend, hmore.sent_eq, ?_, ?_⟩
  · have hcount := hmore.count_le
    rw [List.countP_cons]
    split_ifs <;> omega
  · have hfirst : Repeats w.tcp data
        (w.again { len := len, data := data, window := window }) :=
      (again_repeats_iff window hlen hroom).mpr ⟨rfl, rfl⟩
    rw [List.forall_mem_cons, and_iff_right hfirst]
    exact hmore.repeats_iff

/-- A packet of another IP version arrives while two bytes of the packet buffer
wait for their acknowledgement. -/
def otherVersion : List UInt8 := 0x60 :: List.replicate 41 0x2a

def waitingWorld : World Script where
  tcp := TcpContext.loopback 2 7
  line := [some otherVersion]
  sent := []

theorem segment_repeated_iff_data :
    exists (rc : Int) (w' : World Script) (new : List Transmission),
      tcpSend (scriptLink Platform.spectrum) (0 + 1 + 12) waitingWorld 2
          (some ⟨[0x41, 0x42], rfl⟩) 0 = (some rc, w') ∧
        w'.sent = [] ++ new ∧
        new.countP (fun t => t.request.len ≠ 0) ≤ 6 ∧
        ((forall t, t ∈ new ->
            Repeats waitingWorld.tcp (some ⟨[0x41, 0x42], rfl⟩ :
              Option (Buffer 2)) t) <->
          Undisturbed Platform.spectrum waitingWorld.tcp [] 5 []
            waitingWorld.line) :=
  segment_repeated_iff Platform.spectrum 0 (w := waitingWorld)
    (some ⟨[0x41, 0x42], rfl⟩) 0 (by decide) (by decide) (by decide)

/-- The second transmission takes its payload from the packet received before
it. -/
theorem not_repeats_otherVersion :
    exists (rc : Int) (w' : World Script),
      tcpSend (scriptLink Platform.spectrum) 13 waitingWorld 2 none 0 =
          (some rc, w') ∧
        exists t, t ∈ w'.sent ∧
          ¬ Repeats waitingWorld.tcp (none : Option (Buffer 2)) t := by
  rcases hcall : tcpSend (scriptLink Platform.spectrum) 13 waitingWorld 2 none
      0 with ⟨rc, w'⟩
  have hrun : (tcpSend (scriptLink Platform.spectrum) 13 waitingWorld 2 none
        0).1 = some (-1) ∧
      (tcpSend (scriptLink Platform.spectrum) 13 waitingWorld 2 none
        0).2.sent.map (fun t => (t.request.len, field t.packet 40 2)) =
        (2, [0, 0]) :: List.replicate 5 (2, [0x2a, 0x2a]) := by
    decide +kernel
  rw [hcall] at hrun
  rcases hrun with ⟨hrc, hsent⟩
  have hmem : (2, [0x2a, 0x2a]) ∈
      w'.sent.map (fun t => (t.request.len, field t.packet 40 2)) := by
    rw [hsent]
    decide
  rcases List.mem_map.mp hmem with ⟨t, ht, heq⟩
  rcases Prod.mk.inj heq with ⟨hlen, hfield⟩
  refine ⟨-1, w', by rw [← hrc], t, ht, ?_⟩
  intro hrepeats
  have hpayload := (hrepeats (by omega)).right
  rw [hfield] at hpayload
  exact absurd hpayload (by decide)

end Tcp
end Z80Tcpip
