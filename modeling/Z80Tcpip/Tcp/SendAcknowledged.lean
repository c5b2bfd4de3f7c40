import Mathlib.Order.Bounds.Basic
import Z80Tcpip.Tcp.ScriptRuns

/-!
# What a successful send means

While `tcp_send` waits for an acknowledgement, every packet that gets past the
checks moves `tcp->seq` up to its acknowledgement number.  The first of them
ends the wait, and the end of the data that was sent is compared with nothing.
-/

namespace Z80Tcpip
namespace Tcp

open Foundation

variable {P : Platform}

/-!
## Acknowledgement numbers
-/

/-- The acknowledgement numbers that a waiting `tcp_send` takes in.  Probes and
refused packets count for nothing; the wait goes on after a packet only if its
header size makes `tcp_recv` return `-EAGAIN`. -/
def heardAcks (P : Platform) (tcp : TcpContext) : Script -> List UInt32
  | [] => []
  | none :: rest => heardAcks P tcp rest
  | some packet :: rest =>
      let bs := packet.take tcp.ip.pktSize.toNat
      if Passes tcp bs ∧ ¬ IsProbe tcp bs then
        packetAck bs ::
          if (bs.length : Int) - 20 - packetHeaderSize bs =
              -(P.eagain : Int) then
            heardAcks P tcp rest
          else []
      else heardAcks P tcp rest

theorem heardAcks_congr {tcp tcp' : TcpContext} (h : SameSession tcp tcp')
    (hack : tcp'.ack = tcp.ack) (line : Script) :
    heardAcks P tcp' line = heardAcks P tcp line := by
  have hsize : tcp'.ip.pktSize = tcp.ip.pktSize := h.right.right.left
  induction line with
  | nil => rfl
  | cons ev rest ih =>
      cases ev with
      | none => exact ih
      | some packet =>
          rw [heardAcks, heardAcks, hsize, ih]
          exact if_congr
            (and_congr (Passes.sameSession h) (by rw [IsProbe, IsProbe, hack]))
            rfl rfl

section Heard

variable {timeout : Int16} {w : World Script} {bs : List UInt8}
  {line : Script} (hrecv : Delivers (scriptLink P) timeout w bs line)

include hrecv

theorem heardAcks_skip (hskip : ¬ (Passes w.tcp bs ∧ ¬ IsProbe w.tcp bs)) :
    heardAcks P w.tcp w.line = heardAcks P w.tcp line := by
  rcases delivers_script hrecv with ⟨packet, hline, hbs⟩
  subst hbs
  rw [hline, heardAcks, if_neg hskip]

theorem heardAcks_packet (hpass : Passes w.tcp bs)
    (hprobe : ¬ IsProbe w.tcp bs) :
    heardAcks P w.tcp w.line =
      packetAck bs ::
        if (bs.length : Int) - 20 - packetHeaderSize bs = -(P.eagain : Int) then
          heardAcks P w.tcp line
        else [] := by
  rcases delivers_script hrecv with ⟨packet, hline, hbs⟩
  subst hbs
  rw [hline, heardAcks, if_pos ⟨hpass, hprobe⟩]

end Heard

/-- `seq'` is the largest of the sequence number and the acknowledgement
numbers. -/
def Reaches (seq : UInt32) (acks : List UInt32) (seq' : UInt32) : Prop :=
  IsGreatest {n : Nat | n ∈ (seq :: acks).map UInt32.toNat} seq'.toNat

theorem Reaches.refl (seq : UInt32) : Reaches seq [] seq := by
  constructor
  · exact List.mem_cons_self
  · intro n hn
    exact (List.mem_singleton.mp hn).le

theorem Reaches.single {seq ack seq' : UInt32}
    (h : seq'.toNat = max seq.toNat ack.toNat) : Reaches seq [ack] seq' := by
  constructor
  · rcases max_choice seq.toNat ack.toNat with hmax | hmax
    · exact List.mem_cons.mpr (Or.inl (h.trans hmax))
    · exact List.mem_cons_of_mem _ (List.mem_singleton.mpr (h.trans hmax))
  · intro n hn
    rw [h]
    rcases List.mem_cons.mp hn with hstart | hack
    · exact hstart.le.trans (le_max_left _ _)
    · exact (List.mem_singleton.mp hack).le.trans (le_max_right _ _)

theorem Reaches.append {seq seq' seq'' : UInt32} {acks acks' : List UInt32}
    (h : Reaches seq acks seq') (h' : Reaches seq' acks' seq'') :
    Reaches seq (acks ++ acks') seq'' := by
  simp only [Reaches, List.map_cons, List.map_append] at h h' ⊢
  constructor
  · rcases List.mem_cons.mp h'.left with hsame | hlater
    · rw [hsame]
      rcases List.mem_cons.mp h.left with hstart | hearlier
      · exact List.mem_cons.mpr (Or.inl hstart)
      · exact List.mem_cons_of_mem _ (List.mem_append_left _ hearlier)
    · exact List.mem_cons_of_mem _ (List.mem_append_right _ hlater)
  · have hup : seq'.toNat ≤ seq''.toNat := h'.right List.mem_cons_self
    intro n hn
    rcases List.mem_cons.mp hn with hstart | hack
    · exact (h.right (List.mem_cons.mpr (Or.inl hstart))).trans hup
    · rcases List.mem_append.mp hack with hearlier | hlater
      · exact (h.right (List.mem_cons_of_mem _ hearlier)).trans hup
      · exact h'.right (List.mem_cons_of_mem _ hlater)

/-!
## Waiting for an acknowledgement
-/

theorem acked_reaches {w : World Script} {bs : List UInt8} (line : Script)
    (hfit : bs.length ≤ w.tcp.ip.pktSize.toNat) (hlong : 40 ≤ bs.length) :
    Reaches w.tcp.seq [packetAck bs] (w.acked bs line).tcp.seq :=
  Reaches.single (opened_seq line hfit hlong)

theorem accept_reaches {w : World Script} {bs : List UInt8} (line : Script)
    (hfit : bs.length ≤ w.tcp.ip.pktSize.toNat) (hlong : 40 ≤ bs.length) :
    Reaches w.tcp.seq [packetAck bs] (w.accept bs line).tcp.seq := by
  rw [World.accept, World.transmit_seq, World.accepted, acceptData_seq]
  exact Reaches.single (opened_seq line hfit hlong)

/-- A call that asks to be repeated has accepted no data. -/
theorem Received.ack_of_eagain {timeout : Int16} {w w' : World Script}
    {rc : Int} (h : Received (scriptLink P) timeout w rc w') :
    rc = -(P.eagain : Int) -> w'.tcp.ack = w.tcp.ack := by
  induction h with
  | idle => exact fun _ => rfl
  | refused => exact fun _ => rfl
  | probe _ _ _ _ ih => exact ih
  | bare => exact fun _ => rfl
  | old => exact fun _ => rfl
  | fresh _ _ _ hdata =>
      intro hrc
      unfold CarriesData at hdata
      omega

/-- What one call of `tcp_recv` takes in, when `tcp_send` does not give up. -/
theorem Received.heard {timeout : Int16} {w w' : World Script} {rc : Int}
    (h : Received (scriptLink P) timeout w rc w') :
    rc = -(P.eagain : Int) ∨ 0 ≤ rc ->
      exists acks : List UInt32,
        Reaches w.tcp.seq acks w'.tcp.seq ∧
          heardAcks P w.tcp w.line = acks ++
            if rc = -(P.eagain : Int) then heardAcks P w.tcp w'.line
            else [] := by
  have heagain := P.eagain_pos
  induction h with
  | @idle w line hrecv =>
      intro _
      refine ⟨[], Reaches.refl _, ?_⟩
      rw [if_pos rfl, List.nil_append]
      rcases idle_script hrecv with ⟨hline, hrest⟩ | hline
      · rw [hline]
        show _ = heardAcks P w.tcp line
        rw [hrest]
      · rw [hline]
        rfl
  | @refused w bs line rc hrecv hbad hrc =>
      intro hgo
      have hagain : rc = -(P.eagain : Int) := by
        rcases hrc with hrc | hrc
        · exact hrc
        · have hreset : ERESET = 20 := rfl
          omega
      refine ⟨[], Reaches.refl _, ?_⟩
      rw [if_pos hagain, List.nil_append]
      exact heardAcks_skip hrecv (fun hp => hbad hp.left)
  | @probe w w' bs line rc hrecv hpass hprobe _ ih =>
      intro hgo
      rcases ih hgo with ⟨acks, hreach, hheard⟩
      have hnoted : forall rest : Script,
          heardAcks P (w.noted bs line).tcp rest = heardAcks P w.tcp rest :=
        heardAcks_congr (readHeaderSize_sameSession (w.arrive bs line).tcp) rfl
      refine ⟨acks, hreach, ?_⟩
      rw [hnoted, hnoted] at hheard
      rw [heardAcks_skip hrecv (fun hp => hp.right hprobe)]
      exact hheard
  | @bare w bs line hrecv hpass hprobe hdata =>
      intro _
      refine ⟨_, acked_reaches line hrecv.left hpass.long, ?_⟩
      exact heardAcks_packet hrecv hpass hprobe
  | @old w bs line hrecv hpass hprobe hdata hseq =>
      intro _
      unfold CarriesData at hdata
      refine ⟨_, acked_reaches line hrecv.left hpass.long, ?_⟩
      rw [heardAcks_packet hrecv hpass hprobe, if_neg (by omega),
        if_neg (by omega)]
      rfl
  | @fresh w bs line hrecv hpass hprobe hdata hseq =>
      intro _
      unfold CarriesData at hdata
      refine ⟨_, accept_reaches line hrecv.left hpass.long, ?_⟩
      rw [heardAcks_packet hrecv hpass hprobe, if_neg (by omega),
        if_neg (by omega)]
      rfl

theorem received_of_tcpRecv {fuel : Nat} {w w' : World Script} {rc : Int}
    (hconn : 1 < w.tcp.seq)
    (h : tcpRecv (scriptLink P) fuel w 0 = (some rc, w')) :
    Received (scriptLink P) P.rs232Tps w rc w' := by
  cases fuel with
  | zero => cases h
  | succ fuel =>
      rw [tcpRecv] at h
      exact received_of_tcpRecvTimeout hconn h

theorem tcpSendAgain_reaches {fuel : Nat} {w w' : World Script} {len : Nat}
    {data : Option (Buffer len)} {window : UInt16} {retries : Nat}
    (hconn : 1 < w.tcp.seq) (hlen : 0 < len)
    (h : tcpSendAgain (scriptLink P) fuel w len data window retries =
      (some 0, w')) :
    Reaches w.tcp.seq (heardAcks P w.tcp w.line) w'.tcp.seq := by
  induction fuel generalizing w retries with
  | zero => cases h
  | succ fuel ih =>
      have hwait : ¬ (1 < (w.transmit len data window).tcp.seq ∧ len = 0) := by
        omega
      rw [tcpSendAgain] at h
      simp only [if_neg hwait] at h
      rcases hcall : tcpRecv (scriptLink P) fuel (w.transmit len data window) 0
        with ⟨_ | rc, w1⟩
      · rw [hcall] at h
        cases h
      · rw [hcall] at h
        simp only at h
        have hconn1 : 1 < (w.transmit len data window).tcp.seq := hconn
        have hreceived := received_of_tcpRecv hconn1 hcall
        have hsent : forall rest : Script,
            heardAcks P (w.transmit len data window).tcp rest =
              heardAcks P w.tcp rest :=
          heardAcks_congr ⟨rfl, rfl, rfl, rfl, rfl⟩ rfl
        by_cases hagain : rc = -(P.eagain : Int)
        · rcases hreceived.heard (Or.inl hagain) with ⟨acks, hreach, hheard⟩
          rw [if_pos hagain, hsent, hsent] at hheard
          rw [if_pos hagain] at h
          split_ifs at h with hretry
          · have hrest : heardAcks P w1.tcp w1.line =
                heardAcks P w.tcp w1.line := by
              rw [heardAcks_congr hreceived.sameSession
                (hreceived.ack_of_eagain hagain), hsent]
            have hmore := ih (hreceived.connected hconn1) h
            rw [hrest] at hmore
            rw [show w.line = (w.transmit len data window).line from rfl,
              hheard]
            exact Reaches.append hreach hmore
          · exact absurd (Option.some.inj (Prod.mk.inj h).left) (by decide)
        · rw [if_neg hagain] at h
          split_ifs at h with hneg
          · have hzero := Option.some.inj (Prod.mk.inj h).left
            omega
          · rcases hreceived.heard (Or.inr (by omega)) with
              ⟨acks, hreach, hheard⟩
            rw [if_neg hagain, List.append_nil, hsent] at hheard
            cases h
            rw [show w.line = (w.transmit len data window).line from rfl,
              hheard]
            exact hreach

/-!
## One call
-/

/-- A packet acknowledges the whole payload and none acknowledges more.  The
end of the payload is below `2^32`, since an acknowledgement number is. -/
def FullyAcked (P : Platform) (tcp : TcpContext) (len : Nat) (line : Script) :
    Prop :=
  tcp.seq.toNat + len ∈ (heardAcks P tcp line).map UInt32.toNat ∧
    forall ack, ack ∈ heardAcks P tcp line ->
      ack.toNat ≤ tcp.seq.toNat + len

instance (tcp : TcpContext) (len : Nat) (line : Script) :
    Decidable (FullyAcked P tcp len line) :=
  inferInstanceAs (Decidable (_ ∧ _))

theorem FullyAcked.lt {tcp : TcpContext} {len : Nat} {line : Script}
    (h : FullyAcked P tcp len line) : tcp.seq.toNat + len < 2 ^ 32 := by
  rcases List.mem_map.mp h.left with ⟨ack, _, hack⟩
  have hlt := ack.toNat_lt
  omega

theorem FullyAcked.reaches_toNat {tcp : TcpContext} {len : Nat}
    {line : Script} {seq' : UInt32} (h : FullyAcked P tcp len line)
    (hreach : Reaches tcp.seq (heardAcks P tcp line) seq') :
    seq'.toNat = tcp.seq.toNat + len := by
  apply hreach.unique
  constructor
  · exact List.mem_cons_of_mem _ h.left
  · intro n hn
    rcases List.mem_cons.mp hn with hstart | hack
    · omega
    · rcases List.mem_map.mp hack with ⟨ack, hmem, hn⟩
      rw [← hn]
      exact h.right ack hmem

theorem toNat_add_len {seq : UInt32} {len : Nat}
    (h : seq.toNat + len < 2 ^ 32) :
    (seq + UInt32.ofNat len).toNat = seq.toNat + len := by
  have hlen : len < 2 ^ 32 := by
    omega
  rw [UInt32.toNat_add, UInt32.toNat_ofNat', Nat.mod_eq_of_lt hlen,
    Nat.mod_eq_of_lt h]

theorem reaches_add_len_iff {tcp : TcpContext} {len : Nat} {line : Script}
    {seq' : UInt32} (hpos : 0 < len) (hlen : len < 2 ^ 32)
    (hreach : Reaches tcp.seq (heardAcks P tcp line) seq') :
    seq' = tcp.seq + UInt32.ofNat len <-> FullyAcked P tcp len line := by
  constructor
  · intro heq
    have hup : tcp.seq.toNat ≤ seq'.toNat := hreach.right List.mem_cons_self
    have hseq : seq'.toNat = (tcp.seq.toNat + len) % 2 ^ 32 := by
      rw [heq, UInt32.toNat_add, UInt32.toNat_ofNat', Nat.mod_eq_of_lt hlen]
    -- beyond 2^32 the sum would have come out below the old number
    have hsum : seq'.toNat = tcp.seq.toNat + len := by
      have hlt := tcp.seq.toNat_lt
      omega
    constructor
    · rcases List.mem_cons.mp hreach.left with hstart | hack
      · omega
      · rwa [hsum] at hack
    · intro ack hack
      rw [← hsum]
      exact hreach.right
        (List.mem_cons_of_mem _ (List.mem_map_of_mem hack))
  · intro hacked
    apply UInt32.toNat_inj.mp
    rw [hacked.reaches_toNat hreach, toNat_add_len hacked.lt]

theorem tcpSend_reaches {fuel : Nat} {w w' : World Script} {len : Nat}
    {data : Option (Buffer len)} {window : UInt16} (hconn : 1 < w.tcp.seq)
    (hlen : 0 < len)
    (h : tcpSend (scriptLink P) fuel w len data window = (some 0, w')) :
    Reaches w.tcp.seq (heardAcks P w.tcp w.line) w'.tcp.seq := by
  cases fuel with
  | zero => cases h
  | succ fuel =>
      rw [tcpSend] at h
      exact tcpSendAgain_reaches hconn hlen h

/-- A call without payload does not wait. -/
theorem tcpSend_empty_seq {fuel : Nat} {w w' : World Script} {len : Nat}
    {data : Option (Buffer len)} {window : UInt16} (hconn : 1 < w.tcp.seq)
    (hlen : len = 0)
    (h : tcpSend (scriptLink P) fuel w len data window = (some 0, w')) :
    w'.tcp.seq = w.tcp.seq := by
  match fuel with
  | 0 => cases h
  | 1 => cases h
  | fuel + 2 =>
      have hdone : 1 < (w.transmit len data window).tcp.seq ∧ len = 0 :=
        ⟨hconn, hlen⟩
      rw [tcpSend, tcpSendAgain] at h
      simp only [if_pos hdone] at h
      rw [← (Prod.mk.inj h).right, World.transmit_seq]

/-- What one successful call needs of the packets that arrive. -/
def Acknowledged (P : Platform) (tcp : TcpContext) (len : Nat)
    (line : Script) : Prop :=
  len = 0 ∨ FullyAcked P tcp len line

theorem tcpSend_advances_iff {fuel : Nat} {w w' : World Script} {len : Nat}
    {data : Option (Buffer len)} {window : UInt16} (hconn : 1 < w.tcp.seq)
    (hlen : len < 2 ^ 32)
    (h : tcpSend (scriptLink P) fuel w len data window = (some 0, w')) :
    w'.tcp.seq = w.tcp.seq + UInt32.ofNat len <->
      Acknowledged P w.tcp len w.line := by
  by_cases hzero : len = 0
  · refine iff_of_true ?_ (Or.inl hzero)
    rw [tcpSend_empty_seq hconn hzero h, hzero]
    exact (UInt32.add_zero _).symm
  · rw [Acknowledged, or_iff_right hzero]
    have hpos : 0 < len := by
      omega
    exact reaches_add_len_iff hpos hlen (tcpSend_reaches hconn hpos h)

theorem Reaches.one_lt {seq seq' : UInt32} {acks : List UInt32}
    (h : Reaches seq acks seq') (hconn : 1 < seq) : 1 < seq' :=
  UInt32.lt_iff_toNat_lt.mpr
    (Nat.lt_of_lt_of_le (UInt32.lt_iff_toNat_lt.mp hconn)
      (h.right List.mem_cons_self))

theorem tcpSend_connected {fuel : Nat} {w w' : World Script} {len : Nat}
    {data : Option (Buffer len)} {window : UInt16} (hconn : 1 < w.tcp.seq)
    (h : tcpSend (scriptLink P) fuel w len data window = (some 0, w')) :
    1 < w'.tcp.seq := by
  by_cases hzero : len = 0
  · rwa [tcpSend_empty_seq hconn hzero h]
  · exact (tcpSend_reaches hconn (Nat.pos_of_ne_zero hzero) h).one_lt hconn

/-!
## Runs of successful calls
-/

/-- The sequence numbers a payload was sent under. -/
structure SentRange where
  start : UInt32
  len : Nat
  deriving DecidableEq

/-- One call of `tcp_send` for each request, all of them returning 0. -/
def tcpSendAll (P : Platform) (fuel : Nat) :
    List Request -> World Script -> Option (List SentRange × World Script)
  | [], w => some ([], w)
  | r :: more, w =>
      match tcpSend (scriptLink P) fuel w r.len r.data r.window with
      | (none, _) => none
      | (some rc, w') =>
          if rc = 0 then
            (tcpSendAll P fuel more w').map
              (fun s => (⟨w.tcp.seq, r.len⟩ :: s.1, s.2))
          else none

/-- The ranges lie one behind the other from `first` to `last`. -/
def Consecutive : UInt32 -> List SentRange -> UInt32 -> Prop
  | first, [], last => last = first
  | first, s :: more, last =>
      s.start = first ∧ Consecutive (first + UInt32.ofNat s.len) more last

/-- No sequence number belongs to two ranges. -/
def NonOverlapping (ranges : List SentRange) : Prop :=
  ranges.Pairwise (fun s s' => s.start.toNat + s.len ≤ s'.start.toNat)

/-- At every call of the run the packets acknowledge its payload. -/
def EachAcknowledged (P : Platform) (fuel : Nat) :
    List Request -> World Script -> Prop
  | [], _ => True
  | r :: more, w =>
      Acknowledged P w.tcp r.len w.line ∧
        forall w', tcpSend (scriptLink P) fuel w r.len r.data r.window =
          (some 0, w') -> EachAcknowledged P fuel more w'

theorem tcpSendAll_cons {fuel : Nat} {r : Request} {more : List Request}
    {w last : World Script} {ranges : List SentRange}
    (h : tcpSendAll P fuel (r :: more) w = some (ranges, last)) :
    exists (w' : World Script) (rest : List SentRange),
      tcpSend (scriptLink P) fuel w r.len r.data r.window = (some 0, w') ∧
        tcpSendAll P fuel more w' = some (rest, last) ∧
          ranges = ⟨w.tcp.seq, r.len⟩ :: rest := by
  rw [tcpSendAll] at h
  rcases hcall : tcpSend (scriptLink P) fuel w r.len r.data r.window with
    ⟨_ | rc, w'⟩
  · rw [hcall] at h
    cases h
  · rw [hcall] at h
    simp only at h
    split_ifs at h with hrc
    rcases Option.map_eq_some_iff.mp h with ⟨⟨rest, last'⟩, hrest, heq⟩
    cases heq
    exact ⟨w', rest, by rw [hrc], hrest, rfl⟩

/-- A run starts at the sequence number it finds. -/
theorem Consecutive.first_eq {fuel : Nat} {requests : List Request}
    {w last : World Script} {ranges : List SentRange} {first : UInt32}
    (h : tcpSendAll P fuel requests w = some (ranges, last))
    (hrun : Consecutive first ranges last.tcp.seq) : w.tcp.seq = first := by
  cases requests with
  | nil =>
      cases h
      exact hrun
  | cons r more =>
      rcases tcpSendAll_cons h with ⟨_, _, _, _, heq⟩
      subst heq
      exact hrun.left

theorem consecutive_iff {fuel : Nat} {requests : List Request}
    (hlen : forall r, r ∈ requests -> r.len < 2 ^ 32) :
    forall {w last : World Script} {ranges : List SentRange},
      1 < w.tcp.seq ->
      tcpSendAll P fuel requests w = some (ranges, last) ->
        (Consecutive w.tcp.seq ranges last.tcp.seq <->
          EachAcknowledged P fuel requests w) := by
  induction requests with
  | nil =>
      intro w last ranges _ h
      cases h
      exact iff_of_true rfl trivial
  | cons r more ih =>
      intro w last ranges hconn h
      rcases tcpSendAll_cons h with ⟨w', rest, hcall, hrest, heq⟩
      subst heq
      have hmore := ih (fun r' hr' => hlen r' (List.mem_cons_of_mem _ hr'))
        (tcpSend_connected hconn hcall) hrest
      have hone := tcpSend_advances_iff hconn (hlen r List.mem_cons_self) hcall
      constructor
      · intro hboth
        rcases hboth with ⟨_, hrun⟩
        have hstep := Consecutive.first_eq hrest hrun
        refine ⟨hone.mp hstep, ?_⟩
        intro w2 hcall2
        rw [hcall] at hcall2
        cases hcall2
        apply hmore.mp
        rwa [hstep]
      · intro hboth
        rcases hboth with ⟨hacked, hafter⟩
        refine ⟨rfl, ?_⟩
        show Consecutive (w.tcp.seq + UInt32.ofNat r.len) rest last.tcp.seq
        rw [← hone.mpr hacked]
        exact hmore.mpr (hafter w' hcall)

theorem nonOverlapping_of_eachAcknowledged {fuel : Nat}
    {requests : List Request} :
    forall {w last : World Script} {ranges : List SentRange},
      1 < w.tcp.seq ->
      tcpSendAll P fuel requests w = some (ranges, last) ->
      EachAcknowledged P fuel requests w ->
        NonOverlapping ranges ∧
          forall s, s ∈ ranges -> w.tcp.seq.toNat ≤ s.start.toNat := by
  induction requests with
  | nil =>
      intro w last ranges _ h _
      cases h
      exact ⟨List.Pairwise.nil, by simp⟩
  | cons r more ih =>
      intro w last ranges hconn h hacked
      rcases tcpSendAll_cons h with ⟨w', rest, hcall, hrest, heq⟩
      subst heq
      rcases ih (tcpSend_connected hconn hcall) hrest
        (hacked.right w' hcall) with ⟨hdisjoint, hbeyond⟩
      have hend : w'.tcp.seq.toNat = w.tcp.seq.toNat + r.len := by
        by_cases hzero : r.len = 0
        · rw [tcpSend_empty_seq hconn hzero hcall, hzero, Nat.add_zero]
        · exact (hacked.left.resolve_left hzero).reaches_toNat
            (tcpSend_reaches hconn (Nat.pos_of_ne_zero hzero) hcall)
      rw [hend] at hbeyond
      refine ⟨List.Pairwise.cons hbeyond hdisjoint, ?_⟩
      intro s hs
      rcases List.mem_cons.mp hs with hfirst | hlater
      · rw [hfirst]
      · exact (Nat.le_add_right _ _).trans (hbeyond s hlater)

/-- A call that returns 0 has moved the sequence number past its payload if and
only if a packet acknowledged all of it and none acknowledged more.  The ranges
of a run are consecutive if and only if this is so at every call, and then no
two of them overlap. -/
theorem sentConsecutively_iff (P : Platform) (fuel : Nat) {w : World Script}
    (hconn : 1 < w.tcp.seq) :
    (forall (len : Nat) (data : Option (Buffer len)) (window : UInt16)
        (w' : World Script), 0 < len -> len < 2 ^ 32 ->
      tcpSend (scriptLink P) fuel w len data window = (some 0, w') ->
        (w'.tcp.seq = w.tcp.seq + UInt32.ofNat len <->
          FullyAcked P w.tcp len w.line)) ∧
      forall (requests : List Request) (ranges : List SentRange)
          (last : World Script),
        (forall r, r ∈ requests -> r.len < 2 ^ 32) ->
        tcpSendAll P fuel requests w = some (ranges, last) ->
          (Consecutive w.tcp.seq ranges last.tcp.seq <->
            EachAcknowledged P fuel requests w) ∧
            (EachAcknowledged P fuel requests w -> NonOverlapping ranges) := by
  constructor
  · intro len data window w' hpos hlen hcall
    exact reaches_add_len_iff hpos hlen (tcpSend_reaches hconn hpos hcall)
  · intro requests ranges last hlen hrun
    refine ⟨consecutive_iff hlen hconn hrun, ?_⟩
    intro hacked
    exact (nonOverlapping_of_eachAcknowledged hconn hrun hacked).left

theorem sentConsecutively_iff_one_byte :
    (tcpSend (scriptLink Platform.spectrum) 8
        { tcp := TcpContext.loopback 2 7
          line := [none, some (peerSegment 7 3 [])]
          sent := [] } 1 (some ⟨[0x41], rfl⟩) 0).2.tcp.seq =
        2 + UInt32.ofNat 1 <->
      FullyAcked Platform.spectrum (TcpContext.loopback 2 7) 1
        [none, some (peerSegment 7 3 [])] :=
  (sentConsecutively_iff Platform.spectrum 8
    (w := { tcp := TcpContext.loopback 2 7
            line := [none, some (peerSegment 7 3 [])]
            sent := [] })
    (by decide)).left 1 (some ⟨[0x41], rfl⟩) 0 _ (by decide) (by decide)
    (Prod.ext (by decide +kernel) rfl)

/-- The peer has sent data of its own before it saw ours.  Both calls return 0,
and the second byte goes out under the number of the first one. -/
theorem not_sentConsecutively_peer_data :
    (tcpSendAll Platform.spectrum 8
        [{ len := 1, data := some ⟨[0x41], rfl⟩, window := 0 },
          { len := 1, data := some ⟨[0x42], rfl⟩, window := 0 }]
        { tcp := TcpContext.loopback 2 7
          line := [some (peerSegment 7 2 [0x43]), some (peerSegment 8 3 [])]
          sent := [] }).map Prod.fst = some [⟨2, 1⟩, ⟨2, 1⟩] ∧
      (tcpSend (scriptLink Platform.spectrum) 8
        { tcp := TcpContext.loopback 2 7
          line := [some (peerSegment 7 2 [0x43])]
          sent := [] } 1 (some ⟨[0x41], rfl⟩) 0).1 = some 0 ∧
      (tcpSend (scriptLink Platform.spectrum) 8
        { tcp := TcpContext.loopback 2 7
          line := [some (peerSegment 7 2 [0x43])]
          sent := [] } 1 (some ⟨[0x41], rfl⟩) 0).2.tcp.seq ≠
        2 + UInt32.ofNat 1 := by
  refine ⟨?_, ?_, ?_⟩ <;> decide +kernel

end Tcp
end Z80Tcpip
