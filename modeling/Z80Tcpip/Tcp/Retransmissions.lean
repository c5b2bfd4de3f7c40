import Z80Tcpip.Tcp.ScriptRuns

/-!
# Retransmitted segments

A peer sends a stream without loss and repeats segments that have been accepted
before.  Every new segment is returned once, whatever the initial sequence
number.  A copy is recognised by comparing 32-bit numbers as numbers, so it is
dropped exactly when its number is below `tcp->ack` as a number.
-/

namespace Z80Tcpip
namespace Tcp

open Foundation
open Ip

variable {P : Platform}

/-!
## What the peer sends
-/

/-- A well-formed data segment of the session that fits the buffer. -/
structure DataSegment (tcp : TcpContext) (seq : UInt32)
    (data bs : List UInt8) : Prop where
  passes : Passes tcp bs
  header : WellFormedHeader bs
  fits : bs.length ≤ tcp.ip.pktSize.toNat
  seq_eq : packetSeq bs = seq
  payload_eq : packetPayload bs = data
  nonempty : data ≠ []

inductive Arrival where
  | fresh (bs : List UInt8)
  | copy (bs : List UInt8)

def Arrival.packet : Arrival -> List UInt8
  | .fresh bs => bs
  | .copy bs => bs

/-- Fresh segments follow one another from `start` on, and a copy repeats a
segment that was `sent` before and starts at most 2^31 bytes back.  Positions
are counted from the start of the stream, without wrapping around. -/
def Scheduled (tcp : TcpContext) (start : UInt32) :
    List (Nat × List UInt8) -> Nat -> List Arrival -> Prop
  | _, _, [] => True
  | sent, next, .fresh bs :: rest =>
      exists data : List UInt8,
        DataSegment tcp (start + UInt32.ofNat next) data bs ∧
          Scheduled tcp start ((next, data) :: sent) (next + data.length) rest
  | sent, next, .copy bs :: rest =>
      (exists (off : Nat) (data : List UInt8), (off, data) ∈ sent ∧
        next - off ≤ 2 ^ 31 ∧
        DataSegment tcp (start + UInt32.ofNat off) data bs) ∧
          Scheduled tcp start sent next rest

/-!
## The property and the condition
-/

/-- A call for each arrival, with a length and a timeout of its own: a fresh
segment is returned, a copy is not and leaves `tcp->ack` alone. -/
def ExactlyOnce (P : Platform) (fuel : Nat) :
    List ((UInt16 × Int16) × Arrival) -> World Script -> Prop
  | [], _ => True
  | ((len, timeout), .fresh bs) :: rest, w =>
      exists (n : Nat) (w' : World Script),
        tcpRecvTimeout (scriptLink P) fuel w len timeout =
            (some (n : Int), w') ∧
          tcpRxBuffer w'.tcp n = packetPayload bs ∧
          n = (packetPayload bs).length ∧ ExactlyOnce P fuel rest w'
  | ((len, timeout), .copy _) :: rest, w =>
      exists w' : World Script,
        tcpRecvTimeout (scriptLink P) fuel w len timeout = (some 0, w') ∧
          w'.tcp.ack = w.tcp.ack ∧ ExactlyOnce P fuel rest w'

/-- Every copy has a sequence number below the next one expected, as a
number. -/
def CopiesBelow (start : UInt32) : Nat -> List Arrival -> Prop
  | _, [] => True
  | next, .fresh bs :: rest =>
      CopiesBelow start (next + (packetPayload bs).length) rest
  | next, .copy bs :: rest =>
      packetSeq bs < start + UInt32.ofNat next ∧ CopiesBelow start next rest

/-!
## One call
-/

theorem DataSegment.carriesData {tcp : TcpContext} {seq : UInt32}
    {data bs : List UInt8} (h : DataSegment tcp seq data bs) :
    CarriesData bs := by
  have hlength := packetPayload_length bs
  have hpos := List.length_pos_iff.mpr h.nonempty
  rw [h.payload_eq] at hlength
  unfold CarriesData
  omega

theorem DataSegment.sameSession {tcp tcp' : TcpContext} {seq : UInt32}
    {data bs : List UInt8} (hsession : SameSession tcp tcp')
    (h : DataSegment tcp seq data bs) : DataSegment tcp' seq data bs := by
  have hsize : tcp'.ip.pktSize = tcp.ip.pktSize := hsession.right.right.left
  exact ⟨(Passes.sameSession hsession).mpr h.passes, h.header,
    by rw [hsize]; exact h.fits, h.seq_eq, h.payload_eq, h.nonempty⟩

theorem Scheduled.sameSession {tcp tcp' : TcpContext} {start : UInt32}
    (hsession : SameSession tcp tcp') {arrivals : List Arrival} :
    forall {sent : List (Nat × List UInt8)} {next : Nat},
      Scheduled tcp start sent next arrivals ->
        Scheduled tcp' start sent next arrivals := by
  induction arrivals with
  | nil =>
      intro sent next _
      trivial
  | cons a rest ih =>
      intro sent next h
      cases a with
      | fresh bs =>
          rcases h with ⟨data, hdata, hrest⟩
          exact ⟨data, hdata.sameSession hsession, ih hrest⟩
      | copy bs =>
          rcases h with ⟨⟨off, data, hmem, hback, hdata⟩, hrest⟩
          exact ⟨⟨off, data, hmem, hback, hdata.sameSession hsession⟩,
            ih hrest⟩

theorem DataSegment.delivers {seq : UInt32} {data bs : List UInt8}
    {w : World Script} {rest : Script} {timeout : Int16}
    (h : DataSegment w.tcp seq data bs)
    (hline : w.line = some bs :: rest) :
    Delivers (scriptLink P) timeout w bs rest :=
  delivers_of_script timeout h.fits hline

theorem dataSegment_peerSegment (seq ack seq' ack' : UInt32)
    {data : List UInt8} (hdata : data.length ≤ 24) (hne : data ≠ []) :
    DataSegment (TcpContext.loopback seq ack) seq' data
      (peerSegment seq' ack' data) := by
  have hlength := peerSegment_length seq' ack' hdata
  have hsize : (TcpContext.loopback seq ack).ip.pktSize.toNat = 64 := rfl
  exact ⟨peerSegment_passes seq' ack' hdata seq ack,
    peerSegment_header seq' ack' hdata, by omega,
    peerSegment_seq seq' ack' hdata, peerSegment_payload seq' ack' hdata, hne⟩

/-- The connection goes on with the rest of the line. -/
structure GoesOn (w : World Script) (rest : Script) (w' : World Script) :
    Prop where
  connected : 1 < w'.tcp.seq
  session : SameSession w.tcp w'.tcp
  line : w'.line = rest

section OneCall

variable {seq : UInt32} {data bs : List UInt8} {w : World Script}
  {rest : Script} (fuel : Nat) (len : UInt16) (timeout : Int16)
  (hconn : 1 < w.tcp.seq) (h : DataSegment w.tcp seq data bs)
  (hline : w.line = some bs :: rest)

include hconn h hline

/-- A call on data from `tcp->ack` on, or from beyond it, returns the data. -/
theorem DataSegment.fresh_call (hseq : ¬ seq < w.tcp.ack) :
    exists w' : World Script,
      tcpRecvTimeout (scriptLink P) (fuel + 4) w len timeout =
          (some (data.length : Int), w') ∧
        tcpRxBuffer w'.tcp data.length = data ∧
        w'.tcp.ack = seq + UInt32.ofNat data.length ∧ GoesOn w rest w' := by
  -- Opening the window changes nothing that the packet is compared with.
  rcases openWindow_same w len with ⟨hsession, hseq1, hack1, hline1⟩
  have hconn1 : 1 < (w.openWindow len).tcp.seq := by
    rwa [hseq1]
  have h1 := h.sameSession hsession
  have hdata := h1.carriesData
  have hheader := packetHeaderSize_of_wellFormed h1.header
  have hlength := packetPayload_length bs
  have hbuffer := accept_rxBuffer rest h1.fits h1.passes.long hheader.left
  have hcarries : 20 + packetHeaderSize bs < bs.length := hdata
  have hack := accept_ack rest h1.fits (by omega)
  have hcall := tcpRecvAgain_fresh (P := P) timeout fuel hconn1
    (h1.delivers (hline1.trans hline)) h1.passes hdata
    (by rwa [h1.seq_eq, hack1])
  have hcount : ((bs.length : Int) - 20 - packetHeaderSize bs) =
      (data.length : Int) := by
    rw [h1.payload_eq] at hlength
    omega
  rw [← hlength, h1.payload_eq] at hbuffer
  rw [Nat.sub_sub, ← hlength, h1.payload_eq, h1.seq_eq] at hack
  rw [hcount] at hcall
  have hopen := tcpRecvTimeout_openWindow (scriptLink P) (fuel + 1) len
    timeout hconn
  exact ⟨_, hopen.trans hcall, hbuffer, hack,
    one_lt_accept_seq _ _ hconn1,
    hsession.trans (accept_sameSession _ bs rest), accept_line _ _ _⟩

/-- A call on data from before `tcp->ack` returns nothing. -/
theorem DataSegment.old_call (hseq : seq < w.tcp.ack) :
    exists w' : World Script,
      tcpRecvTimeout (scriptLink P) (fuel + 4) w len timeout =
          (some 0, w') ∧
        w'.tcp.ack = w.tcp.ack ∧ GoesOn w rest w' := by
  rcases openWindow_same w len with ⟨hsession, hseq1, hack1, hline1⟩
  have hconn1 : 1 < (w.openWindow len).tcp.seq := by
    rwa [hseq1]
  have h1 := h.sameSession hsession
  have hcall := tcpRecvAgain_old (P := P) timeout fuel hconn1
    (h1.delivers (hline1.trans hline)) h1.passes h1.carriesData
    (by rwa [h1.seq_eq, hack1])
  have hopen := tcpRecvTimeout_openWindow (scriptLink P) (fuel + 1) len
    timeout hconn
  exact ⟨_, hopen.trans hcall, (acked_ack _ bs rest).trans hack1,
    one_lt_acked_seq _ _ hconn1,
    hsession.trans (acked_sameSession _ bs rest), acked_line _ _ _⟩

end OneCall

/-!
## Whole runs
-/

theorem exactlyOnce_run_iff (fuel : Nat) {start : UInt32}
    {arrivals : List ((UInt16 × Int16) × Arrival)} :
    forall {sent : List (Nat × List UInt8)} {next : Nat} {w : World Script},
      1 < w.tcp.seq -> w.tcp.ack = start + UInt32.ofNat next ->
      w.line = arrivals.map (fun a => some a.2.packet) ->
      Scheduled w.tcp start sent next (arrivals.map Prod.snd) ->
        (ExactlyOnce P (fuel + 4) arrivals w <->
          CopiesBelow start next (arrivals.map Prod.snd)) := by
  induction arrivals with
  | nil =>
      intro sent next w _ _ _ _
      exact Iff.rfl
  | cons a rest ih =>
      intro sent next w hconn hack hline hsched
      rcases a with ⟨⟨len, timeout⟩, bs | bs⟩
      · rcases hsched with ⟨data, hdata, hrest⟩
        rcases hdata.fresh_call (P := P) fuel len timeout hconn hline
            (by rw [hack]; exact UInt32.lt_irrefl _) with
          ⟨w1, hcall, hbuffer, hnext, hgoes⟩
        have hack' : w1.tcp.ack =
            start + UInt32.ofNat (next + data.length) := by
          rw [hnext, UInt32.ofNat_add, UInt32.add_assoc]
        have hmore := ih hgoes.connected hack' hgoes.line
          (hrest.sameSession hgoes.session)
        simp only [List.map_cons, ExactlyOnce, CopiesBelow, hdata.payload_eq]
        rw [← hmore]
        constructor
        · intro hparts
          rcases hparts with ⟨n, w', hcall', _, _, hrun⟩
          rw [hcall] at hcall'
          cases hcall'
          exact hrun
        · intro hrun
          exact ⟨data.length, w1, hcall, hbuffer, rfl, hrun⟩
      · rcases hsched with ⟨⟨off, data, _, _, hdata⟩, hrest⟩
        simp only [List.map_cons, ExactlyOnce, CopiesBelow, hdata.seq_eq]
        rw [← hack]
        by_cases hseq : start + UInt32.ofNat off < w.tcp.ack
        · rcases hdata.old_call (P := P) fuel len timeout hconn hline hseq with
            ⟨w1, hcall, hsame, hgoes⟩
          have hmore := ih hgoes.connected (hsame.trans hack) hgoes.line
            (hrest.sameSession hgoes.session)
          rw [← hmore]
          constructor
          · intro hparts
            rcases hparts with ⟨w', hcall', _, hrun⟩
            rw [hcall] at hcall'
            cases hcall'
            exact ⟨hseq, hrun⟩
          · intro hboth
            rcases hboth with ⟨_, hrun⟩
            exact ⟨w1, hcall, hsame, hrun⟩
        · rcases hdata.fresh_call (P := P) fuel len timeout hconn hline
            hseq with ⟨w1, hcall, _, _, _⟩
          refine iff_of_false ?_ (fun h => hseq h.left)
          intro hparts
          rcases hparts with ⟨w', hcall', _, _⟩
          rw [hcall] at hcall'
          have hzero : (data.length : Int) = 0 :=
            Option.some.inj (Prod.mk.inj hcall').left
          have hpos := List.length_pos_iff.mpr hdata.nonempty
          omega

/-- Over any run of new segments and copies, whatever windows the calls open,
every byte is returned exactly once if and only if every copy is below the next
number expected, as a number. -/
theorem exactlyOnce_iff (P : Platform) (fuel : Nat)
    (arrivals : List ((UInt16 × Int16) × Arrival)) {w : World Script}
    (hconn : 1 < w.tcp.seq)
    (hline : w.line = arrivals.map (fun a => some a.2.packet))
    (hsched : Scheduled w.tcp w.tcp.ack [] 0 (arrivals.map Prod.snd)) :
    ExactlyOnce P (fuel + 4) arrivals w <->
      CopiesBelow w.tcp.ack 0 (arrivals.map Prod.snd) :=
  exactlyOnce_run_iff fuel hconn (by simp) hline hsched

theorem exactlyOnce_iff_one_copy :
    ExactlyOnce Platform.spectrum 4
        [((20, 5), .fresh (peerSegment 7 2 [0x41])),
          ((0, 5), .copy (peerSegment 7 2 [0x41]))]
        { tcp := TcpContext.loopback 2 7
          line := [some (peerSegment 7 2 [0x41]),
            some (peerSegment 7 2 [0x41])]
          sent := [] } <->
      CopiesBelow 7 0
        [.fresh (peerSegment 7 2 [0x41]), .copy (peerSegment 7 2 [0x41])] := by
  have hsegment : DataSegment (TcpContext.loopback 2 7) 7 [0x41]
      (peerSegment 7 2 [0x41]) :=
    dataSegment_peerSegment 2 7 7 2 (by decide) (by decide)
  exact exactlyOnce_iff Platform.spectrum 0
    [((20, 5), .fresh (peerSegment 7 2 [0x41])),
      ((0, 5), .copy (peerSegment 7 2 [0x41]))]
    (w := { tcp := TcpContext.loopback 2 7
            line := [some (peerSegment 7 2 [0x41]),
              some (peerSegment 7 2 [0x41])]
            sent := [] })
    (by decide) rfl
    ⟨[0x41], hsegment, ⟨0, [0x41], by decide, by decide, hsegment⟩, trivial⟩

/-- The last byte before the sequence numbers wrap around, and a copy of it. -/
theorem not_exactlyOnce_across_wrap :
    Scheduled (TcpContext.loopback 2 0xFFFFFFFF) 0xFFFFFFFF [] 0
        [.fresh (peerSegment 0xFFFFFFFF 2 [0x41]),
          .copy (peerSegment 0xFFFFFFFF 2 [0x41])] ∧
      ¬ ExactlyOnce Platform.spectrum 4
        [((0, 5), .fresh (peerSegment 0xFFFFFFFF 2 [0x41])),
          ((0, 5), .copy (peerSegment 0xFFFFFFFF 2 [0x41]))]
        { tcp := TcpContext.loopback 2 0xFFFFFFFF
          line := [some (peerSegment 0xFFFFFFFF 2 [0x41]),
            some (peerSegment 0xFFFFFFFF 2 [0x41])]
          sent := [] } := by
  have hsegment : DataSegment (TcpContext.loopback 2 0xFFFFFFFF) 0xFFFFFFFF
      [0x41] (peerSegment 0xFFFFFFFF 2 [0x41]) :=
    dataSegment_peerSegment 2 0xFFFFFFFF 0xFFFFFFFF 2 (by decide) (by decide)
  refine ⟨⟨[0x41], hsegment, ⟨0, [0x41], by decide, by decide, hsegment⟩,
    trivial⟩, ?_⟩
  intro h
  rcases h with ⟨n, w', hfirst, _, _, w'', hcopy, _, _⟩
  have hreturned : (tcpRecvTimeout (scriptLink Platform.spectrum) 4
      (tcpRecvTimeout (scriptLink Platform.spectrum) 4
        { tcp := TcpContext.loopback 2 0xFFFFFFFF
          line := [some (peerSegment 0xFFFFFFFF 2 [0x41]),
            some (peerSegment 0xFFFFFFFF 2 [0x41])]
          sent := [] } 0 5).2 0 5).1 = some 1 := by
    decide +kernel
  rw [hfirst, hcopy] at hreturned
  exact absurd (Option.some.inj hreturned) (by decide)

end Tcp
end Z80Tcpip
