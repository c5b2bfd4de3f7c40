import Z80Tcpip.Foundation.Reassembly
import Z80Tcpip.Tcp.ClientMachine
import Z80Tcpip.Tcp.SequenceNumbers

/-!
# What the peer has

The client and a peer that does its part of TCP: the peer takes any segment that
has been transmitted, in any order and any number of times, keeps the bytes that
continue what it has, and acknowledges no more than that.  Its packets reach the
client at any time or not at all.

While every call of `tcp_send` that returns has been acknowledged in full, the
peer has the payloads one behind the other, with nothing lost and nothing twice.
-/

namespace Z80Tcpip
namespace Tcp

open Foundation

variable {P : Platform} {σ : Type}

/-!
## The peer
-/

/-- The number of the first byte of payload behind `tcp_connect`. -/
def firstSeq : Nat := 2

/-- What the peer has when it has taken the segment. -/
def takeSegment (got : List UInt8) (t : Transmission) : List UInt8 :=
  reassemble got (readBE (field t.packet 24 4) - firstSeq) (t.packet.drop 40)

/-- What a packet of the peer may say. -/
def SaysTruth (tcp : TcpContext) (got : List UInt8) : Move -> Prop
  | .heard (.packet bs) =>
      TakenIn tcp bs ->
        WellFormedHeader bs ∧ (packetAck bs).toNat ≤ firstSeq + got.length
  | _ => True

/-- A run of the client beside a peer that begins with `got`. -/
inductive Peered (L : Link P σ) : Client σ -> List UInt8 ->
    List (Move × Client σ) -> Client σ -> List UInt8 -> Prop
  | nil (c : Client σ) (got : List UInt8) : Peered L c got [] c got
  | takes {c c' : Client σ} {got got' : List UInt8}
      {run : List (Move × Client σ)} (t : Transmission)
      (ht : t ∈ c.world.sent)
      (hmore : Peered L c (takeSegment got t) run c' got') :
      Peered L c got run c' got'
  | moves {c c1 c' : Client σ} {m : Move} {got got' : List UInt8}
      {run : List (Move × Client σ)} (hstep : Client.Step L c m c1)
      (htruth : SaysTruth c.world.tcp got m)
      (hmore : Peered L c1 got run c' got') :
      Peered L c got ((m, c1) :: run) c' got'

/-!
## What is kept
-/

/-- The payload of a request that has it in memory of its own. -/
def Request.bytes (r : Request) : List UInt8 :=
  match r.data with
  | some data => data.bytes
  | none => []

/-- The payload is passed by pointer and fits the packet buffer. -/
def Request.Fits (size : Nat) (r : Request) : Prop :=
  r.data.isSome ∧ 40 + r.len ≤ size

/-- Everything that the program has asked to be sent. -/
def said (run : List (Move × Client σ)) : List UInt8 :=
  (requests run).flatMap Request.bytes

/-- The segment carries a part of the stream in its place. -/
def Transmission.PartOf (stream : List UInt8) (t : Transmission) : Prop :=
  PieceAt stream (readBE (field t.packet 24 4) - firstSeq) (t.packet.drop 40)

/-- The payload of the call that waits is the end of the stream. -/
def Sending.AtEnd (s : Sending) (size : Nat) (stream : List UInt8) : Prop :=
  s.request.Fits size ∧
    exists front : List UInt8,
      stream = front ++ s.request.bytes ∧
        s.oseq.toNat = firstSeq + front.length

structure Agrees (stream : List UInt8) (c : Client σ) (got : List UInt8) :
    Prop where
  room : 40 ≤ c.world.tcp.ip.pktSize.toNat
  had : c.world.tcp.seq.toNat ≤ firstSeq + got.length
  part : got <+: stream
  sent : forall t, t ∈ c.world.sent -> t.PartOf stream
  idle : c.sending = none ->
    c.world.tcp.seq.toNat = firstSeq + stream.length
  waits : forall s, c.sending = some s ->
    s.AtEnd c.world.tcp.ip.pktSize.toNat stream ∧
      s.oseq ≤ c.world.tcp.seq ∧
        (s.answered = false -> c.world.tcp.seq = s.oseq)

theorem Agrees.all {stream got : List UInt8} {c : Client σ}
    (h : Agrees stream c got) (hidle : c.sending = none) : got = stream := by
  have hhad := h.had
  have hall := h.idle hidle
  exact h.part.eq_of_length_le (by omega)

theorem Request.bytes_eq {r : Request} {size : Nat} (h : r.Fits size)
    (tcp : TcpContext) : payload tcp r.data = r.bytes := by
  rcases r with ⟨len, _ | data, window⟩
  · exact absurd h.left Bool.false_ne_true
  · rfl

theorem Request.bytes_length {r : Request} {size : Nat} (h : r.Fits size) :
    r.bytes.length = r.len := by
  rcases r with ⟨len, _ | data, window⟩
  · exact absurd h.left Bool.false_ne_true
  · exact data.bytes_length

/-- The segment that a connection transmits for the request. -/
def segmentOf (tcp : TcpContext) (r : Request) : Transmission where
  tcp := tcp
  request := r
  packet := (tcpTransmit tcp r.len r.data r.window).2

theorem mem_transmit_sent {w : World σ} {r : Request} {t : Transmission}
    (h : t ∈ (w.transmit r.len r.data r.window).sent) :
    t ∈ w.sent ∨ t = segmentOf w.tcp r := by
  rcases List.mem_append.mp h with hold | hnew
  · exact Or.inl hold
  · exact Or.inr (List.mem_singleton.mp hnew)

section Segments

variable {tcp : TcpContext} {r : Request}

theorem segmentOf_drop (h : 40 + r.len ≤ tcp.ip.pktSize.toNat) :
    (segmentOf tcp r).packet.drop 40 = payload tcp r.data := by
  have hvalid := validSegment_tcpTransmit tcp r h
  have hlen : (segmentOf tcp r).packet.length = 40 + r.len := hvalid.length_eq
  have hfield : field (segmentOf tcp r).packet 40 r.len = payload tcp r.data :=
    hvalid.payload_eq
  rwa [field, List.take_of_length_le (by rw [List.length_drop]; omega)]
    at hfield

theorem segmentOf_seq (h : 40 + r.len ≤ tcp.ip.pktSize.toNat) :
    readBE (field (segmentOf tcp r).packet 24 4) = tcp.seq.toNat :=
  (validSegment_tcpTransmit tcp r h).sequence_number

/-- A segment without payload is a part of any stream. -/
theorem segmentOf_empty_partOf (hlen : r.len = 0)
    (hroom : 40 ≤ tcp.ip.pktSize.toNat) (stream : List UInt8) :
    (segmentOf tcp r).PartOf stream := by
  have hfit : 40 + r.len ≤ tcp.ip.pktSize.toNat := by
    rw [hlen]
    exact hroom
  have hnil : (segmentOf tcp r).packet.drop 40 = [] := by
    rw [segmentOf_drop hfit]
    exact List.length_eq_zero_iff.mp
      ((payload_length tcp r.data hfit).trans hlen)
  rw [Transmission.PartOf, hnil]
  exact List.nil_prefix

/-- A payload transmitted at the end of the stream. -/
theorem segmentOf_partOf {front : List UInt8}
    (hfit : r.Fits tcp.ip.pktSize.toNat)
    (hseq : tcp.seq.toNat = firstSeq + front.length) :
    (segmentOf tcp r).PartOf (front ++ r.bytes) := by
  rw [Transmission.PartOf, segmentOf_drop hfit.right, segmentOf_seq hfit.right,
    Request.bytes_eq hfit, hseq, Nat.add_sub_cancel_left]
  exact pieceAt_end front r.bytes

end Segments

theorem Transmission.PartOf.append {t : Transmission} {stream : List UInt8}
    (h : t.PartOf stream) (more : List UInt8) : t.PartOf (stream ++ more) :=
  PieceAt.append h more

/-!
## What one step keeps
-/

/-- An event leaves the send number alone or takes in an acknowledgement. -/
theorem Step.seq_cases {L : Link P σ} {w w' : World σ} {e : Event}
    (h : Step L w e w') (he : e ≠ .sent) :
    w'.sent = w.sent ∧ w'.tcp.ip.pktSize = w.tcp.ip.pktSize ∧
      (w'.tcp.seq = w.tcp.seq ∨
        exists bs, e = .packet bs ∧ TakenIn w.tcp bs ∧
          w'.tcp.seq.toNat = max w.tcp.seq.toNat (packetAck bs).toNat) := by
  cases h with
  | filled => exact ⟨rfl, rfl, Or.inl rfl⟩
  | sent => exact absurd rfl he
  | timeout => exact ⟨rfl, rfl, Or.inl rfl⟩
  | refused => exact ⟨rfl, rfl, Or.inl rfl⟩
  | probe => exact ⟨rfl, rfl, Or.inl rfl⟩
  | acked hrecv htaken _ =>
      exact ⟨rfl, rfl, Or.inr ⟨_, rfl, htaken,
        acked_seq_toNat w _ hrecv.left htaken.left.long⟩⟩
  | accepted hrecv htaken _ =>
      exact ⟨rfl, rfl, Or.inr ⟨_, rfl, htaken,
        accepted_seq_toNat w _ hrecv.left htaken.left.long⟩⟩

/-- What a truthful packet, or any other event, does to the send number. -/
theorem Step.seq_of_truth {L : Link P σ} {w w' : World σ} {e : Event}
    {got : List UInt8} (h : Step L w e w') (he : e ≠ .sent)
    (htruth : SaysTruth w.tcp got (.heard e))
    (hhad : w.tcp.seq.toNat ≤ firstSeq + got.length) :
    w.tcp.seq ≤ w'.tcp.seq ∧ w'.tcp.seq.toNat ≤ firstSeq + got.length ∧
      (EndsWait w.tcp e = false -> w'.tcp.seq = w.tcp.seq) := by
  rcases (h.seq_cases he).right.right with hsame | ⟨bs, rfl, htaken, hmax⟩
  · rw [hsame]
    exact ⟨UInt32.le_refl _, hhad, fun _ => rfl⟩
  · rcases htruth htaken with ⟨hheader, hack⟩
    have hends := endsWait_of_taken htaken
      (packetHeaderSize_of_wellFormed hheader).right
    refine ⟨?_, ?_, ?_⟩
    · apply UInt32.le_iff_toNat_le.mpr
      rw [hmax]
      exact Nat.le_max_left _ _
    · rw [hmax]
      exact Nat.max_le.mpr ⟨hhad, hack⟩
    · intro hno
      rw [hends] at hno
      cases hno

theorem Agrees.heard {L : Link P σ} {stream got : List UInt8}
    {w w' : World σ} {e : Event} {waiting : Option Sending}
    (h : Agrees stream ⟨w, waiting⟩ got) (hstep : Step L w e w')
    (he : e ≠ .sent) (htruth : SaysTruth w.tcp got (.heard e)) :
    Agrees stream ⟨w', waiting.map (·.answer (EndsWait w.tcp e))⟩ got := by
  rcases hstep.seq_cases he with ⟨hsent, hsize, _⟩
  rcases hstep.seq_of_truth he htruth h.had with ⟨hup, hhad, hsame⟩
  constructor
  case room =>
    show 40 ≤ w'.tcp.ip.pktSize.toNat
    rw [hsize]
    exact h.room
  case had => exact hhad
  case part => exact h.part
  case sent =>
    intro t ht
    exact h.sent t (hsent ▸ ht)
  case idle =>
    intro hidle
    have hall := h.idle (Option.map_eq_none_iff.mp hidle)
    have hle := h.part.length_le
    have hup' := UInt32.le_iff_toNat_le.mp hup
    show w'.tcp.seq.toNat = _
    change w.tcp.seq.toNat = _ at hall
    omega
  case waits =>
    intro s hs
    rcases Option.map_eq_some_iff.mp hs with ⟨s0, hs0, rfl⟩
    rcases h.waits s0 hs0 with ⟨hend, hstart, hquiet⟩
    refine ⟨?_, UInt32.le_trans hstart hup, ?_⟩
    · show s0.AtEnd w'.tcp.ip.pktSize.toNat stream
      rw [hsize]
      exact hend
    · intro hno
      rcases Bool.or_eq_false_iff.mp hno with ⟨hold, hnew⟩
      exact (hsame hnew).trans (hquiet hold)

theorem Agrees.acks {stream got : List UInt8} {w : World σ}
    {waiting : Option Sending} {r : Request}
    (h : Agrees stream ⟨w, waiting⟩ got) (hlen : r.len = 0) :
    Agrees stream ⟨w.transmit r.len r.data r.window, waiting⟩ got := by
  refine ⟨h.room, h.had, h.part, ?_, h.idle, h.waits⟩
  intro t ht
  rcases mem_transmit_sent ht with hold | rfl
  · exact h.sent t hold
  · exact segmentOf_empty_partOf hlen h.room stream

theorem Agrees.begins {stream got : List UInt8} {w : World σ} {r : Request}
    (h : Agrees stream ⟨w, none⟩ got)
    (hfit : r.Fits w.tcp.ip.pktSize.toNat) :
    Agrees (stream ++ r.bytes)
      ⟨w.transmit r.len r.data r.window, some ⟨r, w.tcp.seq, false⟩⟩ got := by
  have hseq : w.tcp.seq.toNat = firstSeq + stream.length := h.idle rfl
  constructor
  case room => exact h.room
  case had => exact h.had
  case part => exact h.part.trans (List.prefix_append _ _)
  case sent =>
    intro t ht
    rcases mem_transmit_sent ht with hold | rfl
    · exact (h.sent t hold).append r.bytes
    · exact segmentOf_partOf hfit hseq
  case idle =>
    intro hidle
    cases hidle
  case waits =>
    intro s hs
    cases hs
    exact ⟨⟨hfit, stream, rfl, hseq⟩, UInt32.le_refl _, fun _ => rfl⟩

theorem Agrees.repeats {stream got : List UInt8} {w : World σ} {s : Sending}
    (h : Agrees stream ⟨w, some s⟩ got) (hwait : s.answered = false) :
    Agrees stream
      ⟨w.transmit s.request.len s.request.data s.request.window, some s⟩
      got := by
  refine ⟨h.room, h.had, h.part, ?_, h.idle, h.waits⟩
  rcases h.waits s rfl with ⟨⟨hfit, front, hstream, hstart⟩, _, hquiet⟩
  have hseq : w.tcp.seq = s.oseq := hquiet hwait
  intro t ht
  rcases mem_transmit_sent ht with hold | rfl
  · exact h.sent t hold
  · rw [hstream]
    exact segmentOf_partOf hfit (by rw [hseq]; exact hstart)

/-- A call returns only once all its payload has been acknowledged. -/
def AckedInFull : Client σ -> Move -> Client σ -> Prop
  | c, .ends, _ =>
      forall s, c.sending = some s ->
        c.world.tcp.seq = s.oseq + UInt32.ofNat s.request.len
  | _, _, _ => True

theorem Agrees.ends {stream got : List UInt8} {w : World σ} {s : Sending}
    (h : Agrees stream ⟨w, some s⟩ got)
    (hfull : w.tcp.seq = s.oseq + UInt32.ofNat s.request.len) :
    Agrees stream ⟨w, none⟩ got := by
  rcases h.waits s rfl with ⟨⟨hfit, front, hstream, hstart⟩, hup, _⟩
  refine ⟨h.room, h.had, h.part, h.sent, ?_, ?_⟩
  · intro _
    have hint := w.tcp.ip.pktSize_int
    have hlen := Request.bytes_length hfit
    have hroom : 40 + s.request.len ≤ w.tcp.ip.pktSize.toNat := hfit.right
    have hup' := UInt32.le_iff_toNat_le.mp hup
    have hlt := s.oseq.toNat_lt
    have hsum : w.tcp.seq.toNat =
        (s.oseq.toNat + s.request.len) % 2 ^ 32 := by
      rw [hfull, UInt32.toNat_add, UInt32.toNat_ofNat',
        Nat.mod_eq_of_lt (by omega : s.request.len < 2 ^ 32)]
    show w.tcp.seq.toNat = firstSeq + stream.length
    rw [hstream, List.length_append, hlen]
    -- the numbers do not go down, so the sum has not passed 2^32
    change s.oseq.toNat ≤ w.tcp.seq.toNat at hup'
    omega
  · intro s' hs'
    cases hs'

theorem Agrees.takes {stream got : List UInt8} {c : Client σ}
    {t : Transmission} (h : Agrees stream c got) (ht : t ∈ c.world.sent) :
    Agrees stream c (takeSegment got t) := by
  have hlen := (reassemble_grows got
    (readBE (field t.packet 24 4) - firstSeq) (t.packet.drop 40)).length_le
  refine ⟨h.room, ?_, ?_, h.sent, h.idle, h.waits⟩
  · have hhad := h.had
    show _ ≤ firstSeq + (reassemble got _ _).length
    omega
  · exact PieceAt.reassemble (h.sent t ht) h.part

/-!
## Whole runs
-/

theorem Client.Step.pktSize {L : Link P σ} {c c' : Client σ} {m : Move}
    (h : Client.Step L c m c') :
    c'.world.tcp.ip.pktSize = c.world.tcp.ip.pktSize := by
  cases h with
  | heard _ hstep he => exact (hstep.seq_cases he).right.left
  | acks => rfl
  | begins => rfl
  | repeats => rfl
  | ends => rfl

/-- One move of the client; what it asks to be sent is put behind the stream. -/
theorem Agrees.moves {L : Link P σ} {stream got : List UInt8}
    {c c1 : Client σ} {m : Move} (h : Agrees stream c got)
    (hstep : Client.Step L c m c1) (htruth : SaysTruth c.world.tcp got m)
    (hfull : AckedInFull c m c1)
    (hfits : forall r, r ∈ requests [(m, c1)] ->
      r.Fits c.world.tcp.ip.pktSize.toNat) :
    Agrees (stream ++ said [(m, c1)]) c1 got := by
  cases hstep with
  | heard waiting hstep he =>
      show Agrees (stream ++ []) _ got
      rw [List.append_nil]
      exact h.heard hstep he htruth
  | acks w waiting r hlen =>
      show Agrees (stream ++ []) _ got
      rw [List.append_nil]
      exact h.acks hlen
  | begins w r hlen =>
      show Agrees (stream ++ (r.bytes ++ [])) _ got
      rw [List.append_nil]
      exact h.begins (hfits r List.mem_cons_self)
  | repeats w s hwait =>
      show Agrees (stream ++ []) _ got
      rw [List.append_nil]
      exact h.repeats hwait
  | ends w s =>
      show Agrees (stream ++ []) _ got
      rw [List.append_nil]
      exact h.ends (hfull s rfl)

theorem said_cons (x : Move × Client σ) (run : List (Move × Client σ)) :
    said (x :: run) = said [x] ++ said run := by
  rw [said, said, said, ← List.flatMap_append, ← requests_append]
  rfl

theorem Peered.agrees {L : Link P σ} {c c' : Client σ} {got got' : List UInt8}
    {run : List (Move × Client σ)} (h : Peered L c got run c' got') :
    forall {stream : List UInt8}, Agrees stream c got ->
      (forall r, r ∈ requests run ->
        r.Fits c.world.tcp.ip.pktSize.toNat) ->
      EachStep AckedInFull c run -> Agrees (stream ++ said run) c' got' := by
  induction h with
  | nil c got =>
      intro stream hagree _ _
      show Agrees (stream ++ []) c got
      rw [List.append_nil]
      exact hagree
  | takes t ht _ ih =>
      intro stream hagree hfits hfull
      exact ih (hagree.takes ht) hfits hfull
  | @moves c c1 c' m got got' run hstep htruth _ ih =>
      intro stream hagree hfits hfull
      have hsplit : requests ((m, c1) :: run) =
          requests [(m, c1)] ++ requests run :=
        requests_append [(m, c1)] run
      rw [hsplit] at hfits
      have hnext := hagree.moves hstep htruth hfull.left
        (fun r hr => hfits r (List.mem_append_left _ hr))
      rw [said_cons, ← List.append_assoc]
      refine ih hnext ?_ hfull.right
      intro r hr
      rw [hstep.pktSize]
      exact hfits r (List.mem_append_right _ hr)

/-- Behind `tcp_connect` nothing has been said. -/
theorem agrees_connected {L : Link P σ} {fuel : Nat}
    {register : Nat -> UInt8} {w w0 : World σ}
    (hconnect : tcpConnect L fuel register w = (some 0, w0))
    (hsent : w.sent = []) (hroom : 40 ≤ w.tcp.ip.pktSize.toNat) :
    Agrees [] (Client.idle w0) [] ∧
      w0.tcp.ip.pktSize = w.tcp.ip.pktSize := by
  rcases tcpConnect_attempted hconnect with
    ⟨hneg, _⟩ | ⟨_, w1, _, hsize, ⟨_, tcps, hlog, _, hall⟩, hdone⟩
  · exact absurd hneg (by decide)
  have hroom1 : 40 ≤ w1.tcp.ip.pktSize.toNat := by
    rw [hsize]
    exact hroom
  have hseq : w0.tcp.seq.toNat = firstSeq := by
    rw [hdone.seq_eq]
    rfl
  have hempty : forall tcp window, 40 ≤ tcp.ip.pktSize.toNat ->
      (segmentOf tcp { len := 0, data := none, window := window }).PartOf
        [] :=
    fun _ _ hfit => segmentOf_empty_partOf rfl hfit []
  have hearlier : forall t, t ∈ w1.sent -> t.PartOf [] := by
    intro t ht
    rw [hlog, hsent, List.nil_append] at ht
    rcases List.mem_map.mp ht with ⟨tcp, htcp, rfl⟩
    have hfit := (hall tcp htcp).right
    exact hempty tcp 1 (by rw [hfit]; exact hroom)
  cases hdone with
  | @intro bs line hrecv hsyn =>
      refine ⟨⟨hroom1, Nat.le_of_eq hseq, List.prefix_rfl, ?_,
        fun _ => hseq, fun s hs => (by cases hs)⟩, hsize⟩
      intro t ht
      rcases mem_transmit_sent
          (r := { len := 0, data := none, window := 0 }) ht with hold | rfl
      · rcases mem_transmit_sent
            (r := { len := 0, data := none, window := 1 }) hold with hold | rfl
        · exact hearlier t hold
        · exact hempty w1.tcp 1 hroom1
      · exact hempty _ 0 hroom1

/-- In every run of a client behind `tcp_connect`, beside any peer, the peer
holds a part of what has been said, and all of it when no call is waiting: as
long as each call that returns has been acknowledged in full. -/
theorem peer_has_what_was_said {L : Link P σ} {fuel : Nat}
    {register : Nat -> UInt8} {w w0 : World σ}
    (hconnect : tcpConnect L fuel register w = (some 0, w0))
    (hsent : w.sent = []) (hroom : 40 ≤ w.tcp.ip.pktSize.toNat)
    {run : List (Move × Client σ)} {c' : Client σ} {got : List UInt8}
    (hrun : Peered L (Client.idle w0) [] run c' got)
    (hfits : forall r, r ∈ requests run -> r.Fits w.tcp.ip.pktSize.toNat)
    (hfull : EachStep AckedInFull (Client.idle w0) run) :
    got <+: said run ∧
      c'.world.tcp.seq.toNat ≤ firstSeq + got.length ∧
        (c'.sending = none -> got = said run) := by
  rcases agrees_connected hconnect hsent hroom with ⟨hstart, hsize⟩
  have hend := hrun.agrees hstart
    (fun r hr => by
      show r.Fits w0.tcp.ip.pktSize.toNat
      rw [hsize]
      exact hfits r hr)
    hfull
  rw [List.nil_append] at hend
  exact ⟨hend.part, hend.had, hend.all⟩

/-- A call of `tcp_send` and its return, with the answer of the peer between
them. -/
def oneCall (w : World Script) (r : Request) (bs : List UInt8)
    (line : Script) : List (Move × Client Script) :=
  let begun := w.transmit r.len r.data r.window
  let waits : Sending := ⟨r, w.tcp.seq, false⟩
  [(.begins r, ⟨begun, some waits⟩),
    (.heard (.packet bs),
      ⟨begun.acked bs line,
        some (waits.answer (EndsWait begun.tcp (.packet bs)))⟩),
    (.ends, ⟨begun.acked bs line, none⟩)]

section OneCall

variable (w : World Script) (r : Request) (bs : List UInt8) (line : Script)

/-- The peer takes the segment and answers with a bare acknowledgement. -/
theorem peered_oneCall (hlen : 0 < r.len) (hline : w.line = some bs :: line)
    (hfit : bs.length ≤ (w.transmit r.len r.data r.window).tcp.ip.pktSize.toNat)
    (htaken : TakenIn (w.transmit r.len r.data r.window).tcp bs)
    (hbare : ¬ FreshData (w.transmit r.len r.data r.window).tcp bs)
    (hheader : WellFormedHeader bs)
    (hack : (packetAck bs).toNat ≤
      firstSeq + (takeSegment [] (segmentOf w.tcp r)).length) :
    Peered (scriptLink P) (Client.idle w) [] (oneCall w r bs line)
      (Client.idle ((w.transmit r.len r.data r.window).acked bs line))
      (takeSegment [] (segmentOf w.tcp r)) := by
  have hdeliver : Delivers (scriptLink P) 5
      (w.transmit r.len r.data r.window) bs line :=
    delivers_of_script 5 hfit hline
  exact Peered.moves (.begins w r hlen) trivial
    (Peered.takes (segmentOf w.tcp r)
      (List.mem_append_right _ List.mem_cons_self)
      (Peered.moves
        (.heard (some ⟨r, w.tcp.seq, false⟩) (.acked hdeliver htaken hbare)
          (fun he => Event.noConfusion he))
        (fun _ => ⟨hheader, hack⟩)
        (Peered.moves (.ends _ _) trivial (.nil _ _))))

theorem ackedInFull_oneCall
    (hseq : ((w.transmit r.len r.data r.window).acked bs line).tcp.seq =
      w.tcp.seq + UInt32.ofNat r.len) :
    EachStep AckedInFull (Client.idle w) (oneCall w r bs line) := by
  refine ⟨trivial, trivial, ?_, trivial⟩
  intro s hs
  cases hs
  exact hseq

variable {line} in
/-- In front of a run the client hears nothing `k` times. -/
theorem peered_silent (k : Nat) {got got' : List UInt8} {c' : Client Script}
    {run : List (Move × Client Script)} :
    forall {w : World Script}, w.line = List.replicate k none ++ line ->
      Peered (scriptLink P) (Client.idle { w with line := line }) got run c'
          got' ->
        EachStep AckedInFull (Client.idle { w with line := line }) run ->
          exists run' : List (Move × Client Script),
            Peered (scriptLink P) (Client.idle w) got run' c' got' ∧
              requests run' = requests run ∧
              EachStep AckedInFull (Client.idle w) run' := by
  induction k with
  | zero =>
      intro w hline hrun hfull
      have hsame : { w with line := line } = w := by
        rw [← (show w.line = line from hline)]
      rw [hsame] at hrun hfull
      exact ⟨run, hrun, rfl, hfull⟩
  | succ k ih =>
      intro w hline hrun hfull
      have hmore : w.line = none :: (List.replicate k none ++ line) := hline
      rcases ih (w := { w with line := List.replicate k none ++ line }) rfl
          hrun hfull with ⟨run', hrun', hasked, hfull'⟩
      have hrecv : (scriptLink P).recvPacket w.tcp.ip.pkt 5 w.line =
          some (-(P.eagain : Int), w.tcp.ip.pkt,
            List.replicate k none ++ line) := by
        rw [hmore]
        rfl
      exact ⟨_, .moves (.heard none (.timeout hrecv)
        (fun he => Event.noConfusion he)) trivial hrun', hasked, trivial,
        hfull'⟩

end OneCall

/-- A connection on which the peer will acknowledge one byte. -/
def ackingOne : World Script :=
  (attempt [some (peerSynAck 7), some (peerSegment 8 3 [])]).2

def oneByte : Request where
  len := 1
  data := some ⟨[0x41], rfl⟩
  window := 0

theorem peer_has_what_was_said_one_byte :
    exists (run : List (Move × Client Script)) (c' : Client Script)
        (got : List UInt8),
      Peered (scriptLink Platform.spectrum) (Client.idle ackingOne) [] run c'
          got ∧
        said run = [0x41] ∧ c'.sending = none ∧
          got <+: said run ∧
            c'.world.tcp.seq.toNat ≤ firstSeq + got.length ∧
              (c'.sending = none -> got = said run) := by
  have hconnect : tcpConnect (scriptLink Platform.spectrum) 12 (fun _ => 0)
      { tcp := TcpContext.loopback 0 0
        line := [some (peerSynAck 7), some (peerSegment 8 3 [])]
        sent := [] } = (some 0, ackingOne) :=
    Prod.ext (by decide +kernel) rfl
  have hrun : Peered (scriptLink Platform.spectrum) (Client.idle ackingOne) []
      (oneCall ackingOne oneByte (peerSegment 8 3 []) []) _ _ :=
    peered_oneCall ackingOne oneByte (peerSegment 8 3 []) [] (by decide)
      (by decide +kernel) (by decide +kernel) (by decide +kernel)
      (fun h => absurd h.left (by decide +kernel))
      (peerSegment_header 8 3 (Nat.zero_le 24)) (by decide +kernel)
  refine ⟨_, _, _, hrun, rfl, rfl, ?_⟩
  refine peer_has_what_was_said hconnect rfl (by decide) hrun ?_
    (ackedInFull_oneCall _ _ _ _ (by decide +kernel))
  intro r hr
  rw [List.mem_singleton.mp hr]
  exact ⟨rfl, by decide⟩

end Tcp
end Z80Tcpip
