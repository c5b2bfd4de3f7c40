import Z80Tcpip.Chat.TypedLines

/-!
# From the keyboard to the peer

tcp_chat.c over tcp.c, beside any peer: what the peer holds is what has been
typed, line by line.
-/

namespace Z80Tcpip
namespace Chat

open Foundation
open Client
open Program
open Tcp

variable {ν : Type} {P : Platform} {N : Network ν}
  {I S : Session State ν -> Prop}

/-- tcp_chat.c reaches the connection only through the functions that the
clients share. -/
theorem wireInvariant_upholds (P : Platform) (h : WireInvariant N I S)
    (hsend : forall (origin : Origin) (pieces : List (List UInt8))
      {bytes : List UInt8}, bytes ≠ [] ->
        Ensures I (sendData N origin pieces bytes) (fun _ => I) S) :
    Upholds P N I S where
  poll := h.pollNet app P
  returned := h.returned
  edit := fun _ _ hc => h.app _ hc
  send := by
    have hfailed : forall rc : Int,
        Ensures I (reportFailure rc) (fun _ => I) S := by
      intro rc
      unfold reportFailure
      split_ifs
      · exact h.modifyApp _
      · exact ensures_pure (fun _ hc => hc)
    refine ensures_bind (h.drain app) (fun _ => ?_)
    apply ensures_get_bind
    intro c hc
    have hline := hsend .typed [c.app.screen.input, [10]]
      (List.append_ne_nil_of_right_ne_nil c.app.screen.input
        (List.cons_ne_nil 10 []))
    exact ensures_bind hline
      (fun rc => ensures_bind (h.modifyApp echo)
        (fun _ => ensures_bind (hfailed rc)
          (fun _ => h.returned .send))) c hc

variable {σ : Type}

theorem ranMain_moved (P : Platform) (L : Link P σ) (fuel : Nat)
    {w0 : World σ} (hconn : 1 < w0.tcp.seq) (con : Console)
    (keys : List UInt16) :
    MovedUntil L w0 (ranMain P (stackNetwork L fuel) w0 con keys) := by
  have hupholds := wireInvariant_upholds P
    (moved_wireInvariant (α := State) L w0 fuel)
    (fun origin pieces _ hbytes =>
      moved_sendData L w0 fuel origin pieces hbytes)
  have hstart : forall s : State,
      Moved L w0 { Session.start (State.initial con) w0 with app := s } :=
    fun s => (moved_wireInvariant L w0 fuel).app s (Moved.start hconn)
  have hrun := hupholds.main keys
    (c := Session.start (State.initial con) w0) (hstart _)
  unfold ranMain
  rcases hmain : main P (stackNetwork L fuel) keys
    (Session.start (State.initial con) w0) with ⟨_ | running, c⟩
  · rw [hmain] at hrun
    exact hrun
  · rw [hmain] at hrun
    exact hrun.until

/-!
## The lines at the peer
-/

/-- The lines one behind the other, each with its LF. -/
def chatStream (lines : List (List UInt8)) : List UInt8 :=
  lines.flatMap lineBytes

/-- A session that has passed the first of the typed lines to the stack. -/
theorem moved_reaches_typed {L : Link P σ} {fuel : Nat}
    {register : Nat -> UInt8} {w w0 : World σ}
    (hconnect : tcpConnect L fuel register w = (some 0, w0))
    (hsent : w.sent = [])
    (hroom : 40 + (MAX_INPUT + 1) ≤ w.tcp.ip.pktSize.toNat)
    {c : Session State (World σ)} (hmoved : MovedUntil L w0 c)
    {keys : List UInt16}
    (htyped : payloadsOf c.trace <+: (typed keys).lines.map lineBytes) :
    exists (run : List (Move × Tcp.Client σ)) (c' : Tcp.Client σ) (n : Nat),
      Trace (Tcp.Client.Step L) (Tcp.Client.idle w0) run c' ∧
        c'.world = c.net ∧
          requests run =
              ((typed keys).lines.take n).map (asRequest ∘ lineBytes) ∧
            forall got : List UInt8,
              Peered L (Tcp.Client.idle w0) [] run c' got ->
                EachStep AckedInFull (Tcp.Client.idle w0) run ->
                  got <+: chatStream ((typed keys).lines.take n) ∧
                    (c'.sending = none ->
                      got = chatStream ((typed keys).lines.take n)) := by
  have hfit : forall bytes, bytes ∈ payloadsOf c.trace ->
      40 + bytes.length ≤ w.tcp.ip.pktSize.toNat := by
    intro bytes hbytes
    have hlen := typed_length keys (htyped.subset hbytes)
    omega
  rcases hmoved.reaches hconnect hsent (by omega) hfit with
    ⟨run, c', n, hrun, hworld, hasked, hpeer⟩
  have hfirst := List.prefix_iff_eq_take.mp
    ((List.take_prefix n _).trans htyped)
  rcases (⟨_, hfirst⟩ : exists m, _ = List.take m _) with ⟨m, hlines⟩
  rw [<- List.map_take] at hlines
  rw [hlines, <- List.flatMap_def] at hpeer
  refine ⟨run, c', m, hrun, hworld, ?_, hpeer⟩
  rw [hasked, hlines, List.map_map]

/-- For every way the keys are typed, the stack is asked for the first of the
lines that are entered.  Beside any peer, as long as each call that returns has
been acknowledged in full, the peer holds a part of them, and all of them when no
call is waiting. -/
theorem typed_lines_reach_peer (L : Link P σ) (fuel fuel' : Nat)
    (register : Nat -> UInt8) {w w0 : World σ}
    (hconnect : tcpConnect L fuel register w = (some 0, w0))
    (hsent : w.sent = [])
    (hroom : 40 + (MAX_INPUT + 1) ≤ w.tcp.ip.pktSize.toNat)
    (con : Console) (keys : List UInt16) :
    exists (run : List (Move × Tcp.Client σ)) (c' : Tcp.Client σ) (n : Nat),
      Trace (Tcp.Client.Step L) (Tcp.Client.idle w0) run c' ∧
        c'.world = (ranMain P (stackNetwork L fuel') w0 con keys).net ∧
          requests run =
              ((typed keys).lines.take n).map (asRequest ∘ lineBytes) ∧
            forall got : List UInt8,
              Peered L (Tcp.Client.idle w0) [] run c' got ->
                EachStep AckedInFull (Tcp.Client.idle w0) run ->
                  got <+: chatStream ((typed keys).lines.take n) ∧
                    (c'.sending = none ->
                      got = chatStream ((typed keys).lines.take n)) := by
  have hconn : 1 < w0.tcp.seq := by
    rw [tcpConnect_seq hconnect]
    decide
  exact moved_reaches_typed hconnect hsent hroom
    (ranMain_moved P L fuel' hconn con keys)
    (payloads_typed P (stackNetwork L fuel') w0 con keys)

/-- One line is typed on a connection that the peer has answered. -/
theorem typed_lines_reach_peer_hi :
    exists w0 : World Script,
      tcpConnect (scriptLink Platform.spectrum) 12 (fun _ => 0)
          (Polling.dialling [some (peerSegment 1 2 [])]) = (some 0, w0) ∧
        exists (run : List (Move × Tcp.Client Script))
            (c' : Tcp.Client Script) (n : Nat),
          Trace (Tcp.Client.Step (scriptLink Platform.spectrum))
              (Tcp.Client.idle w0) run c' ∧
            c'.world = (ranMain Platform.spectrum
              (stackNetwork (scriptLink Platform.spectrum) 40) w0
              Console.blank [0x68, 0x69, 13]).net ∧
            requests run =
              ((typed [0x68, 0x69, 13]).lines.take n).map
                (asRequest ∘ lineBytes) ∧
            forall got : List UInt8,
              Peered (scriptLink Platform.spectrum) (Tcp.Client.idle w0) []
                  run c' got ->
                EachStep AckedInFull (Tcp.Client.idle w0) run ->
                  got <+: chatStream ((typed [0x68, 0x69, 13]).lines.take n) ∧
                    (c'.sending = none -> got =
                      chatStream ((typed [0x68, 0x69, 13]).lines.take n)) := by
  have hroom : 40 + (MAX_INPUT + 1) ≤
      (Polling.dialling
        [some (peerSegment 1 2 [])]).tcp.ip.pktSize.toNat := by
    decide
  have hrun : (tcpConnect (scriptLink Platform.spectrum) 12 (fun _ => 0)
      (Polling.dialling [some (peerSegment 1 2 [])])).1 = some 0 := by
    decide +kernel
  rcases hconnect : tcpConnect (scriptLink Platform.spectrum) 12 (fun _ => 0)
    (Polling.dialling [some (peerSegment 1 2 [])]) with ⟨rc, w0⟩
  rw [hconnect] at hrun
  simp only at hrun
  subst hrun
  exact ⟨w0, rfl, typed_lines_reach_peer (scriptLink Platform.spectrum) 12 40
    (fun _ => 0) hconnect rfl hroom Console.blank [0x68, 0x69, 13]⟩

end Chat
end Z80Tcpip
