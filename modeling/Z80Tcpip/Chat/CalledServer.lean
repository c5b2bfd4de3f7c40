import Z80Tcpip.Chat.LinesArrive
import Z80Tcpip.Chat.ServerAsked
import Z80Tcpip.Polling.WindowFlag

/-!
# tcp_chat.c over tcp.c

From its first question on: the server that the keys name is called over the
stack, and the lines that are typed behind them reach it.
-/

namespace Z80Tcpip
namespace Chat

open Foundation
open Foundation.Program
open Client
open Tcp

variable {ν : Type}

/-- A run in which anything is sent is one of `main` behind a call of the server
that was asked for. -/
theorem ran_called (P : Platform) (N : Network ν) (dial : Dial ν) (net : ν)
    {con : Console} (hidle : Idle con) (keys : List UInt16) :
    payloadsOf (ran P N dial net con keys).trace = [] ∨
      exists (server : Server) (rest : List UInt16) (rc : Int) (y : ν)
        (con' : Console), ServerAsked keys server rest ∧
          dial server net = (some rc, y) ∧ 0 ≤ rc ∧
            ran P N dial net con keys = ranMain P N y con' rest := by
  have hasked := askServer_answers keys con hidle
  rcases hask : askServer keys con with ⟨_ | ⟨server, rest⟩, con'⟩
  · left
    rw [ran, program, bind_none (onConsole_start hask net)]
    rfl
  rw [hask] at hasked
  rcases hasked with ⟨_, hasked⟩
  let connected : Int -> Program (Session State ν) Bool := fun rc =>
    if rc < 0 then do
      onConsole (printText
        (ascii "Failed to connect: " ++ ascii (toString rc) ++ [10]))
      pure false
    else main P N rest
  have hran : ran P N dial net con keys =
      ((onNet (dial server) >>= connected)
        (Session.start (State.initial con') net)).2 :=
    congrArg Prod.snd (bind_some (onConsole_start hask net) _)
  rcases hdial : dial server net with ⟨_ | rc, y⟩
  · left
    rw [hran, bind_none (onNet_start hdial _)]
    rfl
  rw [bind_some (onNet_start hdial _)] at hran
  by_cases hrc : rc < 0
  · left
    have hfailed : connected rc = (do
        onConsole (printText
          (ascii "Failed to connect: " ++ ascii (toString rc) ++ [10]))
        pure false) := if_pos hrc
    rw [hran, hfailed]
    rfl
  · right
    have hconnected : connected rc = main P N rest := if_neg hrc
    rw [hconnected] at hran
    exact ⟨server, rest, rc, y, con', hasked, hdial, Int.not_lt.mp hrc, hran⟩

variable {σ : Type}

/-- Beside any server and over any link: a run in which anything is sent has
called the server that was asked for.  As long as each call that returns has been
acknowledged in full, the server holds a part of the lines that have been entered
behind the questions, and all that were passed to the stack when no call is
waiting. -/
theorem typed_call_reaches_server (P : Platform) (L : Link P σ)
    (fuel fuel' : Nat) (register : Nat -> UInt8) {w : World σ}
    (hsent : w.sent = [])
    (hroom : 40 + (MAX_INPUT + 1) ≤ w.tcp.ip.pktSize.toNat) {con : Console}
    (hidle : con.paramsLeft = 0) (keys : List UInt16)
    (htalk : payloadsOf (ran P (stackNetwork L fuel')
      (stackDial L fuel register) w con keys).trace ≠ []) :
    exists (server : Server) (rest : List UInt16) (w0 : World σ),
      ServerAsked keys server rest ∧
        stackDial L fuel register server w = (some 0, w0) ∧
          exists (run : List (Move × Tcp.Client σ)) (c' : Tcp.Client σ)
              (n : Nat),
            Trace (Tcp.Client.Step L) (Tcp.Client.idle w0) run c' ∧
              c'.world = (ran P (stackNetwork L fuel')
                (stackDial L fuel register) w con keys).net ∧
              requests run =
                ((typed rest).lines.take n).map (asRequest ∘ lineBytes) ∧
              forall got : List UInt8,
                Peered L (Tcp.Client.idle w0) [] run c' got ->
                  EachStep AckedInFull (Tcp.Client.idle w0) run ->
                    got <+: chatStream ((typed rest).lines.take n) ∧
                      (c'.sending = none ->
                        got = chatStream ((typed rest).lines.take n)) := by
  cases ran_called P (stackNetwork L fuel') (stackDial L fuel register) w
    hidle keys with
  | inl hnone => exact absurd hnone htalk
  | inr hmain =>
      rcases hmain with
        ⟨server, rest, rc, w0, con', hasked, hdial, hrc, hran⟩
      have hzero : rc = 0 := tcpConnect_zero hdial hrc
      subst hzero
      have hconn : 1 < w0.tcp.seq := by
        rw [tcpConnect_seq hdial]
        decide
      have hreaches := moved_reaches_typed hdial hsent hroom
        (ranMain_moved P L fuel' hconn con' rest)
        (payloads_typed P (stackNetwork L fuel') w0 con' rest)
      rw [<- hran] at hreaches
      exact ⟨server, rest, w0, hasked, hdial, hreaches⟩

/-- An address, a port and a line. -/
def typedHello : List UInt16 :=
  [0x31, 0x2e, 0x32, 0x2e, 0x33, 0x2e, 0x34, 13, 0x38, 0x30, 13, 0x61, 13]

/-- A server at 1.2.3.4 that answers the SYN and, after four reads in vain,
acknowledges the line `a`. -/
def hearingA : World Script :=
  Polling.dialling [some serverSyn, none, none, none, none,
    some (serverAck 2)]

/-- The connection behind `tcp_connect`. -/
def calledA : World Script :=
  (stackDial (scriptLink Platform.spectrum) 12 (fun _ => 0)
    ⟨[1, 2, 3, 4], 80⟩ hearingA).2

/-- The chat on it. -/
def chatA : Session State (World Script) :=
  ran Platform.spectrum (stackNetwork (scriptLink Platform.spectrum) 40)
    (stackDial (scriptLink Platform.spectrum) 12 (fun _ => 0)) hearingA
    Console.blank typedHello

/-- The connection behind the poll that the letter is followed by. -/
def polledA : World Script :=
  { calledA.transmit 0 none RX_WINDOW with
    line := [none, none, none, some (serverAck 2)] }

/-- The connection when the line is sent: the window has been closed and nothing
has come in. -/
def drainedA : World Script :=
  { polledA.transmit 0 none 0 with line := [some (serverAck 2)] }

/-- The server takes the line in full. -/
theorem peered_lineA :
    exists (run : List (Move × Tcp.Client Script)) (c' : Tcp.Client Script),
      Peered (scriptLink Platform.spectrum) (Tcp.Client.idle calledA) [] run
          c' (chatStream [[0x61]]) ∧
        requests run = [[0x61]].map (asRequest ∘ lineBytes) ∧
        EachStep AckedInFull (Tcp.Client.idle calledA) run ∧
        c'.sending = none ∧
        c'.world.sent.map Transmission.packet <+:
          chatA.net.sent.map Transmission.packet := by
  have hgot : takeSegment [] (segmentOf drainedA.tcp
      (asRequest (lineBytes [0x61]))) = chatStream [[0x61]] := by
    decide +kernel
  have hheader : WellFormedHeader (serverAck 2) :=
    ⟨5, by decide, by decide, by decide +kernel, by decide +kernel⟩
  have hcall := peered_oneCall (P := Platform.spectrum) drainedA
    (asRequest (lineBytes [0x61])) (serverAck 2) [] (by decide) rfl
    (by decide +kernel) (by decide +kernel)
    (fun h => absurd h.left (by decide +kernel)) hheader (by decide +kernel)
  rw [hgot] at hcall
  have hfull := ackedInFull_oneCall drainedA (asRequest (lineBytes [0x61]))
    (serverAck 2) [] (by decide +kernel)
  rcases peered_silent (w := polledA.transmit 0 none 0) 3 rfl hcall hfull with
    ⟨run, hrun, hasked, hfull'⟩
  have hdrained : Peered (scriptLink Platform.spectrum)
      (Tcp.Client.idle polledA) [] _ _ _ :=
    .moves (.acks polledA none ⟨0, none, 0⟩ rfl) trivial hrun
  rcases peered_silent (w := calledA.transmit 0 none RX_WINDOW) 1
    (by decide +kernel) hdrained ⟨trivial, hfull'⟩ with
    ⟨run', hrun', hasked', hfull''⟩
  exact ⟨_, _,
    .moves (.acks calledA none ⟨0, none, RX_WINDOW⟩ rfl) trivial hrun',
    hasked'.trans hasked, ⟨trivial, hfull''⟩, rfl, by decide +kernel⟩

theorem typed_call_reaches_server_once :
    (exists (server : Server) (rest : List UInt16) (w0 : World Script),
      ServerAsked typedHello server rest ∧
        stackDial (scriptLink Platform.spectrum) 12 (fun _ => 0) server
          hearingA = (some 0, w0) ∧
          exists (run : List (Move × Tcp.Client Script))
              (c' : Tcp.Client Script) (n : Nat),
            Trace (Tcp.Client.Step (scriptLink Platform.spectrum))
                (Tcp.Client.idle w0) run c' ∧
              c'.world = chatA.net ∧
              requests run =
                ((typed rest).lines.take n).map (asRequest ∘ lineBytes) ∧
              forall got : List UInt8,
                Peered (scriptLink Platform.spectrum) (Tcp.Client.idle w0) []
                    run c' got ->
                  EachStep AckedInFull (Tcp.Client.idle w0) run ->
                    got <+: chatStream ((typed rest).lines.take n) ∧
                      (c'.sending = none ->
                        got = chatStream ((typed rest).lines.take n))) ∧
      stackDial (scriptLink Platform.spectrum) 12 (fun _ => 0)
          ⟨[1, 2, 3, 4], 80⟩ hearingA = (some 0, calledA) ∧
        exists (run : List (Move × Tcp.Client Script))
            (c' : Tcp.Client Script),
          Peered (scriptLink Platform.spectrum) (Tcp.Client.idle calledA) []
              run c' (chatStream [[0x61]]) ∧
            requests run = [[0x61]].map (asRequest ∘ lineBytes) ∧
            EachStep AckedInFull (Tcp.Client.idle calledA) run ∧
            c'.sending = none ∧
            c'.world.sent.map Transmission.packet <+:
              chatA.net.sent.map Transmission.packet := by
  have hroom : 40 + (MAX_INPUT + 1) ≤ hearingA.tcp.ip.pktSize.toNat := by
    decide
  have hidle : Console.blank.paramsLeft = 0 := rfl
  have htalk : payloadsOf chatA.trace ≠ [] := by
    decide +kernel
  exact ⟨typed_call_reaches_server _ _ _ _ _ rfl hroom hidle typedHello
    htalk, Prod.ext (by decide +kernel) rfl, peered_lineA⟩

end Chat
end Z80Tcpip
