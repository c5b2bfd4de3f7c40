import Z80Tcpip.Irc.Questions

/-!
# irc.c over tcp.c

From its first question on: the server that the keys name is called over the
stack, and what is sent on the connection reaches it.
-/

namespace Z80Tcpip
namespace Irc

open Foundation
open Client
open Tcp
open Polling

variable {σ : Type}

/-- Beside any server and over any link: a run in which anything is sent has
called the server that was asked for, and the first that is sent registers the
nick that was typed.  As long as each call that returns has been acknowledged in
full, the server holds a part of what was sent, and all that has been asked for
when no call is waiting. -/
theorem typed_session_reaches_server (P : Platform) (L : Link P σ)
    (fuel fuel' : Nat) (register : Nat -> UInt8) {w : World σ}
    (hsent : w.sent = []) (hroom : 40 + OUT_LINE ≤ w.tcp.ip.pktSize.toNat)
    {con : Console} (hidle : con.paramsLeft = 0) (keys : List UInt16)
    {first : List UInt8} {more : List (List UInt8)}
    (htalk : payloadsOf (ran P (stackNetwork L fuel')
      (stackDial L fuel register) w con keys).trace = first :: more) :
    exists (asked : Asked) (rest : List UInt16) (w0 : World σ),
      AskedFor keys asked rest ∧
        stackDial L fuel register asked.server w = (some 0, w0) ∧
          first = registering asked.nick ∧
            exists (run : List (Move × Tcp.Client σ)) (c' : Tcp.Client σ)
                (n : Nat),
              Trace (Tcp.Client.Step L) (Tcp.Client.idle w0) run c' ∧
                c'.world = (ran P (stackNetwork L fuel')
                  (stackDial L fuel register) w con keys).net ∧
                requests run = ((first :: more).take n).map asRequest ∧
                forall got : List UInt8,
                  Peered L (Tcp.Client.idle w0) [] run c' got ->
                    EachStep AckedInFull (Tcp.Client.idle w0) run ->
                      got <+: ((first :: more).take n).flatten ∧
                        (c'.sending = none ->
                          got = ((first :: more).take n).flatten) := by
  cases ran_prompted P (stackNetwork L fuel') (stackDial L fuel register) w
    hidle keys with
  | inl hnone =>
      rw [hnone] at htalk
      cases htalk
  | inr hmain =>
      rcases hmain with ⟨asked, rest, nickKeys, chanKeys, rc, w0, con',
        hasked, hdial, hrc, hnick, _, hran⟩
      have hzero : rc = 0 := tcpConnect_zero hdial hrc
      subst hzero
      have hbegun := begun_ranMain P (stackNetwork L fuel') w0 con' nickKeys
        chanKeys rest
      have hconn : 1 < w0.tcp.seq := by
        rw [tcpConnect_seq hdial]
        decide
      have hmoved := ranMain_moved P L fuel' hconn con' nickKeys chanKeys rest
      have hreaches := hmoved.reaches hdial hsent
        (Nat.le_trans (Nat.le_add_right 40 OUT_LINE) hroom)
        (fun bytes hbytes => Nat.le_trans
          (Nat.add_le_add_left (hbegun.shaped bytes hbytes).right 40) hroom)
      rw [<- hran] at hbegun hreaches
      rw [htalk] at hreaches
      exact ⟨asked, rest, w0, hasked, hdial,
        (hbegun.first_eq htalk).trans (registration_nick hnick), hreaches⟩

/-- An address, a port, a nick and no channel. -/
def typedSession : List UInt16 :=
  [0x31, 0x2e, 0x32, 0x2e, 0x33, 0x2e, 0x34, 13, 0x38, 0x30, 13, 0x61, 13, 13]

/-- A server at 1.2.3.4 that answers the SYN and, after three reads in vain,
acknowledges the registration of `a`. -/
def registeringA : World Script :=
  dialling [some serverSyn, none, none, none, some (serverAck 23)]

/-- The connection behind `tcp_connect`. -/
def dialledA : World Script :=
  (stackDial (scriptLink Platform.spectrum) 12 (fun _ => 0)
    ⟨[1, 2, 3, 4], 80⟩ registeringA).2

/-- The session on it. -/
def sessionA : Session State (World Script) :=
  ran Platform.spectrum (stackNetwork (scriptLink Platform.spectrum) 40)
    (stackDial (scriptLink Platform.spectrum) 12 (fun _ => 0)) registeringA
    Console.blank typedSession

/-- The connection when the registration is sent: the window has been closed and
nothing has come in. -/
def drainedA : World Script :=
  { dialledA.transmit 0 none 0 with line := [some (serverAck 23)] }

/-- The server takes the registration in full. -/
theorem peered_registrationA :
    exists (run : List (Move × Tcp.Client Script)) (c' : Tcp.Client Script),
      Peered (scriptLink Platform.spectrum) (Tcp.Client.idle dialledA) [] run
          c' (registering (ascii "a")) ∧
        requests run = [registering (ascii "a")].map asRequest ∧
        EachStep AckedInFull (Tcp.Client.idle dialledA) run ∧
        c'.sending = none ∧ c'.world.line = sessionA.net.line ∧
        c'.world.sent.map Transmission.packet =
          sessionA.net.sent.map Transmission.packet := by
  have hgot : takeSegment [] (segmentOf drainedA.tcp
      (asRequest (registering (ascii "a")))) = registering (ascii "a") := by
    decide +kernel
  have hheader : WellFormedHeader (serverAck 23) :=
    ⟨5, by decide, by decide, by decide +kernel, by decide +kernel⟩
  have hcall := peered_oneCall (P := Platform.spectrum) drainedA
    (asRequest (registering (ascii "a"))) (serverAck 23) []
    (by decide +kernel) rfl (by decide +kernel) (by decide +kernel)
    (fun h => absurd h.left (by decide +kernel)) hheader (by decide +kernel)
  rw [hgot] at hcall
  have hfull := ackedInFull_oneCall drainedA
    (asRequest (registering (ascii "a"))) (serverAck 23) []
    (by decide +kernel)
  rcases peered_silent (w := dialledA.transmit 0 none 0) 3
    (by decide +kernel) hcall hfull with ⟨run, hrun, hasked, hfull'⟩
  exact ⟨_, _, .moves (.acks dialledA none ⟨0, none, 0⟩ rfl) trivial hrun,
    hasked, ⟨trivial, hfull'⟩, rfl, by decide +kernel, by decide +kernel⟩

theorem typed_session_reaches_server_once :
    (exists (asked : Asked) (rest : List UInt16) (w0 : World Script),
      AskedFor typedSession asked rest ∧
        stackDial (scriptLink Platform.spectrum) 12 (fun _ => 0) asked.server
          registeringA = (some 0, w0) ∧
          registering (ascii "a") = registering asked.nick ∧
            exists (run : List (Move × Tcp.Client Script))
                (c' : Tcp.Client Script) (n : Nat),
              Trace (Tcp.Client.Step (scriptLink Platform.spectrum))
                  (Tcp.Client.idle w0) run c' ∧
                c'.world = sessionA.net ∧
                requests run =
                  ([registering (ascii "a")].take n).map asRequest ∧
                forall got : List UInt8,
                  Peered (scriptLink Platform.spectrum) (Tcp.Client.idle w0) []
                      run c' got ->
                    EachStep AckedInFull (Tcp.Client.idle w0) run ->
                      got <+: ([registering (ascii "a")].take n).flatten ∧
                        (c'.sending = none ->
                          got =
                            ([registering (ascii "a")].take n).flatten)) ∧
      stackDial (scriptLink Platform.spectrum) 12 (fun _ => 0)
          ⟨[1, 2, 3, 4], 80⟩ registeringA = (some 0, dialledA) ∧
        exists (run : List (Move × Tcp.Client Script))
            (c' : Tcp.Client Script),
          Peered (scriptLink Platform.spectrum) (Tcp.Client.idle dialledA) []
              run c' (registering (ascii "a")) ∧
            requests run = [registering (ascii "a")].map asRequest ∧
            EachStep AckedInFull (Tcp.Client.idle dialledA) run ∧
            c'.sending = none ∧ c'.world.line = sessionA.net.line ∧
            c'.world.sent.map Transmission.packet =
              sessionA.net.sent.map Transmission.packet := by
  have hroom : 40 + OUT_LINE ≤ registeringA.tcp.ip.pktSize.toNat := by
    decide
  have hidle : Console.blank.paramsLeft = 0 := rfl
  have htalk : payloadsOf sessionA.trace = [registering (ascii "a")] := by
    decide +kernel
  exact ⟨typed_session_reaches_server _ _ _ _ _ rfl hroom hidle typedSession
    htalk, Prod.ext (by decide +kernel) rfl, peered_registrationA⟩

end Irc
end Z80Tcpip
