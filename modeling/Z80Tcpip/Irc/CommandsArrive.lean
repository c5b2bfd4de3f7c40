import Z80Tcpip.Client.Requests
import Z80Tcpip.Irc.SentLines
import Z80Tcpip.Polling.WindowFlag

/-!
# From the commands to the server

irc.c over tcp.c, beside any server: the registration comes first, and what the
server holds is the registration and the commands behind it, one after another.
-/

namespace Z80Tcpip
namespace Irc

open Foundation
open Client
open Program
open Tcp
open Polling

variable {ν : Type} {P : Platform} {N : Network ν}

/-!
## The payloads of a run
-/

/-- A payload ends with a CRLF and has come out of `out[]`. -/
def OutOfLine (bytes : List UInt8) : Prop :=
  CRLF <:+ bytes ∧ bytes.length ≤ OUT_LINE

/-- `NICK` and `USER` as they are sent. -/
def registration (s : State) : List UInt8 :=
  (registerPieces s).flatten ++ CRLF

/-- The registration is the first payload, if there is one. -/
structure Begun (reg : List UInt8) (trace : List (Client.Event State ν)) :
    Prop where
  first : [reg] <+: payloadsOf trace ∨ payloadsOf trace = []
  shaped : forall bytes, bytes ∈ payloadsOf trace -> OutOfLine bytes

/-- The registration has been sent. -/
def Registered (reg : List UInt8) (s : State)
    (trace : List (Client.Event State ν)) : Prop :=
  Fits s ∧ Begun reg trace ∧ [reg] <+: payloadsOf trace

/-- It has been, or it is in `out[]` as the first command. -/
def Registering (reg : List UInt8) (s : State)
    (trace : List (Client.Event State ν)) : Prop :=
  Fits s ∧ Begun reg trace ∧
    ([reg] <+: payloadsOf trace ∨
      payloadsOf trace = [] ∧ s.out ++ CRLF = reg)

theorem Begun.silent {reg : List UInt8}
    {trace : List (Client.Event State ν)} (h : Begun reg trace)
    {e : Client.Event State ν} (he : payloadOf e = none) :
    Begun reg (trace ++ [e]) := by
  have hsame := payloadsOf_silent trace he
  refine ⟨?_, ?_⟩
  · rw [hsame]
    exact h.first
  · rw [hsame]
    exact h.shaped

theorem Registered.silent {reg : List UInt8} {s : State}
    {trace : List (Client.Event State ν)} (h : Registered reg s trace)
    {e : Client.Event State ν} (he : payloadOf e = none) :
    Registered reg s (trace ++ [e]) := by
  refine ⟨h.left, h.right.left.silent he, ?_⟩
  rw [payloadsOf_silent trace he]
  exact h.right.right

theorem Registering.silent {reg : List UInt8} {s : State}
    {trace : List (Client.Event State ν)} (h : Registering reg s trace)
    {e : Client.Event State ν} (he : payloadOf e = none) :
    Registering reg s (trace ++ [e]) := by
  refine ⟨h.left, h.right.left.silent he, ?_⟩
  rw [payloadsOf_silent trace he]
  exact h.right.right

theorem Registered.of_out {reg : List UInt8} {s s' : State}
    {trace : List (Client.Event State ν)} (h : Registered reg s trace)
    (hfits : Fits s') : Registered reg s' trace :=
  ⟨hfits, h.right⟩

theorem Registering.of_out {reg : List UInt8} {s s' : State}
    {trace : List (Client.Event State ν)} (h : Registering reg s trace)
    (hout : s'.out = s.out) : Registering reg s' trace := by
  refine ⟨h.left.of_out hout, h.right.left, ?_⟩
  rw [hout]
  exact h.right.right

theorem registered_app (reg : List UInt8) :
    AppInvariant app (Registered (ν := ν) reg) (fun _ => Begun reg) where
  showData := fun data s _ h =>
    h.of_out (h.left.of_out (showData_undisturbed data s).out)
  logLine := fun text s _ h =>
    h.of_out (h.left.of_out (logEntry_onlyShows [text] s).out)
  shown := fun _ _ _ _ h => h.silent rfl
  hungUp := fun _ _ _ h => h.silent rfl
  stopped := fun h => h.right.left

theorem registering_app (reg : List UInt8) :
    AppInvariant app (Registering (ν := ν) reg) (fun _ => Begun reg) where
  showData := fun data s _ h => h.of_out (showData_undisturbed data s).out
  logLine := fun text s _ h => h.of_out (logEntry_onlyShows [text] s).out
  shown := fun _ _ _ _ h => h.silent rfl
  hungUp := fun _ _ _ h => h.silent rfl
  stopped := fun h => h.right.left

/-- The command in `out[]` becomes a payload. -/
theorem Registering.sent {reg : List UInt8} {s : State}
    {trace : List (Client.Event State ν)} (h : Registering reg s trace)
    (origin : Origin) (pieces : List (List UInt8)) :
    Registered reg { s with out := [] }
      (trace ++ [.payload origin pieces (s.out ++ CRLF)]) := by
  have hpayloads : payloadsOf
      (trace ++ [.payload origin pieces (s.out ++ CRLF)]) =
        payloadsOf trace ++ [s.out ++ CRLF] :=
    payloadsOf_append _ _
  have hfirst : [reg] <+: payloadsOf trace ++ [s.out ++ CRLF] := by
    rcases h.right.right with hsent | ⟨hnone, hout⟩
    · exact hsent.trans (List.prefix_append _ _)
    · rw [hnone, hout, List.nil_append]
  have hshape : OutOfLine (s.out ++ CRLF) := by
    have hfits : s.out.length ≤ OUT_LINE - 2 := h.left
    have hcrlf : CRLF.length = 2 := rfl
    have hmax : OUT_LINE = 256 := rfl
    refine ⟨List.suffix_append _ _, ?_⟩
    rw [List.length_append]
    omega
  refine ⟨Nat.zero_le _, ⟨?_, ?_⟩, ?_⟩
  · rw [hpayloads]
    exact Or.inl hfirst
  · rw [hpayloads]
    intro bytes hbytes
    rcases List.mem_append.mp hbytes with hold | hnew
    · exact h.right.left.shaped bytes hold
    · rw [List.mem_singleton.mp hnew]
      exact hshape
  · rw [hpayloads]
    exact hfirst

theorem Registered.begins {reg : List UInt8} {s s' : State}
    {trace : List (Client.Event State ν)} (h : Registered reg s trace)
    (hfits : Fits s') : Registering reg s' trace :=
  ⟨hfits, h.right.left, Or.inl h.right.right⟩

theorem registered_upholds (P : Platform) (N : Network ν)
    (reg : List UInt8) :
    Upholds P N (On (Registered reg)) (fun _ _ => On (Registering reg))
      (On (fun _ => Begun reg)) where
  poll := (registered_app reg).pollNet N P (fun _ _ _ _ h => h.silent rfl)
  send := fun origin pieces =>
    ensures_oSend N (registered_app reg) (registering_app reg)
      (fun h => h.sent origin pieces) (fun h => h.right.left)
      (fun _ _ _ _ h => h.silent rfl)
  returned := fun call => ensures_modify (fun _ h => Registered.silent h rfl)
  edit := by
    intro k c h
    rcases editKey_eq k c.app with ⟨screen, heq⟩
    refine Registered.of_out h (h.left.of_out ?_)
    rw [heq]
  reply := by
    intro c answer h haction
    have htame := inputAction_tame c.app
    rw [haction] at htame
    exact Registered.of_out h (h.left.of_out (htame c.app).keeps.out)
  typed := by
    intro c pieces before after quits h haction
    have htame := inputAction_tame c.app
    rw [haction] at htame
    rcases htame.left with ⟨chan, _, hbefore⟩
    refine Registered.begins h ?_
    show Fits (before (pieces.foldl oStr c.app))
    rw [hbefore]
    exact (h.left.oStrs pieces).of_out Displays.refl.clear.keeps.out
  after := by
    intro c s pieces before after quits h haction
    have htame := inputAction_tame s
    rw [haction] at htame
    exact Registered.of_out h (h.left.of_out (htame.right c.app).keeps.out)
  quit := fun h => Registered.begins h (h.left.oStrs _)
  pong := fun h _ => Registered.begins h (h.left.oStrs _)
  join := fun h _ _ => Registered.begins h (h.left.oStrs _)
  no_join := fun h => h

/-!
## Runs
-/

/-- The registration fits into `out[]`. -/
theorem registration_built {s : State} (hout : s.out = [])
    (hnick : s.mynick.length ≤ MAX_NICK) :
    ((registerPieces s).foldl oStr s).out ++ CRLF = registration s := by
  have hconst : (ascii "NICK ").length = 5 ∧
      (CRLF ++ ascii "USER ").length = 7 ∧
        (ascii " 0 * :").length = 6 ∧ MAX_NICK = 16 ∧ OUT_LINE = 256 :=
    ⟨rfl, rfl, rfl, rfl, rfl⟩
  have hlength : (registerPieces s).flatten.length ≤ OUT_LINE - 2 := by
    simp only [registerPieces, List.flatten_cons, List.flatten_nil,
      List.length_append, List.length_nil] at hconst ⊢
    omega
  have hroom : s.out.length + (registerPieces s).flatten.length ≤
      OUT_LINE - 2 := by
    rw [hout, List.length_nil, Nat.zero_add]
    exact hlength
  rw [oStrs_fit (registerPieces s) s hroom, hout]
  rfl

theorem registration_congr {s s' : State} (h : s'.mynick = s.mynick) :
    registration s' = registration s := by
  rw [registration, registration, registerPieces, registerPieces, h]

/-- In every run the registration is sent before anything else. -/
theorem begun_ranMain (P : Platform) (N : Network ν) (net : ν)
    (con : Console) (nickKeys chanKeys keys : List UInt16) :
    Begun (registration (State.prompted con nickKeys chanKeys))
      (ranMain P N net con nickKeys chanKeys keys).trace := by
  let start := Session.start (State.prompted con nickKeys chanKeys) net
  have hprompted := wholesome_prompted con nickKeys chanKeys
  have hshows := resetState_onlyShows start.app
  have hnick : (resetSession start).app.mynick =
      (State.prompted con nickKeys chanKeys).mynick :=
    hshows.mynick
  have hout : (resetSession start).app.out = [] := hshows.out
  have hbuilt := registration_built hout
    (by rw [hnick]; exact hprompted.mynick.left)
  rw [registration_congr hnick] at hbuilt
  have hfits : Fits (resetSession start).app := by
    rw [Fits, hout]
    exact Nat.zero_le _
  have hnone : Begun (registration (State.prompted con nickKeys chanKeys))
      ([] : List (Client.Event State ν)) :=
    ⟨Or.inr rfl, fun _ hbytes => (by cases hbytes)⟩
  have hready : Registering
      (registration (State.prompted con nickKeys chanKeys))
      ((registerPieces (resetSession start).app).foldl oStr
        (resetSession start).app) ([] : List (Client.Event State ν)) :=
    ⟨hfits.oStrs _, hnone, Or.inr ⟨rfl, hbuilt⟩⟩
  have hrun := (registered_upholds P N _).main keys (c := start) hready
  show Begun _ (main P N keys start).2.trace
  rcases hmain : main P N keys start with ⟨_ | running, c⟩
  · rw [hmain] at hrun
    exact hrun
  · rw [hmain] at hrun
    exact hrun.right.left

section Wire

variable {I S : Session State ν -> Prop}

/-- irc.c reaches the connection only through the functions that the clients
share. -/
theorem wireInvariant_upholds (P : Platform) (h : WireInvariant N I S)
    (hsend : forall (origin : Origin) (pieces : List (List UInt8))
      {bytes : List UInt8}, bytes ≠ [] ->
        Ensures I (sendData N origin pieces bytes) (fun _ => I) S) :
    Upholds P N I (fun _ _ => I) S where
  poll := h.pollNet app P
  send := by
    intro origin pieces
    have hfailed : forall rc : Int,
        Ensures I (reportFailure rc) (fun _ => I) S := by
      intro rc
      unfold reportFailure
      split_ifs
      · exact h.modifyApp _
      · exact ensures_pure (fun _ hc => hc)
    refine ensures_bind (h.drain app) (fun _ => ?_)
    apply ensures_get_bind
    intro c hc
    have hline := hsend origin pieces
      (List.append_ne_nil_of_right_ne_nil c.app.out
        (List.cons_ne_nil 13 [10]))
    exact ensures_bind hline
      (fun rc => ensures_bind (h.modifyApp _)
        (fun _ => ensures_bind (hfailed rc)
          (fun _ => h.returned .send))) c hc
  returned := h.returned
  edit := fun _ _ hc => h.app _ hc
  reply := fun hc _ => h.app _ hc
  typed := fun hc _ => h.app _ hc
  after := fun hc _ => h.app _ hc
  quit := fun hc => h.app _ hc
  pong := fun hc _ => h.app _ hc
  join := fun hc _ _ => h.app _ hc
  no_join := fun hc => h.app _ hc

end Wire

variable {σ : Type}

theorem ranMain_moved (P : Platform) (L : Link P σ) (fuel : Nat)
    {w0 : World σ} (hconn : 1 < w0.tcp.seq) (con : Console)
    (nickKeys chanKeys keys : List UInt16) :
    MovedUntil L w0
      (ranMain P (stackNetwork L fuel) w0 con nickKeys chanKeys keys) := by
  have hwire := moved_wireInvariant (α := State) L w0 fuel
  have hupholds := wireInvariant_upholds P hwire
    (fun origin pieces _ hbytes =>
      moved_sendData L w0 fuel origin pieces hbytes)
  let start := Session.start (State.prompted con nickKeys chanKeys) w0
  have hstart : Moved L w0 start := Moved.start hconn
  have hreset : Moved L w0 (resetSession start) :=
    hwire.app (c := { start with windowOpen := false })
      (resetState start.app) (hwire.window false hstart)
  have hready : Moved L w0
      { resetSession start with
        app := (registerPieces (resetSession start).app).foldl oStr
          (resetSession start).app } :=
    hwire.app _ hreset
  have hrun := hupholds.main keys (c := start) hready
  show MovedUntil L w0 (main P (stackNetwork L fuel) keys start).2
  rcases hmain : main P (stackNetwork L fuel) keys start with
    ⟨_ | running, c⟩
  · rw [hmain] at hrun
    exact hrun
  · rw [hmain] at hrun
    exact hrun.until

/-- In every run of irc.c behind `tcp_connect` the registration comes first and
every payload ends with a CRLF.  Beside any server, as long as each call that
returns has been acknowledged in full, the server holds a part of the payloads,
and all that have been asked for when no call is waiting. -/
theorem commands_reach_server (L : Link P σ) (fuel fuel' : Nat)
    (register : Nat -> UInt8) {w w0 : World σ}
    (hconnect : tcpConnect L fuel register w = (some 0, w0))
    (hsent : w.sent = []) (hroom : 40 + OUT_LINE ≤ w.tcp.ip.pktSize.toNat)
    (con : Console) (nickKeys chanKeys keys : List UInt16) :
    Begun (registration (State.prompted con nickKeys chanKeys))
        (ranMain P (stackNetwork L fuel') w0 con nickKeys chanKeys
          keys).trace ∧
      exists (run : List (Move × Tcp.Client σ)) (c' : Tcp.Client σ) (n : Nat),
        Trace (Tcp.Client.Step L) (Tcp.Client.idle w0) run c' ∧
          c'.world = (ranMain P (stackNetwork L fuel') w0 con nickKeys
            chanKeys keys).net ∧
          requests run =
            ((payloadsOf (ranMain P (stackNetwork L fuel') w0 con nickKeys
              chanKeys keys).trace).take n).map asRequest ∧
          forall got : List UInt8,
            Peered L (Tcp.Client.idle w0) [] run c' got ->
              EachStep AckedInFull (Tcp.Client.idle w0) run ->
                got <+: ((payloadsOf (ranMain P (stackNetwork L fuel') w0 con
                    nickKeys chanKeys keys).trace).take n).flatten ∧
                  (c'.sending = none ->
                    got = ((payloadsOf (ranMain P (stackNetwork L fuel') w0
                      con nickKeys chanKeys keys).trace).take n).flatten) := by
  have hconn : 1 < w0.tcp.seq := by
    rw [tcpConnect_seq hconnect]
    decide
  have hbegun := begun_ranMain P (stackNetwork L fuel') w0 con nickKeys
    chanKeys keys
  have hmoved := ranMain_moved P L fuel' hconn con nickKeys chanKeys keys
  refine ⟨hbegun, hmoved.reaches hconnect hsent (by omega) ?_⟩
  intro bytes hbytes
  have hlen := (hbegun.shaped bytes hbytes).right
  omega

/-- A server that answers the SYN. -/
theorem commands_reach_server_quit :
    exists w0 : World Script,
      tcpConnect (scriptLink Platform.spectrum) 12 (fun _ => 0)
          (dialling [some (peerSegment 1 2 [])]) = (some 0, w0) ∧
        Begun
            (registration (State.prompted Console.blank [0x62, 13] [13]))
            (ranMain Platform.spectrum
              (stackNetwork (scriptLink Platform.spectrum) 40) w0
              Console.blank [0x62, 13] [13] [3]).trace ∧
          exists (run : List (Move × Tcp.Client Script))
              (c' : Tcp.Client Script) (n : Nat),
            Trace (Tcp.Client.Step (scriptLink Platform.spectrum))
                (Tcp.Client.idle w0) run c' ∧
              c'.world = (ranMain Platform.spectrum
                (stackNetwork (scriptLink Platform.spectrum) 40) w0
                Console.blank [0x62, 13] [13] [3]).net ∧
              requests run =
                ((payloadsOf (ranMain Platform.spectrum
                  (stackNetwork (scriptLink Platform.spectrum) 40) w0
                  Console.blank [0x62, 13] [13] [3]).trace).take n).map
                    asRequest ∧
              forall got : List UInt8,
                Peered (scriptLink Platform.spectrum) (Tcp.Client.idle w0) []
                    run c' got ->
                  EachStep AckedInFull (Tcp.Client.idle w0) run ->
                    got <+: ((payloadsOf (ranMain Platform.spectrum
                        (stackNetwork (scriptLink Platform.spectrum) 40) w0
                        Console.blank [0x62, 13] [13]
                        [3]).trace).take n).flatten ∧
                      (c'.sending = none ->
                        got = ((payloadsOf (ranMain Platform.spectrum
                          (stackNetwork (scriptLink Platform.spectrum) 40) w0
                          Console.blank [0x62, 13] [13]
                          [3]).trace).take n).flatten) := by
  have hroom : 40 + OUT_LINE ≤
      (dialling [some (peerSegment 1 2 [])]).tcp.ip.pktSize.toNat := by
    decide
  have hrun : (tcpConnect (scriptLink Platform.spectrum) 12 (fun _ => 0)
      (dialling [some (peerSegment 1 2 [])])).1 = some 0 := by
    decide +kernel
  rcases hconnect : tcpConnect (scriptLink Platform.spectrum) 12 (fun _ => 0)
    (dialling [some (peerSegment 1 2 [])]) with ⟨rc, w0⟩
  rw [hconnect] at hrun
  simp only at hrun
  subst hrun
  exact ⟨w0, rfl, commands_reach_server (scriptLink Platform.spectrum) 12 40
    (fun _ => 0) hconnect rfl hroom Console.blank [0x62, 13] [13] [3]⟩

end Irc
end Z80Tcpip
