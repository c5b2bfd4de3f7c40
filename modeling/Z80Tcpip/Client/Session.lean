import Z80Tcpip.Client.Screen
import Z80Tcpip.Foundation.Program
import Z80Tcpip.Tcp.Stack

/-!
# A client and its connection

The part that irc.c and tcp_chat.c share word for word: how they poll the
connection, keep a window open while they are idle, and drain it before they
send.  The connection is a parameter.  A session keeps a trace of the calls that
have returned and of the payloads that were passed to `tcp_send`.
-/

namespace Z80Tcpip
namespace Client

open Foundation

def POLL_TICKS : Int16 := 3
def RX_WINDOW : UInt16 := 256
def TCP_FIN : UInt8 := 0x01

def KEY_LEFT : UInt16 := 8
def KEY_ENTER : UInt16 := 13
def KEY_DELETE : UInt16 := 12
def KEY_CTRL_DEL : UInt16 := 127
def KEY_QUIT : UInt16 := 3

/-- The calls of the stack, on a state `ν`: `tcp_send` with a payload (none for
`0, NULL`) and a window, `tcp_recv_timeout(&tcp, 0, POLL_TICKS)`, the bytes at
`tcp_rx_buffer`, and `tcp_buf[20 + 13]`. -/
structure Network (ν : Type) where
  send : List UInt8 -> UInt16 -> Program ν Int
  recv : Program ν Int
  rxBuffer : ν -> Nat -> List UInt8
  headerFlags : ν -> UInt8

/-- What the shared part calls in the client. -/
structure App (α : Type) where
  showData : List UInt8 -> α -> α
  logLine : List UInt8 -> α -> α

/-- The functions whose returns are traced; `send` is `o_send` of irc.c and
`send_input` of tcp_chat.c. -/
inductive Call where
  | pollNet
  | send
  | flushPending
  | handleKey
  | showData
  deriving DecidableEq

/-- What a payload is sent for. -/
inductive Origin where
  | register
  | typed
  | pong
  | join
  deriving DecidableEq

inductive Event (α ν : Type) where
  | returned (call : Call) (app : α) (net : ν) (windowOpen : Bool)
  | payload (origin : Origin) (pieces : List (List UInt8))
      (bytes : List UInt8)
  | hungUp (app : α) (net : ν)

structure Session (α ν : Type) where
  app : α
  net : ν
  windowOpen : Bool
  trace : List (Event α ν)

variable {α ν β : Type}

def Session.start (app : α) (net : ν) : Session α ν where
  app := app
  net := net
  windowOpen := false
  trace := []

def onNet (p : Program ν β) : Program (Session α ν) β := fun c =>
  ((p c.net).1, { c with net := (p c.net).2 })

def modifyApp (f : α -> α) : Program (Session α ν) Unit :=
  Program.modify (fun c => { c with app := f c.app })

def setWindow (isOpen : Bool) : Program (Session α ν) Unit :=
  Program.modify (fun c => { c with windowOpen := isOpen })

def log (e : Event α ν) : Program (Session α ν) Unit :=
  Program.modify (fun c => { c with trace := c.trace ++ [e] })

def returned (call : Call) : Program (Session α ν) Unit :=
  Program.modify (fun c =>
    { c with
      trace := c.trace ++ [.returned call c.app c.net c.windowOpen] })

/-- `show_data(tcp_rx_buffer(&tcp), rc);` -/
def handOver (A : App α) (N : Network ν) (rc : Int) :
    Program (Session α ν) Unit := do
  let c ← Program.get
  modifyApp (A.showData (N.rxBuffer c.net rc.toNat))
  returned .showData

/-!
## Polling
-/

/-- The top of `poll_net`. -/
def openIfClosed (N : Network ν) : Program (Session α ν) Unit := do
  let c ← Program.get
  if c.windowOpen = true then pure ()
  else do
    let _ ← onNet (N.send [] RX_WINDOW)
    setWindow true

/-- `poll_net` from the result of `tcp_recv_timeout` on. -/
def afterPoll (P : Platform) (A : App α) (N : Network ν) (rc : Int) :
    Program (Session α ν) Int :=
  if rc = -(P.eagain : Int) then pure 0
  else if rc = -(ERESET : Int) then do
    modifyApp (A.logLine (ascii "*** connection reset by peer"))
    pure (-1)
  else if rc < 0 then pure 0
  else if 0 < rc then do
    setWindow false
    handOver A N rc
    pure 0
  else do
    let c ← Program.get
    if N.headerFlags c.net &&& TCP_FIN ≠ 0 then do
      log (.hungUp c.app c.net)
      modifyApp (A.logLine (ascii "*** server closed the connection"))
      pure (-1)
    else pure 0

/-- `poll_net` of both clients. -/
def pollNet (P : Platform) (A : App α) (N : Network ν) :
    Program (Session α ν) Int := do
  openIfClosed N
  let rc ← onNet N.recv
  let result ← afterPoll P A N rc
  returned .pollNet
  pure result

/-!
## Sending
-/

/-- One turn of the loop that drains the connection. -/
def drainOnce (A : App α) (N : Network ν) : Program (Session α ν) Unit := do
  let rc ← onNet N.recv
  if 0 < rc then handOver A N rc else pure ()

/-- Close the window and take in what was already on its way to us. -/
def drain (A : App α) (N : Network ν) : Program (Session α ν) Unit := do
  let _ ← onNet (N.send [] 0)
  setWindow false
  drainOnce A N
  drainOnce A N
  drainOnce A N

/-- `tcp_send` of a payload with the window closed.  The trace gets the payload
together with the strings that it was built from. -/
def sendData (N : Network ν) (origin : Origin) (pieces : List (List UInt8))
    (bytes : List UInt8) : Program (Session α ν) Int := do
  log (.payload origin pieces bytes)
  let rc ← onNet (N.send bytes 0)
  setWindow false
  pure rc

/-!
## The stack as the connection
-/

variable {P : Platform} {σ : Type}

/-- tcp.c over a link, with fuel for each call. -/
def stackNetwork (L : Tcp.Link P σ) (fuel : Nat) :
    Network (Tcp.World σ) where
  send
    | [], window => fun w => Tcp.tcpSend L fuel w 0 none window
    | c :: data, window => fun w =>
        Tcp.tcpSend L fuel w (c :: data).length (some ⟨c :: data, rfl⟩) window
  recv := fun w => Tcp.tcpRecvTimeout L fuel w 0 POLL_TICKS
  rxBuffer := fun w n => Tcp.tcpRxBuffer w.tcp n
  headerFlags := fun w => Tcp.headerFlags w.tcp

/-!
## A connection that brings given segments
-/

/-- The segment in the buffer and those still to come. -/
structure Feed where
  current : List UInt8
  coming : List (List UInt8)

/-- As in the test harness, every `tcp_send` succeeds. -/
def feedNetwork (P : Platform) : Network Feed where
  send := fun _ _ => pure 0
  recv := fun f =>
    match f.coming with
    | [] => (some (-(P.eagain : Int)), f)
    | segment :: more =>
        (some (segment.length : Int), { current := segment, coming := more })
  rxBuffer := fun f n => f.current.take n
  headerFlags := fun _ => 0

end Client
end Z80Tcpip
