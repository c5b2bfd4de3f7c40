import Z80Tcpip.Foundation.Program
import Z80Tcpip.Ip.Datagram
import Z80Tcpip.Slip.BridgeDecoder

/-!
# The bridge

The main loop of slip-tun.c moves packets between the tun device and the two
fifos of the Spectrum.  The operating system is a parameter: its calls may give
any result at any time.  A run keeps a trace of what it read, wrote and handed
on.
-/

namespace Z80Tcpip
namespace SlipTun

open Foundation
open Slip

def IP_HDR_MIN : Nat := 20
def IP_OFF_DADDR : Nat := 16
def WRITE_TIMEOUT_MS : Int := 500
def ATTACH_POLL_MS : Int := 200

/-!
## The operating system
-/

inductive Errno where
  | EINTR
  | EAGAIN
  | EWOULDBLOCK
  | ENXIO
  | other (code : Nat)
  deriving DecidableEq

/-- The two fifos, `rx_path` and `tx_path`. -/
inductive Fifo where
  | rx
  | tx
  deriving DecidableEq

/-- A `struct pollfd` before the call. -/
structure PollFd where
  fd : Int
  pollin : Bool
  pollout : Bool

/-- The bits of `revents` that the bridge looks at. -/
structure Revents where
  pollin : Bool
  pollerr : Bool
  pollhup : Bool
  pollnval : Bool

/-- `revents & (POLLERR | POLLHUP | POLLNVAL)` -/
def Revents.gone (r : Revents) : Bool :=
  r.pollerr || r.pollhup || r.pollnval

/-- The calls, on a state `ω` of everything outside the bridge.  `-1` with
`errno` is `Except.error`; `poll` returns its count and the `revents` by
index. -/
structure Os (ω : Type) where
  read : Int -> Nat -> ω -> Except Errno (List UInt8) × ω
  write : Int -> List UInt8 -> ω -> Except Errno Nat × ω
  openFifo : Fifo -> ω -> Except Errno Nat × ω
  close : Int -> ω -> ω
  poll : List PollFd -> Int -> ω -> Except Errno (Nat × (Nat -> Revents)) × ω
  sendto : Int -> List UInt8 -> List UInt8 -> ω -> ω

/-!
## State
-/

/-- `struct bridge` without the names of the device and the fifos. -/
structure Bridge where
  tunFd : Int
  rawFd : Int
  rxFd : Int
  txFd : Int
  attached : Bool
  decoder : Decoder

inductive Event where
  | tunRead (packet : List UInt8)
  | txRead (bytes : List UInt8)
  | rxWrite (fd : Int) (bytes : List UInt8)
  | injectFrame (frame : List UInt8)
  | attach (fd : Int)
  | detach

structure World (ω : Type) where
  b : Bridge
  os : ω
  trace : List Event

variable {ω : Type}

/-- A call of the operating system. -/
def sys {α : Type} (call : ω -> α × ω) : Program (World ω) α := fun w =>
  (some (call w.os).1, { w with os := (call w.os).2 })

def log (e : Event) : Program (World ω) Unit :=
  Program.modify (fun w => { w with trace := w.trace ++ [e] })

def setBridge (f : Bridge -> Bridge) : Program (World ω) Unit :=
  Program.modify (fun w => { w with b := f w.b })

/-- `read` into a buffer of `size` bytes. -/
def readFd (O : Os ω) (fd : Int) (size : Nat) :
    Program (World ω) (Except Errno (List UInt8)) :=
  sys (fun os => ((O.read fd size os).1.map (List.take size),
    (O.read fd size os).2))

/-- slip-tun.c `die`. -/
def die {α : Type} : Program (World ω) α :=
  Program.stop

/-!
## The tx fifo
-/

def txOpen (O : Os ω) : Program (World ω) Int := do
  match ← sys (O.openFifo .tx) with
  | .ok fd => pure (fd : Int)
  | .error _ => die

def txDrain (O : Os ω) : Nat -> Program (World ω) Unit
  | 0 => Program.stop
  | fuel + 1 => do
      let w ← Program.get
      match ← readFd O w.b.txFd 4096 with
      | .ok (c :: buf) => do
          log (.txRead (c :: buf))
          txDrain O fuel
      | .error .EINTR => txDrain O fuel
      | _ => setBridge (fun b => { b with decoder := Decoder.drained })

def txFlush (O : Os ω) (fuel : Nat) : Program (World ω) Unit := do
  txDrain O fuel
  let w ← Program.get
  sys (fun os => ((), O.close w.b.txFd os))
  let fd ← txOpen O
  setBridge (fun b => { b with txFd := fd })

/-!
## Attaching and detaching
-/

def clientAttach (O : Os ω) : Program (World ω) Unit := do
  match ← sys (O.openFifo .rx) with
  | .error Errno.ENXIO => pure ()
  | .error _ => die
  | .ok fd => do
      setBridge (fun b => { b with rxFd := fd, attached := true })
      log (.attach fd)

def clientDetach (O : Os ω) (fuel : Nat) : Program (World ω) Unit := do
  let w ← Program.get
  if w.b.attached = false then pure ()
  else do
    sys (fun os => ((), O.close w.b.rxFd os))
    setBridge (fun b => { b with rxFd := -1, attached := false })
    log .detach
    txFlush O fuel

/-!
## From the tun device to the rx fifo
-/

inductive WriteResult where
  | WRITE_OK
  | WRITE_DROPPED
  | WRITE_GONE
  deriving DecidableEq

/-- The second half of the loop of `rx_write`: wait for room in the fifo, and
what to return if there will be none. -/
def waitForRoom (O : Os ω) : Program (World ω) (Option WriteResult) := do
  let w ← Program.get
  let pfd : PollFd := { fd := w.b.rxFd, pollin := false, pollout := true }
  match ← sys (O.poll [pfd] WRITE_TIMEOUT_MS) with
  | .error .EINTR => pure none
  | .error _ => pure (some .WRITE_GONE)
  | .ok (0, _) => pure (some .WRITE_DROPPED)
  | .ok (_ + 1, revents) =>
      if (revents 0).gone = true then pure (some .WRITE_GONE) else pure none

def rxWrite (O : Os ω) : Nat -> List UInt8 -> Program (World ω) WriteResult
  | 0, _ => Program.stop
  | fuel + 1, buf =>
      if buf = [] then pure .WRITE_OK
      else do
        let w ← Program.get
        match ← sys (O.write w.b.rxFd buf) with
        | .ok (n + 1) => do
            log (.rxWrite w.b.rxFd (buf.take (n + 1)))
            rxWrite O fuel (buf.drop (n + 1))
        | .error .EINTR => rxWrite O fuel buf
        | result =>
            if result = .ok 0 ∨ result = .error .EAGAIN ∨
                result = .error .EWOULDBLOCK then do
              match ← waitForRoom O with
              | none => rxWrite O fuel buf
              | some rc => pure rc
            else pure .WRITE_GONE

/-- A packet that `handle_tun` forwards: at least a header, IPv4 without
options, and addressed to the Spectrum. -/
def ForSpectrum (remote packet : List UInt8) : Prop :=
  IP_HDR_MIN ≤ packet.length ∧ packet.getD 0 0 = 0x45 ∧
    field packet IP_OFF_DADDR 4 = remote

instance (remote packet : List UInt8) :
    Decidable (ForSpectrum remote packet) :=
  inferInstanceAs (Decidable (_ ∧ _ ∧ _))

def handleTun (O : Os ω) (slipEsc00 : Bool) (remote : List UInt8)
    (fuel : Nat) : Program (World ω) Unit := do
  let w ← Program.get
  match ← readFd O w.b.tunFd MTU with
  | .error .EINTR => pure ()
  | .error .EAGAIN => pure ()
  | .error _ => die
  | .ok packet => do
      log (.tunRead packet)
      if packet.length < IP_HDR_MIN then pure ()
      else if packet.getD 0 0 ≠ 0x45 then pure ()
      else if field packet IP_OFF_DADDR 4 ≠ remote then pure ()
      else if w.b.attached = false then pure ()
      else do
        match ← rxWrite O fuel (slipEncode slipEsc00 packet) with
        | .WRITE_GONE => clientDetach O fuel
        | _ => pure ()

/-!
## From the tx fifo to the network
-/

def injectFrame (O : Os ω) (frame : List UInt8) :
    Program (World ω) Unit := do
  log (.injectFrame frame)
  if frame.length < IP_HDR_MIN then pure ()
  else if frame.getD 0 0 &&& 0xf0 ≠ 0x40 then pure ()
  else do
    let w ← Program.get
    sys (fun os => ((), O.sendto w.b.rawFd frame
      (field frame IP_OFF_DADDR 4) os))

def injectFrames (O : Os ω) : List (List UInt8) -> Program (World ω) Unit
  | [] => pure ()
  | frame :: more => do
      injectFrame O frame
      injectFrames O more

/-- The loop of `handle_tx` over the bytes it has read. -/
def decodeTx (O : Os ω) (slipEsc00 : Bool) :
    List UInt8 -> Program (World ω) Unit
  | [] => pure ()
  | c :: buf => do
      let w ← Program.get
      injectFrames O (slipDecode slipEsc00 w.b.decoder c).2
      setBridge (fun b =>
        { b with decoder := (slipDecode slipEsc00 b.decoder c).1 })
      decodeTx O slipEsc00 buf

/-- `false` when the client has closed the tx fifo. -/
def handleTx (O : Os ω) (slipEsc00 : Bool) : Program (World ω) Bool := do
  let w ← Program.get
  match ← readFd O w.b.txFd 1024 with
  | .ok [] => pure false
  | .ok (c :: buf) => do
      log (.txRead (c :: buf))
      decodeTx O slipEsc00 (c :: buf)
      pure true
  | .error .EINTR => pure true
  | .error .EAGAIN => pure true
  | .error .EWOULDBLOCK => pure true
  | .error _ => die

/-!
## The loop
-/

/-- The descriptors of one round: the tun device and, while a client is
attached, the two fifos. -/
def pollFds (b : Bridge) : List PollFd :=
  let tun : PollFd := { fd := b.tunFd, pollin := true, pollout := false }
  if b.attached = true then
    [tun, { fd := b.txFd, pollin := true, pollout := false },
      { fd := b.rxFd, pollin := false, pollout := false }]
  else [tun]

def attachIfDetached (O : Os ω) : Program (World ω) Unit := do
  let w ← Program.get
  if w.b.attached = false then clientAttach O else pure ()

def tunEvent (O : Os ω) (slipEsc00 : Bool) (remote : List UInt8)
    (fuel : Nat) (revents : Nat -> Revents) : Program (World ω) Unit :=
  if (revents 0).pollin = true then handleTun O slipEsc00 remote fuel
  else pure ()

/-- The rest of a round; `polled` tells whether the fifos were among the
descriptors, with the indices 1 and 2. -/
def fifoEvents (O : Os ω) (slipEsc00 : Bool) (fuel : Nat) (polled : Bool)
    (revents : Nat -> Revents) : Program (World ω) Unit :=
  if polled = true ∧ (revents 2).gone = true then clientDetach O fuel
  else do
    let w ← Program.get
    if polled = true ∧ w.b.attached = true ∧
        ((revents 1).pollin = true ∨ (revents 1).pollhup = true) then do
      let stillOpen ← handleTx O slipEsc00
      if stillOpen = false then clientDetach O fuel else attachIfDetached O
    else attachIfDetached O

def mainRound (O : Os ω) (slipEsc00 : Bool) (remote : List UInt8)
    (fuel : Nat) : Program (World ω) Unit := do
  let w ← Program.get
  match ← sys (O.poll (pollFds w.b)
      (if w.b.attached = true then -1 else ATTACH_POLL_MS)) with
  | .error .EINTR => pure ()
  | .error _ => die
  | .ok (_, revents) => do
      tunEvent O slipEsc00 remote fuel revents
      fifoEvents O slipEsc00 fuel w.b.attached revents

/-- slip-tun.c `main` from the first `tx_open` on, for a number of rounds. -/
def main (O : Os ω) (slipEsc00 : Bool) (remote : List UInt8) (fuel : Nat)
    (rounds : Nat) : Program (World ω) Bool := do
  let fd ← txOpen O
  setBridge (fun b => { b with txFd := fd })
  txDrain O fuel
  Program.loop
    (fun _ => do
      mainRound O slipEsc00 remote fuel
      pure true)
    (List.replicate rounds ())

/-- The bridge after `memset` and `b.rx_fd = -1`, with the tun device and the
raw socket open. -/
def World.initial (tunFd rawFd : Int) (os : ω) : World ω where
  b :=
    { tunFd := tunFd
      rawFd := rawFd
      rxFd := -1
      txFd := 0
      attached := false
      decoder := Decoder.drained }
  os := os
  trace := []

end SlipTun
end Z80Tcpip
