import Z80Tcpip.Chat.State

/-!
# The main loop of tcp_chat.c

What is typed is sent line by line.  The loop runs until the user or the server
ends the session; the keys are the results of `in_GetKey`, one for each turn.
-/

namespace Z80Tcpip
namespace Chat

open Foundation
open Client

variable {ν : Type}

/-- `if (rc < 0) log_line("*** send failed");` -/
def reportFailure (rc : Int) : Program (Session State ν) Unit :=
  if rc < 0 then modifyApp (logLine (ascii "*** send failed")) else pure ()

/-- The line is taken off the input and shown in the log. -/
def echo (s : State) : State :=
  logLine s.screen.input { s with screen := { s.screen with input := [] } }

/-- `send_input` when a line has been typed. -/
def sendLine (N : Network ν) : Program (Session State ν) Unit := do
  drain app N
  let c ← Program.get
  let rc ← sendData N .typed [c.app.screen.input, [10]]
    (c.app.screen.input ++ [10])
  modifyApp echo
  reportFailure rc
  returned .send

def sendInput (N : Network ν) : Program (Session State ν) Unit := do
  let c ← Program.get
  if c.app.screen.input = [] then returned .send else sendLine N

/-- A key that only edits the line. -/
def editKey (k : UInt16) (s : State) : State :=
  if k = KEY_LEFT ∨ k = KEY_DELETE ∨ k = KEY_CTRL_DEL then
    if s.screen.input ≠ [] then
      drawInput
        { s with screen := { s.screen with input := s.screen.input.dropLast } }
    else s
  else if 32 ≤ k ∧ k < 127 ∧ s.screen.input.length < MAX_INPUT then
    drawInput
      { s with
        screen := { s.screen with input := s.screen.input ++ [k.toUInt8] } }
  else s

def keyAction (N : Network ν) (k : UInt16) :
    Program (Session State ν) Int := do
  if k = KEY_ENTER then do
    sendInput N
    pure 0
  else if k = KEY_QUIT then pure (-1)
  else do
    modifyApp (editKey k)
    pure 0

def handleKey (N : Network ν) (k : UInt16) : Program (Session State ν) Int := do
  let rc ← keyAction N k
  returned .handleKey
  pure rc

def pollNet (P : Platform) (N : Network ν) : Program (Session State ν) Int :=
  Client.pollNet P app N

/-- `in_GetKey` returned `k`, 0 for no key. -/
def pressKey (N : Network ν) (k : UInt16) : Program (Session State ν) Int :=
  if k = 0 then pure 0 else handleKey N k

/-- One turn of the loop of `main`. -/
def turn (P : Platform) (N : Network ν) (k : UInt16) :
    Program (Session State ν) Bool := do
  let rc ← pressKey N k
  if rc < 0 then pure false
  else do
    let rc ← pollNet P N
    pure (decide (0 ≤ rc))

def mainLoop (P : Platform) (N : Network ν) (keys : List UInt16) :
    Program (Session State ν) Bool :=
  Program.loop (turn P N) keys

/-- The state in front of the loop: the screen is cleared and the variables are
reset. -/
def resetState (s : State) : State :=
  logLine (ascii "*** connected. CAPS+SYM+C quits.")
    { s with
      screen := { con := s.screen.con.putchar 12, input := [] }
      logline := []
      loglineEmitted := false }

def resetSession (c : Session State ν) : Session State ν :=
  { c with app := resetState c.app, windowOpen := false }

/-- tcp_chat.c `main` from the return of `tcp_connect` to the end of the
loop. -/
def main (P : Platform) (N : Network ν) (keys : List UInt16) :
    Program (Session State ν) Bool := do
  Program.modify resetSession
  mainLoop P N keys

/-- The state when `tcp_connect` is called. -/
def State.initial (con : Console) : State where
  screen := { con := con, input := [] }
  logline := []
  loglineEmitted := false
  flushed := []

/-- The session when a run of `main` on these keys is over, or has stopped in a
call of the stack. -/
def ranMain (P : Platform) (N : Network ν) (net : ν) (con : Console)
    (keys : List UInt16) : Session State ν :=
  (main P N keys (Session.start (State.initial con) net)).2

end Chat
end Z80Tcpip
