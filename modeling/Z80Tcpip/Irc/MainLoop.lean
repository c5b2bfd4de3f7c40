import Z80Tcpip.Irc.State

/-!
# The main loop of irc.c

What is typed, what is sent, and the loop that runs until the user or the server
ends the session.  The keys are the results of `in_GetKey`, one for each turn.
-/

namespace Z80Tcpip
namespace Irc

open Foundation
open Client

variable {ν : Type}

/-!
## Sending
-/

/-- What fits of a string behind `out[0..out_len)`. -/
def oStr (s : State) (text : List UInt8) : State :=
  { s with out := s.out ++ text.take (OUT_LINE - 2 - s.out.length) }

def CRLF : List UInt8 := [13, 10]

/-- `if (rc < 0) log_line("*** send failed");` -/
def reportFailure (rc : Int) : Program (Session State ν) Unit :=
  if rc < 0 then modifyApp (logLine (ascii "*** send failed")) else pure ()

/-- `o_send`.  The command is noted in the trace with the strings that `o_str`
was given for it. -/
def oSend (N : Network ν) (origin : Origin) (pieces : List (List UInt8)) :
    Program (Session State ν) Unit := do
  drain app N
  let c ← Program.get
  let rc ← sendData N origin pieces (c.app.out ++ CRLF)
  modifyApp (fun s => { s with out := [] })
  reportFailure rc
  returned .send

/-- A command: `o_str` of each string, what stands in front of `o_send`, and
`o_send`. -/
def command (N : Network ν) (origin : Origin) (pieces : List (List UInt8))
    (before : State -> State) : Program (Session State ν) Unit := do
  modifyApp (fun s => before (pieces.foldl oStr s))
  oSend N origin pieces

def pongPieces (s : State) : List (List UInt8) :=
  [ascii "PONG :", s.pongArg]

def joinPieces (s : State) : List (List UInt8) :=
  [ascii "JOIN ", s.curChan]

def flushPong (N : Network ν) : Program (Session State ν) Unit := do
  let c ← Program.get
  if c.app.pongPending = true then
    command N .pong (pongPieces c.app)
      (fun s => { s with pongPending := false })
  else pure ()

def flushJoin (N : Network ν) : Program (Session State ν) Unit := do
  let c ← Program.get
  if c.app.joinPending = true then
    if c.app.curChan ≠ [] then
      command N .join (joinPieces c.app)
        (fun s => { s with joinPending := false })
    else modifyApp (fun s => { s with joinPending := false })
  else pure ()

def flushPending (N : Network ν) : Program (Session State ν) Unit := do
  flushPong N
  flushJoin N
  returned .flushPending

/-!
## What we type
-/

def clearInput (s : State) : State :=
  drawInput { s with screen := { s.screen with input := [] } }

def help (s : State) : State :=
  logLine (ascii "*** anything else is said on the current channel")
    (logLine (ascii "*** /topic [text]     /raw irc command   /quit [reason]")
      (logLine (ascii "*** /msg nick text    /me action         /names")
        (logLine (ascii "*** /join #chan       /part [reason]     /nick name")
          s)))

/-- What a typed line makes the client do: answer on the screen, or send a
command, with what stands in front of `o_send` and what follows it.  A command
that ends the session makes `handle_input_line` return -1. -/
inductive Typed where
  | reply (answer : State -> State)
  | send (pieces : List (List UInt8)) (before after : State -> State)
      (quits : Bool)

/-- Clear the input line and say how a command is used. -/
def usage (text : String) : Typed :=
  .reply (fun s => logLine (ascii text) (clearInput s))

/-- A command after which nothing is echoed. -/
def silently (pieces : List (List UInt8)) : Typed :=
  .send pieces clearInput id false

/-- A line that is no command. -/
def sayAction (input : List UInt8) (s : State) : Typed :=
  if s.curChan = [] then
    .reply (fun s => clearInput
      (logLine (ascii "*** you are not on a channel, try /join #chan") s))
  else
    .send [ascii "PRIVMSG ", s.curChan, ascii " :", input] clearInput
      (fun s => logLine4 (ascii "<") s.mynick (ascii "> ") input s) false

def joinAction (arg : List UInt8) : Typed :=
  if ¬ isChannel arg then usage "*** usage: /join #channel"
  else
    let chan := strCopy (nextWord arg).1 (MAX_CHAN + 1)
    .send [ascii "JOIN ", chan]
      (fun s => clearInput { s with curChan := chan }) id false

/-- `o_str(" :"); o_str(arg);` if there is an argument. -/
def trailing (arg : List UInt8) : List (List UInt8) :=
  if arg ≠ [] then [ascii " :", arg] else []

def partAction (arg : List UInt8) (s : State) : Typed :=
  if s.curChan = [] then usage "*** you are not on a channel"
  else
    .send ([ascii "PART ", s.curChan] ++ trailing arg)
      (fun s => clearInput { s with curChan := [] }) id false

def nickAction (arg : List UInt8) : Typed :=
  if arg = [] then usage "*** usage: /nick newname"
  else silently [ascii "NICK ", arg]

def msgAction (arg : List UInt8) : Typed :=
  let (dest, arg) := nextWord arg
  if dest = [] ∨ arg = [] then usage "*** usage: /msg nick text"
  else
    .send [ascii "PRIVMSG ", dest, ascii " :", arg] clearInput
      (logLine4 (ascii ">") dest (ascii "< ") arg) false

def meAction (arg : List UInt8) (s : State) : Typed :=
  if s.curChan = [] ∨ arg = [] then
    usage "*** usage: /me does something, on a channel"
  else
    .send
      [ascii "PRIVMSG ", s.curChan, ascii " :" ++ [1] ++ ascii "ACTION ", arg,
        [1]]
      clearInput
      (fun s => logLine4 (ascii "* ") s.mynick (ascii " ") arg s) false

def namesAction (arg : List UInt8) (s : State) : Typed :=
  if arg = [] ∧ s.curChan = [] then usage "*** usage: /names #channel"
  else silently [ascii "NAMES ", if arg ≠ [] then arg else s.curChan]

def topicAction (arg : List UInt8) (s : State) : Typed :=
  if s.curChan = [] then usage "*** you are not on a channel"
  else silently ([ascii "TOPIC ", s.curChan] ++ trailing arg)

def rawAction (arg : List UInt8) : Typed :=
  if arg = [] then usage "*** usage: /raw WHOIS someone"
  else silently [arg]

def quitAction (arg : List UInt8) : Typed :=
  .send
    [ascii "QUIT :", if arg ≠ [] then arg else ascii "spectrum signing off"]
    clearInput id true

/-- The branches of `handle_input_line` for a line that starts with `/`. -/
def commandAction (cmd arg : List UInt8) (s : State) : Typed :=
  if same cmd (ascii "help") ∨ same cmd (ascii "h") then
    .reply (fun s => help (clearInput s))
  else if same cmd (ascii "join") ∨ same cmd (ascii "j") then joinAction arg
  else if same cmd (ascii "part") then partAction arg s
  else if same cmd (ascii "nick") then nickAction arg
  else if same cmd (ascii "msg") ∨ same cmd (ascii "m") then msgAction arg
  else if same cmd (ascii "me") then meAction arg s
  else if same cmd (ascii "names") then namesAction arg s
  else if same cmd (ascii "topic") then topicAction arg s
  else if same cmd (ascii "raw") ∨ same cmd (ascii "quote") then rawAction arg
  else if same cmd (ascii "quit") then quitAction arg
  else
    .reply (fun s =>
      logLine2 (ascii "*** no such command, try /help: /") cmd (clearInput s))

/-- What `handle_input_line` makes of the line that was typed. -/
def inputAction (s : State) : Typed :=
  let input := s.screen.input
  if input = [] then .reply id
  else if input.head? ≠ some 0x2f then sayAction input s
  else
    let (cmd, p) := nextWord (input.drop 1)
    commandAction cmd (p.dropWhile (fun c => c == SPACE)) s

def handleInputLine (N : Network ν) : Program (Session State ν) Int := do
  let c ← Program.get
  match inputAction c.app with
  | .reply answer => do
      modifyApp answer
      pure 0
  | .send pieces before after quits => do
      command N .typed pieces before
      modifyApp after
      pure (if quits = true then -1 else 0)

/-- A key that only edits the line. -/
def editKey (k : UInt16) (s : State) : State :=
  if k = KEY_LEFT ∨ k = KEY_DELETE ∨ k = KEY_CTRL_DEL then
    if s.screen.input ≠ [] then
      drawInput
        { s with screen := { s.screen with input := s.screen.input.dropLast } }
    else s
  else if 32 ≤ k ∧ k < 127 ∧ s.screen.input.length < MAX_INPUT then
    drawInput
      { s with
        screen := { s.screen with input := s.screen.input ++ [k.toUInt8] } }
  else s

def keyAction (N : Network ν) (k : UInt16) :
    Program (Session State ν) Int := do
  if k = KEY_ENTER then handleInputLine N
  else if k = KEY_QUIT then do
    command N .typed [ascii "QUIT :spectrum signing off"] id
    pure (-1)
  else do
    modifyApp (editKey k)
    pure 0

def handleKey (N : Network ν) (k : UInt16) : Program (Session State ν) Int := do
  let rc ← keyAction N k
  returned .handleKey
  pure rc

/-!
## The loop
-/

def pollNet (P : Platform) (N : Network ν) : Program (Session State ν) Int :=
  Client.pollNet P app N

/-- `in_GetKey` returned `k`, 0 for no key. -/
def pressKey (N : Network ν) (k : UInt16) : Program (Session State ν) Int :=
  if k = 0 then pure 0 else handleKey N k

/-- One turn of the loop of `main`. -/
def turn (P : Platform) (N : Network ν) (k : UInt16) :
    Program (Session State ν) Bool := do
  let rc ← pressKey N k
  if rc < 0 then pure false
  else do
    let rc ← pollNet P N
    if rc < 0 then pure false
    else do
      flushPending N
      pure true

def mainLoop (P : Platform) (N : Network ν) (keys : List UInt16) :
    Program (Session State ν) Bool :=
  Program.loop (turn P N) keys

/-- The state in front of the loop: the screen is cleared and the variables are
reset. -/
def resetState (s : State) : State :=
  logLine (ascii "*** connected. /help for commands, CAPS+SYM+C quits.")
    { s with
      screen := { con := s.screen.con.putchar 12, input := [] }
      rxline := []
      out := []
      pongPending := false
      joinPending := false }

/-- The NICK and the USER command, in one segment. -/
def registerPieces (s : State) : List (List UInt8) :=
  [ascii "NICK ", s.mynick, CRLF ++ ascii "USER ", s.mynick,
    ascii " 0 * :", s.mynick]

def resetSession (c : Session State ν) : Session State ν :=
  { c with app := resetState c.app, windowOpen := false }

def startUp (N : Network ν) : Program (Session State ν) Unit := do
  Program.modify resetSession
  let c ← Program.get
  command N .register (registerPieces c.app) id

/-- irc.c `main` from the return of `tcp_connect` to the end of the loop. -/
def main (P : Platform) (N : Network ν) (keys : List UInt16) :
    Program (Session State ν) Bool := do
  startUp N
  mainLoop P N keys

/-!
## The questions in front
-/

/-- `read_line` into a buffer of `max` bytes, up to the ENTER. -/
def readLine (max : Nat) : List UInt16 -> List UInt8 -> List UInt8
  | [], buf => buf
  | k :: more, buf =>
      if k = KEY_ENTER then buf
      else if k = KEY_LEFT ∨ k = KEY_DELETE ∨ k = KEY_CTRL_DEL then
        readLine max more buf.dropLast
      else if 32 ≤ k ∧ k < 127 ∧ buf.length < max - 1 then
        readLine max more (buf ++ [k.toUInt8])
      else readLine max more buf

/-- The state when `tcp_connect` is called: the nick and the channel come from
the lines typed for them. -/
def State.prompted (con : Console) (nickKeys chanKeys : List UInt16) :
    State where
  screen := { con := con, input := [] }
  emitN := 0
  rxline := []
  out := []
  mynick :=
    strCopy (nextWord (readLine (MAX_INPUT + 2) nickKeys [])).1 (MAX_NICK + 1)
  curChan :=
    let chan :=
      strCopy (nextWord (readLine (MAX_INPUT + 2) chanKeys [])).1 (MAX_CHAN + 1)
    if chan ≠ [] ∧ ¬ isChannel chan then [] else chan
  pongArg := []
  pongPending := false
  joinPending := false
  logged := []
  handled := []

/-- The session when a run of `main` on these keys is over, or has stopped in a
call of the stack. -/
def ranMain (P : Platform) (N : Network ν) (net : ν) (con : Console)
    (nickKeys chanKeys keys : List UInt16) : Session State ν :=
  (main P N keys
    (Session.start (State.prompted con nickKeys chanKeys) net)).2

end Irc
end Z80Tcpip
