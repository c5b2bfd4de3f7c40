import Z80Tcpip.Irc.Machine

/-!
# The main loop of irc.c, in memory

What is typed, what is sent and the loop, as they work on the arrays.
-/

namespace Z80Tcpip
namespace Irc
namespace Machine

open Foundation
open Foundation.Program
open Foundation.Memory
open Client

variable {ν α : Type}

def onApp (p : Program Machine α) : Program (Session Machine ν) α := fun c =>
  ((p c.app).1, { c with app := (p c.app).2 })

def onVars (p : Program (Memory layout) α) : Program (Session Machine ν) α :=
  onApp (onMem p)

/-!
## Sending
-/

/-- `if (rc < 0) log_line("*** send failed");` -/
def reportFailure (rc : Int) : Program Machine Unit :=
  if rc < 0 then logLine (lit (ascii "*** send failed")) else pure ()

def oSend (N : Network ν) : Program (Session Machine ν) Unit := do
  drain app N
  let bytes ← onApp finishOut
  let rc ← onNet (N.send bytes 0)
  setWindow false
  onApp (do
    Program.modify (fun m => { m with outLen := 0 })
    reportFailure rc)
  returned .send

def flushPong (N : Network ν) : Program (Session Machine ν) Unit := do
  let c ← Program.get
  if c.app.pongPending = true then do
    onApp (do
      Program.modify (fun m => { m with pongPending := false })
      oStr (lit (ascii "PONG :"))
      oStr (.block .pongArg 0))
    oSend N
  else pure ()

def flushJoin (N : Network ν) : Program (Session Machine ν) Unit := do
  let c ← Program.get
  if c.app.joinPending = true then do
    onApp (Program.modify (fun m => { m with joinPending := false }))
    let chan ← onVars (load (.block .curChan 0))
    if chan ≠ 0 then do
      onApp (do
        oStr (lit (ascii "JOIN "))
        oStr (.block .curChan 0))
      oSend N
    else pure ()
  else pure ()

def flushPending (N : Network ν) : Program (Session Machine ν) Unit := do
  flushPong N
  flushJoin N
  returned .flushPending

/-!
## What we type
-/

def clearInput : Program Machine Unit := do
  Program.modify (fun m => { m with inputLen := 0 })
  drawInput

def help : Program Machine Unit := do
  logLine (lit (ascii "*** /join #chan       /part [reason]     /nick name"))
  logLine (lit (ascii "*** /msg nick text    /me action         /names"))
  logLine (lit (ascii "*** /topic [text]     /raw irc command   /quit [reason]"))
  logLine (lit (ascii "*** anything else is said on the current channel"))

/-- Clear the input line and say how a command is used. -/
def usage (text : String) : Program (Session Machine ν) Int := do
  onApp (do
    clearInput
    logLine (lit (ascii text)))
  pure 0

/-- Build a line, clear the input line and send. -/
def submit (N : Network ν) (build : Program Machine Unit) :
    Program (Session Machine ν) Unit := do
  onApp (do
    build
    clearInput)
  oSend N

/-- `if (same(cmd, name))` -/
def ifSame (cmd : Ptr Var) (name : String)
    (yes no : Program (Session Machine ν) Int) :
    Program (Session Machine ν) Int := do
  let equal ← onVars (compare lower cmd (lit (ascii name)))
  if equal = true then yes else no

/-- A line that is no command. -/
def say (N : Network ν) : Program (Session Machine ν) Int := do
  let chan ← onVars (load (.block .curChan 0))
  if chan = 0 then do
    onApp (do
      logLine (lit (ascii "*** you are not on a channel, try /join #chan"))
      clearInput)
    pure 0
  else do
    submit N (do
      oStr (lit (ascii "PRIVMSG "))
      oStr (.block .curChan 0)
      oStr (lit (ascii " :"))
      oStr (.block .input 0))
    onApp (logLine4 (lit (ascii "<")) (.block .mynick 0) (lit (ascii "> "))
      (.block .input 0))
    pure 0

def joinCommand (N : Network ν) (arg : Ptr Var) :
    Program (Session Machine ν) Int := do
  let channel ← onVars (InPlace.isChannel arg)
  if channel = false then usage "*** usage: /join #channel"
  else do
    let (chan, _) ← onVars (InPlace.nextWord arg)
    submit N (do
      onMem (InPlace.strCopy (.block .curChan 0) chan (MAX_CHAN + 1))
      oStr (lit (ascii "JOIN "))
      oStr (.block .curChan 0))
    pure 0

/-- `if (*arg) { o_str(" :"); o_str(arg); }` -/
def oTrailing (arg : Ptr Var) : Program Machine Unit := do
  let c ← onMem (peek arg 0)
  if c ≠ 0 then do
    oStr (lit (ascii " :"))
    oStr arg
  else pure ()

def partCommand (N : Network ν) (arg : Ptr Var) :
    Program (Session Machine ν) Int := do
  let chan ← onVars (load (.block .curChan 0))
  if chan = 0 then usage "*** you are not on a channel"
  else do
    submit N (do
      oStr (lit (ascii "PART "))
      oStr (.block .curChan 0)
      oTrailing arg
      onMem (store (.block .curChan 0) 0))
    pure 0

def nickCommand (N : Network ν) (arg : Ptr Var) :
    Program (Session Machine ν) Int := do
  let c ← onVars (peek arg 0)
  if c = 0 then usage "*** usage: /nick newname"
  else do
    submit N (do
      oStr (lit (ascii "NICK "))
      oStr arg)
    pure 0

def msgCommand (N : Network ν) (arg : Ptr Var) :
    Program (Session Machine ν) Int := do
  let (dest, arg) ← onVars (InPlace.nextWord arg)
  let d ← onVars (peek dest 0)
  let c ← onVars (peek arg 0)
  if d = 0 ∨ c = 0 then usage "*** usage: /msg nick text"
  else do
    submit N (do
      oStr (lit (ascii "PRIVMSG "))
      oStr dest
      oStr (lit (ascii " :"))
      oStr arg)
    onApp (logLine4 (lit (ascii ">")) dest (lit (ascii "< ")) arg)
    pure 0

def meCommand (N : Network ν) (arg : Ptr Var) :
    Program (Session Machine ν) Int := do
  let chan ← onVars (load (.block .curChan 0))
  let c ← onVars (peek arg 0)
  if chan = 0 ∨ c = 0 then
    usage "*** usage: /me does something, on a channel"
  else do
    submit N (do
      oStr (lit (ascii "PRIVMSG "))
      oStr (.block .curChan 0)
      oStr (lit (ascii " :" ++ [1] ++ ascii "ACTION "))
      oStr arg
      oStr (lit [1]))
    onApp (logLine4 (lit (ascii "* ")) (.block .mynick 0) (lit (ascii " ")) arg)
    pure 0

def namesCommand (N : Network ν) (arg : Ptr Var) :
    Program (Session Machine ν) Int := do
  let c ← onVars (peek arg 0)
  let chan ← onVars (load (.block .curChan 0))
  if c = 0 ∧ chan = 0 then usage "*** usage: /names #channel"
  else do
    submit N (do
      oStr (lit (ascii "NAMES "))
      oStr (if c ≠ 0 then arg else .block .curChan 0))
    pure 0

def topicCommand (N : Network ν) (arg : Ptr Var) :
    Program (Session Machine ν) Int := do
  let chan ← onVars (load (.block .curChan 0))
  if chan = 0 then usage "*** you are not on a channel"
  else do
    submit N (do
      oStr (lit (ascii "TOPIC "))
      oStr (.block .curChan 0)
      oTrailing arg)
    pure 0

def rawCommand (N : Network ν) (arg : Ptr Var) :
    Program (Session Machine ν) Int := do
  let c ← onVars (peek arg 0)
  if c = 0 then usage "*** usage: /raw WHOIS someone"
  else do
    submit N (oStr arg)
    pure 0

def quitCommand (N : Network ν) (arg : Ptr Var) :
    Program (Session Machine ν) Int := do
  let c ← onVars (peek arg 0)
  submit N (do
    oStr (lit (ascii "QUIT :"))
    oStr (if c ≠ 0 then arg else lit (ascii "spectrum signing off")))
  pure (-1)

def helpCommand : Program (Session Machine ν) Int := do
  onApp (do
    clearInput
    help)
  pure 0

def noCommand (cmd : Ptr Var) : Program (Session Machine ν) Int := do
  onApp (do
    clearInput
    logLine2 (lit (ascii "*** no such command, try /help: /")) cmd)
  pure 0

/-- The branches of `handle_input_line` for a line that starts with `/`. -/
def runCommand (N : Network ν) (cmd arg : Ptr Var) :
    Program (Session Machine ν) Int :=
  ifSame cmd "help" helpCommand <|
  ifSame cmd "h" helpCommand <|
  ifSame cmd "join" (joinCommand N arg) <|
  ifSame cmd "j" (joinCommand N arg) <|
  ifSame cmd "part" (partCommand N arg) <|
  ifSame cmd "nick" (nickCommand N arg) <|
  ifSame cmd "msg" (msgCommand N arg) <|
  ifSame cmd "m" (msgCommand N arg) <|
  ifSame cmd "me" (meCommand N arg) <|
  ifSame cmd "names" (namesCommand N arg) <|
  ifSame cmd "topic" (topicCommand N arg) <|
  ifSame cmd "raw" (rawCommand N arg) <|
  ifSame cmd "quote" (rawCommand N arg) <|
  ifSame cmd "quit" (quitCommand N arg) <|
  noCommand cmd

/-- The command behind the `/`, and its argument. -/
def splitCommand : Program (Memory layout) (Ptr Var × Ptr Var) := do
  let p ← skip (.block .input 0) 1
  let (cmd, p) ← InPlace.nextWord p
  let i ← scan (fun c => c == SPACE) p
  pure (cmd, p.add i)

def handleInputLine (N : Network ν) : Program (Session Machine ν) Int := do
  let c ← Program.get
  if c.app.inputLen = 0 then pure 0
  else do
    onVars (store (.block .input c.app.inputLen) 0)
    let first ← onVars (load (.block .input 0))
    if first ≠ 0x2f then say N
    else do
      let (cmd, arg) ← onVars splitCommand
      runCommand N cmd arg

/-- `if (input_len) { input_len--; draw_input(); }` -/
def deleteKey : Program Machine Unit := do
  let m ← Program.get
  if m.inputLen ≠ 0 then do
    Program.modify (fun m => { m with inputLen := m.inputLen - 1 })
    drawInput
  else pure ()

/-- The default branch of `handle_key`. -/
def typeKey (k : UInt16) : Program Machine Unit := do
  let m ← Program.get
  if 32 ≤ k ∧ k < 127 ∧ m.inputLen < MAX_INPUT then do
    onMem (store (.block .input m.inputLen) k.toUInt8)
    Program.modify (fun m => { m with inputLen := m.inputLen + 1 })
    drawInput
  else pure ()

def keyAction (N : Network ν) (k : UInt16) :
    Program (Session Machine ν) Int := do
  if k = KEY_ENTER then handleInputLine N
  else if k = KEY_QUIT then do
    onApp (oStr (lit (ascii "QUIT :spectrum signing off")))
    oSend N
    pure (-1)
  else do
    onApp (if k = KEY_LEFT ∨ k = KEY_DELETE ∨ k = KEY_CTRL_DEL then deleteKey
      else typeKey k)
    pure 0

def handleKey (N : Network ν) (k : UInt16) :
    Program (Session Machine ν) Int := do
  let rc ← keyAction N k
  returned .handleKey
  pure rc

/-!
## The loop
-/

def pollNet (P : Platform) (N : Network ν) :
    Program (Session Machine ν) Int :=
  Client.pollNet P app N

/-- `in_GetKey` returned `k`, 0 for no key. -/
def pressKey (N : Network ν) (k : UInt16) : Program (Session Machine ν) Int :=
  if k = 0 then pure 0 else handleKey N k

/-- One turn of the loop of `main`. -/
def turn (P : Platform) (N : Network ν) (k : UInt16) :
    Program (Session Machine ν) Bool := do
  let rc ← pressKey N k
  if rc < 0 then pure false
  else do
    let rc ← pollNet P N
    if rc < 0 then pure false
    else do
      flushPending N
      pure true

def mainLoop (P : Platform) (N : Network ν) (keys : List UInt16) :
    Program (Session Machine ν) Bool :=
  Program.loop (turn P N) keys

/-- The screen is cleared and the variables are reset. -/
def reset : Program Machine Unit := do
  Program.modify (putchar 12)
  Program.modify (fun m =>
    { m with
      inputLen := 0
      rxlen := 0
      outLen := 0
      pongPending := false
      joinPending := false })
  logLine (lit (ascii "*** connected. /help for commands, CAPS+SYM+C quits."))

/-- The NICK and the USER command, in one segment. -/
def register : Program Machine Unit := do
  oStr (lit (ascii "NICK "))
  oStr (.block .mynick 0)
  oStr (lit (CRLF ++ ascii "USER "))
  oStr (.block .mynick 0)
  oStr (lit (ascii " 0 * :"))
  oStr (.block .mynick 0)

def startUp (N : Network ν) : Program (Session Machine ν) Unit := do
  setWindow false
  onApp reset
  onApp register
  oSend N

/-- irc.c `main` from the return of `tcp_connect` to the end of the loop. -/
def main (P : Platform) (N : Network ν) (keys : List UInt16) :
    Program (Session Machine ν) Bool := do
  startUp N
  mainLoop P N keys

/-!
## The questions in front
-/

/-- `read_line` into `line`, with `len` bytes read so far. -/
def readLine : List UInt16 -> Nat -> Program (Memory layout) Unit
  | [], len => store (.block .line len) 0
  | k :: more, len =>
      if k = KEY_ENTER then store (.block .line len) 0
      else if k = KEY_LEFT ∨ k = KEY_DELETE ∨ k = KEY_CTRL_DEL then
        readLine more (len - 1)
      else if 32 ≤ k ∧ k < 127 ∧ len < MAX_INPUT + 2 - 1 then do
        store (.block .line len) k.toUInt8
        readLine more (len + 1)
      else readLine more len

def askNick (keys : List UInt16) : Program (Memory layout) Unit := do
  readLine keys 0
  let (word, _) ← InPlace.nextWord (.block .line 0)
  InPlace.strCopy (.block .mynick 0) word (MAX_NICK + 1)

/-- The channel; one that is no channel is dropped. -/
def askChannel (keys : List UInt16) : Program (Memory layout) Unit := do
  readLine keys 0
  let (word, _) ← InPlace.nextWord (.block .line 0)
  InPlace.strCopy (.block .curChan 0) word (MAX_CHAN + 1)
  let c ← load (.block .curChan 0)
  if c ≠ 0 then do
    let channel ← InPlace.isChannel (.block .curChan 0)
    if channel = true then pure () else store (.block .curChan 0) 0
  else pure ()

def zeros (size : Nat) : Buffer size :=
  ⟨List.replicate size 0, List.length_replicate⟩

/-- The variables when the program starts. -/
def initial (con : Console) : Machine where
  mem := { block := fun v => zeros (layout.size v), faults := [] }
  con := con
  emitN := 0
  inputLen := 0
  rxlen := 0
  outLen := 0
  pongPending := false
  joinPending := false
  lines := []

/-- The questions for the nick and the channel, and `main` behind the
connect. -/
def program (P : Platform) (N : Network ν)
    (nickKeys chanKeys keys : List UInt16) :
    Program (Session Machine ν) Bool := do
  onVars (do
    askNick nickKeys
    askChannel chanKeys)
  main P N keys

/-- The session when a run of irc.c is over or has stopped. -/
def ranMain (P : Platform) (N : Network ν) (net : ν) (con : Console)
    (nickKeys chanKeys keys : List UInt16) : Session Machine ν :=
  (program P N nickKeys chanKeys keys (Session.start (initial con) net)).2

end Machine
end Irc
end Z80Tcpip
