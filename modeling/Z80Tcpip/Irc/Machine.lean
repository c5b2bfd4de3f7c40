import Z80Tcpip.Irc.InPlace
import Z80Tcpip.Irc.MainLoop

/-!
# irc.c in memory

The arrays of irc.c are blocks of a memory and the code works on them through
checked accesses.  This is the same program as the one on lists, one level down:
what the lists leave out is where each byte stands.
-/

namespace Z80Tcpip
namespace Irc

open Foundation
open Foundation.Program
open Foundation.Memory
open Client

/-- The arrays: those of the file, `row` of `draw_input` and `line` of `main`. -/
inductive Var where
  | rxline
  | out
  | input
  | mynick
  | curChan
  | pongArg
  | row
  | line
  deriving DecidableEq

def layout : Layout Var where
  size
    | .rxline => RX_LINE
    | .out => OUT_LINE
    | .input => MAX_INPUT + 2
    | .mynick => MAX_NICK + 1
    | .curChan => MAX_CHAN + 1
    | .pongArg => PONG_ARG
    | .row => SCREEN_COLS + 1
    | .line => MAX_INPUT + 2
  isText
    | .mynick => true
    | .curChan => true
    | .pongArg => true
    | _ => false

/-- The memory and the other variables.  `lines` has, for each call of
`handle_server_line`, what stood in `rxline` up to the NUL that was stored for
it. -/
structure Machine where
  mem : Memory layout
  con : Console
  emitN : Int16
  inputLen : Nat
  rxlen : Nat
  outLen : Nat
  pongPending : Bool
  joinPending : Bool
  lines : List (List UInt8)

/-- A string literal. -/
def lit (text : List UInt8) : Ptr Var :=
  .text text 0

namespace Machine

variable {α : Type}

def onMem (p : Program (Memory layout) α) : Program Machine α := fun m =>
  ((p m.mem).1, { m with mem := (p m.mem).2 })

/-- A loop that has gone through all cells of a block. -/
def outOfBounds : Program Machine α :=
  onMem (fault .outOfBounds)

/-!
## The screen
-/

def putchar (c : UInt8) (m : Machine) : Machine :=
  { m with con := m.con.putchar c }

def printAt (row col : Nat) (m : Machine) : Machine :=
  { m with con := m.con.printAt row col }

def drawInput : Program Machine Unit := do
  let m ← Program.get
  let n := min m.inputLen INPUT_VIEW
  let start := m.inputLen - INPUT_VIEW
  onMem (store (.block .row 0) 0x3e)
  each (fun i => onMem (do
    let c ← load (.block .input (start + i))
    store (.block .row (1 + i)) c)) (List.range' 0 n)
  onMem (store (.block .row (1 + n)) 0x5f)
  each (fun i => onMem (store (.block .row i) 0x20))
    (List.range' (n + 2) (SCREEN_COLS - (n + 2)))
  onMem (store (.block .row SCREEN_COLS) 0)
  Program.modify (printAt INPUT_ROW 0)
  each (fun i => do
    let c ← onMem (load (.block .row i))
    Program.modify (putchar c)) (List.range' 0 SCREEN_COLS)
  Program.modify (printAt INPUT_ROW 0)

def emitStart (m : Machine) : Machine :=
  { m.printAt INPUT_ROW 0 with emitN := 0 }

/-- `putchar(c); emit_n++;` -/
def emitPut (c : UInt8) (m : Machine) : Machine :=
  { m.putchar c with emitN := m.emitN + 1 }

/-- One character of `emit`. -/
def emitChar (c : UInt8) (m : Machine) : Machine :=
  let c := if c = 9 then 0x20 else c
  if c < 32 ∨ 126 < c then m else emitPut c m

def emitFrom (s : Ptr Var) : Nat -> Nat -> Program Machine Unit
  | 0, _ => outOfBounds
  | turns + 1, i => do
      let c ← onMem (peek s i)
      if c = 0 then pure ()
      else do
        Program.modify (emitChar c)
        emitFrom s turns (i + 1)

def emit (s : Ptr Var) : Program Machine Unit := do
  let m ← Program.get
  emitFrom s (m.mem.cells s).length 0

/-- The loop of `emit_end`. -/
def emitPad : Nat -> Machine -> Machine
  | 0, m => m
  | turns + 1, m =>
      if m.emitN = 0 ∨ m.emitN % 64 ≠ 0 then emitPad turns (emitPut 0x20 m)
      else m

def emitEnd : Program Machine Unit := do
  Program.modify (emitPad 128)
  Program.modify (putchar 10)
  drawInput

def logLine (a : Ptr Var) : Program Machine Unit := do
  Program.modify emitStart
  emit a
  emitEnd

def logLine2 (a b : Ptr Var) : Program Machine Unit := do
  Program.modify emitStart
  emit a
  emit b
  emitEnd

def logLine4 (a b c d : Ptr Var) : Program Machine Unit := do
  Program.modify emitStart
  emit a
  emit b
  emit c
  emit d
  emitEnd

/-!
## What the server sends us
-/

def emitParamsFrom : Nat -> Ptr Var -> Program Machine Unit
  | 0, _ => outOfBounds
  | turns + 1, p => do
      let c ← onMem (peek p 0)
      if c = 0 then pure ()
      else do
        let (param, p) ← onMem (InPlace.nextParam p)
        emit param
        emit (lit (ascii " "))
        emitParamsFrom turns p

def emitParams (p : Ptr Var) : Program Machine Unit := do
  let m ← Program.get
  emitParamsFrom (m.mem.cells p).length p

/-- `if (!strcmp(cmd, name))` -/
def ifCommand (cmd : Ptr Var) (name : String) (yes no : Program Machine α) :
    Program Machine α := do
  let equal ← onMem (strcmp cmd (lit (ascii name)))
  if equal = true then yes else no

def showNumeric (cmd p : Ptr Var) : Program Machine Unit := do
  let (_, p) ← onMem (InPlace.nextParam p)
  Program.modify emitStart
  emitParams p
  emitEnd
  ifCommand cmd "433"
    (logLine (lit (ascii "*** nick already in use, pick another with /nick")))
    (pure ())

/-- `text[0] == 1 && !strncmp(text + 1, "ACTION ", 7)` -/
def isAction (text : Ptr Var) : Program (Memory layout) Bool := do
  let c ← peek text 0
  if c = 1 then do
    let p ← skip text 1
    strncmp p (lit (ascii "ACTION ")) 7
  else pure false

/-- The branch for PRIVMSG and NOTICE. -/
def showMessage (cmd nick p : Ptr Var) : Program Machine Unit := do
  let (target, p) ← onMem (InPlace.nextParam p)
  let (text, _) ← onMem (InPlace.nextParam p)
  let action ← onMem (isAction text)
  if action = true then do
    let said ← onMem (skip text 8)
    logLine4 (lit (ascii "* ")) nick (lit (ascii " ")) said
  else
    ifCommand cmd "NOTICE"
      (logLine4 (lit (ascii "-")) nick (lit (ascii "- ")) text)
      (do
        let channel ← onMem (InPlace.isChannel target)
        if channel = true then
          logLine4 (lit (ascii "<")) nick (lit (ascii "> ")) text
        else logLine4 (lit (ascii "*")) nick (lit (ascii "* ")) text)

/-- `log_line4("* ", nick, what, next_param(&p));` -/
def showEvent (nick : Ptr Var) (what : String) (p : Ptr Var) :
    Program Machine Unit := do
  let (param, _) ← onMem (InPlace.nextParam p)
  logLine4 (lit (ascii "* ")) nick (lit (ascii what)) param

/-- `if (same(nick, mynick)) str_copy(mynick, text, sizeof(mynick));` -/
def followNick (nick text : Ptr Var) : Program (Memory layout) Unit := do
  let ours ← compare lower nick (.block .mynick 0)
  if ours = true then
    InPlace.strCopy (.block .mynick 0) text (MAX_NICK + 1)
  else pure ()

/-- The branch for NICK. -/
def showNick (nick p : Ptr Var) : Program Machine Unit := do
  let (text, _) ← onMem (InPlace.nextParam p)
  onMem (followNick nick text)
  logLine4 (lit (ascii "* ")) nick (lit (ascii " is now known as ")) text

/-- `if (!strcmp(cmd, "001") && cur_chan[0]) join_pending = 1;` -/
def joinIfWelcome (cmd : Ptr Var) : Program Machine Unit :=
  ifCommand cmd "001"
    (do
      let c ← onMem (load (.block .curChan 0))
      if c ≠ 0 then Program.modify (fun m => { m with joinPending := true })
      else pure ())
    (pure ())

def handlePing (p : Ptr Var) : Program Machine Unit := do
  let (arg, _) ← onMem (InPlace.nextParam p)
  onMem (InPlace.strCopy (.block .pongArg 0) arg PONG_ARG)
  Program.modify (fun m => { m with pongPending := true })

/-- A numeric reply, or something we do not know about. -/
def showOther (cmd p : Ptr Var) : Program Machine Unit := do
  let numeric ← onMem (InPlace.isNumeric cmd)
  if numeric = true then do
    joinIfWelcome cmd
    showNumeric cmd p
  else do
    Program.modify emitStart
    emit cmd
    emit (lit (ascii " "))
    emitParams p
    emitEnd

/-- The commands that `handle_server_line` knows, in its order, with `nick`
worked out. -/
def showCommand (cmd nick p : Ptr Var) : Program Machine Unit :=
  ifCommand cmd "PRIVMSG" (showMessage cmd nick p) <|
  ifCommand cmd "NOTICE" (showMessage cmd nick p) <|
  ifCommand cmd "JOIN" (showEvent nick " joined " p) <|
  ifCommand cmd "PART" (showEvent nick " left " p) <|
  ifCommand cmd "QUIT" (showEvent nick " quit: " p) <|
  ifCommand cmd "NICK" (showNick nick p) <|
  ifCommand cmd "KICK" (showEvent nick " kicked out of " p) <|
  ifCommand cmd "TOPIC"
    (do
      let (_, p) ← onMem (InPlace.nextParam p)
      showEvent nick " set the topic: " p) <|
  ifCommand cmd "MODE"
    (logLine4 (lit (ascii "* ")) nick (lit (ascii " sets mode ")) p) <|
  ifCommand cmd "ERROR" (logLine2 (lit (ascii "*** ")) p) <|
  showOther cmd p

def handleServerLine (line : Ptr Var) : Program Machine Unit := do
  let (front, cmd, p) ← onMem (InPlace.splitLine line)
  let c ← onMem (peek cmd 0)
  if c = 0 then pure ()
  else
    ifCommand cmd "PING" (handlePing p) (do
      let nick ← onMem (InPlace.nickOf front)
      showCommand cmd nick p)

/-- `rxline[rxlen] = 0; rxlen = 0;` -/
def endLine (m : Machine) : Machine :=
  { m with
    rxlen := 0
    lines := m.lines ++ [(m.mem.block .rxline).slice 0 (m.rxlen + 1)] }

def rxChar (c : UInt8) : Program Machine Unit :=
  if c = 13 then pure ()
  else if c = 10 then do
    let m ← Program.get
    onMem (store (.block .rxline m.rxlen) 0)
    Program.modify endLine
    handleServerLine (.block .rxline 0)
  else do
    let m ← Program.get
    if m.rxlen < RX_LINE - 1 then do
      onMem (store (.block .rxline m.rxlen) c)
      Program.modify (fun m => { m with rxlen := m.rxlen + 1 })
    else pure ()

def showData (data : List UInt8) : Program Machine Unit :=
  each rxChar data

/-- What the shared part of the client calls.  A fault stays noted. -/
def app : App Machine where
  showData := fun data m => (showData data m).2
  logLine := fun text m => (logLine (lit text) m).2

/-!
## Sending
-/

def oStrFrom (s : Ptr Var) : Nat -> Nat -> Program Machine Unit
  | 0, _ => outOfBounds
  | turns + 1, i => do
      let c ← onMem (peek s i)
      let m ← Program.get
      if c ≠ 0 ∧ m.outLen < OUT_LINE - 2 then do
        onMem (store (.block .out m.outLen) c)
        Program.modify (fun m => { m with outLen := m.outLen + 1 })
        oStrFrom s turns (i + 1)
      else pure ()

def oStr (s : Ptr Var) : Program Machine Unit := do
  let m ← Program.get
  oStrFrom s (m.mem.cells s).length 0

/-- `out[out_len++] = c;` -/
def outPut (c : UInt8) : Program Machine Unit := do
  let m ← Program.get
  onMem (store (.block .out m.outLen) c)
  Program.modify (fun m => { m with outLen := m.outLen + 1 })

/-- The CR and LF, and the bytes that `tcp_send` reads. -/
def finishOut : Program Machine (List UInt8) := do
  outPut 13
  outPut 10
  let m ← Program.get
  onMem (loadBytes (.block .out 0) m.outLen)

end Machine

end Irc
end Z80Tcpip
