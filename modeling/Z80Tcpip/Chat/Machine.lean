import Z80Tcpip.Chat.Questions
import Z80Tcpip.Foundation.Memory

/-!
# tcp_chat.c in memory

The arrays of tcp_chat.c are blocks of a memory and the code works on them
through checked accesses.  This is the same program as the one on lists, one
level down.
-/

namespace Z80Tcpip
namespace Chat

open Foundation
open Foundation.Program
open Foundation.Memory
open Client

/-- The arrays: those of the file, `row` of `draw_input`, `line` of `main`, and
the four bytes of `tcp.ip.daddr`. -/
inductive Var where
  | input
  | logline
  | row
  | line
  | daddr
  deriving DecidableEq

def layout : Layout Var where
  size
    | .input => MAX_INPUT + 2
    | .logline => SCREEN_COLS + 1
    | .row => SCREEN_COLS + 1
    | .line => MAX_INPUT + 2
    | .daddr => 4
  isText _ := false

structure Machine where
  mem : Memory layout
  con : Console
  inputLen : Nat
  loglineLen : Nat
  loglineEmitted : Bool

/-- A string literal. -/
def lit (text : List UInt8) : Ptr Var :=
  .text text 0

namespace Machine

variable {ν α : Type}

def onMem (p : Program (Memory layout) α) : Program Machine α := fun m =>
  ((p m.mem).1, { m with mem := (p m.mem).2 })

/-- A loop that has gone through all cells of a block. -/
def outOfBounds : Program Machine α :=
  onMem (fault .outOfBounds)

/-!
## The screen
-/

def putchar (c : UInt8) (m : Machine) : Machine :=
  { m with con := m.con.putchar c }

def printAt (row col : Nat) (m : Machine) : Machine :=
  { m with con := m.con.printAt row col }

/-- From `s[i]` on. -/
def putsFrom (s : Ptr Var) : Nat -> Nat -> Program Machine Nat
  | 0, _ => outOfBounds
  | turns + 1, i => do
      let c ← onMem (peek s i)
      if c = 0 then pure i
      else do
        Program.modify (putchar c)
        putsFrom s turns (i + 1)

/-- `puts_raw`, and the number of characters that `log_line` counts in the same
loop. -/
def putsRaw (s : Ptr Var) : Program Machine Nat := do
  let m ← Program.get
  putsFrom s (m.mem.cells s).length 0

/-- `row` of `draw_input`. -/
def fillRow (inputLen : Nat) : Program (Memory layout) Unit := do
  let n := min inputLen INPUT_VIEW
  let start := inputLen - INPUT_VIEW
  store (.block .row 0) 0x3e
  each (fun i => do
    let c ← load (.block .input (start + i))
    store (.block .row (1 + i)) c) (List.range' 0 n)
  store (.block .row (1 + n)) 0x5f
  each (fun i => store (.block .row i) 0x20)
    (List.range' (n + 2) (SCREEN_COLS - (n + 2)))
  store (.block .row SCREEN_COLS) 0

def drawInput : Program Machine Unit := do
  let m ← Program.get
  onMem (fillRow m.inputLen)
  Program.modify (printAt INPUT_ROW 0)
  let _ ← putsRaw (.block .row 0)
  Program.modify (printAt INPUT_ROW 0)

/-- The rest of the row and the newline. -/
def endRow (n : Nat) (m : Machine) : Machine :=
  { m with con := (padLine SCREEN_COLS n m.con).putchar 10 }

def logLine (s : Ptr Var) : Program Machine Unit := do
  Program.modify (printAt INPUT_ROW 0)
  let n ← putsRaw s
  Program.modify (endRow n)
  drawInput

/-!
## What the server sends us
-/

def loglineFlush : Program Machine Unit := do
  let m ← Program.get
  onMem (store (.block .logline m.loglineLen) 0)
  Program.modify (fun m =>
    { m with
      loglineLen := 0
      loglineEmitted := true })
  logLine (.block .logline 0)

def loglineChar (c : UInt8) : Program Machine Unit :=
  if c = 10 then do
    let m ← Program.get
    if m.loglineLen ≠ 0 ∨ m.loglineEmitted = false then loglineFlush
    else pure ()
    Program.modify (fun m => { m with loglineEmitted := false })
  else
    let c := if c = 9 then 0x20 else c
    if c < 32 ∨ 126 < c then pure ()
    else do
      let m ← Program.get
      onMem (store (.block .logline m.loglineLen) c)
      Program.modify (fun m => { m with loglineLen := m.loglineLen + 1 })
      if m.loglineLen + 1 = SCREEN_COLS then loglineFlush else pure ()

def showData (data : List UInt8) : Program Machine Unit := do
  each loglineChar data
  let m ← Program.get
  if m.loglineLen ≠ 0 then loglineFlush else pure ()

/-- What the shared part of the client calls.  A fault stays noted. -/
def app : App Machine where
  showData := fun data m => (showData data m).2
  logLine := fun text m => (logLine (lit text) m).2

def onApp (p : Program Machine α) : Program (Session Machine ν) α := fun c =>
  ((p c.app).1, { c with app := (p c.app).2 })

/-!
## What we type
-/

/-- `if (rc < 0) log_line("*** send failed");` -/
def reportFailure (rc : Int) : Program Machine Unit :=
  if rc < 0 then logLine (lit (ascii "*** send failed")) else pure ()

/-- The LF is stored, and the bytes that `tcp_send` reads. -/
def finishInput : Program Machine (List UInt8) := do
  let m ← Program.get
  onMem (do
    store (.block .input m.inputLen) 10
    loadBytes (.block .input 0) (m.inputLen + 1))

/-- The line is shown in the log. -/
def echo : Program Machine Unit := do
  let m ← Program.get
  onMem (store (.block .input m.inputLen) 0)
  Program.modify (fun m => { m with inputLen := 0 })
  logLine (.block .input 0)

/-- `send_input` when a line has been typed. -/
def sendLine (N : Network ν) : Program (Session Machine ν) Unit := do
  drain app N
  let bytes ← onApp finishInput
  let rc ← sendData N .typed [bytes] bytes
  onApp (do
    echo
    reportFailure rc)
  returned .send

def sendInput (N : Network ν) : Program (Session Machine ν) Unit := do
  let c ← Program.get
  if c.app.inputLen = 0 then returned .send else sendLine N

/-- `if (input_len) { input_len--; draw_input(); }` -/
def deleteKey : Program Machine Unit := do
  let m ← Program.get
  if m.inputLen ≠ 0 then do
    Program.modify (fun m => { m with inputLen := m.inputLen - 1 })
    drawInput
  else pure ()

/-- The default branch of `handle_key`. -/
def typeKey (k : UInt16) : Program Machine Unit := do
  let m ← Program.get
  if 32 ≤ k ∧ k < 127 ∧ m.inputLen < MAX_INPUT then do
    onMem (store (.block .input m.inputLen) k.toUInt8)
    Program.modify (fun m => { m with inputLen := m.inputLen + 1 })
    drawInput
  else pure ()

def keyAction (N : Network ν) (k : UInt16) :
    Program (Session Machine ν) Int := do
  if k = KEY_ENTER then do
    sendInput N
    pure 0
  else if k = KEY_QUIT then pure (-1)
  else do
    onApp (if k = KEY_LEFT ∨ k = KEY_DELETE ∨ k = KEY_CTRL_DEL then deleteKey
      else typeKey k)
    pure 0

def handleKey (N : Network ν) (k : UInt16) :
    Program (Session Machine ν) Int := do
  let rc ← keyAction N k
  returned .handleKey
  pure rc

/-!
## The loop
-/

def pollNet (P : Platform) (N : Network ν) :
    Program (Session Machine ν) Int :=
  Client.pollNet P app N

/-- `in_GetKey` returned `k`, 0 for no key. -/
def pressKey (N : Network ν) (k : UInt16) : Program (Session Machine ν) Int :=
  if k = 0 then pure 0 else handleKey N k

/-- One turn of the loop of `main`. -/
def turn (P : Platform) (N : Network ν) (k : UInt16) :
    Program (Session Machine ν) Bool := do
  let rc ← pressKey N k
  if rc < 0 then pure false
  else do
    let rc ← pollNet P N
    pure (decide (0 ≤ rc))

/-- The screen is cleared and the variables are reset. -/
def reset : Program Machine Unit := do
  Program.modify (putchar 12)
  Program.modify (fun m =>
    { m with
      inputLen := 0
      loglineLen := 0
      loglineEmitted := false })
  logLine (lit (ascii "*** connected. CAPS+SYM+C quits."))

/-- `main` from the return of `tcp_connect` on. -/
def main (P : Platform) (N : Network ν) (keys : List UInt16) :
    Program (Session Machine ν) Bool := do
  onApp reset
  setWindow false
  Program.loop (turn P N) keys

/-!
## The questions in front
-/

/-- `read_line` into `line`, with `len` bytes read so far. -/
def readLine : List UInt16 -> Nat -> Program Machine (List UInt16)
  | [], _ => Program.stop
  | k :: more, len =>
      if k = 0 then readLine more len
      else if k = KEY_ENTER then do
        onMem (store (.block .line len) 0)
        Program.modify (putchar 10)
        pure more
      else if k = KEY_LEFT ∨ k = KEY_DELETE ∨ k = KEY_CTRL_DEL then
        if len ≠ 0 then do
          Program.modify (fun m => { m with con := rubOut m.con })
          readLine more (len - 1)
        else readLine more len
      else if 32 ≤ k ∧ k < 127 ∧ len < MAX_INPUT + 2 - 1 then do
        onMem (store (.block .line len) k.toUInt8)
        Program.modify (putchar k.toUInt8)
        readLine more (len + 1)
      else readLine more len

/-- The loop of `parse_number` from `p[i]` on: the value and where it ends. -/
def parseNumberFrom (p : Ptr Var) :
    Nat -> Nat -> UInt16 -> Program (Memory layout) (UInt16 × Nat)
  | 0, _, _ => fault .outOfBounds
  | turns + 1, i, val => do
      let c ← peek p i
      if IsDigit c then
        parseNumberFrom p turns (i + 1) (val * 10 + (c.toUInt16 - 0x30))
      else pure (val, i)

def parseNumber (p : Ptr Var) : Program (Memory layout) (UInt16 × Nat) := do
  let m ← Program.get
  parseNumberFrom p (m.cells p).length 0 0

/-- The loop of `parse_ip` with `n` bytes to go. -/
def parseIpFrom : Nat -> Ptr Var -> Program (Memory layout) Int
  | 0, _ => pure 0
  | n + 1, p => do
      let c ← peek p 0
      if ¬ IsDigit c then pure (-1)
      else do
        let (val, i) ← parseNumber p
        store (.block .daddr (3 - n)) val.toUInt8
        if 3 - n < 3 then do
          let c ← peek p i
          if c ≠ DOT then pure (-1)
          else parseIpFrom n (p.add (i + 1))
        else parseIpFrom n (p.add i)

def parseIp (p : Ptr Var) : Program (Memory layout) Int :=
  parseIpFrom 4 p

/-- `printf` of a text without conversions. -/
def printText (text : List UInt8) : Program Machine Unit :=
  Program.modify (fun m => { m with con := m.con.putchars text })

/-- With an address the bytes are read that `tcp_connect` finds. -/
def askAddress :
    Nat -> List UInt16 -> Program Machine (List UInt8 × List UInt16)
  | 0, _ => Program.stop
  | turns + 1, keys => do
      printText (ascii "Chat server IP: ")
      let keys ← readLine keys 0
      let rc ← onMem (parseIp (.block .line 0))
      if rc = 0 then do
        let ip ← onMem (loadBytes (.block .daddr 0) 4)
        pure (ip, keys)
      else do
        printText (ascii "Not an IP address.\n")
        askAddress turns keys

/-- `if (line[0] is a digit) port = parse_number(&p);` -/
def readPort : Program (Memory layout) UInt16 := do
  let c ← load (.block .line 0)
  if IsDigit c then do
    let (val, _) ← parseNumber (.block .line 0)
    pure val
  else pure 0

def askPort : Nat -> List UInt16 -> Program Machine (UInt16 × List UInt16)
  | 0, _ => Program.stop
  | turns + 1, keys => do
      printText (ascii "Chat server port: ")
      let keys ← readLine keys 0
      let port ← onMem readPort
      if port = 0 then askPort turns keys else pure (port, keys)

def askServer (keys : List UInt16) :
    Program Machine (Server × List UInt16) := do
  printText ([12] ++ ascii "Z80 CHAT\n\n")
  printText (ascii "My IP address: 192.0.2.2\n\n")
  let (ip, keys) ← askAddress (keys.length + 1) keys
  let (port, keys) ← askPort (keys.length + 1) keys
  printText (ascii "\nConnecting ...\n")
  pure ({ ip := ip, port := port }, keys)

theorem zeros_length (size : Nat) :
    (List.replicate size (0 : UInt8)).length = size :=
  List.length_replicate

def zeros (size : Nat) : Buffer size :=
  ⟨List.replicate size 0, zeros_length size⟩

/-- The variables when the program starts. -/
def initial (con : Console) : Machine where
  mem := { block := fun v => zeros (layout.size v), faults := [] }
  con := con
  inputLen := 0
  loglineLen := 0
  loglineEmitted := false

/-- tcp_chat.c `main`, from its start to the end of the loop. -/
def program (P : Platform) (N : Network ν) (dial : Dial ν)
    (keys : List UInt16) : Program (Session Machine ν) Bool := do
  let (server, keys) ← onApp (askServer keys)
  let rc ← onNet (dial server)
  if rc < 0 then do
    onApp (printText
      (ascii "Failed to connect: " ++ ascii (toString rc) ++ [10]))
    pure false
  else main P N keys

/-- The session when a run of tcp_chat.c is over or has stopped. -/
def ran (P : Platform) (N : Network ν) (dial : Dial ν) (net : ν)
    (con : Console) (keys : List UInt16) : Session Machine ν :=
  (program P N dial keys (Session.start (initial con) net)).2

end Machine
end Chat
end Z80Tcpip
