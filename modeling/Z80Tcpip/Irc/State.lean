import Z80Tcpip.Client.Session
import Z80Tcpip.Irc.Strings

/-!
# The state of irc.c

The file-scope variables, the log, and what the server's lines do.  Beside the
variables of the source the state keeps the log entries that have been completed
and the lines that have been handled.
-/

namespace Z80Tcpip
namespace Irc

open Foundation
open Client

def MAX_INPUT : Nat := 100
def RX_LINE : Nat := 320
def OUT_LINE : Nat := 256
def MAX_NICK : Nat := 16
def MAX_CHAN : Nat := 32
def PONG_ARG : Nat := 64

/-- A completed log entry: the strings passed to `emit`, and the rows above the
input line at `emit_start` and at the end of `emit_end`. -/
structure LogEntry where
  before : List Row
  pieces : List (List UInt8)
  after : List Row

/-- A line passed to `handle_server_line`, with `pong_pending` at the call. -/
structure Handled where
  line : List UInt8
  pongPending : Bool

structure State where
  screen : Screen
  emitN : Int16
  rxline : List UInt8
  out : List UInt8
  mynick : List UInt8
  curChan : List UInt8
  pongArg : List UInt8
  pongPending : Bool
  joinPending : Bool
  logged : List LogEntry
  handled : List Handled

/-!
## The log
-/

def emitStart (s : State) : State :=
  { s with
    screen := { s.screen with con := s.screen.con.printAt INPUT_ROW 0 }
    emitN := 0 }

/-- `putchar(c); emit_n++;` -/
def emitPut (c : UInt8) (s : State) : State :=
  { s with
    screen := { s.screen with con := s.screen.con.putchar c }
    emitN := s.emitN + 1 }

/-- One character of `emit`. -/
def emitChar (s : State) (c : UInt8) : State :=
  let c := if c = 9 then 0x20 else c
  if c < 32 ∨ 126 < c then s else emitPut c s

def emit (text : List UInt8) (s : State) : State :=
  text.foldl emitChar s

/-- The loop of `emit_end`: 128 turns reach the next whole row from every value
of `emit_n`. -/
def emitPad : Nat -> State -> State
  | 0, s => s
  | turns + 1, s =>
      if s.emitN = 0 ∨ s.emitN % 64 ≠ 0 then emitPad turns (emitPut 0x20 s)
      else s

def drawInput (s : State) : State :=
  { s with screen := s.screen.drawInput }

def emitEnd (s : State) : State :=
  let s := emitPad 128 s
  drawInput
    { s with screen := { s.screen with con := s.screen.con.putchar 10 } }

/-- `emit_start`, an `emit` for each string and `emit_end`. -/
def logEntry (pieces : List (List UInt8)) (s : State) : State :=
  let s' := emitEnd (pieces.foldl (fun s piece => emit piece s) (emitStart s))
  { s' with
    logged := s'.logged ++
      [{ before := s.screen.con.top
         pieces := pieces
         after := s'.screen.con.top }] }

def logLine (a : List UInt8) : State -> State :=
  logEntry [a]

def logLine2 (a b : List UInt8) : State -> State :=
  logEntry [a, b]

def logLine4 (a b c d : List UInt8) : State -> State :=
  logEntry [a, b, c, d]

/-!
## What the server sends us
-/

def showNumeric (cmd p : List UInt8) (s : State) : State :=
  let p := (nextParam p).2
  let s := logEntry (paramPieces p.length p) s
  if cmd = ascii "433" then
    logLine (ascii "*** nick already in use, pick another with /nick") s
  else s

/-- A server line cut into prefix, command and the rest. -/
def splitLine (line : List UInt8) :
    Option (List UInt8) × List UInt8 × List UInt8 :=
  if line.head? = some COLON then
    let (front, p) := nextWord (line.drop 1)
    (some front, nextWord p)
  else (none, nextWord line)

/-- The branch for PRIVMSG and NOTICE. -/
def showMessage (cmd nick p : List UInt8) : State -> State :=
  let (target, p) := nextParam p
  let (text, _) := nextParam p
  -- CTCP ACTION, i.e. what /me produces
  if text.head? = some 1 ∧ (text.drop 1).take 7 = ascii "ACTION " then
    logLine4 (ascii "* ") nick (ascii " ") (text.drop 8)
  else if cmd = ascii "NOTICE" then
    logLine4 (ascii "-") nick (ascii "- ") text
  else if isChannel target then
    logLine4 (ascii "<") nick (ascii "> ") text
  else logLine4 (ascii "*") nick (ascii "* ") text

def handleServerLine (line : List UInt8) (s : State) : State :=
  let (front, cmd, p) := splitLine line
  let nick := nickOf front
  if cmd = [] then s
  else if cmd = ascii "PING" then
    { s with
      pongArg := strCopy (nextParam p).1 PONG_ARG
      pongPending := true }
  else if cmd = ascii "PRIVMSG" ∨ cmd = ascii "NOTICE" then
    showMessage cmd nick p s
  else if cmd = ascii "JOIN" then
    logLine4 (ascii "* ") nick (ascii " joined ") (nextParam p).1 s
  else if cmd = ascii "PART" then
    logLine4 (ascii "* ") nick (ascii " left ") (nextParam p).1 s
  else if cmd = ascii "QUIT" then
    logLine4 (ascii "* ") nick (ascii " quit: ") (nextParam p).1 s
  else if cmd = ascii "NICK" then
    let text := (nextParam p).1
    let s := if same nick s.mynick then
        { s with mynick := strCopy text (MAX_NICK + 1) }
      else s
    logLine4 (ascii "* ") nick (ascii " is now known as ") text s
  else if cmd = ascii "KICK" then
    logLine4 (ascii "* ") nick (ascii " kicked out of ") (nextParam p).1 s
  else if cmd = ascii "TOPIC" then
    logLine4 (ascii "* ") nick (ascii " set the topic: ")
      (nextParam (nextParam p).2).1 s
  else if cmd = ascii "MODE" then
    logLine4 (ascii "* ") nick (ascii " sets mode ") p s
  else if cmd = ascii "ERROR" then
    logLine2 (ascii "*** ") p s
  else if isNumeric cmd then
    -- 001 is the welcome, we are registered and may join
    let s := if cmd = ascii "001" ∧ s.curChan ≠ [] then
        { s with joinPending := true }
      else s
    showNumeric cmd p s
  else
    logEntry (cmd :: ascii " " :: paramPieces p.length p) s

/-- `rx_char`; the line ends at a NUL that the server has sent. -/
def rxChar (s : State) (c : UInt8) : State :=
  if c = 13 then s
  else if c = 10 then
    let line := cString s.rxline
    handleServerLine line
      { s with
        rxline := []
        handled := s.handled ++ [{ line, pongPending := s.pongPending }] }
  else if s.rxline.length < RX_LINE - 1 then
    { s with rxline := s.rxline ++ [c] }
  else s

def showData (data : List UInt8) (s : State) : State :=
  data.foldl rxChar s

/-- What the shared part of the client calls in irc.c. -/
def app : App State where
  showData := showData
  logLine := logLine

end Irc
end Z80Tcpip
