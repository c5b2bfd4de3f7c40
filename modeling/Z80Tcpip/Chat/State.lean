import Z80Tcpip.Client.Session

/-!
# The state of tcp_chat.c

The file-scope variables, the chat log, and what received data does.  Beside the
variables of the source the state keeps the strings that the log line under
assembly has been written out as.
-/

namespace Z80Tcpip
namespace Chat

open Foundation
open Client

def MAX_INPUT : Nat := 80

structure State where
  screen : Screen
  logline : List UInt8
  loglineEmitted : Bool
  flushed : List (List UInt8)

/-- `puts_raw` -/
def putsRaw (con : Console) (s : List UInt8) : Console :=
  con.putchars (s.takeWhile (fun c => c != 0))

def drawInput (s : State) : State :=
  { s with
    screen :=
      { s.screen with
        con := (putsRaw (s.screen.con.printAt INPUT_ROW 0)
          (inputRow s.screen.input)).printAt INPUT_ROW 0 } }

/-- The loop of `log_line` that pads `n` characters to a whole number of rows,
in at most `turns` turns. -/
def padLine : Nat -> Nat -> Console -> Console
  | 0, _, con => con
  | turns + 1, n, con =>
      if n = 0 ∨ n % SCREEN_COLS ≠ 0 then
        padLine turns (n + 1) (con.putchar 0x20)
      else con

def logLine (text : List UInt8) (s : State) : State :=
  let text := text.takeWhile (fun c => c != 0)
  let con := (s.screen.con.printAt INPUT_ROW 0).putchars text
  drawInput
    { s with
      screen :=
        { s.screen with
          con := (padLine SCREEN_COLS text.length con).putchar 10 } }

def loglineFlush (s : State) : State :=
  logLine s.logline
    { s with
      logline := []
      loglineEmitted := true
      flushed := s.flushed ++ [s.logline] }

def loglineChar (s : State) (c : UInt8) : State :=
  if c = 10 then
    -- an empty line is shown, one that has been written out is not
    let s :=
      if s.logline ≠ [] ∨ s.loglineEmitted = false then loglineFlush s else s
    { s with loglineEmitted := false }
  else
    let c := if c = 9 then 0x20 else c
    if c < 32 ∨ 126 < c then s
    else
      let s := { s with logline := s.logline ++ [c] }
      if s.logline.length = SCREEN_COLS then loglineFlush s else s

def showData (data : List UInt8) (s : State) : State :=
  let s := data.foldl loglineChar s
  if s.logline ≠ [] then loglineFlush s else s

/-- What the shared part of the client calls in tcp_chat.c. -/
def app : App State where
  showData := showData
  logLine := logLine

/-!
## What a logged line leaves alone
-/

@[simp] theorem logLine_logline (text : List UInt8) (s : State) :
    (logLine text s).logline = s.logline := by
  rw [logLine, drawInput]

@[simp] theorem logLine_loglineEmitted (text : List UInt8) (s : State) :
    (logLine text s).loglineEmitted = s.loglineEmitted := by
  rw [logLine, drawInput]

@[simp] theorem logLine_flushed (text : List UInt8) (s : State) :
    (logLine text s).flushed = s.flushed := by
  rw [logLine, drawInput]

theorem logLine_input (text : List UInt8) (s : State) :
    (logLine text s).screen.input = s.screen.input := by
  rw [logLine, drawInput]

@[simp] theorem loglineFlush_logline (s : State) :
    (loglineFlush s).logline = [] := by
  rw [loglineFlush, logLine_logline]

@[simp] theorem loglineFlush_loglineEmitted (s : State) :
    (loglineFlush s).loglineEmitted = true := by
  rw [loglineFlush, logLine_loglineEmitted]

@[simp] theorem loglineFlush_flushed (s : State) :
    (loglineFlush s).flushed = s.flushed ++ [s.logline] := by
  rw [loglineFlush, logLine_flushed]

theorem loglineFlush_input (s : State) :
    (loglineFlush s).screen.input = s.screen.input := by
  rw [loglineFlush, logLine_input]

end Chat
end Z80Tcpip
