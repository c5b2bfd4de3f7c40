import Z80Tcpip.Chat.MainLoop
import Z80Tcpip.Client.Prompts

/-!
# The questions of tcp_chat.c

In front of the chat `main` asks for the address and the port of the server,
each until it gets one, and connects.  All keys come from one keyboard: what the
questions leave of them is typed into the chat.
-/

namespace Z80Tcpip
namespace Chat

open Foundation
open Client

variable {ν : Type}

/-- The first loop of `main`. -/
def askAddress (turns : Nat) (keys : List UInt16) (ip : List UInt8) :
    Program Console (List UInt8 × List UInt16) :=
  Client.askAddress (ascii "Chat server IP: ") (MAX_INPUT + 2) turns keys ip

/-- The port that a line gives, 0 for none. -/
def portOf (line : List UInt8) : UInt16 :=
  if IsDigit (charAt line) then (parseNumber line).1 else 0

/-- The second loop of `main`. -/
def askPort : Nat -> List UInt16 -> Program Console (UInt16 × List UInt16)
  | 0, _ => Program.stop
  | turns + 1, keys => do
      printText (ascii "Chat server port: ")
      let (line, keys) ← readLine (MAX_INPUT + 2) keys []
      if portOf line = 0 then askPort turns keys
      else pure (portOf line, keys)

def askServer (keys : List UInt16) :
    Program Console (Server × List UInt16) := do
  printText ([12] ++ ascii "Z80 CHAT\n\n")
  printText (ascii "My IP address: 192.0.2.2\n\n")
  let (ip, keys) ← askAddress (keys.length + 1) keys [0, 0, 0, 0]
  let (port, keys) ← askPort (keys.length + 1) keys
  printText (ascii "\nConnecting ...\n")
  pure ({ ip := ip, port := port }, keys)

def onConsole {α : Type} (p : Program Console α) :
    Program (Session State ν) α := fun c =>
  ((p c.app.screen.con).1,
    { c with
      app :=
        { c.app with
          screen := { c.app.screen with con := (p c.app.screen.con).2 } } })

/-- tcp_chat.c `main`, from its start to the end of the loop. -/
def program (P : Platform) (N : Network ν) (dial : Dial ν)
    (keys : List UInt16) : Program (Session State ν) Bool := do
  let (server, keys) ← onConsole (askServer keys)
  let rc ← onNet (dial server)
  if rc < 0 then do
    onConsole (printText
      (ascii "Failed to connect: " ++ ascii (toString rc) ++ [10]))
    pure false
  else main P N keys

/-- The session when a run of tcp_chat.c is over or has stopped. -/
def ran (P : Platform) (N : Network ν) (dial : Dial ν) (net : ν)
    (con : Console) (keys : List UInt16) : Session State ν :=
  (program P N dial keys (Session.start (State.initial con) net)).2

/-- In front of the chat only the console changes. -/
theorem onConsole_start {α : Type} {p : Program Console α} {a : Option α}
    {con con' : Console} (h : p con = (a, con')) (net : ν) :
    onConsole p (Session.start (State.initial con) net) =
      (a, Session.start (State.initial con') net) := by
  show ((p con).1, Session.start (State.initial (p con).2) net) = _
  rw [h]

end Chat
end Z80Tcpip
