import Z80Tcpip.Chat.ScreenLog
import Z80Tcpip.Chat.ServerAsked
import Z80Tcpip.Chat.WholeRuns

/-!
# What is on the screen when tcp_chat.c ends

The keys in front ask for a server.  Once it is connected, the arrays of the
program show the log of the session and the line that the keys behind type.
-/

namespace Z80Tcpip
namespace Chat

open Foundation
open Foundation.Program
open Foundation.Memory
open Client

variable {ν : Type}

/-- The reports begin once a connection is up. -/
def hearDial (dial : Dial ν) : Dial (ν × List Report) :=
  fun server x => ((dial server x.1).1, ((dial server x.1).2, x.2))

theorem dialsAlike_hearing (dial : Dial ν) :
    DialsAlike dial (hearDial dial) (fun x y => y.1 = x) := by
  intro server x y h
  subst h
  rcases hrun : dial server y.1 with ⟨rc, net⟩
  have hheard : hearDial dial server y = (rc, (net, y.2)) := by
    unfold hearDial
    rw [hrun]
  cases rc with
  | none => exact mirrors_stopped hrun hheard rfl
  | some rc => exact mirrors_of_eq hrun hheard rfl

/-- What the calls of the stack return in a run once the connection is up. -/
def reported (P : Platform) (N : Network ν) (dial : Dial ν) (net : ν)
    (con : Console) (keys : List UInt16) : List Report :=
  (ran P (hearing N) (hearDial dial) (net, []) con keys).net.2

/-- What the screen says about a session of `input`: the log with the rows of the
segments in it and a note behind each line that could not be sent, and the line
being typed. -/
structure Shown (con : Console) (input : List UInt8) (entries : List Entry)
    (goodbye : Option Goodbye) (reports : List Report) : Prop where
  log : con.top = logRows (logTexts entries goodbye)
  line : con.row INPUT_ROW = rowOf (inputRow input)
  received : entries.filterMap Entry.received =
    streamRows (segmentStream (segments reports))
  marks : entries.filterMap Entry.failure = failures reports

/-- A chat with `rest` to be typed into it, up to the end of its loop. -/
def Chatted (rest : List UInt16) (running : Bool) (con : Console)
    (input : List UInt8) (reports : List Report) : Prop :=
  exists (front : List UInt16) (entries : List Entry)
    (goodbye : Option Goodbye), Shown con input entries goodbye reports ∧
      entries.filterMap Entry.sent = (typed front).lines ∧
        input = (typed front).input ∧
          Taken rest front running goodbye reports

/-- A chat that has stopped in a call of the stack. -/
def Interrupted (rest : List UInt16) (con : Console) (input : List UInt8)
    (reports : List Report) : Prop :=
  exists entries : List Entry, Shown con input entries none reports ∧
    entries.filterMap Entry.sent <+: (typed rest).lines

/-- The end of a run: a server was asked for, and it did not answer or there was
a chat with it. -/
def Ended (dial : Dial ν) (keys : List UInt16) (net : ν) (running : Bool)
    (x : ν) (con : Console) (input : List UInt8) (reports : List Report) :
    Prop :=
  exists (server : Server) (rest : List UInt16) (rc : Int) (y : ν),
    ServerAsked keys server rest ∧ dial server net = (some rc, y) ∧
      if rc < 0 then running = false ∧ x = y ∧ reports = []
      else Chatted rest running con input reports

/-- The run waits for more keys of an answer, or has stopped in a call of the
stack. -/
def Halted (dial : Dial ν) (keys : List UInt16) (net x : ν) (con : Console)
    (input : List UInt8) (reports : List Report) : Prop :=
  (NoServer keys ∧ x = net ∧ reports = []) ∨
    exists (server : Server) (rest : List UInt16), ServerAsked keys server rest ∧
      (dial server net = (none, x) ∧ reports = [] ∨
        exists (rc : Int) (y : ν), dial server net = (some rc, y) ∧ 0 ≤ rc ∧
          Interrupted rest con input reports)

/-!
## The program on lists
-/

theorem OnScreen.shown {c : Session State (ν × List Report)}
    {entries : List Entry} {goodbye : Option Goodbye}
    (h : OnScreen entries goodbye c) :
    Shown c.app.screen.con c.app.screen.input entries goodbye c.net.2 :=
  ⟨h.log, h.line, h.received, h.marks⟩

/-- The state of the program on lists at the end of a run. -/
def EndedLists (dial : Dial ν) (keys : List UInt16) (net : ν) (running : Bool)
    (c : Session State (ν × List Report)) : Prop :=
  Ended dial keys net running c.net.1 c.app.screen.con c.app.screen.input
    c.net.2

def HaltedLists (dial : Dial ν) (keys : List UInt16) (net : ν)
    (c : Session State (ν × List Report)) : Prop :=
  Halted dial keys net c.net.1 c.app.screen.con c.app.screen.input c.net.2

/-- The chat behind a call that went through. -/
theorem main_shows (P : Platform) (N : Network ν) {dial : Dial ν} {net y : ν}
    {keys rest : List UInt16} {server : Server} {rc : Int} {con : Console}
    (hidle : Idle con) (hserver : ServerAsked keys server rest)
    (hdial : dial server net = (some rc, y)) (hrc : ¬ rc < 0) :
    Outcome (EndedLists dial keys net) (HaltedLists dial keys net)
      (main P (hearing N) rest
        (Session.start (State.initial con) (y, []))) := by
  have hchat := screen_shows_session P N y hidle rest
  rcases hran : main P (hearing N) rest
    (Session.start (State.initial con) (y, [])) with ⟨_ | running, c⟩
  · rw [hran] at hchat
    rcases hchat with ⟨entries, hscreen, hsent⟩
    exact Or.inr ⟨server, rest, hserver, Or.inr ⟨rc, y, hdial,
      Int.not_lt.mp hrc, entries, hscreen.shown, hsent⟩⟩
  · rw [hran] at hchat
    rcases hchat with ⟨front, entries, goodbye, hscreen, hchat⟩
    refine ⟨server, rest, rc, y, hserver, hdial, ?_⟩
    rw [if_neg hrc]
    exact ⟨front, entries, goodbye, hscreen.shown, hchat⟩

theorem program_shows (P : Platform) (N : Network ν) (dial : Dial ν)
    (net : ν) {con : Console} (hidle : Idle con) (keys : List UInt16) :
    Outcome (EndedLists dial keys net) (HaltedLists dial keys net)
      (program P (hearing N) (hearDial dial) keys
        (Session.start (State.initial con) (net, []))) := by
  have hasked := askServer_answers keys con hidle
  rcases hask : askServer keys con with ⟨_ | ⟨server, rest⟩, con'⟩
  · rw [hask] at hasked
    rw [program, bind_none (onConsole_start hask (net, []))]
    exact Or.inl ⟨hasked, rfl, rfl⟩
  rw [hask] at hasked
  rcases hasked with ⟨hidle', hserver⟩
  let connected : Int -> Program (Session State (ν × List Report)) Bool :=
    fun rc =>
      if rc < 0 then do
        onConsole (printText
          (ascii "Failed to connect: " ++ ascii (toString rc) ++ [10]))
        pure false
      else main P (hearing N) rest
  have hprogram : program P (hearing N) (hearDial dial) keys
      (Session.start (State.initial con) (net, [])) =
        (onNet (hearDial dial server) >>= connected)
          (Session.start (State.initial con') (net, [])) :=
    bind_some (onConsole_start hask (net, [])) _
  have hcall : forall {rc : Option Int} {y : ν}, dial server net = (rc, y) ->
      onNet (hearDial dial server)
        (Session.start (State.initial con') (net, [])) =
          (rc, Session.start (State.initial con') (y, [])) := by
    intro rc y hdial
    show ((dial server net).1,
      Session.start (State.initial con') ((dial server net).2, [])) = _
    rw [hdial]
  rw [hprogram]
  rcases hdial : dial server net with ⟨_ | rc, y⟩
  · rw [bind_none (hcall hdial)]
    exact Or.inr ⟨server, rest, hserver, Or.inl ⟨hdial, rfl⟩⟩
  rw [bind_some (hcall hdial)]
  by_cases hrc : rc < 0
  · have hfailed : connected rc = (do
        onConsole (printText
          (ascii "Failed to connect: " ++ ascii (toString rc) ++ [10]))
        pure false) := if_pos hrc
    rw [hfailed]
    refine ⟨server, rest, rc, y, hserver, hdial, ?_⟩
    rw [if_pos hrc]
    exact ⟨rfl, rfl, rfl⟩
  · have hconnected : connected rc = main P (hearing N) rest := if_neg hrc
    rw [hconnected]
    exact main_shows P N hidle' hserver hdial hrc

/-!
## The program on arrays
-/

/-- `input` of a memory. -/
def Machine.inputText (m : Machine) : List UInt8 :=
  (m.mem.block .input).slice 0 m.inputLen

/-- Whatever the dialling and the connection do, the run of tcp_chat.c asks for
the first server that the keys enter, and the arrays show the chat with it: the
greeting, the rows of the segments that came in, the lines that were entered with
a note behind each that could not be sent, a farewell if the server has ended it,
and the line being typed. -/
theorem arrays_show_chat (P : Platform) (N : Network ν) (dial : Dial ν)
    (net : ν) {con : Console} (hidle : con.paramsLeft = 0)
    (keys : List UInt16) :
    Outcome
      (fun running (c : Session Machine ν) =>
        Ended dial keys net running c.net c.app.con c.app.inputText
          (reported P N dial net con keys))
      (fun c => Halted dial keys net c.net c.app.con c.app.inputText
        (reported P N dial net con keys))
      (Machine.program P N dial keys
        (Session.start (Machine.initial con) net)) := by
  have hbeside := Machine.program_beside P (netsAlike_hearing N).symm
    (dialsAlike_hearing dial)
    (Machine.initial_beside (x := net) (y := (net, [])) rfl con) rfl keys
  refine hbeside.outcome (program_shows P N dial net hidle keys) ?_ ?_
  · intro running c d hd h hended
    have hreports : reported P N dial net con keys = d.net.2 :=
      congrArg (fun c : Session State (ν × List Report) => c.net.2) hd
    have hinput : c.app.inputText = d.app.screen.input := h.app.input
    rw [hreports, <- h.net, h.app.con, hinput]
    exact hended
  · intro c d hd h hhalted
    have hreports : reported P N dial net con keys = d.net.2 :=
      congrArg (fun c : Session State (ν × List Report) => c.net.2) hd
    have hinput : c.app.inputText = d.app.screen.input := h.app.input
    rw [hreports, <- h.net, h.app.con, hinput]
    exact hhalted

/-- An address, a port, a line and a letter. -/
def typedCall : List UInt16 :=
  [0x31, 0x2e, 0x32, 0x2e, 0x33, 0x2e, 0x34, 13, 0x37, 13, 0x61, 13, 0x62]

/-- Every payload is refused, and an empty segment closes the connection. -/
def refusingNetwork : Network Feed :=
  { feedNetwork Platform.spectrum with
    send := fun bytes _ => pure (if bytes = [] then 0 else -1)
    headerFlags := fun _ => TCP_FIN }

/-- Lines come in while the letter of the line is typed and while the line is
sent, and then the server closes the connection. -/
def closingFeed : Feed where
  current := []
  coming := [ascii "hello\n", ascii "b\n", ascii "c\n", ascii "d\n", []]

/-- `tcp_connect` succeeds at once. -/
def atOnce : Dial Feed := fun _ => pure 0

theorem arrays_show_chat_closed :
    Outcome
        (fun running (c : Session Machine Feed) =>
          Ended atOnce typedCall closingFeed running c.net c.app.con
            c.app.inputText
            (reported Platform.spectrum refusingNetwork atOnce
              closingFeed Console.blank typedCall))
        (fun c => Halted atOnce typedCall closingFeed c.net
          c.app.con c.app.inputText
          (reported Platform.spectrum refusingNetwork atOnce
            closingFeed Console.blank typedCall))
        (Machine.program Platform.spectrum refusingNetwork atOnce
          typedCall
          (Session.start (Machine.initial Console.blank) closingFeed)) ∧
      failures (reported Platform.spectrum refusingNetwork atOnce
        closingFeed Console.blank typedCall) = [true] ∧
      segments (reported Platform.spectrum refusingNetwork atOnce
        closingFeed Console.blank typedCall) =
          [ascii "hello\n", ascii "b\n", ascii "c\n", ascii "d\n"] := by
  have hidle : Console.blank.paramsLeft = 0 := rfl
  refine ⟨?_, by decide +kernel, by decide +kernel⟩
  generalize closingFeed = net
  generalize typedCall = keys
  exact arrays_show_chat Platform.spectrum refusingNetwork atOnce net hidle
    keys

end Chat
end Z80Tcpip
