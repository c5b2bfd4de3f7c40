import Z80Tcpip.Client.Prompts
import Z80Tcpip.Irc.CommandsArrive

/-!
# The questions of irc.c

In front of its session irc.c asks for the address and the port of the server,
for a nick until it gets one, and for a channel.  What is registered is the nick
that was typed.
-/

namespace Z80Tcpip
namespace Irc

open Foundation
open Foundation.Program
open Client

variable {ν : Type}

/-- What the questions give. -/
structure Asked where
  server : Server
  nick : List UInt8
  chan : List UInt8

/-- A line without a number gives the standard port. -/
def portFor (line : List UInt8) : UInt16 :=
  if (parseNumber line).1 = 0 then 6667 else (parseNumber line).1

def nickFor (line : List UInt8) : List UInt8 :=
  strCopy (nextWord line).1 (MAX_NICK + 1)

/-- What is no channel is ignored. -/
def channelFor (line : List UInt8) : List UInt8 :=
  let chan := strCopy (nextWord line).1 (MAX_CHAN + 1)
  if chan ≠ [] ∧ ¬ isChannel chan then [] else chan

def askPort (keys : List UInt16) :
    Program Console (UInt16 × List UInt16) := do
  printText (ascii "Port [6667]: ")
  let (line, keys) ← Client.readLine (MAX_INPUT + 2) keys []
  pure (portFor line, keys)

/-- The loop for the nick.  Each turn takes a key at least. -/
def askNick : Nat -> List UInt16 -> Program Console (List UInt8 × List UInt16)
  | 0, _ => Program.stop
  | turns + 1, keys => do
      printText (ascii "Nick: ")
      let (line, keys) ← Client.readLine (MAX_INPUT + 2) keys []
      if nickFor line = [] then askNick turns keys
      else pure (nickFor line, keys)

def askChannel (keys : List UInt16) :
    Program Console (List UInt8 × List UInt16) := do
  printText (ascii "Channel (empty for none): ")
  let (line, keys) ← Client.readLine (MAX_INPUT + 2) keys []
  let chan := strCopy (nextWord line).1 (MAX_CHAN + 1)
  if chan ≠ [] ∧ ¬ isChannel chan then do
    printText (ascii "Channels start with #, ignoring it.\n")
    pure ([], keys)
  else pure (chan, keys)

def ask (keys : List UInt16) : Program Console (Asked × List UInt16) := do
  printText ([12] ++ ascii "Z80 IRC\n\n")
  printText (ascii "My IP address: 192.0.2.2\n\n")
  let (ip, keys) ← askAddress (ascii "IRC server IP: ") (MAX_INPUT + 2)
    (keys.length + 1) keys [0, 0, 0, 0]
  let (port, keys) ← askPort keys
  let (nick, keys) ← askNick (keys.length + 1) keys
  let (chan, keys) ← askChannel keys
  printText (ascii "\nConnecting ...\n")
  pure (⟨⟨ip, port⟩, nick, chan⟩, keys)

def onConsole {α : Type} (p : Program Console α) :
    Program (Session State ν) α := fun c =>
  ((p c.app.screen.con).1,
    { c with
      app :=
        { c.app with
          screen := { c.app.screen with con := (p c.app.screen.con).2 } } })

/-- irc.c `main`, from its start to the end of the loop. -/
def program (P : Platform) (N : Network ν) (dial : Dial ν)
    (keys : List UInt16) : Program (Session State ν) Bool := do
  let (asked, keys) ← onConsole (ask keys)
  modifyApp (fun s => { s with mynick := asked.nick, curChan := asked.chan })
  let rc ← onNet (dial asked.server)
  if rc < 0 then do
    onConsole (printText
      (ascii "Failed to connect: " ++ ascii (toString rc) ++ [10]))
    pure false
  else main P N keys

/-- The session when a run of irc.c is over or has stopped; at its start neither
nick nor channel has been typed. -/
def ran (P : Platform) (N : Network ν) (dial : Dial ν) (net : ν)
    (con : Console) (keys : List UInt16) : Session State ν :=
  (program P N dial keys
    (Session.start (State.prompted con [] []) net)).2

/-!
## What is asked for
-/

/-- A word, of which a nick keeps what fits. -/
def NickText (line nick : List UInt8) : Prop :=
  nick = nickFor line ∧ nick ≠ []

/-- The keys give these answers and leave the rest to the session. -/
def AskedFor (keys : List UInt16) (asked : Asked) (rest : List UInt16) :
    Prop :=
  exists (k1 k2 k3 : List UInt16) (portLine chanLine : List UInt8),
    Answered (MAX_INPUT + 2) AddressText keys asked.server.ip k1 ∧
      Reads (MAX_INPUT + 2) [] k1 portLine k2 ∧
        asked.server.port = portFor portLine ∧
          Answered (MAX_INPUT + 2) NickText k2 asked.nick k3 ∧
            Reads (MAX_INPUT + 2) [] k3 chanLine rest ∧
              asked.chan = channelFor chanLine

theorem askPort_answers (keys : List UInt16) :
    Ensures Idle (askPort keys)
      (fun r con => Idle con ∧ exists line : List UInt8,
        Reads (MAX_INPUT + 2) [] keys line r.2 ∧ r.1 = portFor line)
      (fun _ => True) := by
  refine ensures_printText (by decide) ?_
  refine ensures_bind ((readLine_reads (MAX_INPUT + 2) keys []).mono
    (fun _ hcon => hcon) (fun _ _ hr => hr) (fun _ _ => trivial))
    (fun r => ?_)
  exact ensures_pure (fun con hr => ⟨hr.left, r.1, hr.right, rfl⟩)

theorem askNick_answers (turns : Nat) :
    forall keys : List UInt16,
      Ensures Idle (askNick turns keys)
        (fun r con => Idle con ∧
          Answered (MAX_INPUT + 2) NickText keys r.1 r.2)
        (fun _ => True) := by
  induction turns with
  | zero => exact fun _ => ensures_stop (fun _ _ => trivial)
  | succ turns ih =>
      intro keys
      refine ensures_printText (by decide) ?_
      refine ensures_bind ((readLine_reads (MAX_INPUT + 2) keys []).mono
        (fun _ hcon => hcon) (fun _ _ hr => hr) (fun _ _ => trivial))
        (fun r => ?_)
      intro con hr
      rcases hr with ⟨hcon, hread⟩
      show Outcome _ _ ((if nickFor r.1 = [] then askNick turns r.2
        else pure (nickFor r.1, r.2)) con)
      by_cases hnone : nickFor r.1 = []
      · have hrefused : forall nick : List UInt8, ¬ NickText r.1 nick := by
          intro nick hnick
          exact hnick.right (hnick.left.trans hnone)
        rw [if_pos hnone]
        exact (ih r.2).mono (fun _ h => h)
          (fun _ _ hrest => ⟨hrest.left, hrest.right.refusing hread hrefused⟩)
          (fun _ _ => trivial) con hcon
      · rw [if_neg hnone]
        exact ⟨hcon, answered_first hread ⟨rfl, hnone⟩⟩

theorem askChannel_answers (keys : List UInt16) :
    Ensures Idle (askChannel keys)
      (fun r con => Idle con ∧ exists line : List UInt8,
        Reads (MAX_INPUT + 2) [] keys line r.2 ∧ r.1 = channelFor line)
      (fun _ => True) := by
  refine ensures_printText (by decide) ?_
  refine ensures_bind ((readLine_reads (MAX_INPUT + 2) keys []).mono
    (fun _ hcon => hcon) (fun _ _ hr => hr) (fun _ _ => trivial))
    (fun r => ?_)
  let chan : List UInt8 := strCopy (nextWord r.1).1 (MAX_CHAN + 1)
  let ignoring : Program Console (List UInt8 × List UInt16) := do
    printText (ascii "Channels start with #, ignoring it.\n")
    pure ([], r.2)
  intro con hr
  rcases hr with ⟨hcon, hread⟩
  show Outcome _ _ ((if chan ≠ [] ∧ ¬ isChannel chan then ignoring
    else pure (chan, r.2)) con)
  by_cases hignored : chan ≠ [] ∧ ¬ isChannel chan
  · have hnone : channelFor r.1 = [] := if_pos hignored
    have hignoring : Ensures Idle ignoring
        (fun r' con => Idle con ∧ exists line : List UInt8,
          Reads (MAX_INPUT + 2) [] keys line r'.2 ∧ r'.1 = channelFor line)
        (fun _ => True) :=
      ensures_printText (by decide)
        (ensures_pure (fun _ hcon => ⟨hcon, r.1, hread, hnone.symm⟩))
    rw [if_pos hignored]
    exact hignoring con hcon
  · have hkept : channelFor r.1 = chan := if_neg hignored
    rw [if_neg hignored]
    exact ⟨hcon, r.1, hread, hkept.symm⟩

theorem ask_answers (keys : List UInt16) :
    Ensures Idle (ask keys)
      (fun r con => Idle con ∧ AskedFor keys r.1 r.2) (fun _ => True) := by
  have haddress : Ensures Idle
      (askAddress (ascii "IRC server IP: ") (MAX_INPUT + 2) (keys.length + 1)
        keys [0, 0, 0, 0])
      (fun r con => Idle con ∧
        Answered (MAX_INPUT + 2) AddressText keys r.1 r.2)
      (fun _ => True) :=
    (askAddress_answers (by decide) _ _ keys _ (Nat.lt_succ_self _)
      rfl).mono (fun _ h => h) (fun _ _ h => h) (fun _ _ => trivial)
  unfold ask
  refine ensures_printText (by decide) (ensures_printText (by decide) ?_)
  refine ensures_bind haddress (fun r => ?_)
  intro con hr
  refine ensures_bind (askPort_answers r.2) (fun r1 => ?_) con hr.left
  intro con1 hr1
  rcases hr1 with ⟨hidle1, portLine, hport, hportFor⟩
  refine ensures_bind (askNick_answers (r1.2.length + 1) r1.2)
    (fun r2 => ?_) con1 hidle1
  intro con2 hr2
  refine ensures_bind (askChannel_answers r2.2) (fun r3 => ?_) con2 hr2.left
  intro con3 hr3
  rcases hr3 with ⟨hidle3, chanLine, hchan, hchanFor⟩
  have hconnecting : Ensures Idle
      (do
        printText (ascii "\nConnecting ...\n")
        pure (Asked.mk ⟨r.1, r1.1⟩ r2.1 r3.1, r3.2))
      (fun r con => Idle con ∧ AskedFor keys r.1 r.2) (fun _ => True) :=
    ensures_printText (by decide) (ensures_pure (fun _ h =>
      ⟨h, r.2, r1.2, r2.2, portLine, chanLine, hr.right, hport, hportFor,
        hr2.right, hchan, hchanFor⟩))
  exact hconnecting con3 hidle3

/-!
## The state that is asked for
-/

theorem readLine_cons (max : Nat) {k : UInt16} (hk : k ≠ KEY_ENTER)
    (more : List UInt16) (buf : List UInt8) :
    readLine max (k :: more) buf =
      readLine max more (editAnswer max buf k) := by
  unfold editAnswer
  rw [readLine, if_neg hk]
  split_ifs
  · rfl
  · rfl
  · rfl

/-- Each line at a prompt is one that keys of its own type. -/
theorem typed_of_answer (max : Nat) (keys : List UInt16) :
    forall {buf line : List UInt8}, line ∈ answersFrom max buf keys ->
      (exists typed : List UInt16, readLine max typed buf = line) ∨
        exists typed : List UInt16, readLine max typed [] = line := by
  induction keys with
  | nil =>
      intro buf line h
      cases h
  | cons k more ih =>
      intro buf line h
      rw [answersFrom] at h
      by_cases henter : k = KEY_ENTER
      · rw [if_pos henter] at h
        cases List.mem_cons.mp h with
        | inl heq => exact Or.inl ⟨[], heq.symm⟩
        | inr hmore => exact Or.inr ((ih hmore).elim id id)
      · rw [if_neg henter] at h
        cases ih h with
        | inl htyped =>
            rcases htyped with ⟨typed, htyped⟩
            refine Or.inl ⟨k :: typed, ?_⟩
            rw [readLine_cons max henter, htyped]
        | inr hother => exact Or.inr hother

theorem exists_typed {max : Nat} {keys : List UInt16} {line : List UInt8}
    (h : line ∈ answers max keys) :
    exists typed : List UInt16, readLine max typed [] = line :=
  (typed_of_answer max keys h).elim id id

/-- What was asked for is what the keys of the lines for the nick and the
channel give on their own. -/
theorem AskedFor.prompted {keys rest : List UInt16} {asked : Asked}
    (h : AskedFor keys asked rest) :
    exists nickKeys chanKeys : List UInt16, forall con : Console,
      { State.prompted con [] [] with
        mynick := asked.nick
        curChan := asked.chan } =
          State.prompted con nickKeys chanKeys := by
  rcases h with
    ⟨k1, k2, k3, portLine, chanLine, _, _, _, hnick, hchan, hchanFor⟩
  rcases hnick with ⟨taken, refused, line, _, hanswers, _, hline⟩
  have hnickLine : line ∈ answers (MAX_INPUT + 2) (taken ++ [KEY_ENTER]) := by
    rw [hanswers]
    exact List.mem_append_right refused (List.mem_singleton_self line)
  have hchanLine : chanLine ∈ answers (MAX_INPUT + 2) k3 := by
    rw [hchan.answers_eq]
    exact List.mem_cons_self
  rcases exists_typed hnickLine with ⟨nickKeys, hnickKeys⟩
  rcases exists_typed hchanLine with ⟨chanKeys, hchanKeys⟩
  refine ⟨nickKeys, chanKeys, fun con => ?_⟩
  rw [hline.left, hchanFor, <- hnickKeys, <- hchanKeys]
  rfl

/-!
## The whole run
-/

/-- In front of the session only the console changes. -/
theorem onConsole_start {α : Type} {p : Program Console α} {a : Option α}
    {con con' : Console} (h : p con = (a, con')) (net : ν)
    (nickKeys chanKeys : List UInt16) :
    onConsole p
        (Session.start (State.prompted con nickKeys chanKeys) net) =
      (a, Session.start (State.prompted con' nickKeys chanKeys) net) := by
  show ((p con).1, Session.start
    (State.prompted (p con).2 nickKeys chanKeys) net) = _
  rw [h]

/-- A run in which anything is sent is one of `main` behind a call of the server
that was asked for, with the nick and the channel of the keys. -/
theorem ran_prompted (P : Platform) (N : Network ν) (dial : Dial ν) (net : ν)
    {con : Console} (hidle : Idle con) (keys : List UInt16) :
    payloadsOf (ran P N dial net con keys).trace = [] ∨
      exists (asked : Asked) (rest nickKeys chanKeys : List UInt16) (rc : Int)
        (y : ν) (con' : Console), AskedFor keys asked rest ∧
          dial asked.server net = (some rc, y) ∧ 0 ≤ rc ∧
            (State.prompted con' nickKeys chanKeys).mynick = asked.nick ∧
              (State.prompted con' nickKeys chanKeys).curChan = asked.chan ∧
                ran P N dial net con keys =
                  ranMain P N y con' nickKeys chanKeys rest := by
  have hasked := ask_answers keys con hidle
  rcases hask : ask keys con with ⟨_ | ⟨asked, rest⟩, con'⟩
  · left
    rw [ran, program, bind_none (onConsole_start hask net [] [])]
    rfl
  rw [hask] at hasked
  rcases hasked with ⟨_, hasked⟩
  rcases hasked.prompted with ⟨nickKeys, chanKeys, hprompted⟩
  let connected : Int -> Program (Session State ν) Bool := fun rc =>
    if rc < 0 then do
      onConsole (printText
        (ascii "Failed to connect: " ++ ascii (toString rc) ++ [10]))
      pure false
    else main P N rest
  have hprogram : program P N dial keys
      (Session.start (State.prompted con [] []) net) =
        (onNet (dial asked.server) >>= connected)
          (Session.start (State.prompted con' nickKeys chanKeys) net) := by
    rw [<- hprompted con']
    exact bind_some (onConsole_start hask net [] []) _
  have hran : ran P N dial net con keys =
      ((onNet (dial asked.server) >>= connected)
        (Session.start (State.prompted con' nickKeys chanKeys) net)).2 :=
    congrArg Prod.snd hprogram
  rcases hdial : dial asked.server net with ⟨_ | rc, y⟩
  · left
    rw [hran, bind_none (onNet_start hdial _)]
    rfl
  rw [bind_some (onNet_start hdial _)] at hran
  by_cases hrc : rc < 0
  · left
    have hfailed : connected rc = (do
        onConsole (printText
          (ascii "Failed to connect: " ++ ascii (toString rc) ++ [10]))
        pure false) := if_pos hrc
    rw [hran, hfailed]
    rfl
  · right
    have hconnected : connected rc = main P N rest := if_neg hrc
    rw [hconnected] at hran
    have hsame := hprompted con'
    refine ⟨asked, rest, nickKeys, chanKeys, rc, y, con', hasked, hdial,
      Int.not_lt.mp hrc, ?_, ?_, hran⟩
    · rw [<- hsame]
    · rw [<- hsame]

/-- The commands of the registration. -/
def registering (nick : List UInt8) : List UInt8 :=
  ascii "NICK " ++ nick ++ CRLF ++ ascii "USER " ++ nick ++
    ascii " 0 * :" ++ nick ++ CRLF

theorem registration_nick {s : State} {nick : List UInt8}
    (h : s.mynick = nick) : registration s = registering nick := by
  rw [registration, registerPieces, registering, h]
  simp only [List.flatten_cons, List.flatten_nil, List.append_assoc,
    List.append_nil]

theorem Begun.first_eq {reg first : List UInt8} {more : List (List UInt8)}
    {trace : List (Client.Event State ν)} (h : Begun reg trace)
    (hsent : payloadsOf trace = first :: more) : first = reg := by
  cases h.first with
  | inl hhead =>
      rw [hsent] at hhead
      exact (List.cons_prefix_cons.mp hhead).left.symm
  | inr hnone =>
      rw [hnone] at hsent
      cases hsent

/-- Whatever is typed, and whatever the dialling and the connection do: nothing
is sent before the questions have been answered and the server that they name
has been reached.  The first payload then registers the nick that was typed,
which is not empty and fits into `mynick`. -/
theorem typed_nick_registered (P : Platform) (N : Network ν) (dial : Dial ν)
    (net : ν) {con : Console} (hidle : con.paramsLeft = 0)
    (keys : List UInt16) {first : List UInt8} {more : List (List UInt8)}
    (hsent : payloadsOf (ran P N dial net con keys).trace = first :: more) :
    exists (asked : Asked) (rest : List UInt16) (rc : Int) (y : ν),
      AskedFor keys asked rest ∧ dial asked.server net = (some rc, y) ∧
        0 ≤ rc ∧ asked.nick ≠ [] ∧ asked.nick.length ≤ MAX_NICK ∧
          first = registering asked.nick := by
  cases ran_prompted P N dial net hidle keys with
  | inl hnone =>
      rw [hnone] at hsent
      cases hsent
  | inr hmain =>
      rcases hmain with ⟨asked, rest, nickKeys, chanKeys, rc, y, con', hasked,
        hdial, hrc, hnick, _, hran⟩
      have hbegun := begun_ranMain P N y con' nickKeys chanKeys rest
      rw [<- hran] at hbegun
      have hfirst : first = registering asked.nick :=
        (hbegun.first_eq hsent).trans (registration_nick hnick)
      have htyped := hasked
      rcases htyped with ⟨_, _, _, _, _, _, _, _, hanswered, _, _⟩
      rcases hanswered with ⟨_, _, line, _, _, _, hline⟩
      refine ⟨asked, rest, rc, y, hasked, hdial, hrc, hline.right, ?_, hfirst⟩
      rw [hline.left, nickFor, strCopy, List.length_take]
      exact Nat.min_le_left _ _

/-- An address, the standard port, a nick and no channel. -/
def typedNick : List UInt16 :=
  [0x31, 0x2e, 0x32, 0x2e, 0x33, 0x2e, 0x34, 13, 13, 0x61, 13, 13]

theorem typed_nick_registered_once :
    exists (asked : Asked) (rest : List UInt16) (rc : Int) (y : Feed),
      AskedFor typedNick asked rest ∧
        (pure 0 : Program Feed Int) { current := [], coming := [] } =
          (some rc, y) ∧
          0 ≤ rc ∧ asked.nick ≠ [] ∧ asked.nick.length ≤ MAX_NICK ∧
            registering (ascii "a") = registering asked.nick := by
  have hidle : Console.blank.paramsLeft = 0 := rfl
  have hsent : payloadsOf (ran Platform.spectrum
      (feedNetwork Platform.spectrum) (fun _ => pure 0)
      { current := [], coming := [] } Console.blank typedNick).trace =
        [registering (ascii "a")] := by
    decide +kernel
  exact typed_nick_registered _ _ _ _ hidle typedNick hsent

end Irc
end Z80Tcpip
