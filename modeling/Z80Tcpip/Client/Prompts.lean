import Z80Tcpip.Client.Address
import Z80Tcpip.Client.Rows
import Z80Tcpip.Client.Session
import Z80Tcpip.Tcp.Connect

/-!
# Prompts

In front of their sessions both clients ask for what they need, line by line,
with the same `read_line`.  The keys enter lines; the first line that is accepted
is the answer, and without one the prompt waits for more keys.
-/

namespace Z80Tcpip
namespace Client

open Foundation
open Foundation.Program

/-- `putchar(8); putchar(' '); putchar(8);` -/
def rubOut (con : Console) : Console :=
  con.putchars [8, 0x20, 8]

/-- `read_line` into a buffer of `max` bytes: the line and the keys behind its
ENTER.  Without more keys it waits. -/
def readLine (max : Nat) :
    List UInt16 -> List UInt8 -> Program Console (List UInt8 × List UInt16)
  | [], _ => Program.stop
  | k :: more, buf =>
      if k = 0 then readLine max more buf
      else if k = KEY_ENTER then do
        Program.modify (fun con => con.putchar 10)
        pure (buf, more)
      else if k = KEY_LEFT ∨ k = KEY_DELETE ∨ k = KEY_CTRL_DEL then
        if buf ≠ [] then do
          Program.modify rubOut
          readLine max more buf.dropLast
        else readLine max more buf
      else if 32 ≤ k ∧ k < 127 ∧ buf.length < max - 1 then do
        Program.modify (fun con => con.putchar k.toUInt8)
        readLine max more (buf ++ [k.toUInt8])
      else readLine max more buf

/-- `printf` of a text without conversions. -/
def printText (text : List UInt8) : Program Console Unit :=
  Program.modify (fun con => con.putchars text)

/-- What `tcp_connect` is called for. -/
structure Server where
  ip : List UInt8
  port : UInt16

/-- `tcp_connect` to a server. -/
abbrev Dial (ν : Type) : Type :=
  Server -> Program ν Int

/-- `tcp_connect` of tcp.c, with the context as `main` fills it. -/
def stackDial {P : Platform} {σ : Type} (L : Tcp.Link P σ) (fuel : Nat)
    (register : Nat -> UInt8) : Dial (Tcp.World σ) := fun server w =>
  Tcp.tcpConnect L fuel register
    { w with
      tcp :=
        { w.tcp with
          ip :=
            { w.tcp.ip with
              saddr := 0x020200c0
              daddr := UInt32.ofNat (readLE server.ip) }
          srcPort := htons 32768
          dstPort := htons server.port } }

/-- What a server at port 80 answers to the SYN. -/
def serverSyn : List UInt8 :=
  (Tcp.tcpTransmit
    { Tcp.TcpContext.loopback 1 2 with
      dstPort := htons 32768
      srcPort := htons 80 } 0 none 0).2

/-- It acknowledges this many bytes behind the SYN. -/
def serverAck (count : UInt32) : List UInt8 :=
  (Tcp.tcpTransmit
    { Tcp.TcpContext.loopback 2 (2 + count) with
      dstPort := htons 32768
      srcPort := htons 80 } 0 none 0).2

/-- In front of a session a call of the stack moves the connection only. -/
theorem onNet_start {ν α β : Type} {p : Program ν β} {net y : ν}
    {b : Option β} (h : p net = (b, y)) (s : α) :
    onNet p (Session.start s net) = (b, Session.start s y) := by
  show ((p net).1, Session.start s (p net).2) = _
  rw [h]

/-!
## Lines at a prompt
-/

/-- What a key does to a line in a buffer of `max` bytes. -/
def editAnswer (max : Nat) (buf : List UInt8) (k : UInt16) : List UInt8 :=
  if k = KEY_LEFT ∨ k = KEY_DELETE ∨ k = KEY_CTRL_DEL then buf.dropLast
  else if 32 ≤ k ∧ k < 127 ∧ buf.length < max - 1 then buf ++ [k.toUInt8]
  else buf

def answersFrom (max : Nat) : List UInt8 -> List UInt16 -> List (List UInt8)
  | _, [] => []
  | buf, k :: more =>
      if k = KEY_ENTER then buf :: answersFrom max [] more
      else answersFrom max (editAnswer max buf k) more

/-- The lines that the keys enter. -/
def answers (max : Nat) (keys : List UInt16) : List (List UInt8) :=
  answersFrom max [] keys

example : answers 82 [0x31, 0x32, 12, 0x33, 13, 13, 0x34] =
    [ascii "13", []] := by
  decide

/-- The next line starts empty. -/
theorem answersFrom_append (max : Nat) (taken : List UInt16) :
    forall (buf : List UInt8) (rest : List UInt16),
      answersFrom max buf (taken ++ [KEY_ENTER] ++ rest) =
        answersFrom max buf (taken ++ [KEY_ENTER]) ++
          answersFrom max [] rest := by
  induction taken with
  | nil =>
      intro buf rest
      show answersFrom max buf (KEY_ENTER :: rest) = _
      rw [answersFrom, if_pos rfl]
      rfl
  | cons k more ih =>
      intro buf rest
      show answersFrom max buf (k :: (more ++ [KEY_ENTER] ++ rest)) =
        answersFrom max buf (k :: (more ++ [KEY_ENTER])) ++ _
      rw [answersFrom, answersFrom]
      split_ifs
      · rw [ih, List.cons_append]
      · exact ih _ rest

/-- `read_line` takes the keys up to the first ENTER. -/
def Reads (max : Nat) (buf : List UInt8) (keys : List UInt16)
    (line : List UInt8) (rest : List UInt16) : Prop :=
  exists taken : List UInt16, keys = taken ++ [KEY_ENTER] ++ rest ∧
    answersFrom max buf (taken ++ [KEY_ENTER]) = [line]

theorem Reads.behind {max : Nat} {buf line : List UInt8} {k : UInt16}
    {more rest : List UInt16} (hk : k ≠ KEY_ENTER)
    (h : Reads max (editAnswer max buf k) more line rest) :
    Reads max buf (k :: more) line rest := by
  rcases h with ⟨taken, rfl, hline⟩
  refine ⟨k :: taken, rfl, ?_⟩
  show answersFrom max buf (k :: (taken ++ [KEY_ENTER])) = _
  rw [answersFrom, if_neg hk]
  exact hline

theorem editAnswer_zero (max : Nat) (buf : List UInt8) :
    editAnswer max buf 0 = buf := by
  unfold editAnswer
  rw [if_neg (by decide), if_neg (fun h => absurd h.left (by decide))]

/-- No goto sequence is under way. -/
def Idle (con : Console) : Prop :=
  con.paramsLeft = 0

theorem rubOut_idle {con : Console} (h : Idle con) : Idle (rubOut con) :=
  Console.putchar_idle (Console.putchar_idle (Console.putchar_idle h
    (by decide)) (by decide)) (by decide)

theorem readLine_reads (max : Nat) (keys : List UInt16) :
    forall buf : List UInt8, Ensures Idle (readLine max keys buf)
      (fun r con => Idle con ∧ Reads max buf keys r.1 r.2)
      (fun _ => answersFrom max buf keys = []) := by
  induction keys with
  | nil => exact fun buf => ensures_stop (fun _ _ => rfl)
  | cons k more ih =>
      intro buf
      -- a key that is no ENTER leaves the rest to the edited line
      have hgo : k ≠ KEY_ENTER ->
          Ensures Idle (readLine max more (editAnswer max buf k))
            (fun r con => Idle con ∧ Reads max buf (k :: more) r.1 r.2)
            (fun _ => answersFrom max buf (k :: more) = []) := by
        intro hk
        refine (ih (editAnswer max buf k)).mono (fun _ hcon => hcon)
          (fun _ _ hr => ⟨hr.left, hr.right.behind hk⟩) (fun _ hnone => ?_)
        rw [answersFrom, if_neg hk]
        exact hnone
      unfold readLine
      by_cases hzero : k = 0
      · have hedit : editAnswer max buf k = buf := by
          rw [hzero, editAnswer_zero]
        have hk : k ≠ KEY_ENTER := by
          rw [hzero]
          decide
        have hrest := hgo hk
        rw [if_pos hzero]
        rwa [hedit] at hrest
      rw [if_neg hzero]
      by_cases henter : k = KEY_ENTER
      · have hnewline : Ensures Idle
            (Program.modify (fun con => con.putchar 10)) (fun _ => Idle)
            (fun _ => answersFrom max buf (k :: more) = []) :=
          ensures_modify (fun con hcon =>
            Console.putchar_idle hcon (by decide))
        rw [if_pos henter]
        refine ensures_bind hnewline (fun _ => ?_)
        refine ensures_pure (fun con hcon => ⟨hcon, [], ?_, ?_⟩)
        · rw [henter]
          rfl
        · show answersFrom max buf [KEY_ENTER] = [buf]
          rw [answersFrom, if_pos rfl]
          rfl
      have hrest := hgo henter
      rw [if_neg henter]
      by_cases hdelete : k = KEY_LEFT ∨ k = KEY_DELETE ∨ k = KEY_CTRL_DEL
      · have hedit : editAnswer max buf k = buf.dropLast := if_pos hdelete
        rw [hedit] at hrest
        rw [if_pos hdelete]
        by_cases hsome : buf ≠ []
        · rw [if_pos hsome]
          exact ensures_bind
            (ensures_modify (fun con hcon => rubOut_idle hcon))
            (fun _ => hrest)
        · rw [not_not.mp hsome] at hrest ⊢
          rw [if_neg (fun hne => hne rfl)]
          exact hrest
      rw [if_neg hdelete]
      by_cases hkey : 32 ≤ k ∧ k < 127 ∧ buf.length < max - 1
      · have hedit : editAnswer max buf k = buf ++ [k.toUInt8] := by
          rw [editAnswer, if_neg hdelete, if_pos hkey]
        have hprintable := printable_key hkey.left hkey.right.left
        rw [hedit] at hrest
        rw [if_pos hkey]
        refine ensures_bind (ensures_modify (fun con hcon =>
          Console.putchar_idle hcon ?_)) (fun _ => hrest)
        intro heq
        rw [heq] at hprintable
        exact absurd hprintable.left (by decide)
      · have hedit : editAnswer max buf k = buf := by
          rw [editAnswer, if_neg hdelete, if_neg hkey]
        rw [hedit] at hrest
        rw [if_neg hkey]
        exact hrest

/-!
## The first answer that is taken
-/

variable {κ : Type}

/-- The first line that is accepted, as `a`, and the keys behind it. -/
def Answered (max : Nat) (Accepts : List UInt8 -> κ -> Prop)
    (keys : List UInt16) (a : κ) (rest : List UInt16) : Prop :=
  exists (taken : List UInt16) (refused : List (List UInt8))
    (line : List UInt8), keys = taken ++ [KEY_ENTER] ++ rest ∧
      answers max (taken ++ [KEY_ENTER]) = refused ++ [line] ∧
        (forall wrong, wrong ∈ refused -> forall b : κ, ¬ Accepts wrong b) ∧
          Accepts line a

def Unanswered (max : Nat) (Accepts : List UInt8 -> κ -> Prop)
    (keys : List UInt16) : Prop :=
  forall line, line ∈ answers max keys -> forall a : κ, ¬ Accepts line a

section Answered

variable {max : Nat} {Accepts : List UInt8 -> κ -> Prop}
  {keys more rest : List UInt16} {line : List UInt8} {a : κ}

theorem Reads.answers_eq (h : Reads max [] keys line more) :
    answers max keys = line :: answers max more := by
  rcases h with ⟨taken, rfl, hline⟩
  rw [answers, answersFrom_append, hline]
  rfl

theorem Reads.shorter {buf : List UInt8}
    (h : Reads max buf keys line more) : more.length < keys.length := by
  rcases h with ⟨taken, rfl, _⟩
  rw [List.length_append, List.length_append, List.length_singleton]
  omega

theorem answered_first (h : Reads max [] keys line rest)
    (haccepts : Accepts line a) : Answered max Accepts keys a rest := by
  rcases h with ⟨taken, hkeys, hline⟩
  exact ⟨taken, [], line, hkeys, hline, nofun, haccepts⟩

theorem Answered.refusing (h : Reads max [] keys line more)
    (hrefused : forall b : κ, ¬ Accepts line b)
    (hmore : Answered max Accepts more a rest) :
    Answered max Accepts keys a rest := by
  rcases h with ⟨taken, hkeys, hline⟩
  rcases hmore with ⟨taken', refused, last, hmore, hanswers, hwrong, hlast⟩
  refine ⟨taken ++ [KEY_ENTER] ++ taken', line :: refused, last, ?_, ?_, ?_,
    hlast⟩
  · rw [hkeys, hmore]
    simp only [List.append_assoc]
  · rw [List.append_assoc _ taken', answers, answersFrom_append, hline]
    exact congrArg (List.cons line) hanswers
  · intro wrong hmem
    cases List.mem_cons.mp hmem with
    | inl heq =>
        rw [heq]
        exact hrefused
    | inr hold => exact hwrong wrong hold

theorem Unanswered.refusing (h : Reads max [] keys line more)
    (hrefused : forall b : κ, ¬ Accepts line b)
    (hmore : Unanswered max Accepts more) : Unanswered max Accepts keys := by
  intro wrong hmem
  rw [h.answers_eq] at hmem
  cases List.mem_cons.mp hmem with
  | inl heq =>
      rw [heq]
      exact hrefused
  | inr hold => exact hmore wrong hold

theorem unanswered_of_none
    (h : answersFrom max [] keys = []) :
    Unanswered max Accepts keys := by
  intro wrong hmem
  rw [answers, h] at hmem
  cases hmem

end Answered

/-!
## Addresses
-/

/-- The question for the address, with `ip` in `tcp.ip.daddr`: the address and
the keys behind it.  Each turn takes a key at least. -/
def askAddress (prompt : List UInt8) (max : Nat) :
    Nat -> List UInt16 -> List UInt8 ->
      Program Console (List UInt8 × List UInt16)
  | 0, _, _ => Program.stop
  | turns + 1, keys, ip => do
      printText prompt
      let (line, keys) ← readLine max keys []
      let (rc, ip) := parseIp line ip
      if rc = 0 then pure (ip, keys)
      else do
        printText (ascii "Not an IP address.\n")
        askAddress prompt max turns keys ip

/-- Four numbers between single dots, whatever follows, and their values modulo
256. -/
def AddressText (line ip : List UInt8) : Prop :=
  exists (numbers : List (List UInt8)) (rest : List UInt8),
    FourNumbers numbers ∧ line = dotted numbers ++ rest ∧
      ¬ IsDigit (charAt rest) ∧
        ip = numbers.map (fun digits => UInt8.ofNat (numberValue digits))

theorem AddressText.parsed {line ip old : List UInt8}
    (h : AddressText line ip) (hold : old.length = 4) :
    parseIp line old = (0, ip) := by
  rcases h with ⟨numbers, rest, hfour, rfl, hrest, rfl⟩
  exact parseIp_four hfour hrest hold

theorem addressText_of_parsed {line old : List UInt8} (hold : old.length = 4)
    (h : (parseIp line old).1 = 0) :
    AddressText line (parseIp line old).2 := by
  rcases exists_four_of_parseIp h with ⟨numbers, rest, hfour, hline, hrest⟩
  refine ⟨numbers, rest, hfour, hline, hrest, ?_⟩
  rw [hline, parseIp_four hfour hrest hold]

theorem parseIpLoop_length (n : Nat) :
    forall p ip : List UInt8, (parseIpLoop n p ip).2.length = ip.length := by
  induction n with
  | zero => exact fun _ _ => rfl
  | succ n ih =>
      intro p ip
      unfold parseIpLoop
      dsimp only
      split_ifs
      · exact List.length_set
      · rw [ih, List.length_set]
      · rw [ih, List.length_set]
      · rfl

theorem ensures_printText {β : Type} {text : List UInt8}
    (htext : 22 ∉ text) {f : Unit -> Program Console β}
    {post : β -> Console -> Prop} {stopped : Console -> Prop}
    (h : Ensures Idle (f ()) post stopped) :
    Ensures Idle (printText text >>= f) post stopped := by
  refine ensures_bind (ensures_modify (fun con hcon => ?_)) (fun _ => h)
  exact Console.putchars_no_goto hcon htext

theorem askAddress_answers {prompt : List UInt8} (hprompt : 22 ∉ prompt)
    (max turns : Nat) :
    forall (keys : List UInt16) (ip : List UInt8),
      keys.length < turns -> ip.length = 4 ->
        Ensures Idle (askAddress prompt max turns keys ip)
          (fun r con => Idle con ∧ Answered max AddressText keys r.1 r.2)
          (fun _ => Unanswered max AddressText keys) := by
  induction turns with
  | zero => exact fun _ _ hturns _ => absurd hturns (Nat.not_lt_zero _)
  | succ turns ih =>
      intro keys ip hturns hip
      refine ensures_printText hprompt ?_
      refine ensures_bind ((readLine_reads max keys []).mono
        (fun _ hcon => hcon) (fun _ _ hr => hr)
        (fun _ hnone => unanswered_of_none hnone)) (fun r => ?_)
      intro con hr
      rcases hr with ⟨hcon, hread⟩
      have hip' : (parseIp r.1 ip).2.length = 4 := by
        rw [parseIp, parseIpLoop_length]
        exact hip
      let again : Program Console (List UInt8 × List UInt16) := do
        printText (ascii "Not an IP address.\n")
        askAddress prompt max turns r.2 (parseIp r.1 ip).2
      show Outcome _ _ ((if (parseIp r.1 ip).1 = 0 then
        pure ((parseIp r.1 ip).2, r.2) else again) con)
      by_cases hok : (parseIp r.1 ip).1 = 0
      · rw [if_pos hok]
        exact ⟨hcon, answered_first hread (addressText_of_parsed hip hok)⟩
      · have hrefused : forall b : List UInt8, ¬ AddressText r.1 b := by
          intro b haddress
          rw [haddress.parsed hip] at hok
          exact hok rfl
        rw [if_neg hok]
        refine ensures_printText (by decide)
          ((ih r.2 _ ?_ hip').mono (fun _ h => h) (fun _ _ hrest => ?_)
            (fun _ hnone => ?_)) con hcon
        · exact Nat.lt_of_lt_of_le hread.shorter (Nat.lt_succ_iff.mp hturns)
        · exact ⟨hrest.left, hrest.right.refusing hread hrefused⟩
        · exact hnone.refusing hread hrefused

end Client
end Z80Tcpip
