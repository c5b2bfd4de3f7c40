import Z80Tcpip.Chat.ArraysBeside

/-!
# The questions in memory

What is read into `line`, and what `parse_number` and `parse_ip` make of it, is
what they make of the list of its characters.
-/

namespace Z80Tcpip
namespace Chat
namespace Machine

open Foundation
open Foundation.Program
open Foundation.Memory
open Client

/-!
## Reading a line
-/

/-- Both have read the same line, or both wait for a key. -/
def ReadAlike (m : Machine) (left : Option (List UInt16) × Machine)
    (right : Option (List UInt8 × List UInt16) × Console) : Prop :=
  (exists (line : List UInt8) (rest : List UInt16) (mem : Memory layout)
      (con : Console),
    left = (some rest, { m with mem := mem, con := con }) ∧
      right = (some (line, rest), con) ∧ SameBut .line m.mem mem ∧
        mem.Holds (.block .line 0) line) ∨
    (exists (mem : Memory layout) (con : Console),
      left = (none, { m with mem := mem, con := con }) ∧
        right = (none, con) ∧ SameBut .line m.mem mem)

theorem ReadAlike.of_same {m : Machine} {mem : Memory layout} {con : Console}
    {left : Option (List UInt16) × Machine}
    {right : Option (List UInt8 × List UInt16) × Console}
    (h : ReadAlike { m with mem := mem, con := con } left right)
    (hsame : SameBut .line m.mem mem) : ReadAlike m left right := by
  cases h with
  | inl hread =>
      rcases hread with ⟨line, rest, mem', con', hleft, hright, hsame', hline⟩
      exact Or.inl ⟨line, rest, mem', con', hleft, hright,
        hsame.trans hsame', hline⟩
  | inr hwait =>
      rcases hwait with ⟨mem', con', hleft, hright, hsame'⟩
      exact Or.inr ⟨mem', con', hleft, hright, hsame.trans hsame'⟩

theorem readLine_reads (keys : List UInt16) :
    forall {m : Machine} {len : Nat} {buf : List UInt8},
      (m.mem.block .line).slice 0 len = buf -> len ≤ MAX_INPUT + 1 ->
        0 ∉ buf ->
          ReadAlike m (readLine keys len m)
            (Client.readLine (MAX_INPUT + 2) keys buf m.con) := by
  induction keys with
  | nil =>
      intro m len buf _ _ _
      exact Or.inr ⟨m.mem, m.con, rfl, rfl, SameBut.refl _ _⟩
  | cons k more ih =>
      intro m len buf hbuf hlen htext
      have hsize : layout.size .line = 82 := rfl
      have hroom : len < layout.size .line := Nat.lt_succ_of_le hlen
      have hlength : buf.length = len := by
        rw [<- hbuf, Buffer.slice_length _ (by omega)]
      unfold readLine Client.readLine
      by_cases hzero : k = 0
      · rw [if_pos hzero, if_pos hzero]
        exact ih hbuf hlen htext
      rw [if_neg hzero, if_neg hzero]
      by_cases henter : k = KEY_ENTER
      · have hstore := store_nul (m := m.mem) (v := Var.line) hroom
        have hline : (m.mem.setBlock .line
            ((m.mem.block .line).put len 0)).Holds (.block .line 0) buf := by
          rw [holds_block, setBlock_self]
          exact Buffer.holdsAt_put hbuf htext hroom
        rw [if_pos henter, if_pos henter, bind_some (onMem_run hstore)]
        exact Or.inl ⟨buf, more, _, _, rfl, rfl, sameBut_setBlock _ _ _,
          hline⟩
      rw [if_neg henter, if_neg henter]
      by_cases hdelete : k = KEY_LEFT ∨ k = KEY_DELETE ∨ k = KEY_CTRL_DEL
      · rw [if_pos hdelete, if_pos hdelete]
        by_cases hsome : buf ≠ []
        · have hlen' : len ≠ 0 := by
            rw [<- hlength]
            exact fun heq => hsome (List.length_eq_zero_iff.mp heq)
          have hshort := (m.mem.block .line).slice_dropLast hroom
          rw [hbuf] at hshort
          rw [if_pos hsome, if_pos hlen', modify_bind_apply,
            modify_bind_apply]
          exact (ih (m := { m with con := rubOut m.con }) hshort
            (Nat.le_trans (Nat.sub_le _ _) hlen)
            (fun hmem => htext
              ((List.dropLast_sublist _).subset hmem))).of_same
                (SameBut.refl _ _)
        · have hlen' : ¬ len ≠ 0 := by
            rw [<- hlength, not_not.mp hsome]
            exact fun hne => hne rfl
          rw [if_neg hsome, if_neg hlen']
          exact ih hbuf hlen htext
      rw [if_neg hdelete, if_neg hdelete, hlength]
      by_cases hkey : 32 ≤ k ∧ k < 127 ∧ len < MAX_INPUT + 2 - 1
      · have hstore := store_block (m := m.mem) (v := Var.line)
          (c := k.toUInt8) hroom
            (fun htrue => absurd htrue Bool.false_ne_true)
        have hlong := (m.mem.block .line).slice_put_next k.toUInt8 hroom
        have hprintable := printable_key hkey.left hkey.right.left
        have hset : ((m.mem.setBlock .line
            ((m.mem.block .line).put len k.toUInt8)).block .line).slice 0
              (len + 1) = buf ++ [k.toUInt8] := by
          rw [setBlock_self, hlong, hbuf]
        have hmore : 0 ∉ buf ++ [k.toUInt8] := by
          intro hmem
          cases List.mem_append.mp hmem with
          | inl hold => exact htext hold
          | inr hnew =>
              rw [<- List.mem_singleton.mp hnew] at hprintable
              exact absurd hprintable.left (by decide)
        rw [if_pos hkey, if_pos hkey, bind_some (onMem_run hstore),
          modify_bind_apply, modify_bind_apply]
        let typed : Machine :=
          { m with
            mem := m.mem.setBlock .line
              ((m.mem.block .line).put len k.toUInt8)
            con := m.con.putchar k.toUInt8 }
        have hrest := ih (m := typed) hset hkey.right.right hmore
        exact hrest.of_same (sameBut_setBlock _ _ _)
      · rw [if_neg hkey, if_neg hkey]
        exact ih hbuf hlen htext

/-!
## Numbers and addresses
-/

theorem parseNumberFrom_parses {mem : Memory layout} {p : Ptr Var}
    (back : List UInt8) :
    forall {front : List UInt8} {turns : Nat} {val : UInt16},
      mem.Holds p (front ++ back) -> back.length < turns ->
        exists digits : List UInt8,
          back = digits ++ (parseNumberLoop val back).2 ∧
            parseNumberFrom p turns front.length val mem =
              (some ((parseNumberLoop val back).1,
                front.length + digits.length), mem) := by
  induction back with
  | nil =>
      intro front turns val h hturns
      cases turns with
      | zero => exact absurd hturns (Nat.not_lt_zero _)
      | succ turns =>
          rw [List.append_nil] at h
          refine ⟨[], rfl, ?_⟩
          unfold parseNumberFrom
          rw [bind_some (peek_nul h), if_neg (by decide)]
          rfl
  | cons c back ih =>
      intro front turns val h hturns
      cases turns with
      | zero => exact absurd hturns (Nat.not_lt_zero _)
      | succ turns =>
          unfold parseNumberFrom parseNumberLoop
          rw [bind_some (peek_char h)]
          by_cases hdigit : IsDigit c
          · have hmore : mem.Holds p ((front ++ [c]) ++ back) := by
              rwa [List.append_assoc, List.singleton_append]
            have hlen : (front ++ [c]).length = front.length + 1 :=
              List.length_append
            rcases ih hmore (Nat.lt_of_succ_lt_succ hturns) with
              ⟨digits, hback, hrun⟩
            rw [hlen] at hrun
            rw [if_pos hdigit, if_pos hdigit, hrun]
            refine ⟨c :: digits, congrArg (List.cons c) hback, ?_⟩
            rw [List.length_cons, Nat.add_assoc, Nat.add_comm 1]
          · rw [if_neg hdigit, if_neg hdigit]
            exact ⟨[], rfl, rfl⟩

theorem parseNumber_parses {mem : Memory layout} {p : Ptr Var}
    {t : List UInt8} (h : mem.Holds p t) :
    exists digits : List UInt8,
      t = digits ++ (Client.parseNumber t).2 ∧
        parseNumber p mem =
          (some ((Client.parseNumber t).1, digits.length), mem) := by
  have hwhole : mem.Holds p ([] ++ t) := h
  rcases parseNumberFrom_parses t hwhole h.length_lt with
    ⟨digits, ht, hrun⟩
  refine ⟨digits, ht, hrun.trans ?_⟩
  rw [List.length_nil, Nat.zero_add]
  rfl

theorem holds_behind_dot {mem : Memory layout} {p : Ptr Var}
    {digits rest : List UInt8} (h : mem.Holds p (digits ++ rest))
    (hdot : charAt rest = DOT) :
    mem.Holds (p.add (digits.length + 1)) rest.tail := by
  cases rest with
  | nil => cases hdot
  | cons c more =>
      have hlen : (digits ++ [c]).length = digits.length + 1 :=
        List.length_append
      rw [<- hlen]
      apply Memory.Holds.add
      rw [List.append_assoc]
      exact h

theorem parseIpFrom_parses (n : Nat) :
    forall {mem : Memory layout} {off : Nat} {t ip : List UInt8}, n ≤ 4 ->
      mem.Holds (.block .line off) t -> (mem.block .daddr).bytes = ip ->
        (parseIpFrom n (.block .line off)).Returns mem (fun rc mem' =>
          rc = (parseIpLoop n t ip).1 ∧ SameBut .daddr mem mem' ∧
            (mem'.block .daddr).bytes = (parseIpLoop n t ip).2) := by
  induction n with
  | zero =>
      intro mem off t ip _ _ hip
      exact returns_pure ⟨rfl, SameBut.refl _ _, hip⟩
  | succ n ih =>
      intro mem off t ip hn h hip
      have hsize : layout.size .daddr = 4 := rfl
      have hfirst : peek (.block .line off) 0 mem =
          (some (charAt t), mem) :=
        peek_zero h
      unfold parseIpFrom parseIpLoop
      refine returns_bind_of_eq hfirst ?_
      by_cases hdigit : IsDigit (charAt t)
      · rcases parseNumber_parses h with ⟨digits, ht, hnumber⟩
        have hstore := store_block (m := mem) (v := Var.daddr)
          (c := (Client.parseNumber t).1.toUInt8)
          (show 3 - n < layout.size .daddr by omega) (fun htext => by
            cases htext)
        let mem' := mem.setBlock .daddr
          ((mem.block .daddr).put (3 - n) (Client.parseNumber t).1.toUInt8)
        have hsame : SameBut .daddr mem mem' := sameBut_setBlock _ _ _
        have hip' : (mem'.block .daddr).bytes =
            ip.set (3 - n) (Client.parseNumber t).1.toUInt8 := by
          rw [setBlock_self, <- hip]
          rfl
        have hline : mem'.Holds (.block .line off)
            (digits ++ (Client.parseNumber t).2) := by
          rw [<- ht]
          exact hsame.holds h (fun off heq => by cases heq)
        have hbehind := hline.add
        rw [if_neg (not_not.mpr hdigit), if_neg (not_not.mpr hdigit)]
        refine returns_bind_of_eq hnumber ?_
        refine returns_bind_of_eq hstore ?_
        dsimp only
        by_cases hmore : 3 - n < 3
        · rw [if_pos hmore, if_pos hmore]
          have hlen : digits.length ≤
              (digits ++ (Client.parseNumber t).2).length := by
            rw [List.length_append]
            omega
          have hnext : peek (.block .line off) digits.length mem' =
              (some (charAt (Client.parseNumber t).2), mem') := by
            rw [peek_holds hline hlen, List.drop_left]
            rfl
          refine returns_bind_of_eq hnext ?_
          by_cases hdot : charAt (Client.parseNumber t).2 ≠ DOT
          · rw [if_pos hdot, if_pos hdot]
            exact returns_pure ⟨rfl, hsame, hip'⟩
          · rw [if_neg hdot, if_neg hdot]
            have htail := holds_behind_dot hline (not_not.mp hdot)
            refine (ih (by omega) htail hip').mono
              (fun _ mem'' hmem'' => ⟨hmem''.left, ?_, hmem''.right.right⟩)
            exact hsame.trans hmem''.right.left
        · rw [if_neg hmore, if_neg hmore]
          refine (ih (by omega) hbehind hip').mono
            (fun _ mem'' hmem'' => ⟨hmem''.left, ?_, hmem''.right.right⟩)
          exact hsame.trans hmem''.right.left
      · rw [if_pos hdigit, if_pos hdigit]
        exact returns_pure ⟨rfl, SameBut.refl _ _, hip⟩

theorem parseIp_parses {mem : Memory layout} {line ip : List UInt8}
    (h : mem.Holds (.block .line 0) line)
    (hip : (mem.block .daddr).bytes = ip) :
    (parseIp (.block .line 0)).Returns mem (fun rc mem' =>
      rc = (Client.parseIp line ip).1 ∧ SameBut .daddr mem mem' ∧
        (mem'.block .daddr).bytes = (Client.parseIp line ip).2) :=
  parseIpFrom_parses 4 (Nat.le_refl 4) h hip

/-!
## The questions
-/

/-- Questions use the console, `line` and `daddr`. -/
def Asked (m m' : Machine) (con : Console) : Prop :=
  exists mem : Memory layout, m' = { m with mem := mem, con := con } ∧
    mem.faults = m.mem.faults ∧
      forall v : Var, v ≠ .line -> v ≠ .daddr ->
        mem.block v = m.mem.block v

section Asked

variable {m m' m'' : Machine} {con con' : Console} {s : State}

theorem asked_console (m : Machine) (con : Console) :
    Asked m { m with con := con } con :=
  ⟨m.mem, rfl, rfl, fun _ _ _ => rfl⟩

theorem asked_sameBut {mem : Memory layout} {v : Var}
    (h : SameBut v m.mem mem) (hv : v = .line ∨ v = .daddr) :
    Asked m { m with mem := mem, con := con } con := by
  refine ⟨mem, rfl, h.faults, fun w hline hdaddr => h.other w ?_⟩
  intro heq
  rw [heq] at hline hdaddr
  cases hv with
  | inl hv => exact hline hv
  | inr hv => exact hdaddr hv

theorem Asked.trans (h : Asked m m' con) (h' : Asked m' m'' con') :
    Asked m m'' con' := by
  rcases h with ⟨mem, rfl, hfaults, hother⟩
  rcases h' with ⟨mem', rfl, hfaults', hother'⟩
  exact ⟨mem', rfl, hfaults'.trans hfaults, fun v hline hdaddr =>
    (hother' v hline hdaddr).trans (hother v hline hdaddr)⟩

theorem Asked.con_eq (h : Asked m m' con) : m'.con = con := by
  rcases h with ⟨_, rfl, _⟩
  rfl

theorem Asked.represents (h : Asked m m' con) (hm : Represents m s) :
    Represents m' { s with screen := { s.screen with con := con } } := by
  rcases h with ⟨mem, rfl, hfaults, hother⟩
  exact
    { hm with
      faults := hfaults.trans hm.faults
      con := rfl
      input := (congrArg (fun b => Buffer.slice b 0 m.inputLen)
        (hother .input nofun nofun)).trans hm.input
      logline := (congrArg (fun b => Buffer.slice b 0 m.loglineLen)
        (hother .logline nofun nofun)).trans hm.logline }

end Asked

/-- A question of the two programs: they give one answer and leave the rest of
the client alone. -/
def Asks {β : Type} (p : Program Machine β) (m : Machine)
    (q : Program Console β) : Prop :=
  Mirrors p m q m.con (fun _ m' con => Asked m m' con) (Asked m)

/-- What has been asked before belongs to the question. -/
theorem Asks.behind {β : Type} {p : Program Machine β} {q : Program Console β}
    {m m' : Machine} (h : Asks p m' q) (hm' : Asked m m' m'.con) :
    Mirrors p m' q m'.con (fun _ m' con => Asked m m' con) (Asked m) := by
  cases h with
  | inl hsome =>
      rcases hsome with ⟨a, m'', con, hp, hq, hasked⟩
      exact mirrors_of_eq hp hq (hm'.trans hasked)
  | inr hnone =>
      rcases hnone with ⟨m'', con, hp, hq, hasked⟩
      exact mirrors_stopped hp hq (hm'.trans hasked)

theorem asks_pure {β : Type} (a : β) (m : Machine) :
    Asks (pure a) m (pure a) :=
  mirrors_pure (asked_console m m.con)

theorem Asks.bind {β κ : Type} {p : Program Machine κ}
    {q : Program Console κ} {f : κ -> Program Machine β}
    {g : κ -> Program Console β} {m : Machine} (h : Asks p m q)
    (hf : forall (a : κ) (m' : Machine), Asks (f a) m' (g a)) :
    Asks (p >>= f) m (q >>= g) :=
  Mirrors.bind h (fun a m' con hm' => by
    have hcon : m'.con = con := hm'.con_eq
    subst hcon
    exact (hf a m').behind hm')

theorem asks_printText {β : Type} {f : Unit -> Program Machine β}
    {g : Unit -> Program Console β} {m : Machine} (text : List UInt8)
    (h : Asks (f ()) { m with con := m.con.putchars text } (g ())) :
    Asks (printText text >>= f) m (Client.printText text >>= g) :=
  Mirrors.of_eq (h.behind (asked_console m _)) rfl rfl

/-- A line is read, and what comes behind it goes by the line. -/
theorem asks_readLine {β : Type} {f : List UInt16 -> Program Machine β}
    {g : List UInt8 × List UInt16 -> Program Console β} {m : Machine}
    (keys : List UInt16)
    (h : forall (line : List UInt8) (rest : List UInt16)
      (mem : Memory layout) (con : Console), SameBut .line m.mem mem ->
        mem.Holds (.block .line 0) line ->
          Asks (f rest) { m with mem := mem, con := con } (g (line, rest))) :
    Asks (readLine keys 0 >>= f) m
      (Client.readLine (MAX_INPUT + 2) keys [] >>= g) := by
  have hread : ReadAlike m (readLine keys 0 m)
      (Client.readLine (MAX_INPUT + 2) keys [] m.con) :=
    readLine_reads keys List.take_zero (Nat.zero_le _) List.not_mem_nil
  cases hread with
  | inl hdone =>
      rcases hdone with ⟨line, rest, mem, con, hp, hq, hsame, hline⟩
      exact ((h line rest mem con hsame hline).behind
        (asked_sameBut hsame (Or.inl rfl))).of_eq (bind_some hp f)
          (bind_some hq g)
  | inr hwait =>
      rcases hwait with ⟨mem, con, hp, hq, hsame⟩
      exact mirrors_stopped (bind_none hp f) (bind_none hq g)
        (asked_sameBut hsame (Or.inl rfl))

theorem askAddress_asks (turns : Nat) :
    forall {m : Machine} (keys : List UInt16) {ip : List UInt8},
      (m.mem.block .daddr).bytes = ip ->
        Asks (askAddress turns keys) m (Chat.askAddress turns keys ip) := by
  induction turns with
  | zero =>
      intro m keys ip _
      exact mirrors_stopped rfl rfl (asked_console m m.con)
  | succ turns ih =>
      intro m keys ip hip
      refine asks_printText _ (asks_readLine keys
        (fun line rest mem con hsame hline => ?_))
      have hip' : (mem.block .daddr).bytes = ip := by
        rw [hsame.other .daddr nofun]
        exact hip
      rcases parseIp_parses hline hip' with
        ⟨rc, mem', hparse, hrc, hsame', hdaddr⟩
      let m' : Machine := { m with mem := mem', con := con }
      have hm' : Asked { m with mem := mem, con := con } m' con :=
        asked_sameBut hsame' (Or.inr rfl)
      refine mirrors_left (onMem_run hparse) ?_
      dsimp only
      rw [hrc]
      split_ifs with hok
      · have hload : loadBytes (.block .daddr 0) 4 mem' =
            (some (Client.parseIp line ip).2, mem') := by
          have hall : (mem'.block .daddr).slice 0 4 =
              (mem'.block .daddr).bytes :=
            List.take_of_length_le
              (Nat.le_of_eq (mem'.block .daddr).bytes_length)
          rw [<- hdaddr, <- hall]
          exact loadBytes_block (Nat.le_refl 4)
        exact mirrors_left (onMem_run hload) (mirrors_pure hm')
      · have hagain : Asks
            (do
              printText (ascii "Not an IP address.\n")
              askAddress turns rest) m'
            (do
              Client.printText (ascii "Not an IP address.\n")
              Chat.askAddress turns rest (Client.parseIp line ip).2) :=
          asks_printText _ (ih rest hdaddr)
        exact hagain.behind hm'

theorem readPort_reads {mem : Memory layout} {line : List UInt8}
    (h : mem.Holds (.block .line 0) line) :
    readPort mem = (some (portOf line), mem) := by
  have hload : load (.block .line 0) mem = (some (charAt line), mem) :=
    load_holds h
  unfold readPort portOf
  rw [bind_some hload]
  split_ifs with hdigit
  · rcases parseNumber_parses h with ⟨digits, _, hnumber⟩
    exact bind_some hnumber _
  · rfl

theorem askPort_asks (turns : Nat) :
    forall {m : Machine} (keys : List UInt16),
      Asks (askPort turns keys) m (Chat.askPort turns keys) := by
  induction turns with
  | zero =>
      intro m keys
      exact mirrors_stopped rfl rfl (asked_console m m.con)
  | succ turns ih =>
      intro m keys
      refine asks_printText _ (asks_readLine keys
        (fun line rest mem con hsame hline => ?_))
      have hport : onMem readPort { m with mem := mem, con := con } =
          (some (portOf line), { m with mem := mem, con := con }) :=
        onMem_run (readPort_reads hline)
      refine mirrors_left hport ?_
      dsimp only
      split_ifs with hnone
      · exact ih rest
      · exact asks_pure _ _

theorem askServer_asks {m : Machine} (keys : List UInt16)
    (hip : (m.mem.block .daddr).bytes = [0, 0, 0, 0]) :
    Asks (askServer keys) m (Chat.askServer keys) := by
  unfold askServer Chat.askServer
  refine asks_printText _ (asks_printText _ ?_)
  refine Asks.bind (askAddress_asks (keys.length + 1) keys hip)
    (fun asked m1 => ?_)
  refine Asks.bind (askPort_asks (asked.2.length + 1) asked.2)
    (fun asked' m2 => ?_)
  exact asks_printText _ (asks_pure _ _)

end Machine
end Chat
end Z80Tcpip
