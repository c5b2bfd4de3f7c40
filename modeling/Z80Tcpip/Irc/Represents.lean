import Z80Tcpip.Irc.LineAssembly
import Z80Tcpip.Irc.MachineLoop

/-!
# What a memory represents

`Represents b r m s`: the memory and variables `m` stand for the state `s` of the
model on lists, without a fault so far, with the bytes `b` in `input`, after the
bytes `r` from the server.  While a command is taken from `input` the line being
typed is in pieces; what holds all the time is `Underlies`.  This module has the
part of irc.c that prints.
-/

namespace Z80Tcpip
namespace Irc

open Foundation
open Foundation.Program
open Foundation.Memory
open Client

structure Underlies (b : Buffer (MAX_INPUT + 2)) (r : List UInt8)
    (m : Machine) (s : State) : Prop where
  faults : m.mem.faults = []
  con : s.screen.con = m.con
  emitN : s.emitN = m.emitN
  input : m.mem.block .input = b
  inputLen : m.inputLen ≤ MAX_INPUT
  rxlen : m.rxlen ≤ RX_LINE - 1
  rxline : (m.mem.block .rxline).slice 0 m.rxlen = s.rxline
  unfinished : s.rxline = kept (openPiece 10 r)
  lines : m.lines = (closedPieces 10 r).map (fun piece => kept piece ++ [0])
  handled : s.handled.map Handled.line =
    (closedPieces 10 r).map (fun piece => cString (kept piece))
  outLen : m.outLen ≤ OUT_LINE - 2
  out : (m.mem.block .out).slice 0 m.outLen = s.out
  mynick : (m.mem.block .mynick).HoldsText s.mynick
  curChan : (m.mem.block .curChan).HoldsText s.curChan
  pongArg : (m.mem.block .pongArg).HoldsText s.pongArg
  pongPending : s.pongPending = m.pongPending
  joinPending : s.joinPending = m.joinPending

structure Represents (b : Buffer (MAX_INPUT + 2)) (r : List UInt8)
    (m : Machine) (s : State) : Prop extends Underlies b r m s where
  typed : b.slice 0 m.inputLen = s.screen.input
  typed_text : 0 ∉ s.screen.input

section Represents

variable {b : Buffer (MAX_INPUT + 2)} {r : List UInt8} {m : Machine}
  {s : State} {mem : Memory layout}

/-- The line being typed is as it was. -/
theorem Represents.of_underlies {m' : Machine} {s' : State}
    {r' : List UInt8} (h : Represents b r m s) (h' : Underlies b r' m' s')
    (hlen : m'.inputLen = m.inputLen)
    (hinput : s'.screen.input = s.screen.input) : Represents b r' m' s' where
  toUnderlies := h'
  typed := by rw [hlen, hinput, h.typed]
  typed_text := by
    rw [hinput]
    exact h.typed_text

/-- A memory in which at most the strings of the client are others. -/
theorem Underlies.onMemory (h : Underlies b r m s)
    {nick chan arg : List UInt8} (hfaults : mem.faults = m.mem.faults)
    (hinput : mem.block .input = m.mem.block .input)
    (hrxline : (mem.block .rxline).slice 0 m.rxlen =
      (m.mem.block .rxline).slice 0 m.rxlen)
    (hout : mem.block .out = m.mem.block .out)
    (hnick : (mem.block .mynick).HoldsText nick)
    (hchan : (mem.block .curChan).HoldsText chan)
    (harg : (mem.block .pongArg).HoldsText arg) :
    Underlies b r { m with mem := mem }
      { s with mynick := nick, curChan := chan, pongArg := arg } :=
  { h with
    faults := hfaults.trans h.faults
    input := hinput.trans h.input
    rxline := hrxline.trans h.rxline
    out := (congrArg (fun x => Buffer.slice x 0 m.outLen) hout).trans h.out
    mynick := hnick
    curChan := hchan
    pongArg := harg }

/-- A string stays in a block that stays as it is. -/
theorem holdsText_same {mem mem' : Memory layout} {v : Var} {t : List UInt8}
    (h : (mem.block v).HoldsText t) (hsame : mem'.block v = mem.block v) :
    (mem'.block v).HoldsText t := by
  rw [hsame]
  exact h

/-- `row` and `line` stand for nothing, and `rxline` between two lines. -/
theorem Represents.sameBut (h : Represents b r m s) {v : Var}
    (hv : v = .row ∨ v = .line ∨ v = .rxline ∧ m.rxlen = 0)
    (hsame : SameBut v m.mem mem) :
    Represents b r { m with mem := mem } s := by
  have hother : forall w : Var, w ≠ .row -> w ≠ .line -> w ≠ .rxline ->
      mem.block w = m.mem.block w := by
    intro w hrow hline hrxline
    refine hsame.other w (fun heq => ?_)
    rw [heq] at hrow hline hrxline
    rcases hv with hv | hv | hv
    · exact hrow hv
    · exact hline hv
    · exact hrxline hv.left
  have hrxline : (mem.block .rxline).slice 0 m.rxlen =
      (m.mem.block .rxline).slice 0 m.rxlen := by
    rcases hv with hv | hv | hv
    · rw [hsame.other .rxline (by rw [hv]; nofun)]
    · rw [hsame.other .rxline (by rw [hv]; nofun)]
    · rw [hv.right]
      rfl
  have hkept := h.onMemory hsame.faults (hother .input nofun nofun nofun)
    hrxline (hother .out nofun nofun nofun)
    (holdsText_same h.mynick (hother .mynick nofun nofun nofun))
    (holdsText_same h.curChan (hother .curChan nofun nofun nofun))
    (holdsText_same h.pongArg (hother .pongArg nofun nofun nofun))
  exact h.of_underlies hkept rfl rfl

theorem Underlies.setMynick (h : Underlies b r m s) {t : List UInt8}
    (hsame : SameBut .mynick m.mem mem)
    (ht : (mem.block .mynick).HoldsText t) :
    Underlies b r { m with mem := mem } { s with mynick := t } :=
  h.onMemory hsame.faults (hsame.other .input nofun)
    (congrArg (fun x => Buffer.slice x 0 m.rxlen) (hsame.other .rxline nofun))
    (hsame.other .out nofun) ht
    (holdsText_same h.curChan (hsame.other .curChan nofun))
    (holdsText_same h.pongArg (hsame.other .pongArg nofun))

theorem Underlies.setCurChan (h : Underlies b r m s) {t : List UInt8}
    (hsame : SameBut .curChan m.mem mem)
    (ht : (mem.block .curChan).HoldsText t) :
    Underlies b r { m with mem := mem } { s with curChan := t } :=
  h.onMemory hsame.faults (hsame.other .input nofun)
    (congrArg (fun x => Buffer.slice x 0 m.rxlen) (hsame.other .rxline nofun))
    (hsame.other .out nofun)
    (holdsText_same h.mynick (hsame.other .mynick nofun)) ht
    (holdsText_same h.pongArg (hsame.other .pongArg nofun))

theorem Underlies.setPongArg (h : Underlies b r m s) {t : List UInt8}
    (hsame : SameBut .pongArg m.mem mem)
    (ht : (mem.block .pongArg).HoldsText t) :
    Underlies b r { m with mem := mem } { s with pongArg := t } :=
  h.onMemory hsame.faults (hsame.other .input nofun)
    (congrArg (fun x => Buffer.slice x 0 m.rxlen) (hsame.other .rxline nofun))
    (hsame.other .out nofun)
    (holdsText_same h.mynick (hsame.other .mynick nofun))
    (holdsText_same h.curChan (hsame.other .curChan nofun)) ht

/-- Another unfinished line, and the lines in front of it. -/
theorem Represents.received (h : Represents b r m s) {r' line : List UInt8}
    {n : Nat} {lines : List (List UInt8)} {handled : List Handled}
    (hsame : SameBut .rxline m.mem mem) (hn : n ≤ RX_LINE - 1)
    (hline : (mem.block .rxline).slice 0 n = line)
    (hkept : line = kept (openPiece 10 r'))
    (hlines : lines =
      (closedPieces 10 r').map (fun piece => kept piece ++ [0]))
    (hhandled : handled.map Handled.line =
      (closedPieces 10 r').map (fun piece => cString (kept piece))) :
    Represents b r' { m with mem := mem, rxlen := n, lines := lines }
      { s with rxline := line, handled := handled } :=
  { h with
    faults := hsame.faults.trans h.faults
    input := (hsame.other .input nofun).trans h.input
    rxlen := hn
    rxline := hline
    unfinished := hkept
    lines := hlines
    handled := hhandled
    out := (congrArg (fun x => Buffer.slice x 0 m.outLen)
      (hsame.other .out nofun)).trans h.out
    mynick := holdsText_same h.mynick (hsame.other .mynick nofun)
    curChan := holdsText_same h.curChan (hsame.other .curChan nofun)
    pongArg := holdsText_same h.pongArg (hsame.other .pongArg nofun) }

/-- Another console. -/
theorem Represents.onConsole (h : Represents b r m s) {con con' : Console}
    (heq : con = con') :
    Represents b r { m with con := con' }
      { s with screen := { s.screen with con := con } } :=
  { h with
    con := heq }

/-- What has been printed. -/
theorem Represents.shown (h : Represents b r m s) (con : Console)
    (n : Int16) :
    Represents b r { m with con := con, emitN := n }
      { s with screen := { s.screen with con := con }, emitN := n } :=
  { h with
    con := rfl
    emitN := rfl }

/-- The log is not in memory. -/
theorem Represents.logged (h : Represents b r m s) (entries : List LogEntry) :
    Represents b r m { s with logged := entries } :=
  { h with }

end Represents

namespace Machine

theorem onMem_run {α : Type} {p : Program (Memory layout) α} {m : Machine}
    {a : α} {mem : Memory layout} (h : p m.mem = (some a, mem)) :
    onMem p m = (some a, { m with mem := mem }) := by
  unfold onMem
  rw [h]

theorem onMem_of_eq {α : Type} {p : Program (Memory layout) α} {m : Machine}
    {a : α} (h : p m.mem = (some a, m.mem)) : onMem p m = (some a, m) :=
  onMem_run h

/-!
## The input line
-/

theorem take_succ_getD (xs : List UInt8) {i : Nat} (hi : i < xs.length) :
    xs.take (i + 1) = xs.take i ++ [xs.getD i 0] := by
  rw [List.take_succ_eq_append_getElem hi, List.getD_eq_getElem?_getD,
    List.getElem?_eq_getElem hi]
  rfl

/-- The machine with `bs` at the front of `row`. -/
def rowed (m : Machine) (bs : List UInt8) : Machine :=
  { m with mem := m.mem.setBlock .row ((m.mem.block .row).write 0 bs) }

section Rows

variable {m : Machine}

theorem rowed_store (bs : List UInt8) (c : UInt8)
    (hlen : bs.length < SCREEN_COLS + 1) :
    onMem (store (.block .row bs.length) c) (rowed m bs) =
      (some (), rowed m (bs ++ [c])) := by
  have hstore : store (.block .row bs.length) c (rowed m bs).mem =
      (some (), (rowed m (bs ++ [c])).mem) :=
    store_next (L := layout) (v := .row) rfl hlen
  unfold onMem
  rw [hstore]
  rfl

theorem rowed_load (bs : List UInt8) (hfit : bs.length ≤ SCREEN_COLS + 1)
    {i : Nat} (hi : i < bs.length) (con : Console) :
    onMem (load (.block .row i)) { rowed m bs with con := con } =
      (some (bs.getD i 0), { rowed m bs with con := con }) := by
  have hload : load (.block .row i) (rowed m bs).mem =
      (some (bs.getD i 0), (rowed m bs).mem) := by
    have hroom : bs.length ≤ layout.size .row := hfit
    have hget : ((rowed m bs).mem.block .row).get i = bs.getD i 0 := by
      unfold rowed
      rw [setBlock_self, Buffer.get_write_front _ hroom hi]
    rw [load_block (Nat.lt_of_lt_of_le hi hroom), hget]
  unfold onMem
  show ((load (.block .row i) (rowed m bs).mem).1, _) = _
  rw [hload]

/-- The prompt and the tail of what has been typed. -/
theorem rowed_typed {typed : List UInt8}
    (hlen : m.inputLen ≤ MAX_INPUT)
    (htyped : (m.mem.block .input).slice 0 m.inputLen = typed) :
    (each (fun i => onMem (do
      let c ← load (.block .input (m.inputLen - INPUT_VIEW + i))
      store (.block .row (1 + i)) c))
        (List.range' 0 (min m.inputLen INPUT_VIEW))).Returns
      (rowed m [0x3e])
      (fun _ m' => m' = rowed m ([0x3e] ++
        (typed.drop (m.inputLen - INPUT_VIEW)).take
          (min m.inputLen INPUT_VIEW))) := by
  have htypedLen : typed.length = m.inputLen := by
    rw [<- htyped, Buffer.slice_length]
    have hsize : layout.size .input = 102 := rfl
    rw [hsize]
    simp only [MAX_INPUT] at hlen
    omega
  have hview : INPUT_VIEW = 62 := rfl
  have hcols : SCREEN_COLS = 64 := rfl
  refine (returns_each_range' (fun i m' => m' = rowed m ([0x3e] ++
    (typed.drop (m.inputLen - INPUT_VIEW)).take i))
    (fun i m' _ hi hm' => ?_) rfl).mono (fun _ m' hm' => ?_)
  case refine_2 => rwa [Nat.zero_add] at hm'
  subst hm'
  rw [Nat.zero_add] at hi
  have hdrop : i < (typed.drop (m.inputLen - INPUT_VIEW)).length := by
    rw [List.length_drop]
    omega
  have htake : ([0x3e] ++
      (typed.drop (m.inputLen - INPUT_VIEW)).take i).length = 1 + i := by
    rw [List.length_append, List.length_take, List.length_singleton]
    omega
  have hget : (m.mem.block .input).get (m.inputLen - INPUT_VIEW + i) =
      (typed.drop (m.inputLen - INPUT_VIEW)).getD i 0 := by
    rw [<- htyped, List.getD_eq_getElem?_getD, List.getElem?_drop]
    show _ = (((m.mem.block .input).bytes.drop 0).take m.inputLen)[_]?.getD 0
    rw [List.drop_zero, List.getElem?_take_of_lt (by omega)]
    rfl
  have hload : load (.block .input (m.inputLen - INPUT_VIEW + i))
      (rowed m ([0x3e] ++
        (typed.drop (m.inputLen - INPUT_VIEW)).take i)).mem =
      (some ((typed.drop (m.inputLen - INPUT_VIEW)).getD i 0),
        (rowed m ([0x3e] ++
          (typed.drop (m.inputLen - INPUT_VIEW)).take i)).mem) := by
    have hsize : layout.size .input = 102 := rfl
    have hroom : m.inputLen - INPUT_VIEW + i < layout.size .input := by
      rw [hsize]
      simp only [MAX_INPUT] at hlen
      omega
    rw [load_block hroom, <- hget]
    unfold rowed
    rw [setBlock_other m.mem _ (by nofun)]
  have hstore := rowed_store (m := m)
    ([0x3e] ++ (typed.drop (m.inputLen - INPUT_VIEW)).take i)
    ((typed.drop (m.inputLen - INPUT_VIEW)).getD i 0) (by rw [htake]; omega)
  rw [htake, List.append_assoc, <- take_succ_getD _ hdrop] at hstore
  refine returns_of_eq (a := ()) ?_ rfl
  unfold onMem at hstore ⊢
  rw [bind_some hload]
  exact hstore

/-- The blanks behind the cursor. -/
theorem rowed_blanks (bs : List UInt8) (hlen : bs.length ≤ SCREEN_COLS) :
    (each (fun i => onMem (store (.block .row i) 0x20))
      (List.range' bs.length (SCREEN_COLS - bs.length))).Returns (rowed m bs)
      (fun _ m' => m' = rowed m
        (bs ++ List.replicate (SCREEN_COLS - bs.length) 0x20)) := by
  refine (returns_each_range' (fun i m' => m' =
    rowed m (bs ++ List.replicate (i - bs.length) 0x20))
    (fun i m' hlow hi hm' => ?_) ?_).mono (fun _ m' hm' => ?_)
  case refine_2 =>
    rw [Nat.sub_self]
    exact congrArg (rowed m) (List.append_nil bs).symm
  case refine_3 => rwa [Nat.add_sub_cancel_left] at hm'
  subst hm'
  have hfilled : (bs ++ List.replicate (i - bs.length) (0x20 : UInt8)).length =
      i := by
    rw [List.length_append, List.length_replicate]
    omega
  have hstore := rowed_store (m := m)
    (bs ++ List.replicate (i - bs.length) 0x20) 0x20 (by omega)
  rw [hfilled, List.append_assoc, <- List.replicate_succ',
    show i - bs.length + 1 = i + 1 - bs.length by omega] at hstore
  exact returns_of_eq (a := ()) hstore rfl

/-- The row is printed as it stands. -/
theorem rowed_print {row : List UInt8} (hrow : row.length = SCREEN_COLS)
    (con : Console) :
    (each (fun i => do
      let c ← onMem (load (.block .row i))
      Program.modify (putchar c)) (List.range' 0 SCREEN_COLS)).Returns
      { rowed m (row ++ [0]) with con := con }
      (fun _ m' => m' =
        { rowed m (row ++ [0]) with con := con.putchars row }) := by
  refine (returns_each_range' (fun i m' => m' =
    { rowed m (row ++ [0]) with con := con.putchars (row.take i) })
    (fun i m' _ hi hm' => ?_) rfl).mono (fun _ m' hm' => ?_)
  case refine_2 => rwa [Nat.zero_add, <- hrow, List.take_length] at hm'
  subst hm'
  rw [Nat.zero_add, <- hrow] at hi
  have hlen : (row ++ [(0 : UInt8)]).length = SCREEN_COLS + 1 := by
    rw [List.length_append, hrow]
    rfl
  have hget : (row ++ [0]).getD i 0 = row.getD i 0 := by
    rw [List.getD_eq_getElem?_getD, List.getElem?_append_left hi,
      List.getD_eq_getElem?_getD]
  have hload := rowed_load (m := m) (row ++ [0]) (Nat.le_of_eq hlen)
    (by rw [hlen, <- hrow]; omega : i < (row ++ [0]).length)
    (con.putchars (row.take i))
  refine returns_bind_of_eq hload (returns_modify ?_)
  rw [hget, take_succ_getD row hi, Console.putchars, Console.putchars,
    List.foldl_append]
  rfl

/-- `draw_input` fills `row` and prints it. -/
theorem drawInput_draws {typed : List UInt8} (hlen : m.inputLen ≤ MAX_INPUT)
    (htyped : (m.mem.block .input).slice 0 m.inputLen = typed) :
    drawInput.Returns m (fun _ m' => m' =
      { rowed m (inputRow typed ++ [0]) with
        con := ((m.con.printAt INPUT_ROW 0).putchars (inputRow typed)).printAt
          INPUT_ROW 0 }) := by
  have htypedLen : typed.length = m.inputLen := by
    rw [<- htyped, Buffer.slice_length]
    have hsize : layout.size .input = 102 := rfl
    rw [hsize]
    simp only [MAX_INPUT] at hlen
    omega
  have hview : INPUT_VIEW = 62 := rfl
  have hcols : SCREEN_COLS = 64 := rfl
  have hempty : rowed m [] = m := by
    unfold rowed
    rw [Buffer.write_nil, setBlock_same]
  have hprompt : onMem (store (.block .row 0) 0x3e) m =
      (some (), rowed m [0x3e]) := by
    have hfirst := rowed_store (m := m) [] 0x3e (by decide)
    rwa [hempty] at hfirst
  have htail : ([(0x3e : UInt8)] ++
      (typed.drop (m.inputLen - INPUT_VIEW)).take
        (min m.inputLen INPUT_VIEW)).length = 1 + min m.inputLen INPUT_VIEW := by
    rw [List.length_append, List.length_take, List.length_drop,
      List.length_singleton]
    omega
  have hcursor : ([(0x3e : UInt8)] ++
      (typed.drop (m.inputLen - INPUT_VIEW)).take
        (min m.inputLen INPUT_VIEW) ++ [0x5f]).length =
          min m.inputLen INPUT_VIEW + 2 := by
    rw [List.length_append, htail, List.length_singleton]
    omega
  have hwhole : [(0x3e : UInt8)] ++
      (typed.drop (m.inputLen - INPUT_VIEW)).take
        (min m.inputLen INPUT_VIEW) ++ [0x5f] ++
          List.replicate (SCREEN_COLS - (min m.inputLen INPUT_VIEW + 2)) 0x20 =
            inputRow typed := by
    unfold inputRow
    rw [htypedLen]
  have hrow : (inputRow typed).length = SCREEN_COLS := inputRow_length typed
  unfold drawInput
  rw [Returns, get_bind_apply]
  refine returns_bind_of_eq hprompt ?_
  refine (rowed_typed hlen htyped).bind (fun _ m1 hm1 => ?_)
  subst hm1
  have hmark := rowed_store (m := m) ([0x3e] ++
    (typed.drop (m.inputLen - INPUT_VIEW)).take (min m.inputLen INPUT_VIEW))
    0x5f (by rw [htail]; omega)
  rw [htail] at hmark
  refine returns_bind_of_eq hmark ?_
  have hblanks := rowed_blanks (m := m) ([0x3e] ++
    (typed.drop (m.inputLen - INPUT_VIEW)).take (min m.inputLen INPUT_VIEW) ++
      [0x5f]) (by rw [hcursor]; omega)
  rw [hcursor, hwhole] at hblanks
  refine hblanks.bind (fun _ m2 hm2 => ?_)
  subst hm2
  have hend := rowed_store (m := m) (inputRow typed) 0
    (by rw [hrow]; omega)
  rw [hrow] at hend
  refine returns_bind_of_eq hend ?_
  refine returns_bind_of_eq (modify_apply _ _) ?_
  refine (rowed_print hrow _).bind (fun _ m3 hm3 => ?_)
  subst hm3
  exact returns_modify rfl

end Rows

section Drawing

variable {b : Buffer (MAX_INPUT + 2)} {r : List UInt8} {m : Machine}
  {s : State}

/-- The relation of a call that prints: it leaves all blocks but `row` alone. -/
def Prints (b : Buffer (MAX_INPUT + 2)) (r : List UInt8) (m : Machine)
    (s' : State) (m' : Machine) : Prop :=
  Represents b r m' s' ∧ SameBut .row m.mem m'.mem

theorem drawInput_prints (h : Represents b r m s) :
    drawInput.Returns m (fun _ => Prints b r m (Irc.drawInput s)) := by
  have htyped : (m.mem.block .input).slice 0 m.inputLen = s.screen.input := by
    rw [h.input]
    exact h.typed
  refine (drawInput_draws h.inputLen htyped).mono (fun _ m' hm' => ?_)
  subst hm'
  have hsame : SameBut .row m.mem (rowed m (inputRow s.screen.input ++ [0])).mem :=
    sameBut_setBlock _ _ _
  have hcon : ((s.screen.con.printAt INPUT_ROW 0).putchars
      (inputRow s.screen.input)).printAt INPUT_ROW 0 =
        ((m.con.printAt INPUT_ROW 0).putchars
          (inputRow s.screen.input)).printAt INPUT_ROW 0 := by
    rw [h.con]
  exact ⟨(h.sameBut (Or.inl rfl) hsame).onConsole hcon, hsame⟩

/-!
## The log
-/

theorem emitStart_represents (h : Represents b r m s) :
    Represents b r (emitStart m) (Irc.emitStart s) := by
  have hshown := h.shown (m.con.printAt INPUT_ROW 0) 0
  rw [<- h.con] at hshown
  unfold emitStart printAt
  rw [<- h.con]
  exact hshown

theorem emitPut_represents (c : UInt8) (h : Represents b r m s) :
    Represents b r (emitPut c m) (Irc.emitPut c s) := by
  have hshown := h.shown (m.con.putchar c) (m.emitN + 1)
  rw [<- h.con, <- h.emitN] at hshown
  unfold emitPut putchar
  rw [<- h.con, <- h.emitN]
  exact hshown

theorem emitChar_represents (c : UInt8) (h : Represents b r m s) :
    Represents b r (emitChar c m) (Irc.emitChar s c) := by
  unfold emitChar Irc.emitChar
  generalize (if c = 9 then (0x20 : UInt8) else c) = shown
  dsimp only
  split_ifs
  · exact h
  · exact emitPut_represents _ h

@[simp] theorem emitPut_mem (c : UInt8) (m : Machine) :
    (emitPut c m).mem = m.mem := rfl

@[simp] theorem emitChar_mem (c : UInt8) (m : Machine) :
    (emitChar c m).mem = m.mem := by
  unfold emitChar
  generalize (if c = 9 then (0x20 : UInt8) else c) = shown
  dsimp only
  split_ifs
  · rfl
  · rfl

@[simp] theorem emitChar_rxlen (c : UInt8) (m : Machine) :
    (emitChar c m).rxlen = m.rxlen := by
  unfold emitChar
  generalize (if c = 9 then (0x20 : UInt8) else c) = shown
  dsimp only
  split_ifs
  · rfl
  · rfl

theorem emitFrom_emits {p : Ptr Var} (back : List UInt8) :
    forall {m : Machine} {s : State} {front : List UInt8} {turns : Nat},
      Represents b r m s -> m.mem.Holds p (front ++ back) ->
      back.length < turns ->
        (emitFrom p turns front.length).Returns m (fun _ m' =>
          Represents b r m' (Irc.emit back s) ∧ m'.mem = m.mem ∧
            m'.rxlen = m.rxlen) := by
  induction back with
  | nil =>
      intro m s front turns h hp hturns
      cases turns with
      | zero => exact absurd hturns (Nat.not_lt_zero _)
      | succ turns =>
          rw [List.append_nil] at hp
          unfold emitFrom
          refine returns_bind_of_eq (onMem_of_eq (peek_nul hp)) ?_
          rw [if_pos rfl]
          exact returns_pure ⟨h, rfl, rfl⟩
  | cons c back ih =>
      intro m s front turns h hp hturns
      have hc : c ≠ 0 := by
        intro heq
        rw [heq] at hp
        exact hp.left (List.mem_append_right front List.mem_cons_self)
      cases turns with
      | zero => exact absurd hturns (Nat.not_lt_zero _)
      | succ turns =>
          have hp' : (emitChar c m).mem.Holds p ((front ++ [c]) ++ back) := by
            rw [emitChar_mem, List.append_assoc, List.singleton_append]
            exact hp
          have hfuel : back.length < turns := Nat.lt_of_succ_lt_succ hturns
          have hrest := ih (emitChar_represents c h) hp' hfuel
          rw [List.length_append, List.length_singleton, emitChar_mem,
            emitChar_rxlen] at hrest
          unfold emitFrom
          refine returns_bind_of_eq (onMem_of_eq (peek_char hp)) ?_
          rw [if_neg hc]
          exact returns_bind_of_eq (modify_apply _ _) hrest

/-- `emit` of a string in memory is `emit` of its bytes. -/
theorem emit_emits {p : Ptr Var} {t : List UInt8} (h : Represents b r m s)
    (hp : m.mem.Holds p t) :
    (emit p).Returns m (fun _ m' =>
      Represents b r m' (Irc.emit t s) ∧ m'.mem = m.mem ∧
        m'.rxlen = m.rxlen) :=
  emitFrom_emits t h (show m.mem.Holds p ([] ++ t) from hp) hp.length_lt

theorem emitPad_represents (turns : Nat) :
    forall {m : Machine} {s : State}, Represents b r m s ->
      Represents b r (emitPad turns m) (Irc.emitPad turns s) := by
  induction turns with
  | zero => exact fun h => h
  | succ turns ih =>
      intro m s h
      unfold emitPad Irc.emitPad
      rw [h.emitN]
      split_ifs
      · exact ih (emitPut_represents 0x20 h)
      · exact h

theorem emitPad_mem (turns : Nat) (m : Machine) :
    (emitPad turns m).mem = m.mem := by
  induction turns generalizing m with
  | zero => rfl
  | succ turns ih =>
      unfold emitPad
      split_ifs
      · exact (ih _).trans (emitPut_mem 0x20 m)
      · rfl

theorem emitEnd_prints (h : Represents b r m s) :
    emitEnd.Returns m (fun _ => Prints b r m (Irc.emitEnd s)) := by
  have hpad := emitPad_represents 128 h
  have hline : Represents b r (putchar 10 (emitPad 128 m))
      { Irc.emitPad 128 s with
        screen :=
          { (Irc.emitPad 128 s).screen with
            con := (Irc.emitPad 128 s).screen.con.putchar 10 } } :=
    hpad.onConsole (congrArg (fun con => Console.putchar con 10) hpad.con)
  unfold emitEnd
  refine returns_bind_of_eq (modify_apply _ _) ?_
  refine returns_bind_of_eq (modify_apply _ _) ?_
  refine (drawInput_prints hline).mono (fun _ m' hm' => ?_)
  have hmem : (putchar 10 (emitPad 128 m)).mem = m.mem := emitPad_mem 128 m
  exact ⟨hm'.left, hmem ▸ hm'.right⟩

/-- What `emit_end` makes of the pieces, for a log entry that has been begun. -/
theorem emitEnd_logs (pieces : List (List UInt8)) {m' : Machine}
    (h : Represents b r m'
      (pieces.foldl (fun s piece => Irc.emit piece s) (Irc.emitStart s)))
    (hmem : m'.mem = m.mem) :
    emitEnd.Returns m' (fun _ => Prints b r m (logEntry pieces s)) := by
  refine (emitEnd_prints h).mono (fun _ m'' hm'' => ?_)
  rw [Prints, hmem] at hm''
  exact ⟨hm''.left.logged _, hm''.right⟩

theorem logLine_prints {a : Ptr Var} {ta : List UInt8}
    (h : Represents b r m s) (ha : m.mem.Holds a ta) :
    (logLine a).Returns m (fun _ => Prints b r m (Irc.logLine ta s)) := by
  unfold logLine
  refine returns_bind_of_eq (modify_apply _ _) ?_
  refine (emit_emits (emitStart_represents h) ha).bind (fun _ m1 hm1 => ?_)
  rcases hm1 with ⟨h1, hmem1, _⟩
  exact emitEnd_logs [ta] h1 hmem1

theorem logLine2_prints {a a' : Ptr Var} {ta ta' : List UInt8}
    (h : Represents b r m s) (ha : m.mem.Holds a ta)
    (ha' : m.mem.Holds a' ta') :
    (logLine2 a a').Returns m (fun _ =>
      Prints b r m (Irc.logLine2 ta ta' s)) := by
  unfold logLine2
  refine returns_bind_of_eq (modify_apply _ _) ?_
  refine (emit_emits (emitStart_represents h) ha).bind (fun _ m1 hm1 => ?_)
  rcases hm1 with ⟨h1, hmem1, _⟩
  have hmem1' : m1.mem = m.mem := hmem1
  rw [<- hmem1'] at ha'
  refine (emit_emits h1 ha').bind (fun _ m2 hm2 => ?_)
  rcases hm2 with ⟨h2, hmem2, _⟩
  exact emitEnd_logs [ta, ta'] h2 (hmem2.trans hmem1')

theorem logLine4_prints {p q u v : Ptr Var} {tp tq tu tv : List UInt8}
    (h : Represents b r m s) (hp : m.mem.Holds p tp) (hq : m.mem.Holds q tq)
    (hu : m.mem.Holds u tu) (hv : m.mem.Holds v tv) :
    (logLine4 p q u v).Returns m (fun _ =>
      Prints b r m (Irc.logLine4 tp tq tu tv s)) := by
  unfold logLine4
  refine returns_bind_of_eq (modify_apply _ _) ?_
  refine (emit_emits (emitStart_represents h) hp).bind (fun _ m1 hm1 => ?_)
  rcases hm1 with ⟨h1, hmem1, _⟩
  have hmem1' : m1.mem = m.mem := hmem1
  rw [<- hmem1'] at hq
  refine (emit_emits h1 hq).bind (fun _ m2 hm2 => ?_)
  rcases hm2 with ⟨h2, hmem2, _⟩
  have hmem2' : m2.mem = m.mem := hmem2.trans hmem1'
  rw [<- hmem2'] at hu
  refine (emit_emits h2 hu).bind (fun _ m3 hm3 => ?_)
  rcases hm3 with ⟨h3, hmem3, _⟩
  have hmem3' : m3.mem = m.mem := hmem3.trans hmem2'
  rw [<- hmem3'] at hv
  refine (emit_emits h3 hv).bind (fun _ m4 hm4 => ?_)
  rcases hm4 with ⟨h4, hmem4, _⟩
  exact emitEnd_logs [tp, tq, tu, tv] h4 (hmem4.trans hmem3')

end Drawing

end Machine

end Irc
end Z80Tcpip
