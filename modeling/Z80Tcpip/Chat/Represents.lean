import Z80Tcpip.Chat.Machine
import Z80Tcpip.Foundation.Filling

/-!
# What the arrays of tcp_chat.c represent

`Represents m s`: the memory and variables `m` stand for the state `s` of the
model on lists, without a fault so far.  What prints, what receives and what types
keeps that.
-/

namespace Z80Tcpip
namespace Chat

open Foundation
open Foundation.Program
open Foundation.Memory
open Client

/-- `logline` may be full. -/
structure Stands (m : Machine) (s : State) : Prop where
  faults : m.mem.faults = []
  con : m.con = s.screen.con
  inputLen : m.inputLen ≤ MAX_INPUT
  input : (m.mem.block .input).slice 0 m.inputLen = s.screen.input
  input_text : 0 ∉ s.screen.input
  loglineLen : m.loglineLen ≤ SCREEN_COLS
  logline : (m.mem.block .logline).slice 0 m.loglineLen = s.logline
  logline_text : 0 ∉ s.logline
  loglineEmitted : m.loglineEmitted = s.loglineEmitted

structure Represents (m : Machine) (s : State) : Prop extends Stands m s where
  short : m.loglineLen < SCREEN_COLS

section Stands

variable {m : Machine} {s : State}

theorem Stands.input_length (h : Stands m s) :
    s.screen.input.length = m.inputLen := by
  have hsize : layout.size .input = 82 := rfl
  have hlen := h.inputLen
  simp only [MAX_INPUT] at hlen
  rw [<- h.input, Buffer.slice_length _ (by omega)]

theorem Stands.logline_length (h : Stands m s) :
    s.logline.length = m.loglineLen := by
  have hsize : layout.size .logline = 65 := rfl
  have hlen := h.loglineLen
  simp only [SCREEN_COLS] at hlen
  rw [<- h.logline, Buffer.slice_length _ (by omega)]

/-- `row`, `line` and `daddr` stand for nothing. -/
theorem Stands.sameBut (h : Stands m s) {v : Var} {mem : Memory layout}
    (hsame : SameBut v m.mem mem) (hinput : Var.input ≠ v)
    (hlogline : Var.logline ≠ v) (con : Console) :
    Stands { m with mem := mem, con := con }
      { s with screen := { s.screen with con := con } } :=
  { h with
    faults := hsame.faults.trans h.faults
    con := rfl
    input := (congrArg (fun b => Buffer.slice b 0 m.inputLen)
      (hsame.other .input hinput)).trans h.input
    logline := (congrArg (fun b => Buffer.slice b 0 m.loglineLen)
      (hsame.other .logline hlogline)).trans h.logline }

/-- One more character for the row that is being assembled. -/
theorem Represents.assembles (h : Represents m s) {c : UInt8} (hc : c ≠ 0) :
    Stands
      { m with
        mem := m.mem.setBlock .logline
          ((m.mem.block .logline).put m.loglineLen c)
        loglineLen := m.loglineLen + 1 }
      { s with logline := s.logline ++ [c] } := by
  have hsame := sameBut_setBlock m.mem Var.logline
    ((m.mem.block .logline).put m.loglineLen c)
  have hsize : m.loglineLen < layout.size .logline :=
    Nat.lt_succ_of_lt h.short
  have hnext := (m.mem.block .logline).slice_put_next c hsize
  rw [h.logline] at hnext
  exact
    { h.toStands with
      faults := hsame.faults.trans h.faults
      input := (congrArg (fun b => Buffer.slice b 0 m.inputLen)
        (hsame.other .input nofun)).trans h.input
      loglineLen := h.short
      logline := by
        show ((m.mem.setBlock .logline _).block .logline).slice 0 _ = _
        rw [setBlock_self]
        exact hnext
      logline_text := by
        intro hmem
        cases List.mem_append.mp hmem with
        | inl hold => exact h.logline_text hold
        | inr hnew => exact hc (List.mem_singleton.mp hnew).symm }

end Stands

namespace Machine

variable {α : Type} {m : Machine} {s : State}

theorem onMem_run {p : Program (Memory layout) α} {a : α}
    {mem : Memory layout} (h : p m.mem = (some a, mem)) :
    onMem p m = (some a, { m with mem := mem }) := by
  unfold onMem
  rw [h]

theorem onMem_of_eq {p : Program (Memory layout) α} {a : α}
    (h : p m.mem = (some a, m.mem)) : onMem p m = (some a, m) :=
  onMem_run h

/-!
## The screen
-/

theorem putsFrom_prints {p : Ptr Var} (back : List UInt8) :
    forall {m : Machine} {front : List UInt8} {turns : Nat},
      m.mem.Holds p (front ++ back) -> back.length < turns ->
        putsFrom p turns front.length m =
          (some (front.length + back.length),
            { m with con := m.con.putchars back }) := by
  induction back with
  | nil =>
      intro m front turns h hturns
      cases turns with
      | zero => exact absurd hturns (Nat.not_lt_zero _)
      | succ turns =>
          rw [List.append_nil] at h
          unfold putsFrom
          rw [bind_some (onMem_of_eq (peek_nul h)), if_pos rfl]
          rfl
  | cons c back ih =>
      intro m front turns h hturns
      have hc : c ≠ 0 := by
        intro heq
        rw [heq] at h
        exact h.left (List.mem_append_right front List.mem_cons_self)
      cases turns with
      | zero => exact absurd hturns (Nat.not_lt_zero _)
      | succ turns =>
          have hmore : (putchar c m).mem.Holds p ((front ++ [c]) ++ back) := by
            rw [List.append_assoc, List.singleton_append]
            exact h
          have hlen : (front ++ [c]).length = front.length + 1 :=
            List.length_append
          have hrest := ih hmore (Nat.lt_of_succ_lt_succ hturns)
          rw [hlen] at hrest
          unfold putsFrom
          rw [bind_some (onMem_of_eq (peek_char h)), if_neg hc,
            modify_bind_apply, hrest, List.length_cons, Nat.add_assoc,
            Nat.add_comm 1]
          rfl

/-- A string is printed up to its NUL. -/
theorem putsRaw_prints {p : Ptr Var} {t : List UInt8} (h : m.mem.Holds p t) :
    putsRaw p m =
      (some t.length, { m with con := m.con.putchars t }) := by
  have hputs := putsFrom_prints t (show m.mem.Holds p ([] ++ t) from h)
    h.length_lt
  rw [List.length_nil, Nat.zero_add] at hputs
  exact hputs

/-- The part of the line that `row` has room for. -/
theorem slice_view {mem : Memory layout} {n : Nat} {typed : List UInt8}
    (htyped : (mem.block .input).slice 0 n = typed) :
    (mem.block .input).slice (n - INPUT_VIEW) (min n INPUT_VIEW) =
      (typed.drop (n - INPUT_VIEW)).take (min n INPUT_VIEW) := by
  have hfit : min (min n INPUT_VIEW) (n - (n - INPUT_VIEW)) =
      min n INPUT_VIEW := by
    omega
  rw [<- htyped, Buffer.slice, Buffer.slice, List.drop_zero, List.drop_take,
    List.take_take, hfit]

theorem fillRow_fills {mem : Memory layout} {n : Nat} {typed : List UInt8}
    (hlen : n ≤ MAX_INPUT) (htyped : (mem.block .input).slice 0 n = typed) :
    (fillRow n).Returns mem (fun _ mem' =>
      mem' = mem.filled .row (inputRow typed ++ [0])) := by
  have hrow : layout.size .row = 65 := rfl
  have hinput : layout.size .input = 82 := rfl
  have hcols : SCREEN_COLS = 64 := rfl
  have hview : INPUT_VIEW = 62 := rfl
  simp only [MAX_INPUT] at hlen
  have htypedLen : typed.length = n := by
    rw [<- htyped, Buffer.slice_length _ (by omega)]
  let shown := (typed.drop (n - INPUT_VIEW)).take (min n INPUT_VIEW)
  have hshown : shown.length = min n INPUT_VIEW := by
    rw [List.length_take, List.length_drop]
    omega
  have hempty : ([] : List UInt8).length < layout.size .row := by
    rw [hrow]
    decide
  have hprompt := store_filled (m := mem) 0x3e rfl hempty
  rw [filled_nil] at hprompt
  have hsource : n - INPUT_VIEW + min n INPUT_VIEW ≤ layout.size .input := by
    omega
  have htarget : ([0x3e] : List UInt8).length + min n INPUT_VIEW ≤
      layout.size .row := by
    rw [List.length_singleton]
    omega
  have hapart : Var.input ≠ Var.row := by
    decide
  have hcopy := each_copies (m := mem) rfl hapart hsource htarget
  rw [slice_view htyped] at hcopy
  have hfront : ([0x3e] ++ shown : List UInt8).length =
      1 + min n INPUT_VIEW := by
    rw [List.length_append, hshown, List.length_singleton]
  have hshort : ([0x3e] ++ shown : List UInt8).length <
      layout.size .row := by
    rw [hfront]
    omega
  have hcursor := store_filled (m := mem) 0x5f rfl hshort
  rw [hfront] at hcursor
  have hbegun : ([0x3e] ++ shown ++ [0x5f] : List UInt8).length =
      min n INPUT_VIEW + 2 := by
    rw [List.length_append, hfront, List.length_singleton]
    omega
  have hroom : ([0x3e] ++ shown ++ [0x5f] : List UInt8).length +
      (SCREEN_COLS - (min n INPUT_VIEW + 2)) ≤ layout.size .row := by
    rw [hbegun]
    omega
  have hblanks := each_repeats (m := mem) 0x20 rfl hroom
  rw [hbegun] at hblanks
  have hwhole : [0x3e] ++ shown ++ [0x5f] ++
      List.replicate (SCREEN_COLS - (min n INPUT_VIEW + 2)) 0x20 =
        inputRow typed := by
    rw [inputRow, htypedLen]
  have hlast : (inputRow typed).length < layout.size .row := by
    rw [inputRow_length]
    decide
  have hnul := store_filled (m := mem) 0 rfl hlast
  rw [inputRow_length] at hnul
  unfold fillRow
  refine returns_bind_of_eq hprompt ?_
  refine hcopy.bind (fun _ mem1 hmem1 => ?_)
  rw [hmem1]
  refine returns_bind_of_eq hcursor ?_
  refine hblanks.bind (fun _ mem2 hmem2 => ?_)
  rw [hmem2, hwhole]
  exact returns_of_eq hnul rfl

/-- `draw_input` uses `row` and the console only. -/
theorem drawInput_run (h : Stands m s) :
    drawInput m = (some (),
      { m with
        mem := m.mem.filled .row (inputRow s.screen.input ++ [0])
        con := (Chat.drawInput s).screen.con }) := by
  rcases fillRow_fills h.inputLen h.input with ⟨_, mem, hrun, hmem⟩
  subst hmem
  have htext : 0 ∉ inputRow s.screen.input := by
    intro hmem
    simp only [inputRow, List.mem_append, List.mem_singleton,
      List.mem_replicate] at hmem
    rcases hmem with ((hprompt | htyped) | hcursor) | hblank
    · cases hprompt
    · exact h.input_text (List.mem_of_mem_drop (List.mem_of_mem_take htyped))
    · cases hcursor
    · cases hblank.right
  have hholds : (m.mem.filled .row (inputRow s.screen.input ++ [0])).Holds
      (.block .row 0) (inputRow s.screen.input) := by
    refine ⟨htext, ?_⟩
    have hlen : (inputRow s.screen.input ++ [0]).length ≤
        layout.size .row := by
      rw [List.length_append, inputRow_length]
      decide
    have hslice := filled_slice m.mem hlen
    have hprefix := List.take_prefix
      (inputRow s.screen.input ++ [0]).length
      ((m.mem.filled .row (inputRow s.screen.input ++ [0])).block .row).bytes
    rw [Buffer.slice, List.drop_zero] at hslice
    rw [hslice] at hprefix
    exact hprefix
  have hraw : putsRaw (.block .row 0)
      { m with
        mem := m.mem.filled .row (inputRow s.screen.input ++ [0])
        con := m.con.printAt INPUT_ROW 0 } = _ :=
    putsRaw_prints hholds
  have htake := takeWhile_text htext
  unfold drawInput
  rw [get_bind_apply, bind_some (onMem_run hrun), modify_bind_apply]
  unfold printAt
  rw [bind_some hraw, modify_apply]
  unfold Chat.drawInput Chat.putsRaw
  rw [htake, h.con]

/-- What has been printed leaves the variables alone. -/
theorem drawInput_draws (h : Stands m s) :
    drawInput.Returns m (fun _ m' =>
      Stands m' (Chat.drawInput s) ∧ m'.loglineLen = m.loglineLen) := by
  have hsame := sameBut_filled m.mem Var.row
    (inputRow s.screen.input ++ [0])
  refine returns_of_eq (drawInput_run h) ⟨?_, rfl⟩
  exact h.sameBut hsame nofun nofun _

theorem logLine_logs (h : Stands m s) {p : Ptr Var} {t : List UInt8}
    (hp : m.mem.Holds p t) :
    (logLine p).Returns m (fun _ m' =>
      Stands m' (Chat.logLine t s) ∧ m'.loglineLen = m.loglineLen) := by
  have hputs : putsRaw p (printAt INPUT_ROW 0 m) = _ := putsRaw_prints hp
  let con := (padLine SCREEN_COLS t.length
    ((m.con.printAt INPUT_ROW 0).putchars t)).putchar 10
  have hprinted : Stands { m with con := con }
      { s with screen := { s.screen with con := con } } :=
    { h with
      con := rfl }
  have hlogged : Chat.logLine t s =
      Chat.drawInput { s with screen := { s.screen with con := con } } := by
    unfold Chat.logLine
    rw [takeWhile_text hp.left, <- h.con]
  rw [hlogged]
  unfold logLine
  refine returns_bind_of_eq (modify_apply _ _) ?_
  refine returns_bind_of_eq hputs ?_
  exact returns_bind_of_eq (modify_apply _ _) (drawInput_draws hprinted)

/-!
## Received data
-/

/-- The row that has been assembled is logged. -/
theorem loglineFlush_flushes (h : Stands m s) :
    loglineFlush.Returns m (fun _ m' =>
      Represents m' (Chat.loglineFlush s)) := by
  have hsize : m.loglineLen < layout.size .logline :=
    Nat.lt_succ_of_le h.loglineLen
  have hstore := store_nul (m := m.mem) (v := Var.logline) hsize
  have hsame := sameBut_setBlock m.mem Var.logline
    ((m.mem.block .logline).put m.loglineLen 0)
  let mem := m.mem.setBlock .logline
    ((m.mem.block .logline).put m.loglineLen 0)
  have hrow : mem.Holds (.block .logline 0) s.logline := by
    rw [holds_block, setBlock_self]
    exact Buffer.holdsAt_put h.logline h.logline_text hsize
  have hempty : Stands
      { m with
        mem := mem
        loglineLen := 0
        loglineEmitted := true }
      { s with
        logline := []
        loglineEmitted := true
        flushed := s.flushed ++ [s.logline] } :=
    { h with
      faults := hsame.faults.trans h.faults
      input := (congrArg (fun b => Buffer.slice b 0 m.inputLen)
        (hsame.other .input nofun)).trans h.input
      loglineLen := Nat.zero_le _
      logline := rfl
      logline_text := nofun
      loglineEmitted := rfl }
  have hlog := logLine_logs hempty (p := .block .logline 0) hrow
  unfold loglineFlush
  refine returns_bind_of_eq (get_apply _) ?_
  refine returns_bind_of_eq (onMem_run hstore) ?_
  refine returns_bind_of_eq (modify_apply _ _) ?_
  refine hlog.mono (fun _ m' hm' => ⟨hm'.left, ?_⟩)
  rw [hm'.right]
  show 0 < SCREEN_COLS
  decide

theorem loglineChar_assembles (h : Represents m s) (c : UInt8) :
    (loglineChar c).Returns m (fun _ m' =>
      Represents m' (Chat.loglineChar s c)) := by
  unfold loglineChar Chat.loglineChar
  by_cases hlf : c = 10
  · have hnone : m.loglineLen ≠ 0 <-> s.logline ≠ [] := by
      rw [<- h.toStands.logline_length, Ne, List.length_eq_zero_iff]
    have hbegun : forall {m' : Machine} {s' : State}, Represents m' s' ->
        (Program.modify (fun m : Machine =>
          { m with loglineEmitted := false })).Returns m' (fun _ m'' =>
            Represents m'' { s' with loglineEmitted := false }) := by
      intro m' s' h'
      exact returns_modify
        { h' with
          loglineEmitted := rfl }
    rw [if_pos hlf, if_pos hlf]
    have hflushes : m.loglineLen ≠ 0 ∨ m.loglineEmitted = false <->
        s.logline ≠ [] ∨ s.loglineEmitted = false := by
      rw [hnone, h.loglineEmitted]
    refine returns_bind_of_eq (get_apply _) ?_
    by_cases hflush : s.logline ≠ [] ∨ s.loglineEmitted = false
    · rw [if_pos (hflushes.mpr hflush), if_pos hflush]
      exact (loglineFlush_flushes h.toStands).bind
        (fun _ _ h' => hbegun h')
    · rw [if_neg (fun h' => hflush (hflushes.mp h')), if_neg hflush]
      exact hbegun h
  · rw [if_neg hlf, if_neg hlf]
    generalize (if c = 9 then (0x20 : UInt8) else c) = shown
    dsimp only
    by_cases hshown : shown < 32 ∨ 126 < shown
    · rw [if_pos hshown, if_pos hshown]
      exact returns_pure h
    · have hchar : shown ≠ 0 := by
        intro heq
        rw [heq] at hshown
        exact hshown (Or.inl (by decide))
      have hsize : m.loglineLen < layout.size .logline :=
        Nat.lt_succ_of_lt h.short
      have hstore := store_block (m := m.mem) (v := Var.logline) (c := shown)
        hsize nofun
      have hlonger := h.assembles hchar
      have hlen := hlonger.logline_length
      dsimp only at hlen
      rw [if_neg hshown, if_neg hshown]
      refine returns_bind_of_eq (get_apply _) ?_
      refine returns_bind_of_eq (onMem_run hstore) ?_
      refine returns_bind_of_eq (modify_apply _ _) ?_
      rw [hlen]
      by_cases hfull : m.loglineLen + 1 = SCREEN_COLS
      · rw [if_pos hfull, if_pos hfull]
        exact loglineFlush_flushes hlonger
      · have hshort := h.short
        rw [if_neg hfull, if_neg hfull]
        exact returns_pure ⟨hlonger, by
          show m.loglineLen + 1 < SCREEN_COLS
          omega⟩

theorem showData_shows (h : Represents m s) (data : List UInt8) :
    (showData data).Returns m (fun _ m' =>
      Represents m' (Chat.showData data s)) := by
  have hchar : forall (done : List UInt8) (c : UInt8) (m' : Machine),
      Represents m' (done.foldl Chat.loglineChar s) ->
        (loglineChar c).Returns m' (fun _ m'' =>
          Represents m'' ((done ++ [c]).foldl Chat.loglineChar s)) := by
    intro done c m' h'
    rw [List.foldl_append]
    exact loglineChar_assembles h' c
  have hchars := returns_each _ hchar data [] h
  unfold showData Chat.showData
  refine hchars.bind (fun _ m' h' => ?_)
  have hnone : m'.loglineLen ≠ 0 <->
      (data.foldl Chat.loglineChar s).logline ≠ [] := by
    rw [<- h'.toStands.logline_length, Ne, List.length_eq_zero_iff]
    rfl
  refine returns_bind_of_eq (get_apply _) ?_
  by_cases hflush : (data.foldl Chat.loglineChar s).logline ≠ []
  · rw [if_pos (hnone.mpr hflush), if_pos hflush]
    exact loglineFlush_flushes h'.toStands
  · rw [if_neg (fun hlen => hflush (hnone.mp hlen)), if_neg hflush]
    exact returns_pure h'

/-!
## What we type
-/

/-- A store behind the line that is being typed. -/
theorem input_behind (h : Represents m s) (c : UInt8) :
    Represents
      { m with
        mem := m.mem.setBlock .input
          ((m.mem.block .input).put m.inputLen c) } s := by
  have hlen := h.inputLen
  have hinput : layout.size .input = 82 := rfl
  simp only [MAX_INPUT] at hlen
  have hsame := sameBut_setBlock m.mem Var.input
    ((m.mem.block .input).put m.inputLen c)
  have hbefore : ((m.mem.block .input).write m.inputLen [c]).slice 0
      m.inputLen = (m.mem.block .input).slice 0 m.inputLen :=
    (m.mem.block .input).slice_write_before [c] (by omega)
  exact
    { h with
      faults := hsame.faults.trans h.faults
      input := by
        show ((m.mem.setBlock .input _).block .input).slice 0 _ = _
        rw [setBlock_self, Buffer.put_eq_write _ c (by omega), hbefore,
          h.input]
      logline := (congrArg (fun b => Buffer.slice b 0 m.loglineLen)
        (hsame.other .logline nofun)).trans h.logline }

/-- `tcp_send` reads the line and its LF. -/
theorem finishInput_finishes (h : Represents m s) :
    finishInput.Returns m (fun bytes m' =>
      bytes = s.screen.input ++ [10] ∧ Represents m' s) := by
  have hlen := h.inputLen
  have hsize : layout.size .input = 82 := rfl
  simp only [MAX_INPUT] at hlen
  have hroom : m.inputLen < layout.size .input := by
    omega
  have hstore := store_block (m := m.mem) (v := Var.input) (c := 10) hroom
    nofun
  have hload := loadBytes_block
    (m := m.mem.setBlock .input ((m.mem.block .input).put m.inputLen 10))
    (v := Var.input) (n := m.inputLen + 1) (by omega)
  have hline := (m.mem.block .input).slice_put_next 10 hroom
  rw [setBlock_self, hline, h.input] at hload
  unfold finishInput
  refine returns_bind_of_eq (get_apply _) ?_
  exact returns_of_eq (onMem_run ((bind_some hstore _).trans hload))
    ⟨rfl, input_behind h 10⟩

theorem echo_echoes (h : Represents m s) :
    echo.Returns m (fun _ m' => Represents m' (Chat.echo s)) := by
  have hlen := h.inputLen
  have hsize : layout.size .input = 82 := rfl
  simp only [MAX_INPUT] at hlen
  have hroom : m.inputLen < layout.size .input := by
    omega
  have hstore := store_nul (m := m.mem) (v := Var.input) hroom
  have hbehind := input_behind h 0
  have hline : (m.mem.setBlock .input
      ((m.mem.block .input).put m.inputLen 0)).Holds (.block .input 0)
        s.screen.input := by
    rw [holds_block, setBlock_self]
    exact Buffer.holdsAt_put h.input h.input_text hroom
  have hcleared : Stands
      { m with
        mem := m.mem.setBlock .input
          ((m.mem.block .input).put m.inputLen 0)
        inputLen := 0 }
      { s with screen := { s.screen with input := [] } } :=
    { hbehind with
      inputLen := Nat.zero_le _
      input := rfl
      input_text := nofun }
  have hlog := logLine_logs hcleared (p := .block .input 0) hline
  unfold echo
  refine returns_bind_of_eq (get_apply _) ?_
  refine returns_bind_of_eq (onMem_run hstore) ?_
  refine returns_bind_of_eq (modify_apply _ _) ?_
  refine hlog.mono (fun _ m' hm' => ⟨hm'.left, ?_⟩)
  rw [hm'.right]
  exact h.short

theorem reportFailure_reports (h : Represents m s) (rc : Int) :
    (reportFailure rc).Returns m (fun _ m' =>
      Represents m' (if rc < 0 then
        Chat.logLine (ascii "*** send failed") s else s)) := by
  have htext : m.mem.Holds (lit (ascii "*** send failed"))
      (ascii "*** send failed") :=
    holds_literal m.mem (by decide)
  unfold reportFailure
  split_ifs
  · refine (logLine_logs h.toStands htext).mono
      (fun _ m' hm' => ⟨hm'.left, ?_⟩)
    rw [hm'.right]
    exact h.short
  · exact returns_pure h

theorem represents_draws (h : Represents m s) :
    drawInput.Returns m (fun _ m' => Represents m' (Chat.drawInput s)) := by
  refine (drawInput_draws h.toStands).mono
    (fun _ m' hm' => ⟨hm'.left, ?_⟩)
  rw [hm'.right]
  exact h.short

theorem deleteKey_deletes (h : Represents m s) :
    deleteKey.Returns m (fun _ m' => Represents m'
      (if s.screen.input ≠ [] then Chat.drawInput
        { s with
          screen := { s.screen with input := s.screen.input.dropLast } }
      else s)) := by
  have hnone : m.inputLen ≠ 0 <-> s.screen.input ≠ [] := by
    rw [<- h.toStands.input_length, Ne, List.length_eq_zero_iff]
  unfold deleteKey
  refine returns_bind_of_eq (get_apply _) ?_
  by_cases hsome : s.screen.input ≠ []
  · have hlen := h.inputLen
    have hsize : layout.size .input = 82 := rfl
    simp only [MAX_INPUT] at hlen
    have hshort := (m.mem.block .input).slice_dropLast
      (show m.inputLen < layout.size .input by omega)
    rw [h.input] at hshort
    have hdeleted : Represents { m with inputLen := m.inputLen - 1 }
        { s with
          screen := { s.screen with input := s.screen.input.dropLast } } :=
      { h with
        inputLen := Nat.le_trans (Nat.sub_le _ _) h.inputLen
        input := hshort
        input_text := fun hmem =>
          h.input_text ((List.dropLast_sublist _).subset hmem) }
    rw [if_pos (hnone.mpr hsome), if_pos hsome]
    exact returns_bind_of_eq (modify_apply _ _) (represents_draws hdeleted)
  · rw [if_neg (fun hlen => hsome (hnone.mp hlen)), if_neg hsome]
    exact returns_pure h

theorem typeKey_types (h : Represents m s) (k : UInt16) :
    (typeKey k).Returns m (fun _ m' => Represents m'
      (if 32 ≤ k ∧ k < 127 ∧ s.screen.input.length < MAX_INPUT then
        Chat.drawInput
          { s with
            screen :=
              { s.screen with input := s.screen.input ++ [k.toUInt8] } }
      else s)) := by
  unfold typeKey
  refine returns_bind_of_eq (get_apply _) ?_
  rw [h.toStands.input_length]
  by_cases hkey : 32 ≤ k ∧ k < 127 ∧ m.inputLen < MAX_INPUT
  · have hlen := hkey.right.right
    have hsize : layout.size .input = 82 := rfl
    simp only [MAX_INPUT] at hlen
    have hroom : m.inputLen < layout.size .input := by
      omega
    have hprintable := printable_key hkey.left hkey.right.left
    have hstore := store_block (m := m.mem) (v := Var.input)
      (c := k.toUInt8) hroom nofun
    have hnext := (m.mem.block .input).slice_put_next k.toUInt8 hroom
    have hbehind := input_behind h k.toUInt8
    rw [h.input] at hnext
    have htyped : Represents
        { m with
          mem := m.mem.setBlock .input
            ((m.mem.block .input).put m.inputLen k.toUInt8)
          inputLen := m.inputLen + 1 }
        { s with
          screen :=
            { s.screen with input := s.screen.input ++ [k.toUInt8] } } :=
      { hbehind with
        inputLen := hkey.right.right
        input := by
          show ((m.mem.setBlock .input _).block .input).slice 0 _ = _
          rw [setBlock_self]
          exact hnext
        input_text := by
          intro hmem
          cases List.mem_append.mp hmem with
          | inl hold => exact h.input_text hold
          | inr hnew =>
              rw [<- List.mem_singleton.mp hnew] at hprintable
              exact absurd hprintable.left (by decide) }
    rw [if_pos hkey, if_pos hkey]
    refine returns_bind_of_eq (onMem_run hstore) ?_
    exact returns_bind_of_eq (modify_apply _ _) (represents_draws htyped)
  · rw [if_neg hkey, if_neg hkey]
    exact returns_pure h

theorem editKey_edits (h : Represents m s) (k : UInt16) :
    (if k = KEY_LEFT ∨ k = KEY_DELETE ∨ k = KEY_CTRL_DEL then deleteKey
      else typeKey k).Returns m (fun _ m' =>
        Represents m' (Chat.editKey k s)) := by
  unfold Chat.editKey
  by_cases hdelete : k = KEY_LEFT ∨ k = KEY_DELETE ∨ k = KEY_CTRL_DEL
  · rw [if_pos hdelete, if_pos hdelete]
    exact deleteKey_deletes h
  · rw [if_neg hdelete, if_neg hdelete]
    exact typeKey_types h k

/-- The variables are reset, whatever they were. -/
theorem reset_resets (h : Represents m s) :
    reset.Returns m (fun _ m' => Represents m' (Chat.resetState s)) := by
  have hready : Stands
      { m with
        con := m.con.putchar 12
        inputLen := 0
        loglineLen := 0
        loglineEmitted := false }
      { s with
        screen := { con := s.screen.con.putchar 12, input := [] }
        logline := []
        loglineEmitted := false } :=
    { faults := h.faults
      con := congrArg (fun con => Console.putchar con 12) h.con
      inputLen := Nat.zero_le _
      input := rfl
      input_text := nofun
      loglineLen := Nat.zero_le _
      logline := rfl
      logline_text := nofun
      loglineEmitted := rfl }
  have htext : m.mem.Holds (lit (ascii "*** connected. CAPS+SYM+C quits."))
      (ascii "*** connected. CAPS+SYM+C quits.") :=
    holds_literal m.mem (by decide)
  unfold reset
  refine returns_bind_of_eq (modify_apply _ _) ?_
  refine returns_bind_of_eq (modify_apply _ _) ?_
  refine (logLine_logs hready htext).mono (fun _ m' hm' => ⟨hm'.left, ?_⟩)
  rw [hm'.right]
  show 0 < SCREEN_COLS
  decide

end Machine

end Chat
end Z80Tcpip
