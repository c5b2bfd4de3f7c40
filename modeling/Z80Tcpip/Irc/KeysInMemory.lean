import Z80Tcpip.Irc.LinesInMemory

/-!
# Typed lines in memory

What is typed stands in `input` and what is sent is built in `out`.  The command
and its argument are cut out of `input` in place, and the strings are still there
when a command is echoed: only `input_len` has been reset by then.
-/

namespace Z80Tcpip
namespace Irc

open Foundation
open Foundation.Program
open Foundation.Memory
open Client
open InPlace

section Underlies

variable {b : Buffer (MAX_INPUT + 2)} {r : List UInt8} {m : Machine}
  {s : State} {mem : Memory layout}

theorem Underlies.built (h : Underlies b r m s) {n : Nat} {out : List UInt8}
    (hsame : SameBut .out m.mem mem) (hn : n ≤ OUT_LINE - 2)
    (hout : (mem.block .out).slice 0 n = out) :
    Underlies b r { m with mem := mem, outLen := n } { s with out := out } :=
  { h with
    faults := hsame.faults.trans h.faults
    input := (hsame.other .input nofun).trans h.input
    rxline := (congrArg (fun x => Buffer.slice x 0 m.rxlen)
      (hsame.other .rxline nofun)).trans h.rxline
    outLen := hn
    out := hout
    mynick := holdsText_same h.mynick (hsame.other .mynick nofun)
    curChan := holdsText_same h.curChan (hsame.other .curChan nofun)
    pongArg := holdsText_same h.pongArg (hsame.other .pongArg nofun) }

/-- Other bytes in `input`. -/
theorem Underlies.setInput (h : Underlies b r m s)
    (hsame : SameBut .input m.mem mem) :
    Underlies (mem.block .input) r { m with mem := mem } s :=
  { h with
    faults := hsame.faults.trans h.faults
    input := rfl
    rxline := (congrArg (fun x => Buffer.slice x 0 m.rxlen)
      (hsame.other .rxline nofun)).trans h.rxline
    out := (congrArg (fun x => Buffer.slice x 0 m.outLen)
      (hsame.other .out nofun)).trans h.out
    mynick := holdsText_same h.mynick (hsame.other .mynick nofun)
    curChan := holdsText_same h.curChan (hsame.other .curChan nofun)
    pongArg := holdsText_same h.pongArg (hsame.other .pongArg nofun) }

theorem Underlies.outLen_eq (h : Underlies b r m s) :
    s.out.length = m.outLen := by
  have hlen := h.outLen
  have hsize : layout.size .out = 256 := rfl
  simp only [OUT_LINE] at hlen
  rw [<- h.out, Buffer.slice_length]
  omega

end Underlies

namespace Machine

variable {b : Buffer (MAX_INPUT + 2)} {r : List UInt8} {m : Machine}
  {s : State}

/-!
## The line to send
-/

/-- What `o_str` leaves: a longer `out`, and nothing else is different. -/
structure Builds (b : Buffer (MAX_INPUT + 2)) (r : List UInt8) (m : Machine)
    (s' : State) (m' : Machine) : Prop where
  underlies : Underlies b r m' s'
  inputLen : m'.inputLen = m.inputLen
  same : SameBut .out m.mem m'.mem

theorem oStrFrom_builds {p : Ptr Var} (hp : forall at', p ≠ .block .out at')
    (back : List UInt8) :
    forall {m : Machine} {s : State} {front : List UInt8} {turns : Nat},
      Underlies b r m s -> m.mem.Holds p (front ++ back) ->
      back.length < turns ->
        (oStrFrom p turns front.length).Returns m (fun _ =>
          Builds b r m (Irc.oStr s back)) := by
  induction back with
  | nil =>
      intro m s front turns h hholds hturns
      cases turns with
      | zero => exact absurd hturns (Nat.not_lt_zero _)
      | succ turns =>
          rw [List.append_nil] at hholds
          unfold oStrFrom
          refine returns_bind_of_eq (onMem_of_eq (peek_nul hholds)) ?_
          refine returns_bind_of_eq (get_apply m) ?_
          rw [if_neg (fun hyes => hyes.left rfl)]
          have hnone : Irc.oStr s [] = s := by
            unfold Irc.oStr
            rw [List.take_nil, List.append_nil]
          rw [hnone]
          exact returns_pure ⟨h, rfl, SameBut.refl _ _⟩
  | cons c back ih =>
      intro m s front turns h hholds hturns
      have hc : c ≠ 0 := by
        intro heq
        rw [heq] at hholds
        exact hholds.left (List.mem_append_right front List.mem_cons_self)
      have hlen := h.outLen_eq
      cases turns with
      | zero => exact absurd hturns (Nat.not_lt_zero _)
      | succ turns =>
          unfold oStrFrom
          refine returns_bind_of_eq (onMem_of_eq (peek_char hholds)) ?_
          refine returns_bind_of_eq (get_apply m) ?_
          by_cases hroom : m.outLen < OUT_LINE - 2
          · have hsize : m.outLen < layout.size .out :=
              Nat.lt_of_lt_of_le hroom (Nat.sub_le _ _)
            have hstore := store_block (m := m.mem) (v := .out) (c := c)
              hsize nofun
            have hsame := sameBut_setBlock m.mem .out
              ((m.mem.block .out).put m.outLen c)
            have hslice : ((m.mem.setBlock .out
                ((m.mem.block .out).put m.outLen c)).block .out).slice 0
                  (m.outLen + 1) = s.out ++ [c] := by
              rw [setBlock_self, Buffer.slice_put_next _ c hsize, h.out]
            have hnext := h.built hsame hroom hslice
            have hmore : (m.mem.setBlock .out
                ((m.mem.block .out).put m.outLen c)).Holds p
                  ((front ++ [c]) ++ back) := by
              rw [List.append_assoc, List.singleton_append]
              exact hsame.holds hholds hp
            have hgrow : (front ++ [c]).length = front.length + 1 :=
              List.length_append
            have hstate : Irc.oStr s (c :: back) =
                Irc.oStr { s with out := s.out ++ [c] } back := by
              have htake : OUT_LINE - 2 - s.out.length =
                  OUT_LINE - 2 - (s.out ++ [c]).length + 1 := by
                rw [List.length_append, List.length_singleton]
                omega
              unfold Irc.oStr
              rw [htake, List.take_succ_cons, List.append_assoc,
                List.singleton_append]
            have hfuel : back.length < turns :=
              Nat.lt_of_succ_lt_succ hturns
            have hrest := ih hnext hmore hfuel
            rw [hgrow] at hrest
            rw [if_pos ⟨hc, hroom⟩, hstate]
            refine returns_bind_of_eq (onMem_run hstore) ?_
            refine returns_bind_of_eq (modify_apply _ _) ?_
            refine hrest.mono (fun _ m' hm' => ?_)
            exact ⟨hm'.underlies, hm'.inputLen, hsame.trans hm'.same⟩
          · have hfull : Irc.oStr s (c :: back) = s := by
              unfold Irc.oStr
              rw [hlen, Nat.sub_eq_zero_of_le (Nat.le_of_not_lt hroom),
                List.take_zero, List.append_nil]
            rw [if_neg (fun hyes => hroom hyes.right), hfull]
            exact returns_pure ⟨h, rfl, SameBut.refl _ _⟩

theorem oStr_builds {p : Ptr Var} {t : List UInt8} (h : Underlies b r m s)
    (hp : forall at', p ≠ .block .out at') (hholds : m.mem.Holds p t) :
    (oStr p).Returns m (fun _ => Builds b r m (Irc.oStr s t)) :=
  oStrFrom_builds hp t h (show m.mem.Holds p ([] ++ t) from hholds)
    hholds.length_lt

/-- A literal, -/
theorem oStr_literal {t : List UInt8} (h : Underlies b r m s) (ht : 0 ∉ t) :
    (oStr (lit t)).Returns m (fun _ => Builds b r m (Irc.oStr s t)) :=
  oStr_builds h nofun (holds_literal m.mem ht)

/-- the channel, -/
theorem oStr_curChan (h : Underlies b r m s) :
    (oStr (.block .curChan 0)).Returns m (fun _ =>
      Builds b r m (Irc.oStr s s.curChan)) :=
  oStr_builds h nofun h.curChan.holds

/-- the nick, -/
theorem oStr_mynick (h : Underlies b r m s) :
    (oStr (.block .mynick 0)).Returns m (fun _ =>
      Builds b r m (Irc.oStr s s.mynick)) :=
  oStr_builds h nofun h.mynick.holds

/-- the argument of the last PING, -/
theorem oStr_pongArg (h : Underlies b r m s) :
    (oStr (.block .pongArg 0)).Returns m (fun _ =>
      Builds b r m (Irc.oStr s s.pongArg)) :=
  oStr_builds h nofun h.pongArg.holds

theorem holds_input (h : Underlies b r m s) {arg : Nat} {t : List UInt8}
    (ht : b.HoldsAt arg t) : m.mem.Holds (.block .input arg) t := by
  rw [<- h.input] at ht
  exact ht

/-- and a string in the line being typed. -/
theorem oStr_input (h : Underlies b r m s) {arg : Nat} {t : List UInt8}
    (ht : b.HoldsAt arg t) :
    (oStr (.block .input arg)).Returns m (fun _ =>
      Builds b r m (Irc.oStr s t)) :=
  oStr_builds h (fun _ heq => by cases heq) (holds_input h ht)

/-- CR and LF fit behind every line that has been built. -/
theorem finishOut_finishes (h : Underlies b r m s) :
    finishOut.Returns m (fun bytes m' => bytes = s.out ++ CRLF ∧
      SameBut .out m.mem m'.mem ∧
      m' = { m with mem := m'.mem, outLen := m'.outLen }) := by
  have hlen := h.outLen
  simp only [OUT_LINE] at hlen
  have hsize : layout.size .out = 256 := rfl
  have hcr : m.outLen < layout.size .out := by
    omega
  have hlf : m.outLen + 1 < layout.size .out := by
    omega
  have hstore := store_block (m := m.mem) (v := .out) (c := 13) hcr nofun
  have hsame := sameBut_setBlock m.mem .out
    ((m.mem.block .out).put m.outLen 13)
  have hslice : ((m.mem.setBlock .out
      ((m.mem.block .out).put m.outLen 13)).block .out).slice 0
        (m.outLen + 1) = s.out ++ [13] := by
    rw [setBlock_self, Buffer.slice_put_next _ 13 hcr, h.out]
  revert hstore hsame hslice
  generalize m.mem.setBlock .out ((m.mem.block .out).put m.outLen 13) = mem
  intro hstore hsame hslice
  have hstore' := store_block (m := mem) (v := .out) (c := 10) hlf nofun
  have hsame' := sameBut_setBlock mem .out
    ((mem.block .out).put (m.outLen + 1) 10)
  have hslice' : ((mem.setBlock .out
      ((mem.block .out).put (m.outLen + 1) 10)).block .out).slice 0
        (m.outLen + 1 + 1) = s.out ++ CRLF := by
    rw [setBlock_self, Buffer.slice_put_next _ 10 hlf, hslice,
      List.append_assoc]
    rfl
  revert hstore' hsame' hslice'
  generalize mem.setBlock .out ((mem.block .out).put (m.outLen + 1) 10) = mem'
  intro hstore' hsame' hslice'
  have hload := loadBytes_block (m := mem') (v := .out)
    (show m.outLen + 1 + 1 ≤ layout.size .out by omega)
  rw [hslice'] at hload
  have hfirst : outPut 13 m =
      (some (), { m with mem := mem, outLen := m.outLen + 1 }) := by
    unfold outPut
    rw [get_bind_apply, bind_some (onMem_run hstore)]
    rfl
  have hsecond : outPut 10 { m with mem := mem, outLen := m.outLen + 1 } =
      (some (), { m with mem := mem', outLen := m.outLen + 1 + 1 }) := by
    unfold outPut
    rw [get_bind_apply, bind_some (onMem_run (m :=
      { m with mem := mem, outLen := m.outLen + 1 }) hstore')]
    rfl
  unfold finishOut
  refine returns_bind_of_eq hfirst ?_
  refine returns_bind_of_eq hsecond ?_
  refine returns_bind_of_eq (get_apply _) ?_
  exact returns_of_eq (onMem_of_eq (m :=
    { m with mem := mem', outLen := m.outLen + 1 + 1 }) hload)
      ⟨rfl, hsame.trans hsame', rfl⟩

/-!
## The line being typed
-/

theorem clearInput_prints (h : Underlies b r m s) :
    clearInput.Returns m (fun _ => Prints b r m (Irc.clearInput s)) := by
  have hcleared : Represents b r { m with inputLen := 0 }
      { s with screen := { s.screen with input := [] } } :=
    { h with
      inputLen := Nat.zero_le _
      typed := rfl
      typed_text := nofun }
  unfold clearInput
  refine returns_bind_of_eq (modify_apply _ _) ?_
  exact drawInput_prints hcleared

theorem inputLen_eq (h : Represents b r m s) :
    s.screen.input.length = m.inputLen := by
  have hlen := h.inputLen
  simp only [MAX_INPUT] at hlen
  rw [<- h.typed, Buffer.slice_length]
  exact (show 0 + m.inputLen ≤ 102 by omega)

theorem inputLen_eq_zero (h : Represents b r m s) :
    m.inputLen = 0 <-> s.screen.input = [] := by
  rw [<- inputLen_eq h, List.length_eq_zero_iff]

theorem deleteKey_edits (h : Represents b r m s) :
    deleteKey.Returns m (fun _ m' => Represents b r m'
      (if s.screen.input ≠ [] then
        Irc.drawInput
          { s with
            screen := { s.screen with input := s.screen.input.dropLast } }
      else s)) := by
  unfold deleteKey
  refine returns_bind_of_eq (get_apply m) ?_
  by_cases hempty : s.screen.input = []
  · rw [if_neg (fun hyes => hyes ((inputLen_eq_zero h).mpr hempty)),
      if_neg (fun hyes => hyes hempty)]
    exact returns_pure h
  · rw [if_pos (fun hno => hempty ((inputLen_eq_zero h).mp hno)),
      if_pos hempty]
    have htyped : b.slice 0 (m.inputLen - 1) = s.screen.input.dropLast := by
      rw [<- h.typed]
      exact b.slice_dropLast (Nat.lt_of_le_of_lt h.inputLen (by decide))
    have hshort : Represents b r { m with inputLen := m.inputLen - 1 }
        { s with
          screen := { s.screen with input := s.screen.input.dropLast } } :=
      { h with
        inputLen := Nat.le_trans (Nat.sub_le _ _) h.inputLen
        typed := htyped
        typed_text := fun hmem =>
          h.typed_text ((List.dropLast_sublist _).subset hmem) }
    refine returns_bind_of_eq (modify_apply _ _) ?_
    exact (drawInput_prints hshort).mono (fun _ _ hm' => hm'.left)

theorem toUInt8_ne_zero {k : UInt16} (hlow : 32 ≤ k) (hhigh : k < 127) :
    k.toUInt8 ≠ 0 := by
  intro heq
  have hzero := congrArg UInt8.toNat heq
  have hlow' : 32 ≤ k.toNat := UInt16.le_iff_toNat_le.mp hlow
  have hhigh' : k.toNat < 127 := UInt16.lt_iff_toNat_lt.mp hhigh
  rw [UInt16.toNat_toUInt8] at hzero
  simp at hzero
  omega

/-- A store into `input` behind what has been typed. -/
theorem store_input (h : Underlies b r m s) (c : UInt8) :
    onMem (store (.block .input m.inputLen) c) m =
      (some (), { m with
        mem := m.mem.setBlock .input (b.put m.inputLen c) }) := by
  have hlen := h.inputLen
  simp only [MAX_INPUT] at hlen
  have hsize : layout.size .input = 102 := rfl
  have hstore := store_block (m := m.mem) (v := .input) (c := c)
    (show m.inputLen < layout.size .input by omega)
    (fun htext => by cases htext)
  rw [onMem_run hstore, <- h.input]
  rfl

theorem typeKey_edits (k : UInt16) (h : Represents b r m s) :
    (typeKey k).Returns m (fun _ m' =>
      exists b' : Buffer (MAX_INPUT + 2), Represents b' r m'
        (if 32 ≤ k ∧ k < 127 ∧ s.screen.input.length < MAX_INPUT then
          Irc.drawInput
            { s with
              screen :=
                { s.screen with
                  input := s.screen.input ++ [k.toUInt8] } }
        else s)) := by
  unfold typeKey
  refine returns_bind_of_eq (get_apply m) ?_
  rw [inputLen_eq h]
  by_cases hkey : 32 ≤ k ∧ k < 127 ∧ m.inputLen < MAX_INPUT
  · rw [if_pos hkey, if_pos hkey]
    have hsize : m.inputLen < MAX_INPUT + 2 :=
      Nat.lt_of_lt_of_le hkey.right.right (Nat.le_add_right _ _)
    have hset := h.toUnderlies.setInput (sameBut_setBlock m.mem .input
      (b.put m.inputLen k.toUInt8))
    have hblock : (m.mem.setBlock .input
        (b.put m.inputLen k.toUInt8)).block .input =
          b.put m.inputLen k.toUInt8 := setBlock_self m.mem .input _
    rw [hblock] at hset
    have htyped : (b.put m.inputLen k.toUInt8).slice 0 (m.inputLen + 1) =
        s.screen.input ++ [k.toUInt8] := by
      rw [Buffer.slice_put_next b _ hsize, h.typed]
    have htext : 0 ∉ s.screen.input ++ [k.toUInt8] := by
      intro hmem
      rcases List.mem_append.mp hmem with hold | hnew
      · exact h.typed_text hold
      · exact toUInt8_ne_zero hkey.left hkey.right.left
          (List.mem_singleton.mp hnew).symm
    have hlong : Represents (b.put m.inputLen k.toUInt8) r
        { m with
          mem := m.mem.setBlock .input (b.put m.inputLen k.toUInt8)
          inputLen := m.inputLen + 1 }
        { s with
          screen :=
            { s.screen with input := s.screen.input ++ [k.toUInt8] } } :=
      { hset with
        inputLen := hkey.right.right
        typed := htyped
        typed_text := htext }
    refine returns_bind_of_eq (store_input h.toUnderlies k.toUInt8) ?_
    refine returns_bind_of_eq (modify_apply _ _) ?_
    exact (drawInput_prints hlong).mono (fun _ _ hm' => ⟨_, hm'.left⟩)
  · rw [if_neg hkey, if_neg hkey]
    exact returns_pure ⟨b, h⟩

/-!
## Commands
-/

/-- `input[input_len] = 0;` -/
theorem endInput (h : Represents b r m s) :
    Represents (b.put m.inputLen 0) r
        { m with mem := m.mem.setBlock .input (b.put m.inputLen 0) } s ∧
      (b.put m.inputLen 0).HoldsAt 0 s.screen.input := by
  have hlen := h.inputLen
  have hsize : m.inputLen < MAX_INPUT + 2 :=
    Nat.lt_of_le_of_lt hlen (by decide)
  have hset := h.toUnderlies.setInput (sameBut_setBlock m.mem .input
    (b.put m.inputLen 0))
  have hblock : (m.mem.setBlock .input (b.put m.inputLen 0)).block .input =
      b.put m.inputLen 0 := setBlock_self m.mem .input _
  rw [hblock] at hset
  have hfront : (b.put m.inputLen 0).slice 0 m.inputLen = s.screen.input := by
    rw [b.put_eq_write 0 hsize, b.slice_write_before [0] (by omega), h.typed]
  constructor
  · exact { hset with typed := hfront, typed_text := h.typed_text }
  · exact Buffer.holdsAt_put h.typed h.typed_text hsize

/-- The command and its argument, cut out of `input`. -/
theorem splitCommand_cuts {mem : Memory layout} {c : UInt8}
    {line : List UInt8} (h : mem.Holds (.block .input 0) (c :: line)) :
    splitCommand.Returns mem (fun x mem' =>
      exists cmdAt argAt : Nat,
        x = (.block .input cmdAt, .block .input argAt) ∧
          SameBut .input mem mem' ∧
          mem'.Holds (.block .input cmdAt) (Irc.nextWord line).1 ∧
          mem'.Holds (.block .input argAt)
            ((Irc.nextWord line).2.dropWhile (fun c => c == SPACE))) := by
  have hline : mem.Holds (.block .input 1) line :=
    (show mem.Holds (.block .input 0) ([c] ++ line) from h).add
  have hskip : skip (.block .input 0) 1 mem =
      (some (.block .input 1), mem) := skip_holds [c] h
  unfold splitCommand
  refine returns_bind_of_eq hskip ?_
  refine (nextWord_takes hline).bind (fun x mem' hm' => ?_)
  rcases hm' with ⟨cmdAt, cursor, rfl, htakes⟩
  refine returns_bind_of_eq (scan_holds (by decide) htakes.left) ?_
  exact returns_pure ⟨cmdAt, _, rfl, htakes.cut.sameBut, htakes.taken,
    Holds.skipSpaces htakes.left⟩

/-- `o_str(" :"); o_str(arg);` if there is an argument. -/
theorem oTrailing_builds {arg : Nat} {t : List UInt8}
    (h : Underlies b r m s) (ht : b.HoldsAt arg t) :
    (oTrailing (.block .input arg)).Returns m (fun _ =>
      Builds b r m ((trailing t).foldl Irc.oStr s)) := by
  have hholds := holds_input h ht
  unfold oTrailing
  refine returns_bind_of_eq (onMem_of_eq (peek_zero hholds)) ?_
  by_cases hempty : t = []
  · rw [if_neg (fun hyes => hyes ((headD_eq_zero hholds.left).mpr hempty)),
      trailing, if_neg (fun hyes => hyes hempty)]
    exact returns_pure ⟨h, rfl, SameBut.refl _ _⟩
  · rw [if_pos (fun hno => hempty ((headD_eq_zero hholds.left).mp hno)),
      trailing, if_pos hempty]
    refine (oStr_literal h (by decide)).bind (fun _ m1 hm1 => ?_)
    refine (oStr_input hm1.underlies ht).mono (fun _ m2 hm2 => ?_)
    exact ⟨hm2.underlies, hm2.inputLen.trans hm1.inputLen,
      hm1.same.trans hm2.same⟩

end Machine
end Irc
end Z80Tcpip
