import Z80Tcpip.Slip.SerialGaps

/-!
# A line that falls silent

The read budget of `recv_packet` only covers the hunt for an END.  After that
the call returns exactly when the line still closes a frame, which no amount of
timeouts does by itself; and a budget of zero or less wraps around.
-/

namespace Z80Tcpip
namespace Slip

open Foundation

/-- What the reads leave in `c`: a timeout repeats the byte before it. -/
def heard (c : UInt8) : Line -> List UInt8
  | [] => []
  | ev :: rest => rs232Get c ev :: heard (rs232Get c ev) rest

/-- Whether the byte after `u` is read as the second half of an escape. -/
def inEscape (escaped : Bool) : List UInt8 -> Bool
  | [] => escaped
  | b :: u => inEscape (if escaped = true then false else decide (b = ESC)) u

/-- A data byte: a code behind an ESC, or any byte but END and ESC. -/
def StoresData (slipEsc00 : Bool) (escaped : Bool) (b : UInt8) : Prop :=
  if escaped = true then slipUncode slipEsc00 b ≠ none
  else b ≠ END ∧ b ≠ ESC

def HasData (slipEsc00 : Bool) (escaped : Bool) (u : List UInt8) : Prop :=
  exists (u1 : List UInt8) (b : UInt8) (u2 : List UInt8),
    u = u1 ++ b :: u2 ∧ StoresData slipEsc00 (inEscape escaped u1) b

/-- An END, not behind an open ESC, with a data byte before it. -/
def ClosesFrame (slipEsc00 : Bool) (bytes : List UInt8) : Prop :=
  exists u v : List UInt8,
    bytes = u ++ END :: v ∧ inEscape false u = false ∧
      HasData slipEsc00 false u

/-- The number of reads the documentation allows an idle call. -/
def idleReads (timeout : Int16) : Nat :=
  (max (timeout.toInt - 1) 0).toNat

/-- On the line `pre`, silent afterwards, the call returns; and it gives up
after `idleReads` reads with its buffer untouched if these brought no END. -/
def GivesUp (P : Platform) {len : Nat} (p : Buffer len) (timeout : Int16)
    (pre : Line) : Prop :=
  (exists (n : Nat) (result : Int × Buffer len × Line),
    recvPacket P p timeout (pre ++ List.replicate n none) = some result) ∧
  (some END ∉ pre.take (idleReads timeout) ->
    exists (n : Nat) (rest : Line),
      recvPacket P p timeout (pre ++ List.replicate n none) =
          some (-(P.eagain : Int), p, rest) ∧
        rest.length + idleReads timeout = pre.length + n)

/-!
## The frame automaton halts on closed frames
-/

theorem hasData_cons (slipEsc00 escaped : Bool) (b : UInt8)
    (u : List UInt8) :
    HasData slipEsc00 escaped (b :: u) <->
      StoresData slipEsc00 escaped b ∨
        HasData slipEsc00
          (if escaped = true then false else decide (b = ESC)) u := by
  constructor
  · intro h
    rcases h with ⟨u1, x, u2, hsplit, hx⟩
    cases u1 with
    | nil =>
        cases hsplit
        exact Or.inl hx
    | cons y u1 =>
        cases hsplit
        exact Or.inr ⟨u1, x, u2, rfl, hx⟩
  · intro h
    rcases h with hb | ⟨u1, x, u2, hsplit, hx⟩
    · exact ⟨[], b, u, rfl, hb⟩
    · exact ⟨b :: u1, x, u2, by rw [hsplit]; rfl, hx⟩

theorem not_hasData_nil (slipEsc00 escaped : Bool) :
    ¬ HasData slipEsc00 escaped [] := by
  intro h
  rcases h with ⟨u1, b, u2, hsplit, _⟩
  cases u1 <;> cases hsplit

theorem Rx.feed_eq_none_iff {slipEsc00 : Bool} {s : Rx} {b : UInt8} :
    s.feed slipEsc00 b = none <->
      s.escaped = false ∧ b = END ∧ s.decoded ≠ [] := by
  unfold Rx.feed
  split_ifs with h1 h2 h3 h4 <;> simp_all

theorem Rx.feed_eq_some {slipEsc00 : Bool} {s s' : Rx} {b : UInt8}
    (h : s.feed slipEsc00 b = some s') :
    s'.escaped = (if s.escaped = true then false else decide (b = ESC)) ∧
      (s'.decoded ≠ [] <->
        s.decoded ≠ [] ∨ StoresData slipEsc00 s.escaped b) := by
  unfold Rx.feed at h
  unfold StoresData
  split_ifs at h with h1 h2 h3 h4
  · cases h
    cases hcode : slipUncode slipEsc00 b <;> simp [h1]
  · cases h
    simp [h1, h2, h3]
  · cases h
    simp [h1, h4]
  · cases h
    simp [h1, h2, h4]

/-- The automaton halts on a line exactly when the line closes a frame, the
bytes already decoded included. -/
theorem scan_ne_none_iff {slipEsc00 : Bool} (line : Line) (s : Rx)
    (c : UInt8) :
    scan slipEsc00 s c line ≠ none <->
      exists u v : List UInt8,
        heard c line = u ++ END :: v ∧ inEscape s.escaped u = false ∧
          (s.decoded ≠ [] ∨ HasData slipEsc00 s.escaped u) := by
  induction line generalizing s c with
  | nil =>
      constructor
      · intro h
        exact absurd rfl h
      · intro hparts
        rcases hparts with ⟨u, v, hheard, _⟩
        cases u <;> cases hheard
  | cons ev rest ih =>
      cases hfeed : s.feed slipEsc00 (rs232Get c ev) with
      | none =>
          rcases Rx.feed_eq_none_iff.mp hfeed with ⟨hescaped, hend, hdecoded⟩
          constructor
          · intro _
            refine ⟨[], heard (rs232Get c ev) rest, ?_, hescaped,
              Or.inl hdecoded⟩
            rw [heard, hend]
            rfl
          · intro _
            simp [scan, hfeed]
      | some s' =>
          rcases Rx.feed_eq_some hfeed with ⟨hescaped', hdecoded'⟩
          have hscan : scan slipEsc00 s c (ev :: rest) =
              scan slipEsc00 s' (rs232Get c ev) rest := by
            rw [scan, hfeed]
          rw [hscan, ih]
          constructor
          · intro hparts
            rcases hparts with ⟨u, v, hheard, hescape, hdata⟩
            refine ⟨rs232Get c ev :: u, v, by rw [heard, hheard]; rfl, ?_, ?_⟩
            · rw [inEscape, ← hescaped']
              exact hescape
            · rw [hasData_cons, ← hescaped', ← or_assoc, ← hdecoded']
              exact hdata
          · intro hparts
            rcases hparts with ⟨u, v, hheard, hescape, hdata⟩
            cases u with
            | nil =>
                rw [heard] at hheard
                have hend := (List.cons.inj hheard).left
                have hnone : s.feed slipEsc00 (rs232Get c ev) = none := by
                  apply Rx.feed_eq_none_iff.mpr
                  refine ⟨hescape, hend, ?_⟩
                  cases hdata with
                  | inl h => exact h
                  | inr h => exact absurd h (not_hasData_nil _ _)
                rw [hnone] at hfeed
                cases hfeed
            | cons b u =>
                rw [heard, List.cons_append] at hheard
                rcases List.cons.inj hheard with ⟨hb, hrest⟩
                rw [← hb] at hescape hdata
                refine ⟨u, v, hrest, ?_, ?_⟩
                · rw [inEscape, ← hescaped'] at hescape
                  exact hescape
                · rw [hasData_cons, ← hescaped', ← or_assoc, ← hdecoded']
                    at hdata
                  exact hdata

theorem scan_start_ne_none_iff {slipEsc00 : Bool} (line : Line) :
    scan slipEsc00 Rx.start END line ≠ none <->
      ClosesFrame slipEsc00 (heard END line) := by
  rw [scan_ne_none_iff]
  simp [ClosesFrame, Rx.start]

/-!
## Giving up
-/

theorem idleReads_of_pos {timeout : Int16} (h : 1 ≤ timeout.toInt) :
    idleReads timeout = reads timeout := by
  have hreads := reads_of_pos h
  unfold idleReads
  omega

theorem idleReads_of_nonpos {timeout : Int16} (h : timeout.toInt ≤ 0) :
    idleReads timeout = 0 := by
  unfold idleReads
  omega

theorem waitEnd_no_end {timeout : Int16} {c : UInt8} {line : Line}
    (hc : c ≠ END) (hlen : reads timeout ≤ line.length)
    (hno : some END ∉ line.take (reads timeout)) :
    waitEnd timeout c line = some (false, line.drop (reads timeout)) := by
  induction line generalizing timeout c with
  | nil =>
      have hzero : reads timeout = 0 := by simpa using hlen
      rw [waitEnd_exhausted hzero, hzero]
      rfl
  | cons ev rest ih =>
      by_cases hzero : reads timeout = 0
      · rw [waitEnd_exhausted hzero, hzero]
        rfl
      · have hpred := reads_pred
          (fun h => hzero ((reads_eq_zero_iff timeout).mpr h))
        rw [← hpred] at hlen hno
        rw [List.take_succ_cons, List.mem_cons, not_or] at hno
        have hget : rs232Get c ev ≠ END := by
          cases ev with
          | none => exact hc
          | some b =>
              intro hb
              apply hno.left
              rw [← hb]
              rfl
        rw [waitEnd_cons _ _ hzero, if_neg hget, ih hget
          (by simpa using hlen) hno.right, ← hpred]
        rfl

theorem waitEnd_false_length {timeout : Int16} {c : UInt8} {line rest : Line}
    (h : waitEnd timeout c line = some (false, rest)) :
    rest.length + reads timeout = line.length := by
  induction line generalizing timeout c with
  | nil =>
      by_cases hzero : reads timeout = 0
      · rw [waitEnd_exhausted hzero] at h
        cases h
        rw [hzero]
        rfl
      · rw [waitEnd, if_neg (fun h' =>
          hzero ((reads_eq_zero_iff timeout).mpr h'))] at h
        cases h
  | cons ev more ih =>
      by_cases hzero : reads timeout = 0
      · rw [waitEnd_exhausted hzero] at h
        cases h
        rw [hzero]
        rfl
      · have hpred := reads_pred
          (fun h' => hzero ((reads_eq_zero_iff timeout).mpr h'))
        rw [waitEnd_cons _ _ hzero] at h
        split_ifs at h
        · cases h
        · have := ih h
          rw [List.length_cons]
          omega

theorem waitEnd_of_eagain {P : Platform} {len : Nat} {p p' : Buffer len}
    {timeout : Int16} {line rest : Line}
    (h : recvPacket P p timeout line =
      some (-(P.eagain : Int), p', rest)) :
    waitEnd timeout 0 line = some (false, rest) := by
  have hpos := P.eagain_pos
  unfold recvPacket at h
  cases hwait : waitEnd timeout 0 line with
  | none =>
      rw [hwait] at h
      cases h
  | some result =>
      rcases result with ⟨found, line'⟩
      rw [hwait] at h
      cases found with
      | false =>
          simp only [Option.some.injEq, Prod.mk.injEq] at h
          rw [h.right.right]
      | true =>
          cases hframe : recvFrame P.slipEsc00 p 0 END line' with
          | none => simp [hframe] at h
          | some r =>
              simp only [hframe, Option.some.injEq, Prod.mk.injEq] at h
              omega

/-- Behind the first END of the line, and possibly some timeouts, a frame is
closed. -/
def FrameFollows (slipEsc00 : Bool) (pre : Line) : Prop :=
  exists junk rest : Line,
    pre = junk ++ some END :: rest ∧ some END ∉ junk ∧
      exists n : Nat,
        ClosesFrame slipEsc00 (heard END (rest ++ List.replicate n none))

/-- A counter at or below zero wraps around, so the call reads after all. -/
theorem GivesUp.timeout_pos {P : Platform} {len : Nat} {p : Buffer len}
    {timeout : Int16} {pre : Line} (h : GivesUp P p timeout pre) :
    1 ≤ timeout.toInt := by
  by_contra hneg
  have hnonpos : timeout.toInt ≤ 0 := by
    omega
  have hzero := idleReads_of_nonpos hnonpos
  have hwrap := reads_of_nonpos hnonpos
  have hno : some END ∉ pre.take (idleReads timeout) := by
    rw [hzero]
    simp
  rcases h.right hno with ⟨n, rest, hcall, hlength⟩
  have hreads := waitEnd_false_length (waitEnd_of_eagain hcall)
  rw [List.length_append, List.length_replicate] at hreads
  omega

theorem GivesUp.frameFollows {P : Platform} {len : Nat} (hlen : 1 ≤ len)
    {p : Buffer len} {timeout : Int16} {pre : Line}
    (h : GivesUp P p timeout pre)
    (hmem : some END ∈ pre.take (idleReads timeout)) :
    FrameFollows P.slipEsc00 pre := by
  rw [idleReads_of_pos h.timeout_pos] at hmem
  rcases h.left with ⟨n, result, hreturns⟩
  rcases List.eq_append_cons_of_mem hmem with ⟨junk, more, htake, hjunk⟩
  have hsplit : pre =
      junk ++ some END :: (more ++ pre.drop (reads timeout)) := by
    conv_lhs => rw [← List.take_append_drop (reads timeout) pre, htake]
    simp
  have hbudget : junk.length < reads timeout := by
    have hlength := congrArg List.length htake
    rw [List.length_take, List.length_append, List.length_cons] at hlength
    omega
  refine ⟨junk, more ++ pre.drop (reads timeout), hsplit, hjunk, n, ?_⟩
  apply (scan_start_ne_none_iff _).mp
  intro hnone
  have hline : pre ++ List.replicate n none =
      junk ++ some END ::
        (more ++ pre.drop (reads timeout) ++ List.replicate n none) := by
    conv_lhs => rw [hsplit]
    simp
  rw [hline, recvPacket_eq_scan P hlen p timeout
    (waitEnd_junk_end _ (by decide) hjunk hbudget), hnone] at hreturns
  cases hreturns

theorem recvPacket_silent {P : Platform} {len : Nat} {p : Buffer len}
    {timeout : Int16} {pre : Line} (hpos : 1 ≤ timeout.toInt)
    (hno : some END ∉ pre.take (idleReads timeout)) :
    exists (n : Nat) (rest : Line),
      recvPacket P p timeout (pre ++ List.replicate n none) =
          some (-(P.eagain : Int), p, rest) ∧
        rest.length + idleReads timeout = pre.length + n := by
  rw [idleReads_of_pos hpos] at hno ⊢
  have hwait : waitEnd timeout 0
      (pre ++ List.replicate (reads timeout) none) =
        some (false, (pre ++ List.replicate (reads timeout) none).drop
          (reads timeout)) := by
    apply waitEnd_no_end (by decide)
    · simp
    · rw [List.take_append]
      intro hmem
      rcases List.mem_append.mp hmem with hpre | hidle
      · exact hno hpre
      · have hnone := List.eq_of_mem_replicate (List.mem_of_mem_take hidle)
        cases hnone
  refine ⟨reads timeout,
    (pre ++ List.replicate (reads timeout) none).drop (reads timeout), ?_, ?_⟩
  · rw [recvPacket, hwait]
  · rw [List.length_drop, List.length_append, List.length_replicate]
    omega

theorem recvPacket_frameFollows {P : Platform} {len : Nat} (hlen : 1 ≤ len)
    {p : Buffer len} {timeout : Int16} {pre : Line} (hpos : 1 ≤ timeout.toInt)
    (hmem : some END ∈ pre.take (idleReads timeout))
    (h : FrameFollows P.slipEsc00 pre) :
    exists (n : Nat) (result : Int × Buffer len × Line),
      recvPacket P p timeout (pre ++ List.replicate n none) =
        some result := by
  rcases h with ⟨junk, rest, hsplit, hjunk, n, hcloses⟩
  have hbudget : junk.length < reads timeout := by
    by_contra hlate
    rw [idleReads_of_pos hpos, hsplit,
      List.take_append_of_le_length (by omega)] at hmem
    exact hjunk (List.mem_of_mem_take hmem)
  have hscan := (scan_start_ne_none_iff _).mpr hcloses
  rcases Option.ne_none_iff_exists'.mp hscan with ⟨r, hr⟩
  refine ⟨n, (((r.1.take len).length : Int), p.write 0 (r.1.take len), r.2),
    ?_⟩
  rw [hsplit, List.append_assoc, List.cons_append,
    recvPacket_eq_scan P hlen p timeout
      (waitEnd_junk_end _ (by decide) hjunk hbudget), hr]
  rfl

/-- A call on a silent line gives up as documented exactly for a positive
timeout, and when the hunt for END fails or what follows the END closes a
frame. -/
theorem givesUp_iff (P : Platform) {len : Nat} (hlen : 1 ≤ len)
    (p : Buffer len) (timeout : Int16) (pre : Line) :
    GivesUp P p timeout pre <->
      1 ≤ timeout.toInt ∧
        (some END ∉ pre.take (idleReads timeout) ∨
          FrameFollows P.slipEsc00 pre) := by
  constructor
  · intro h
    refine ⟨h.timeout_pos, ?_⟩
    by_cases hmem : some END ∈ pre.take (idleReads timeout)
    · exact Or.inr (h.frameFollows hlen hmem)
    · exact Or.inl hmem
  · intro hboth
    rcases hboth with ⟨hpos, hcases⟩
    refine ⟨?_, recvPacket_silent hpos⟩
    by_cases hmem : some END ∈ pre.take (idleReads timeout)
    · rcases hcases with hno | hfollows
      · exact absurd hmem hno
      · exact recvPacket_frameFollows hlen hpos hmem hfollows
    · rcases recvPacket_silent (P := P) (p := p) hpos hmem with
        ⟨n, rest, hcall, _⟩
      exact ⟨n, (-(P.eagain : Int), p, rest), hcall⟩

theorem givesUp_iff_stray_byte :
    GivesUp Platform.spectrum (⟨[0], rfl⟩ : Buffer 1) 80 [some 0x2a] <->
      1 ≤ (80 : Int16).toInt ∧
        (some END ∉ [some 0x2a].take (idleReads 80) ∨
          FrameFollows true [some 0x2a]) :=
  givesUp_iff Platform.spectrum (by decide) ⟨[0], rfl⟩ 80 [some 0x2a]

/-- One stray END before the line falls silent, and the call never returns. -/
theorem not_givesUp_stray_end :
    ¬ GivesUp Platform.spectrum (⟨[0], rfl⟩ : Buffer 1) 80 [some END] := by
  intro h
  rcases h with ⟨⟨n, result, hreturns⟩, _⟩
  have hreads : reads 80 ≠ 0 := by decide
  have hnone : scan true Rx.start END (List.replicate n none) = none := by
    have htimeouts := scan_timeouts_end true n []
    rw [List.append_nil] at htimeouts
    exact htimeouts
  rw [List.singleton_append, recvPacket_opening_end Platform.spectrum
    (by decide) ⟨[0], rfl⟩ hreads] at hreturns
  rw [show Platform.spectrum.slipEsc00 = true from rfl, hnone] at hreturns
  cases hreturns

end Slip
end Z80Tcpip
