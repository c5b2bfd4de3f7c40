import Z80Tcpip.Slip.SpectrumRoundTrip

/-!
# A frame after an aborted one

When `rx_write` gives up, a prefix of one frame is followed by the next frame.
`recv_packet` takes the opening END of that next frame for the end of the
prefix, unless nothing of the prefix has been stored, and then hunts through
the frame for another END.
-/

namespace Z80Tcpip
namespace Slip

open Foundation

/-- The bytes on the line: the first `n` bytes of the aborted frame of `q`,
then the whole frame of `r`. -/
def abortedLine (slipEsc00 : Bool) (q : List UInt8) (n : Nat)
    (r : List UInt8) : Line :=
  ((slipEncode slipEsc00 q).take n ++ slipEncode slipEsc00 r).map some

/-- With any buffer that holds `r` and any timeout that reads at all, some
number of calls uses up the line and the last of them returns `r`. -/
def ArrivesIntact (P : Platform) (line : Line) (r : List UInt8) : Prop :=
  forall (len : Nat) (p : Buffer len) (timeout : Int16),
    1 ≤ len -> r.length ≤ len -> 2 ≤ timeout.toInt ->
      exists (k : Nat) (results : List (Int × List UInt8)),
        recvPackets P timeout k p line =
          some (results ++ [((r.length : Int), r)], [])

/-- Nothing of `q` has been decoded from the first `n` bytes of its frame. -/
def NothingDecoded (slipEsc00 : Bool) (q : List UInt8) (n : Nat) : Prop :=
  n = 1 ∨
    (n = 2 ∧ exists (b : UInt8) (q' : List UInt8),
      q = b :: q' ∧ slipCode slipEsc00 b ≠ none)

/-!
## What a cut leaves
-/

/-- The decoded symbols of the prefix, with whether an ESC is left open. -/
theorem slipEncode_take (slipEsc00 : Bool) (q : List UInt8) {n : Nat}
    (hlow : 1 ≤ n) (hhigh : n < (slipEncode slipEsc00 q).length) :
    exists (done : List UInt8) (tail : List UInt8),
      (slipEncode slipEsc00 q).take n =
          END :: ((slipStuffing slipEsc00).stuff done ++ tail) ∧
        (tail = [] ∨ tail = [ESC]) ∧
        (NothingDecoded slipEsc00 q n <-> done = []) := by
  rcases Nat.exists_eq_succ_of_ne_zero (Nat.ne_of_gt hlow) with ⟨m, rfl⟩
  have hframe : slipEncode slipEsc00 q =
      END :: ((slipStuffing slipEsc00).stuff q ++ [END]) := by
    rw [slipEncode_eq_frame]
    rfl
  have hm : m ≤ ((slipStuffing slipEsc00).stuff q).length := by
    rw [hframe] at hhigh
    simp only [List.length_cons, List.length_append, List.length_nil] at hhigh
    omega
  have htake : (slipEncode slipEsc00 q).take (m + 1) =
      END :: ((slipStuffing slipEsc00).stuff q).take m := by
    rw [hframe, List.take_succ_cons, List.take_append_of_le_length hm]
  rcases (slipStuffing slipEsc00).take_stuff q m with
    ⟨done, rest, hsplit, hcut | ⟨b, more, hrest, hcode, hcut⟩⟩
  · have hlength := congrArg List.length hcut
    rw [List.length_take, Nat.min_eq_left hm] at hlength
    refine ⟨done, [], ?_, Or.inl rfl, ?_, ?_⟩
    · rw [htake, hcut, List.append_nil]
    · intro h
      rcases h with hone | ⟨htwo, b, q', hq, hcode⟩
      · apply ((slipStuffing slipEsc00).stuff_eq_nil_iff done).mp
        apply List.eq_nil_of_length_eq_zero
        omega
      · exfalso
        apply (slipStuffing slipEsc00).stuff_ne_esc done
        rw [← hcut, show m = 1 by omega, hq, Stuffing.stuff_cons]
        rcases (slipStuffing slipEsc00).stuffSymbol_cases b with
          ⟨k, _, hs⟩ | ⟨hnone, _⟩
        · rw [hs]
          rfl
        · exact absurd hnone hcode
    · intro hdone
      rw [hdone] at hlength
      exact Or.inl (by rw [hlength]; rfl)
  · have hlength := congrArg List.length hcut
    rw [List.length_take, Nat.min_eq_left hm, List.length_append,
      List.length_singleton] at hlength
    refine ⟨done, [ESC], ?_, Or.inr rfl, ?_, ?_⟩
    · rw [htake, hcut]
      rfl
    · intro hnothing
      apply ((slipStuffing slipEsc00).stuff_eq_nil_iff done).mp
      apply List.eq_nil_of_length_eq_zero
      rcases hnothing with hone | ⟨htwo, _⟩ <;> omega
    · intro hdone
      rw [hdone] at hlength hsplit
      exact Or.inr ⟨by rw [hlength]; rfl, b, more, by rw [hsplit, hrest]; rfl,
        hcode⟩

/-!
## The first call
-/

theorem waitEnd_end {timeout : Int16} (h : 2 ≤ timeout.toInt) (rest : Line) :
    waitEnd timeout 0 (some END :: rest) = some (true, rest) := by
  have hreads : (reads timeout : Int) = timeout.toInt - 1 :=
    reads_of_pos (by omega)
  have hbudget : ([] : Line).length < reads timeout := by
    rw [List.length_nil]
    omega
  exact waitEnd_junk_end rest (by decide) (by simp) hbudget

/-- The prefix ends between two symbols: the next opening END closes it. -/
theorem scan_prefix_end (slipEsc00 : Bool) {done : List UInt8}
    (hdone : done ≠ []) (rest : Line) :
    scan slipEsc00 Rx.start END
        (((slipStuffing slipEsc00).stuff done).map some ++ some END :: rest) =
      some (done, rest) :=
  scan_stuff_end slipEsc00 (d := []) (by simpa using hdone) END rest

/-- The prefix ends in an ESC, which takes the next opening END with it. -/
theorem scan_prefix_esc (slipEsc00 : Bool) (done : List UInt8)
    {r : List UInt8} (hr : r ≠ []) (rest : Line) :
    scan slipEsc00 Rx.start END
        (((slipStuffing slipEsc00).stuff done).map some ++ some ESC ::
          some END :: (((slipStuffing slipEsc00).stuff r).map some ++
            some END :: rest)) =
      some (done ++ r, rest) := by
  have hne : done ++ r ≠ [] := by
    intro hnil
    exact hr (List.append_eq_nil_iff.mp hnil).right
  rcases scan_stuff slipEsc00 [] done END (some ESC :: some END ::
      (((slipStuffing slipEsc00).stuff r).map some ++ some END :: rest)) with
    ⟨c, hscan⟩
  rw [List.nil_append] at hscan
  rw [Rx.start, hscan, scan_some _ _ (Rx.feed_esc slipEsc00 done),
    scan_some _ _ (Rx.feed_escaped_end slipEsc00 done)]
  exact scan_stuff_end slipEsc00 hne END rest

theorem scan_start_end (slipEsc00 : Bool) (rest : Line) :
    scan slipEsc00 Rx.start END (some END :: rest) =
      scan slipEsc00 Rx.start END rest :=
  scan_some _ _ (Rx.feed_end_empty slipEsc00)

/-!
## A line on which the only END is the last byte

The call that finds this END waits for a frame behind it, so no number of
calls gets to the end of the line.
-/

theorem waitEnd_last_end {c : UInt8} (hc : c ≠ END) (timeout : Int16)
    {body : List UInt8} (hbody : END ∉ body) :
    waitEnd timeout c ((body ++ [END]).map some) = some (true, []) ∨
      exists body' : List UInt8, END ∉ body' ∧
        waitEnd timeout c ((body ++ [END]).map some) =
          some (false, (body' ++ [END]).map some) := by
  by_cases hreads : reads timeout = 0
  · exact Or.inr ⟨body, hbody, waitEnd_exhausted hreads⟩
  · induction body generalizing c timeout with
    | nil =>
        apply Or.inl
        show waitEnd timeout c [some END] = some (true, [])
        rw [waitEnd_cons _ _ hreads, rs232Get_some, if_pos rfl]
    | cons b rest ih =>
        have hb : b ≠ END := by
          intro h
          rw [h] at hbody
          exact hbody List.mem_cons_self
        have hrest : END ∉ rest := by
          intro h
          exact hbody (List.mem_cons_of_mem b h)
        rw [List.cons_append, List.map_cons, waitEnd_cons _ _ hreads,
          rs232Get_some, if_neg hb]
        by_cases hnext : reads (timeout - 1) = 0
        · exact Or.inr ⟨rest, hrest, waitEnd_exhausted hnext⟩
        · exact ih hb (timeout - 1) hrest hnext

theorem recvPackets_last_end {P : Platform} {len : Nat} {timeout : Int16}
    {k : Nat} {p : Buffer len} {body : List UInt8} (hbody : END ∉ body)
    {results : List (Int × List UInt8)} {rest : Line}
    (h : recvPackets P timeout k p ((body ++ [END]).map some) =
      some (results, rest)) : rest ≠ [] := by
  induction k generalizing p body results with
  | zero =>
      simp only [recvPackets, Option.some.injEq, Prod.mk.injEq] at h
      rw [← h.right]
      simp
  | succ k ih =>
      rcases waitEnd_last_end (c := 0) (by decide) timeout hbody with
        hfound | ⟨body', hbody', hgave⟩
      · have hnone : recvPacket P p timeout ((body ++ [END]).map some) =
            none := by
          rw [recvPacket, hfound]
          rfl
        rw [recvPackets, hnone] at h
        cases h
      · have hcall : recvPacket P p timeout ((body ++ [END]).map some) =
            some (-(P.eagain : Int), p, (body' ++ [END]).map some) := by
          rw [recvPacket, hgave]
        rw [recvPackets_succ hcall, Option.map_eq_some_iff] at h
        rcases h with ⟨⟨results', rest'⟩, hcalls, heq⟩
        cases heq
        exact ih hbody' hcalls

theorem recvPackets_empty {P : Platform} {len : Nat} {timeout : Int16}
    (htimeout : 2 ≤ timeout.toInt) {k : Nat} {p : Buffer len}
    {results : List (Int × List UInt8)} {rest : Line}
    (h : recvPackets P timeout k p [] = some (results, rest)) : k = 0 := by
  have hreads : (reads timeout : Int) = timeout.toInt - 1 :=
    reads_of_pos (by omega)
  have hne : timeout - 1 ≠ 0 := by
    intro hzero
    have := (reads_eq_zero_iff timeout).mpr hzero
    omega
  cases k with
  | zero => rfl
  | succ k =>
      rw [recvPackets, recvPacket, waitEnd, if_neg hne] at h
      cases h

/-!
## The next frame
-/

theorem abortedLine_eq {slipEsc00 : Bool} {q : List UInt8} {n : Nat}
    {done tail : List UInt8} (r : List UInt8)
    (hcut : (slipEncode slipEsc00 q).take n =
      END :: ((slipStuffing slipEsc00).stuff done ++ tail)) :
    abortedLine slipEsc00 q n r =
      some END :: (((slipStuffing slipEsc00).stuff done).map some ++
        (tail.map some ++ some END ::
          (((slipStuffing slipEsc00).stuff r).map some ++ [some END]))) := by
  have hframe := slipEncode_line slipEsc00 r []
  rw [List.append_nil] at hframe
  rw [abortedLine, List.map_append, hframe, hcut]
  simp

theorem arrivesIntact_of_nothingDecoded {P : Platform} {q r : List UInt8}
    {n : Nat} (hr : r ≠ []) (hlow : 1 ≤ n)
    (hhigh : n < (slipEncode P.slipEsc00 q).length)
    (h : NothingDecoded P.slipEsc00 q n) :
    ArrivesIntact P (abortedLine P.slipEsc00 q n r) r := by
  intro len p timeout hlen hrlen htimeout
  rcases slipEncode_take P.slipEsc00 q hlow hhigh with
    ⟨done, tail, hcut, htail, hiff⟩
  have hdone : done = [] := hiff.mp h
  have hline := abortedLine_eq r hcut
  rw [hdone, Stuffing.stuff_nil, List.map_nil, List.nil_append] at hline
  have hscan :
      scan P.slipEsc00 Rx.start END
          (tail.map some ++ some END ::
            (((slipStuffing P.slipEsc00).stuff r).map some ++ [some END])) =
        some (r, []) := by
    rcases htail with htail | htail
    · rw [htail]
      show scan P.slipEsc00 Rx.start END (some END :: _) = _
      rw [scan_start_end]
      exact scan_prefix_end P.slipEsc00 hr []
    · rw [htail]
      exact scan_prefix_esc P.slipEsc00 [] hr []
  have hcall := recvPacket_eq_scan P hlen p timeout
    (waitEnd_end htimeout (tail.map some ++ some END ::
      (((slipStuffing P.slipEsc00).stuff r).map some ++ [some END])))
  rw [hscan, Option.map_some, List.take_of_length_le hrlen] at hcall
  have hslice : (p.write 0 r).slice 0 r.length = r :=
    p.slice_write_self (by omega)
  refine ⟨1, [], ?_⟩
  rw [hline, recvPackets_succ hcall]
  simp [recvPackets, hslice]

/-- Had something been decoded, the prefix would have come up short and the
next frame been lost, or both would have come up as one packet. -/
theorem nothingDecoded_of_arrivesIntact {P : Platform} {q r : List UInt8}
    {n : Nat} (hr : r ≠ []) (hlow : 1 ≤ n)
    (hhigh : n < (slipEncode P.slipEsc00 q).length)
    (h : ArrivesIntact P (abortedLine P.slipEsc00 q n r) r) :
    NothingDecoded P.slipEsc00 q n := by
  rcases slipEncode_take P.slipEsc00 q hlow hhigh with
    ⟨done, tail, hcut, htail, hiff⟩
  apply hiff.mpr
  by_contra hdone
  let room : Buffer (r.length + 1) := ⟨List.replicate (r.length + 1) 0, by simp⟩
  rcases h (r.length + 1) room 2 (by omega) (by omega) (by decide) with
    ⟨k, results, hcalls⟩
  have hline := abortedLine_eq r hcut
  rw [hline] at hcalls
  cases k with
  | zero =>
      simp [recvPackets] at hcalls
  | succ k =>
      rcases htail with htail | htail
      · have hcall := recvPacket_eq_scan P (by omega)
          room 2 (waitEnd_end (by decide)
            (((slipStuffing P.slipEsc00).stuff done).map some ++ some END ::
              (((slipStuffing P.slipEsc00).stuff r).map some ++ [some END])))
        rw [scan_prefix_end P.slipEsc00 hdone, Option.map_some] at hcall
        rw [htail] at hcalls
        simp only [List.map_nil, List.nil_append] at hcalls
        rw [recvPackets_succ hcall, Option.map_eq_some_iff] at hcalls
        rcases hcalls with ⟨⟨results', rest'⟩, hmore, heq⟩
        simp only [Prod.mk.injEq] at heq
        have hmap : ((slipStuffing P.slipEsc00).stuff r).map some ++
            [some END] =
              ((slipStuffing P.slipEsc00).stuff r ++ [END]).map some := by
          simp
        rw [hmap] at hmore
        exact recvPackets_last_end
          ((slipStuffing P.slipEsc00).stop_not_mem_stuff r) hmore heq.right
      · have hcall := recvPacket_eq_scan P (by omega)
          room 2 (waitEnd_end (by decide)
            (((slipStuffing P.slipEsc00).stuff done).map some ++ some ESC ::
              some END ::
                (((slipStuffing P.slipEsc00).stuff r).map some ++
                  [some END])))
        rw [scan_prefix_esc P.slipEsc00 done hr, Option.map_some] at hcall
        rw [htail] at hcalls
        simp only [List.map_cons, List.map_nil, List.cons_append,
          List.nil_append] at hcalls
        rw [recvPackets_succ hcall, Option.map_eq_some_iff] at hcalls
        rcases hcalls with ⟨⟨results', rest'⟩, hmore, heq⟩
        have hk := recvPackets_empty (by decide) hmore
        rw [hk] at hmore
        cases hmore
        simp only [Prod.mk.injEq] at heq
        have hlength : results.length = 0 := by
          have := congrArg List.length heq.left
          simp only [List.length_cons, List.length_nil, List.length_append]
            at this
          omega
        rw [List.eq_nil_of_length_eq_zero hlength] at heq
        simp only [List.nil_append, List.cons.injEq, Prod.mk.injEq] at heq
        have hshort := heq.left.left
        have hdonePos := List.length_pos_of_ne_nil hdone
        rw [List.length_take, List.length_append] at hshort
        omega

/-- The frame after an aborted one arrives intact exactly when the cut came
before anything of the aborted packet was decoded. -/
theorem arrivesIntact_iff (P : Platform) (q r : List UInt8) (n : Nat)
    (hr : r ≠ []) (hlow : 1 ≤ n)
    (hhigh : n < (slipEncode P.slipEsc00 q).length) :
    ArrivesIntact P (abortedLine P.slipEsc00 q n r) r <->
      NothingDecoded P.slipEsc00 q n :=
  ⟨nothingDecoded_of_arrivesIntact hr hlow hhigh,
    arrivesIntact_of_nothingDecoded hr hlow hhigh⟩

/-- An IPv4 packet for the Spectrum with an empty body. -/
def bareHeader : List UInt8 :=
  [0x45, 0, 0, 20, 0, 0, 0, 0, 64, 6, 0xF6, 0xD1, 192, 0, 2, 1, 192, 0, 2, 2]

theorem arrivesIntact_iff_opening_end :
    ArrivesIntact Platform.spectrum
        (abortedLine true bareHeader 1 bareHeader) bareHeader <->
      NothingDecoded true bareHeader 1 :=
  arrivesIntact_iff Platform.spectrum bareHeader bareHeader 1 (by decide)
    (by decide) (by decide)

/-- A frame given up after its first byte takes the next frame with it. -/
theorem not_arrivesIntact_after_one_byte :
    ¬ ArrivesIntact Platform.spectrum
        (abortedLine true bareHeader 2 bareHeader) bareHeader := by
  intro h
  rcases nothingDecoded_of_arrivesIntact (P := Platform.spectrum)
      (q := bareHeader) (r := bareHeader) (n := 2) (by decide) (by decide)
      (by decide) h with hone | ⟨_, b, q', hq, hcode⟩
  · cases hone
  · cases hq
    exact hcode rfl

end Slip
end Z80Tcpip
