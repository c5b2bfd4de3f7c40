import Z80Tcpip.Slip.IdleLine

/-!
# Frames that lost bytes

The serial port drops bytes at any moment.  When the two END marks of a frame
get through, `recv_packet` returns what the surviving bytes in between decode
to: an escape takes whatever byte now stands behind it.
-/

namespace Z80Tcpip
namespace Slip

open Foundation

/-- What the decoder makes of bytes without an END among them; the flag tells
whether the byte in front was an ESC. -/
def unescape (slipEsc00 : Bool) : Bool -> List UInt8 -> List UInt8
  | _, [] => []
  | true, b :: rest =>
      (slipUncode slipEsc00 b).toList ++ unescape slipEsc00 false rest
  | false, b :: rest =>
      if b = ESC then unescape slipEsc00 true rest
      else b :: unescape slipEsc00 false rest

/-- The opening END, the bytes that survive, the closing END, and a line that
is silent from there on. -/
def lossyLine (survivors : List UInt8) (idle : Nat) : Line :=
  some END :: (survivors.map some ++ some END :: List.replicate idle none)

theorem scan_survivors (slipEsc00 : Bool) {survivors : List UInt8}
    (hend : END ∉ survivors) (more : Line) :
    forall (escaped : Bool) (d : List UInt8) (c : UInt8), exists c' : UInt8,
      scan slipEsc00 { escaped := escaped, decoded := d } c
          (survivors.map some ++ more) =
        scan slipEsc00
          { escaped := inEscape escaped survivors
            decoded := d ++ unescape slipEsc00 escaped survivors } c' more := by
  induction survivors with
  | nil =>
      intro escaped d c
      refine ⟨c, ?_⟩
      cases escaped <;> simp [unescape, inEscape]
  | cons b rest ih =>
      have hrest : END ∉ rest := by
        intro h
        exact hend (List.mem_cons_of_mem b h)
      have hb : b ≠ END := by
        intro h
        rw [h] at hend
        exact hend List.mem_cons_self
      intro escaped d c
      rw [List.map_cons, List.cons_append]
      cases escaped with
      | true =>
          rcases ih hrest false (d ++ (slipUncode slipEsc00 b).toList) b with
            ⟨c', hscan⟩
          refine ⟨c', ?_⟩
          rw [scan_some _ _ (Rx.feed_escaped slipEsc00 d b), hscan, unescape,
            inEscape, if_pos rfl, List.append_assoc]
      | false =>
          by_cases hesc : b = ESC
          · rcases ih hrest true d b with ⟨c', hscan⟩
            refine ⟨c', ?_⟩
            subst hesc
            rw [scan_some _ _ (Rx.feed_esc slipEsc00 d), hscan, unescape,
              if_pos rfl, inEscape, if_neg Bool.false_ne_true,
              decide_eq_true rfl]
          · rcases ih hrest false (d ++ [b]) b with ⟨c', hscan⟩
            refine ⟨c', ?_⟩
            rw [scan_some _ _ (Rx.feed_plain slipEsc00 d hb hesc), hscan,
              unescape, if_neg hesc, inEscape, if_neg Bool.false_ne_true,
              decide_eq_false hesc, List.append_assoc]
            rfl

theorem unescape_stuffSymbol (slipEsc00 : Bool) (b : UInt8)
    (rest : List UInt8) :
    unescape slipEsc00 false ((slipStuffing slipEsc00).stuffSymbol b ++ rest) =
      b :: unescape slipEsc00 false rest := by
  rcases (slipStuffing slipEsc00).stuffSymbol_cases b with
    ⟨k, hcode, hs⟩ | ⟨hcode, hs⟩
  · have hvalue : slipUncode slipEsc00 k = some b :=
      slipUncode_of_slipCode hcode
    rw [hs]
    show unescape slipEsc00 false (ESC :: k :: rest) = _
    rw [unescape, if_pos rfl, unescape, hvalue]
    rfl
  · have hesc : b ≠ ESC := (slipStuffing slipEsc00).ne_esc_of_code_none hcode
    rw [hs]
    show unescape slipEsc00 false (b :: rest) = _
    rw [unescape, if_neg hesc]

/-- Nothing is lost: the packet comes back. -/
theorem unescape_sendBytes (slipEsc00 : Bool) (p : List UInt8) :
    unescape slipEsc00 false (sendBytes slipEsc00 p) = p := by
  rw [sendBytes_eq_stuff]
  induction p with
  | nil => rfl
  | cons b rest ih => rw [Stuffing.stuff_cons, unescape_stuffSymbol, ih]

/-!
## The closing END and the silence behind it
-/

/-- Behind an END the silent line goes on delivering it. -/
theorem scan_idle {slipEsc00 : Bool} {d done : List UInt8} {idle : Nat}
    {rest : Line}
    (h : scan slipEsc00 { escaped := false, decoded := d } END
      (List.replicate idle none) = some (done, rest)) :
    done = d ∧ d ≠ [] ∧ exists j : Nat, rest = List.replicate j none := by
  induction idle with
  | zero => cases h
  | succ idle ih =>
      rw [List.replicate_succ, scan, rs232Get_none] at h
      by_cases hd : d = []
      · have hfeed : Rx.feed slipEsc00 { escaped := false, decoded := d } END =
            some { escaped := false, decoded := d } := by
          rw [hd]
          exact Rx.feed_end_empty slipEsc00
        rw [hfeed] at h
        exact ih h
      · have hfeed : Rx.feed slipEsc00 { escaped := false, decoded := d } END =
            none := by
          simp [Rx.feed, hd]
        rw [hfeed] at h
        cases h
        exact ⟨rfl, hd, idle, rfl⟩

/-- Whatever the frame decodes to, `recv_packet` returns nothing else. -/
theorem scan_closed {slipEsc00 : Bool} {escaped : Bool} {d done : List UInt8}
    {c : UInt8} {idle : Nat} {rest : Line}
    (h : scan slipEsc00 { escaped := escaped, decoded := d } c
      (some END :: List.replicate idle none) = some (done, rest)) :
    done = d ∧ d ≠ [] ∧ exists j : Nat, rest = List.replicate j none := by
  cases escaped with
  | true =>
      rw [scan_some _ _ (Rx.feed_escaped_end slipEsc00 d)] at h
      exact scan_idle h
  | false =>
      by_cases hd : d = []
      · have hfeed := Rx.feed_end_empty slipEsc00
        rw [Rx.start] at hfeed
        rw [hd, scan_some _ _ hfeed] at h
        rw [hd]
        exact scan_idle h
      · rw [scan_end hd] at h
        cases h
        exact ⟨rfl, hd, idle, rfl⟩

/-- One read behind the closing END is enough to get the frame out. -/
theorem scan_closed_returns (slipEsc00 : Bool) (escaped : Bool)
    {d : List UInt8} (hd : d ≠ []) (c : UInt8) :
    exists j : Nat,
      scan slipEsc00 { escaped := escaped, decoded := d } c
        [some END, none] = some (d, List.replicate j none) := by
  cases escaped with
  | true =>
      refine ⟨0, ?_⟩
      rw [scan_some _ _ (Rx.feed_escaped_end slipEsc00 d), scan,
        rs232Get_none]
      simp [Rx.feed, hd]
  | false =>
      exact ⟨1, scan_end hd c [none]⟩

/-!
## The call
-/

theorem waitEnd_first {timeout : Int16} (h : timeout - 1 ≠ 0) (rest : Line) :
    waitEnd timeout 0 (some END :: rest) = some (true, rest) := by
  rw [waitEnd, if_neg h, rs232Get_some, if_pos rfl]

/-- What a call on the damaged frame returns is the decoded frame, cut to the
buffer. -/
theorem recvPacket_lossyLine {P : Platform} {len : Nat} (hlen : 1 ≤ len)
    {p p' : Buffer len} {timeout : Int16} (htimeout : timeout - 1 ≠ 0)
    {survivors : List UInt8} (hend : END ∉ survivors) {idle : Nat} {rc : Int}
    {rest : Line}
    (h : recvPacket P p timeout (lossyLine survivors idle) =
      some (rc, p', rest)) :
    rc = (((unescape P.slipEsc00 false survivors).take len).length : Int) ∧
      p' = p.write 0 ((unescape P.slipEsc00 false survivors).take len) ∧
      exists j : Nat, rest = List.replicate j none := by
  rw [lossyLine, recvPacket_eq_scan P hlen p timeout
    (waitEnd_first htimeout _)] at h
  rcases scan_survivors P.slipEsc00 hend
    (some END :: List.replicate idle none) false [] END with ⟨c', hscan⟩
  rw [Rx.start, hscan, Option.map_eq_some_iff] at h
  rcases h with ⟨⟨done, rest'⟩, hdone, heq⟩
  rcases scan_closed hdone with ⟨hframe, _, hrest⟩
  cases heq
  rw [List.nil_append] at hframe
  rw [hframe]
  exact ⟨rfl, rfl, hrest⟩

theorem recvPacket_lossyLine_returns (P : Platform) {len : Nat}
    (hlen : 1 ≤ len) (p : Buffer len) {timeout : Int16}
    (htimeout : timeout - 1 ≠ 0) {survivors : List UInt8}
    (hend : END ∉ survivors)
    (hframe : unescape P.slipEsc00 false survivors ≠ []) :
    exists rest : Line,
      recvPacket P p timeout (lossyLine survivors 1) =
        some ((((unescape P.slipEsc00 false survivors).take len).length : Int),
          p.write 0 ((unescape P.slipEsc00 false survivors).take len),
          rest) := by
  rcases scan_survivors P.slipEsc00 hend [some END, none] false [] END with
    ⟨c', hscan⟩
  rw [List.nil_append] at hscan
  rcases scan_closed_returns P.slipEsc00 (inEscape false survivors) hframe c'
    with ⟨j, hclosed⟩
  refine ⟨List.replicate j none, ?_⟩
  rw [lossyLine, recvPacket_eq_scan P hlen p timeout
    (waitEnd_first htimeout _)]
  show (scan P.slipEsc00 Rx.start END
    (survivors.map some ++ [some END, none])).map _ = _
  rw [Rx.start, hscan, hclosed]
  rfl

/-- With `to` 1 nothing is read. -/
theorem recvPacket_no_reads (P : Platform) {len : Nat} (p : Buffer len)
    (line : Line) :
    recvPacket P p 1 line = some (-(P.eagain : Int), p, line) := by
  rw [recvPacket, waitEnd_exhausted (by decide)]

/-- On a silent line a call finds no END. -/
theorem waitEnd_idle {timeout : Int16} {c : UInt8} (hc : c ≠ END) {idle : Nat}
    {found : Bool} {rest : Line}
    (h : waitEnd timeout c (List.replicate idle none) = some (found, rest)) :
    found = false := by
  induction idle generalizing timeout with
  | zero =>
      rw [List.replicate_zero, waitEnd] at h
      split_ifs at h
      cases h
      rfl
  | succ idle ih =>
      rw [List.replicate_succ, waitEnd, rs232Get_none, if_neg hc] at h
      split_ifs at h
      · cases h
        rfl
      · exact ih h

theorem recvPacket_idle {P : Platform} {len : Nat} {p p' : Buffer len}
    {timeout : Int16} {idle : Nat} {rc : Int} {rest : Line}
    (h : recvPacket P p timeout (List.replicate idle none) =
      some (rc, p', rest)) : rc = -(P.eagain : Int) := by
  unfold recvPacket at h
  rcases hwait : waitEnd timeout 0 (List.replicate idle none) with
    _ | ⟨found, line⟩
  · rw [hwait] at h
    cases h
  · rw [hwait, waitEnd_idle (by decide) hwait] at h
    cases h
    rfl

end Slip
end Z80Tcpip
