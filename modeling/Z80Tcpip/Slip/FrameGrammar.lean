import Mathlib.Data.List.TakeWhile
import Z80Tcpip.Foundation.Cutting
import Z80Tcpip.Slip.BridgeRoundTrip

/-!
# The frame grammar of the bridge

What `slip_decode` makes of a byte stream, said without a state: the stream is
cut at its END bytes, and every piece that is closed on both sides is decoded on
its own.  The state of the decoder is a function of the piece that is still
open.
-/

namespace Z80Tcpip
namespace Slip

open Foundation

/-!
## The grammar
-/

/-- The byte that `b` stands for behind the byte `before`, if any. -/
def pieceByte (slipEsc00 : Bool) (before b : UInt8) : Option UInt8 :=
  if b = ESC then none
  else if before = ESC then some ((slipUncode slipEsc00 b).getD b)
  else some b

/-- ESC bytes are removed, and the byte behind them is replaced by the one it is
the code of; the END in front of the piece is no ESC. -/
def decodePiece (slipEsc00 : Bool) (piece : List UInt8) : List UInt8 :=
  ((END :: piece).zip piece).filterMap
    (fun pair => pieceByte slipEsc00 pair.1 pair.2)

/-- The decoded pieces that have a frame's length. -/
def framesIn (slipEsc00 : Bool) (pieces : List (List UInt8)) :
    List (List UInt8) :=
  (pieces.map (decodePiece slipEsc00)).filter
    (fun frame => 1 ≤ frame.length ∧ frame.length ≤ MTU)

/-- Everything up to the first END is skipped, and the rest is cut at its END
bytes. -/
def framesOf (slipEsc00 : Bool) (bytes : List UInt8) : List (List UInt8) :=
  framesIn slipEsc00
    (closedPieces END (bytes.dropWhile (fun b => b ≠ END)).tail)

/-- `handle_tx` on the bytes that one `read` after another returns. -/
def handleReads (slipEsc00 : Bool) (b : Decoder) :
    List (List UInt8) -> Decoder × List (List UInt8)
  | [] => (b, [])
  | buf :: reads =>
      let now := decodeBytes slipEsc00 b buf
      let later := handleReads slipEsc00 now.1 reads
      (later.1, now.2 ++ later.2)

/-!
## Inside a piece
-/

theorem zip_shift_append {alpha : Type} (xs : List alpha) (y : alpha) :
    forall x : alpha,
      (x :: (xs ++ [y])).zip (xs ++ [y]) =
        (x :: xs).zip xs ++ [(xs.getLastD x, y)] := by
  induction xs with
  | nil =>
      intro x
      rfl
  | cons z rest ih =>
      intro x
      rw [List.cons_append, List.zip_cons_cons, ih z, List.zip_cons_cons,
        List.getLastD_cons, List.cons_append]

theorem decodePiece_append (slipEsc00 : Bool) (piece : List UInt8)
    (b : UInt8) :
    decodePiece slipEsc00 (piece ++ [b]) =
      decodePiece slipEsc00 piece ++
        (pieceByte slipEsc00 (piece.getLastD END) b).toList := by
  rw [decodePiece, zip_shift_append, List.filterMap_append, ← decodePiece]
  congr 1

theorem escapeValue_eq (slipEsc00 : Bool) (b : UInt8) :
    escapeValue slipEsc00 b = (slipUncode slipEsc00 b).getD b := by
  unfold escapeValue slipUncode
  split_ifs with hend hzer hesc hzer'
  · rw [hend] at hzer
    exact absurd hzer.right (by decide)
  · rfl
  · rw [hesc] at hzer'
    exact absurd hzer'.right (by decide)
  · rfl
  · rfl
  · rfl

/-- The decoder once the bytes of `piece` have come behind an END. -/
def pieceState (slipEsc00 : Bool) (piece : List UInt8) : Decoder where
  frame := (decodePiece slipEsc00 piece).take MTU
  inEscape := decide (piece.getLastD END = ESC)
  inSync := true
  truncated := decide (MTU < (decodePiece slipEsc00 piece).length)
  frame_le := by
    rw [List.length_take]
    exact Nat.min_le_left _ _

theorem Decoder.ext_fields {b b' : Decoder} (hframe : b.frame = b'.frame)
    (hescape : b.inEscape = b'.inEscape) (hsync : b.inSync = b'.inSync)
    (htruncated : b.truncated = b'.truncated) : b = b' := by
  cases b
  cases b'
  simp only at hframe hescape hsync htruncated
  subst hframe hescape hsync htruncated
  rfl

/-- Storing a byte, with the overflow. -/
theorem Decoder.store_take {b : Decoder} {d : List UInt8} (c : UInt8)
    (hframe : b.frame = d.take MTU)
    (htruncated : b.truncated = decide (MTU < d.length)) :
    (b.store c).frame = (d ++ [c]).take MTU ∧
      (b.store c).truncated = decide (MTU < (d ++ [c]).length) := by
  have hlength : b.frame.length = min MTU d.length := by
    rw [hframe, List.length_take]
  rw [List.length_append, List.length_singleton]
  by_cases hroom : d.length < MTU
  · have hlt : b.frame.length < MTU := by omega
    rcases Decoder.store_of_lt c hlt with ⟨hstored, hkept⟩
    rw [hstored, hkept, hframe, htruncated,
      List.take_of_length_le (Nat.le_of_lt hroom),
      List.take_of_length_le (by
        rw [List.length_append, List.length_singleton]
        omega)]
    refine ⟨rfl, ?_⟩
    rw [decide_eq_false (show ¬ MTU < d.length by omega),
      decide_eq_false (show ¬ MTU < d.length + 1 by omega)]
  · have hfull : b.frame.length = MTU := by omega
    unfold Decoder.store
    rw [dif_pos hfull]
    refine ⟨?_, ?_⟩
    · rw [List.take_append_of_le_length (by omega)]
      exact hframe
    · exact (decide_eq_true (show MTU < d.length + 1 by omega)).symm

section Piece

variable (slipEsc00 : Bool) (piece : List UInt8)

theorem pieceState_frame :
    (pieceState slipEsc00 piece).frame =
      (decodePiece slipEsc00 piece).take MTU := rfl

theorem pieceState_inEscape :
    (pieceState slipEsc00 piece).inEscape =
      decide (piece.getLastD END = ESC) := rfl

theorem pieceState_truncated :
    (pieceState slipEsc00 piece).truncated =
      decide (MTU < (decodePiece slipEsc00 piece).length) := rfl

theorem pieceState_stored {b : UInt8} {before : Decoder} (v : UInt8)
    (hframe : before.frame = (decodePiece slipEsc00 piece).take MTU)
    (htruncated : before.truncated =
      decide (MTU < (decodePiece slipEsc00 piece).length))
    (hescape : before.inEscape = false) (hsync : before.inSync = true)
    (hesc : b ≠ ESC)
    (hbyte : pieceByte slipEsc00 (piece.getLastD END) b = some v) :
    before.store v = pieceState slipEsc00 (piece ++ [b]) := by
  have hdecode : decodePiece slipEsc00 (piece ++ [b]) =
      decodePiece slipEsc00 piece ++ [v] := by
    rw [decodePiece_append, hbyte]
    rfl
  rcases Decoder.store_take v hframe htruncated with ⟨hstored, hoverflow⟩
  apply Decoder.ext_fields
  · rw [hstored, pieceState_frame, hdecode]
  · rw [Decoder.store_inEscape, hescape, pieceState_inEscape,
      List.getLastD_concat, decide_eq_false hesc]
  · rw [Decoder.store_inSync, hsync]
    rfl
  · rw [hoverflow, pieceState_truncated, hdecode]

/-- A byte other than END adds to the piece and completes no frame. -/
theorem slipDecode_piece {b : UInt8} (hend : b ≠ END) :
    slipDecode slipEsc00 (pieceState slipEsc00 piece) b =
      (pieceState slipEsc00 (piece ++ [b]), []) := by
  by_cases hesc : b = ESC
  · have hdecode : decodePiece slipEsc00 (piece ++ [ESC]) =
        decodePiece slipEsc00 piece := by
      rw [decodePiece_append, pieceByte, if_pos rfl]
      exact List.append_nil _
    rw [hesc, slipDecode_esc slipEsc00 rfl]
    congr 1
    apply Decoder.ext_fields
    · rw [pieceState_frame slipEsc00 (piece ++ [ESC]), hdecode]
      rfl
    · rw [pieceState_inEscape, List.getLastD_concat, decide_eq_true rfl]
    · rfl
    · rw [pieceState_truncated slipEsc00 (piece ++ [ESC]), hdecode]
      rfl
  · by_cases hbefore : piece.getLastD END = ESC
    · have hescape : (pieceState slipEsc00 piece).inEscape = true :=
        decide_eq_true hbefore
      have hbyte : pieceByte slipEsc00 (piece.getLastD END) b =
          some (escapeValue slipEsc00 b) := by
        rw [pieceByte, if_neg hesc, if_pos hbefore, escapeValue_eq]
      rw [slipDecode_escaped slipEsc00 rfl hescape hend hesc]
      congr 1
      exact pieceState_stored slipEsc00 piece _ rfl rfl rfl rfl hesc hbyte
    · have hescape : (pieceState slipEsc00 piece).inEscape = false :=
        decide_eq_false hbefore
      have hbyte : pieceByte slipEsc00 (piece.getLastD END) b = some b := by
        rw [pieceByte, if_neg hesc, if_neg hbefore]
      rw [slipDecode_plain slipEsc00 rfl hescape hend hesc]
      congr 1
      exact pieceState_stored slipEsc00 piece _ rfl rfl hescape rfl hesc hbyte

theorem pieceState_nil : pieceState slipEsc00 [] = Decoder.idle :=
  Decoder.ext_fields rfl rfl rfl rfl

/-- The frame that the END behind a piece completes. -/
theorem pieceState_openFrame :
    (pieceState slipEsc00 piece).openFrame =
      [decodePiece slipEsc00 piece].filter
        (fun frame => 1 ≤ frame.length ∧ frame.length ≤ MTU) := by
  have hempty : decodePiece slipEsc00 piece = [] <->
      (decodePiece slipEsc00 piece).length = 0 := List.length_eq_zero_iff.symm
  have hmtu : 0 < MTU := by decide
  by_cases hfits : (decodePiece slipEsc00 piece).length ≤ MTU
  · have htake : (decodePiece slipEsc00 piece).take MTU =
        decodePiece slipEsc00 piece := List.take_of_length_le hfits
    by_cases hnil : decodePiece slipEsc00 piece = []
    · simp [Decoder.openFrame, pieceState, hnil]
    · have hpos : 1 ≤ (decodePiece slipEsc00 piece).length :=
        List.length_pos_of_ne_nil hnil
      simp [Decoder.openFrame, pieceState, htake, hnil, hfits, hpos]
  · simp [Decoder.openFrame, pieceState, hfits]

end Piece

/-!
## The stream
-/

theorem pieceState_syncOwnsFrame (slipEsc00 : Bool) (piece : List UInt8) :
    (pieceState slipEsc00 piece).SyncOwnsFrame := by
  intro h
  cases h

theorem framesIn_append (slipEsc00 : Bool) (pieces : List (List UInt8))
    (piece : List UInt8) :
    framesIn slipEsc00 (pieces ++ [piece]) =
      framesIn slipEsc00 pieces ++ (pieceState slipEsc00 piece).openFrame := by
  rw [framesIn, List.map_append, List.filter_append, ← framesIn,
    pieceState_openFrame]
  rfl

/-- Behind an END: the frames of the closed pieces have been handed over, and the
state is that of the open one. -/
theorem foldl_decodeByte_idle (slipEsc00 : Bool) (bytes : List UInt8) :
    bytes.foldl (decodeByte slipEsc00) (Decoder.idle, []) =
      (pieceState slipEsc00 (openPiece END bytes),
        framesIn slipEsc00 (closedPieces END bytes)) := by
  induction bytes using List.reverseRecOn with
  | nil =>
      rw [openPiece_nil, closedPieces_nil, pieceState_nil]
      rfl
  | append_singleton bytes b ih =>
      rw [List.foldl_append, ih, List.foldl_cons, List.foldl_nil]
      by_cases hend : b = END
      · rw [hend, decodeByte_end (pieceState_syncOwnsFrame slipEsc00 _),
          openPiece_separator, closedPieces_separator, framesIn_append,
          pieceState_nil]
      · rw [decodeByte, slipDecode_piece slipEsc00 _ hend, List.append_nil,
          openPiece_other hend, closedPieces_other hend]

/-- Before the first END nothing is kept. -/
theorem foldl_decodeByte_drained (slipEsc00 : Bool) {bytes : List UInt8}
    (hend : END ∉ bytes) :
    bytes.foldl (decodeByte slipEsc00) (Decoder.drained, []) =
      (Decoder.drained, []) := by
  induction bytes with
  | nil => rfl
  | cons b rest ih =>
      have hb : b ≠ END := fun h => hend (h ▸ List.mem_cons_self)
      have hstep : decodeByte slipEsc00 (Decoder.drained, []) b =
          (Decoder.drained, []) := by
        simp [decodeByte, slipDecode, Decoder.drained, hb]
      rw [List.foldl_cons, hstep]
      exact ih (fun h => hend (List.mem_cons_of_mem b h))

theorem decodeBytes_drained (slipEsc00 : Bool) (bytes : List UInt8) :
    (decodeBytes slipEsc00 Decoder.drained bytes).2 =
        framesOf slipEsc00 bytes ∧
      ((decodeBytes slipEsc00 Decoder.drained bytes).1 = Decoder.drained ∨
        exists piece : List UInt8,
          (decodeBytes slipEsc00 Decoder.drained bytes).1 =
            pieceState slipEsc00 piece) := by
  rw [decodeBytes, framesOf]
  by_cases hend : END ∈ bytes
  · rcases List.eq_append_cons_of_mem hend with ⟨front, more, hsplit, hfirst⟩
    have hstart : decodeByte slipEsc00 (Decoder.drained, []) END =
        (Decoder.idle, []) :=
      decodeByte_end (fun _ => rfl) []
    have hbehind : (bytes.dropWhile (fun b => b ≠ END)).tail = more := by
      rw [hsplit, List.dropWhile_append_of_pos]
      · simp
      · intro b hb
        have hne : b ≠ END := fun h => hfirst (h ▸ hb)
        simpa using hne
    rw [hbehind, hsplit, List.foldl_append,
      foldl_decodeByte_drained slipEsc00 hfirst, List.foldl_cons, hstart,
      foldl_decodeByte_idle]
    exact ⟨rfl, Or.inr ⟨_, rfl⟩⟩
  · have hnone : bytes.dropWhile (fun b => b ≠ END) = [] := by
      apply List.dropWhile_eq_nil_iff.mpr
      intro b hb
      have hne : b ≠ END := fun h => hend (h ▸ hb)
      simpa using hne
    rw [hnone, foldl_decodeByte_drained slipEsc00 hend]
    exact ⟨rfl, Or.inl rfl⟩

theorem handleReads_eq (slipEsc00 : Bool) (reads : List (List UInt8)) :
    forall b : Decoder,
      handleReads slipEsc00 b reads =
        decodeBytes slipEsc00 b reads.flatten := by
  induction reads with
  | nil =>
      intro b
      rfl
  | cons buf reads ih =>
      intro b
      have hsplit : decodeBytes slipEsc00 b (buf ++ reads.flatten) =
          reads.flatten.foldl (decodeByte slipEsc00)
            (decodeBytes slipEsc00 b buf) :=
        List.foldl_append
      rw [handleReads, ih, List.flatten_cons, hsplit, foldl_decodeByte]

/-- `slip_decode` hands over the frames of the grammar, whatever a `read`
returns of the bytes, and keeps within `frame`. -/
theorem handleReads_frames (slipEsc00 : Bool) (reads : List (List UInt8)) :
    (handleReads slipEsc00 Decoder.drained reads).2 =
        framesOf slipEsc00 reads.flatten ∧
      forall front : List UInt8,
        (decodeBytes slipEsc00 Decoder.drained front).1.frame.length ≤ MTU ∧
          ((decodeBytes slipEsc00 Decoder.drained front).1.truncated = true ->
            (decodeBytes slipEsc00 Decoder.drained front).1.frame.length =
              MTU) := by
  rw [handleReads_eq]
  refine ⟨(decodeBytes_drained slipEsc00 reads.flatten).left, ?_⟩
  intro front
  refine ⟨(decodeBytes slipEsc00 Decoder.drained front).1.frame_le, ?_⟩
  intro htruncated
  rcases (decodeBytes_drained slipEsc00 front).right with hstate | ⟨piece, hstate⟩
  · rw [hstate] at htruncated
    cases htruncated
  · rw [hstate] at htruncated ⊢
    have hlong : MTU < (decodePiece slipEsc00 piece).length :=
      of_decide_eq_true htruncated
    rw [pieceState_frame, List.length_take]
    omega

/-- An escape that dangles, one that is repeated, a frame of one byte, an empty
one and one that is not finished. -/
example :
    framesOf true [0x41, END, ESC, END, ESC, ESC, ESC_END, END, END, 0x42] =
      [[END]] := by
  decide

end Slip
end Z80Tcpip
