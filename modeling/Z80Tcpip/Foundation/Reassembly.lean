import Mathlib.Data.List.Infix

/-!
# Putting a stream together

A stream comes in pieces, each with its place in the stream, in any order and
any number of times.  A receiver that keeps what it has, and takes of a piece
only the part that continues it, never leaves the stream.
-/

namespace Z80Tcpip
namespace Foundation

variable {alpha : Type}

/-- `data` stands at the place `off` of the stream. -/
def PieceAt (stream : List alpha) (off : Nat) (data : List alpha) : Prop :=
  data <+: stream.drop off

def reassemble (got : List alpha) (off : Nat) (data : List alpha) :
    List alpha :=
  if off ≤ got.length then got ++ data.drop (got.length - off) else got

theorem reassemble_grows (got : List alpha) (off : Nat) (data : List alpha) :
    got <+: reassemble got off data := by
  unfold reassemble
  split
  · exact List.prefix_append _ _
  · exact List.prefix_rfl

theorem PieceAt.append {stream data : List alpha} {off : Nat}
    (h : PieceAt stream off data) (more : List alpha) :
    PieceAt (stream ++ more) off data := by
  refine h.trans ?_
  rw [List.drop_append]
  exact List.prefix_append _ _

theorem pieceAt_end (front data : List alpha) :
    PieceAt (front ++ data) front.length data := by
  rw [PieceAt, List.drop_left]

theorem PieceAt.reassemble {stream got data : List alpha} {off : Nat}
    (h : PieceAt stream off data) (hgot : got <+: stream) :
    reassemble got off data <+: stream := by
  unfold Foundation.reassemble
  split
  case isFalse => exact hgot
  case isTrue hoff =>
    rcases hgot with ⟨rest, hrest⟩
    have hbehind : rest = (stream.drop off).drop (got.length - off) := by
      rw [List.drop_drop, ← hrest,
        show off + (got.length - off) = got.length by omega, List.drop_left]
    have hdata := List.IsPrefix.drop h (got.length - off)
    rw [← hbehind] at hdata
    rw [← hrest]
    exact (List.prefix_append_right_inj got).mpr hdata

end Foundation
end Z80Tcpip
