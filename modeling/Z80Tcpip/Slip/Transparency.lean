import Z80Tcpip.Slip.BridgeDecoder

/-!
# The two encoders

`send_packet` and `slip_encode` list the cases of their `switch` in different
orders.  They emit the same frame, and it is transparent: reserved bytes of the
packet never appear as themselves.
-/

namespace Z80Tcpip
namespace Slip

open Foundation

/-- The size of the array that `slip_encode` fills. -/
def SLIP_MAX : Nat := 2 * MTU + 2

def EscapeCode (slipEsc00 : Bool) (k : UInt8) : Prop :=
  k = ESC_END ∨ k = ESC_ESC ∨ (slipEsc00 = true ∧ k = ESC_ZER)

/-- A frame for `p` in which END stands at both ends only and every ESC has a
code behind it. -/
structure Transparent (slipEsc00 : Bool) (p frame : List UInt8) : Prop where
  delimited : exists body : List UInt8,
    frame = END :: (body ++ [END]) ∧ END ∉ body
  escapes : forall front rest : List UInt8, frame = front ++ ESC :: rest ->
    exists (k : UInt8) (more : List UInt8),
      rest = k :: more ∧ EscapeCode slipEsc00 k
  no_zero : slipEsc00 = true -> ZER ∉ frame
  length_le : frame.length ≤ 2 * p.length + 2

theorem escapeCode_of_slipCode {slipEsc00 : Bool} {b k : UInt8}
    (h : slipCode slipEsc00 b = some k) : EscapeCode slipEsc00 k := by
  rcases slipCode_cases h with ⟨_, hk⟩ | ⟨_, hk⟩ | ⟨hesc00, _, hk⟩
  · exact Or.inl hk
  · exact Or.inr (Or.inl hk)
  · exact Or.inr (Or.inr ⟨hesc00, hk⟩)

theorem slipCode_ne_zer {slipEsc00 : Bool} {b k : UInt8}
    (h : slipCode slipEsc00 b = some k) : k ≠ ZER := by
  rcases slipCode_cases h with ⟨_, hk⟩ | ⟨_, hk⟩ | ⟨_, _, hk⟩
  · rw [hk]
    decide
  · rw [hk]
    decide
  · rw [hk]
    decide

theorem zer_not_mem_frame (p : List UInt8) :
    ZER ∉ (slipStuffing true).frame p := by
  have hcoded : (slipStuffing true).code ZER ≠ none := by
    show slipCode true ZER ≠ none
    decide
  have hbody : ZER ∉ (slipStuffing true).stuff p :=
    (slipStuffing true).not_mem_stuff hcoded slipCode_ne_zer zer_ne_esc p
  intro h
  rcases List.mem_cons.mp h with hstart | hrest
  · exact zer_ne_end hstart
  · rcases List.mem_append.mp hrest with hmem | hstop
    · exact hbody hmem
    · exact zer_ne_end (List.mem_singleton.mp hstop)

theorem transparent_frame (slipEsc00 : Bool) (p : List UInt8) :
    Transparent slipEsc00 p ((slipStuffing slipEsc00).frame p) := by
  constructor
  case delimited =>
    exact ⟨(slipStuffing slipEsc00).stuff p, rfl,
      (slipStuffing slipEsc00).stop_not_mem_stuff p⟩
  case escapes =>
    intro front rest h
    have htail : ESC ∉ [END] := by decide
    match front with
    | [] =>
        injection h with hstart _
        exact absurd hstart end_ne_esc
    | _ :: front =>
        injection h with _ hbody
        rcases (slipStuffing slipEsc00).code_behind_esc htail hbody with
          ⟨b, k, more, hcode, hrest⟩
        exact ⟨k, more, hrest, escapeCode_of_slipCode hcode⟩
  case no_zero =>
    intro hesc00
    rw [hesc00]
    exact zer_not_mem_frame p
  case length_le => exact (slipStuffing slipEsc00).frame_length_le p

/-- Both encoders emit the same transparent frame, another one for every packet,
and it fits into the array for a packet of at most `MTU` bytes. -/
theorem encoders_transparent (slipEsc00 : Bool) (p : List UInt8) :
    sendPacket slipEsc00 p = slipEncode slipEsc00 p ∧
      Transparent slipEsc00 p (slipEncode slipEsc00 p) ∧
      (forall q : List UInt8,
        slipEncode slipEsc00 q = slipEncode slipEsc00 p -> q = p) ∧
      (p.length ≤ MTU -> (slipEncode slipEsc00 p).length ≤ SLIP_MAX) := by
  have hframe := transparent_frame slipEsc00 p
  rw [← slipEncode_eq_frame] at hframe
  refine ⟨?_, hframe, ?_, ?_⟩
  · rw [sendPacket_eq_frame, slipEncode_eq_frame]
  · intro q hq
    rw [slipEncode_eq_frame, slipEncode_eq_frame] at hq
    exact (slipStuffing slipEsc00).frame_injective hq
  · intro hlength
    have hle := hframe.length_le
    rw [SLIP_MAX]
    omega

end Slip
end Z80Tcpip
