import Z80Tcpip.Foundation.ByteStuffing

/-!
# SLIP encoders

Both ends of the serial line carry their own encoder: `send_packet` in
slip.c writes to the serial port byte by byte, `slip_encode` in slip-tun.c
fills an output array.  Both are instances of one stuffing scheme, with the
zero byte escaped as well in builds with `SLIP_ESC_00`.
-/

namespace Z80Tcpip
namespace Slip

open Foundation

def END : UInt8 := 0xC0
def ESC : UInt8 := 0xDB
def ESC_END : UInt8 := 0xDC
def ESC_ESC : UInt8 := 0xDD
def ZER : UInt8 := 0x00
def ESC_ZER : UInt8 := 0xDE

@[simp] theorem esc_ne_end : ESC ≠ END := by decide
@[simp] theorem end_ne_esc : END ≠ ESC := by decide
@[simp] theorem zer_ne_end : ZER ≠ END := by decide
@[simp] theorem zer_ne_esc : ZER ≠ ESC := by decide
@[simp] theorem end_ne_zer : END ≠ ZER := by decide
@[simp] theorem esc_ne_zer : ESC ≠ ZER := by decide

/-- The bytes that one round of the `switch` in `send_packet` puts. -/
def sendByte (slipEsc00 : Bool) (b : UInt8) : List UInt8 :=
  if b = END then [ESC, ESC_END]
  else if b = ESC then [ESC, ESC_ESC]
  else if slipEsc00 = true ∧ b = ZER then [ESC, ESC_ZER]
  else [b]

def sendBytes (slipEsc00 : Bool) : List UInt8 -> List UInt8
  | [] => []
  | b :: p => sendByte slipEsc00 b ++ sendBytes slipEsc00 p

/-- slip.c `send_packet`: what `rs232_put` receives, in order. -/
def sendPacket (slipEsc00 : Bool) (p : List UInt8) : List UInt8 :=
  [END] ++ sendBytes slipEsc00 p ++ [END]

/-- The loop of slip-tun.c `slip_encode`; `out` holds the `pos`
bytes stored so far. -/
def slipEncodeFrom (slipEsc00 : Bool) : List UInt8 -> List UInt8 -> List UInt8
  | [], out => out
  | b :: rest, out =>
      slipEncodeFrom slipEsc00 rest
        (if slipEsc00 = true ∧ b = ZER then out ++ [ESC] ++ [ESC_ZER]
        else if b = END then out ++ [ESC] ++ [ESC_END]
        else if b = ESC then out ++ [ESC] ++ [ESC_ESC]
        else out ++ [b])

def slipEncode (slipEsc00 : Bool) (p : List UInt8) : List UInt8 :=
  slipEncodeFrom slipEsc00 p [END] ++ [END]

/-!
## The common stuffing scheme
-/

def slipCode (slipEsc00 : Bool) (b : UInt8) : Option UInt8 :=
  if b = END then some ESC_END
  else if b = ESC then some ESC_ESC
  else if slipEsc00 = true ∧ b = ZER then some ESC_ZER
  else none

def slipUncode (slipEsc00 : Bool) (k : UInt8) : Option UInt8 :=
  if slipEsc00 = true ∧ k = ESC_ZER then some ZER
  else if k = ESC_END then some END
  else if k = ESC_ESC then some ESC
  else none

theorem slipCode_cases {slipEsc00 : Bool} {b k : UInt8}
    (h : slipCode slipEsc00 b = some k) :
    (b = END ∧ k = ESC_END) ∨ (b = ESC ∧ k = ESC_ESC) ∨
      (slipEsc00 = true ∧ b = ZER ∧ k = ESC_ZER) := by
  unfold slipCode at h
  by_cases hend : b = END
  · rw [if_pos hend] at h
    cases h
    exact Or.inl ⟨hend, rfl⟩
  · rw [if_neg hend] at h
    by_cases hesc : b = ESC
    · rw [if_pos hesc] at h
      cases h
      exact Or.inr (Or.inl ⟨hesc, rfl⟩)
    · rw [if_neg hesc] at h
      by_cases hzer : slipEsc00 = true ∧ b = ZER
      · rw [if_pos hzer] at h
        cases h
        exact Or.inr (Or.inr ⟨hzer.left, hzer.right, rfl⟩)
      · rw [if_neg hzer] at h
        cases h

theorem slipUncode_of_slipCode {slipEsc00 : Bool} {b k : UInt8}
    (h : slipCode slipEsc00 b = some k) : slipUncode slipEsc00 k = some b := by
  rcases slipCode_cases h with ⟨hb, hk⟩ | ⟨hb, hk⟩ | ⟨hesc00, hb, hk⟩
  · subst hb hk
    cases slipEsc00 <;> rfl
  · subst hb hk
    cases slipEsc00 <;> rfl
  · subst hb hk hesc00
    rfl

/-- RFC 1055 stuffing, extended by the zero byte when `SLIP_ESC_00` is
defined. -/
def slipStuffing (slipEsc00 : Bool) : Stuffing UInt8 where
  stop := END
  esc := ESC
  code := slipCode slipEsc00
  decode := slipUncode slipEsc00
  stop_coded := by
    simp [slipCode]
  esc_coded := by
    simp [slipCode]
  code_ne_stop := by
    intro b k h
    rcases slipCode_cases h with ⟨_, hk⟩ | ⟨_, hk⟩ | ⟨_, _, hk⟩ <;>
      (rw [hk]; decide)
  code_ne_esc := by
    intro b k h
    rcases slipCode_cases h with ⟨_, hk⟩ | ⟨_, hk⟩ | ⟨_, _, hk⟩ <;>
      (rw [hk]; decide)
  decode_code := slipUncode_of_slipCode
  stop_ne_esc := by decide

theorem stuffSymbol_eq_sendByte (slipEsc00 : Bool) (b : UInt8) :
    (slipStuffing slipEsc00).stuffSymbol b = sendByte slipEsc00 b := by
  simp only [Stuffing.stuffSymbol, slipStuffing]
  unfold slipCode sendByte
  by_cases hend : b = END
  · simp [hend]
  · by_cases hesc : b = ESC
    · simp [hesc]
    · by_cases hzer : slipEsc00 = true ∧ b = ZER
      · simp [hzer]
      · simp [hend, hesc, hzer]

theorem sendBytes_eq_stuff (slipEsc00 : Bool) (p : List UInt8) :
    sendBytes slipEsc00 p = (slipStuffing slipEsc00).stuff p := by
  induction p with
  | nil => rfl
  | cons b rest ih =>
      rw [sendBytes, Stuffing.stuff_cons, stuffSymbol_eq_sendByte, ih]

theorem sendPacket_eq_frame (slipEsc00 : Bool) (p : List UInt8) :
    sendPacket slipEsc00 p = (slipStuffing slipEsc00).frame p := by
  rw [sendPacket, sendBytes_eq_stuff]
  rfl

theorem slipEncode_switch (slipEsc00 : Bool) (b : UInt8) (out : List UInt8) :
    (if slipEsc00 = true ∧ b = ZER then out ++ [ESC] ++ [ESC_ZER]
      else if b = END then out ++ [ESC] ++ [ESC_END]
      else if b = ESC then out ++ [ESC] ++ [ESC_ESC]
      else out ++ [b]) = out ++ sendByte slipEsc00 b := by
  unfold sendByte
  by_cases hzer : slipEsc00 = true ∧ b = ZER
  · simp [hzer]
  · by_cases hend : b = END
    · simp [hend]
    · by_cases hesc : b = ESC
      · simp [hesc]
      · simp [hzer, hend, hesc]

theorem slipEncodeFrom_eq (slipEsc00 : Bool) (p out : List UInt8) :
    slipEncodeFrom slipEsc00 p out =
      out ++ (slipStuffing slipEsc00).stuff p := by
  induction p generalizing out with
  | nil => simp [slipEncodeFrom]
  | cons b rest ih =>
      rw [slipEncodeFrom, slipEncode_switch, ih, Stuffing.stuff_cons,
        stuffSymbol_eq_sendByte, List.append_assoc]

theorem slipEncode_eq_frame (slipEsc00 : Bool) (p : List UInt8) :
    slipEncode slipEsc00 p = (slipStuffing slipEsc00).frame p := by
  rw [slipEncode, slipEncodeFrom_eq]
  rfl

end Slip
end Z80Tcpip
