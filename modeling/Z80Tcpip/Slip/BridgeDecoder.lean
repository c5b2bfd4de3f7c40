import Z80Tcpip.Slip.Codec

/-!
# The bridge's SLIP decoder

The decoder of slip-tun.c keeps four fields of `struct bridge` between bytes.
A frame is handed to `inject_frame` when its closing END arrives; the decoder
is reset by every END and, with the tx fifo, by `tx_drain`.
-/

namespace Z80Tcpip
namespace Slip

open Foundation

def MTU : Nat := 1500

/-- The decoder fields of `struct bridge`; `frame` holds the `frame_len` bytes
stored so far. -/
structure Decoder where
  frame : List UInt8
  inEscape : Bool
  inSync : Bool
  truncated : Bool
  frame_le : frame.length ≤ MTU
  deriving DecidableEq

/-- What `tx_drain` leaves behind. -/
def Decoder.drained : Decoder where
  frame := []
  inEscape := false
  inSync := false
  truncated := false
  frame_le := by decide

/-- The last three statements of `slip_decode`. -/
def Decoder.store (b : Decoder) (c : UInt8) : Decoder :=
  if h : b.frame.length = MTU then
    { b with truncated := true }
  else
    { b with
      frame := b.frame ++ [c]
      frame_le := by
        have hle := b.frame_le
        rw [List.length_append, List.length_singleton]
        omega }

/-- The inner `switch` of `slip_decode`: an unknown code is taken as it is. -/
def escapeValue (slipEsc00 : Bool) (c : UInt8) : UInt8 :=
  if c = ESC_END then END
  else if c = ESC_ESC then ESC
  else if slipEsc00 = true ∧ c = ESC_ZER then ZER
  else c

/-- slip-tun.c `slip_decode`, with the frames it hands to `inject_frame`. -/
def slipDecode (slipEsc00 : Bool) (b : Decoder) (c : UInt8) :
    Decoder × List (List UInt8) :=
  if b.inSync = false then
    if c = END then ({ b with inSync := true }, []) else (b, [])
  else if c = END then
    ({ b with frame := [], inEscape := false, truncated := false,
              frame_le := Nat.zero_le MTU },
      if b.truncated = true then []
      else if b.frame.length ≠ 0 then [b.frame]
      else [])
  else if c = ESC then
    ({ b with inEscape := true }, [])
  else if b.inEscape = true then
    ({ b with inEscape := false }.store (escapeValue slipEsc00 c), [])
  else
    (b.store c, [])

/-- The loop of `handle_tx`: `slip_decode` on each byte read, collecting what
goes to `inject_frame`. -/
def decodeByte (slipEsc00 : Bool) (s : Decoder × List (List UInt8))
    (c : UInt8) : Decoder × List (List UInt8) :=
  ((slipDecode slipEsc00 s.1 c).1, s.2 ++ (slipDecode slipEsc00 s.1 c).2)

def decodeBytes (slipEsc00 : Bool) (b : Decoder) (cs : List UInt8) :
    Decoder × List (List UInt8) :=
  cs.foldl (decodeByte slipEsc00) (b, [])

/-- The decoder states of a running bridge. -/
inductive Reachable (slipEsc00 : Bool) : Decoder -> Prop where
  | drained : Reachable slipEsc00 Decoder.drained
  | fed {b : Decoder} (c : UInt8) :
      Reachable slipEsc00 b -> Reachable slipEsc00 (slipDecode slipEsc00 b c).1

/-- The frames handed over already are kept in front. -/
theorem foldl_decodeByte (slipEsc00 : Bool) (cs : List UInt8) :
    forall s : Decoder × List (List UInt8),
      cs.foldl (decodeByte slipEsc00) s =
        ((decodeBytes slipEsc00 s.1 cs).1,
          s.2 ++ (decodeBytes slipEsc00 s.1 cs).2) := by
  induction cs with
  | nil =>
      intro s
      rw [decodeBytes, List.foldl_nil, List.foldl_nil, List.append_nil]
  | cons c rest ih =>
      intro s
      have hfirst : decodeBytes slipEsc00 s.1 (c :: rest) =
          rest.foldl (decodeByte slipEsc00) (decodeByte slipEsc00 (s.1, []) c) :=
        rfl
      rw [hfirst, List.foldl_cons, ih, ih (decodeByte slipEsc00 (s.1, []) c)]
      simp only [decodeByte, List.nil_append, List.append_assoc]

/-!
## One byte
-/

@[simp] theorem Decoder.store_inSync (b : Decoder) (c : UInt8) :
    (b.store c).inSync = b.inSync := by
  unfold Decoder.store
  split <;> rfl

@[simp] theorem Decoder.store_inEscape (b : Decoder) (c : UInt8) :
    (b.store c).inEscape = b.inEscape := by
  unfold Decoder.store
  split <;> rfl

theorem Decoder.store_of_lt {b : Decoder} (c : UInt8)
    (h : b.frame.length < MTU) :
    (b.store c).frame = b.frame ++ [c] ∧
      (b.store c).truncated = b.truncated := by
  unfold Decoder.store
  rw [dif_neg (Nat.ne_of_lt h)]
  exact ⟨rfl, rfl⟩

theorem slipDecode_end {slipEsc00 : Bool} {b : Decoder}
    (h : b.inSync = true) :
    slipDecode slipEsc00 b END =
      ({ b with frame := [], inEscape := false, truncated := false,
                frame_le := Nat.zero_le MTU },
        if b.truncated = true then []
        else if b.frame.length ≠ 0 then [b.frame]
        else []) := by
  simp [slipDecode, h]

theorem slipDecode_esc (slipEsc00 : Bool) {b : Decoder}
    (h : b.inSync = true) :
    slipDecode slipEsc00 b ESC = ({ b with inEscape := true }, []) := by
  simp [slipDecode, h]

theorem slipDecode_escaped (slipEsc00 : Bool) {b : Decoder} {c : UInt8}
    (hsync : b.inSync = true) (hescape : b.inEscape = true)
    (hend : c ≠ END) (hesc : c ≠ ESC) :
    slipDecode slipEsc00 b c =
      ({ b with inEscape := false }.store (escapeValue slipEsc00 c), []) := by
  simp [slipDecode, hsync, hescape, hend, hesc]

theorem slipDecode_plain (slipEsc00 : Bool) {b : Decoder} {c : UInt8}
    (hsync : b.inSync = true) (hescape : b.inEscape = false)
    (hend : c ≠ END) (hesc : c ≠ ESC) :
    slipDecode slipEsc00 b c = (b.store c, []) := by
  simp [slipDecode, hsync, hescape, hend, hesc]

/-!
## Reachable decoders

Bytes are only kept while in sync, so a decoder that is out of sync is the
drained one.
-/

def Decoder.SyncOwnsFrame (b : Decoder) : Prop :=
  b.inSync = false -> b = Decoder.drained

theorem slipDecode_inSync {slipEsc00 : Bool} {b : Decoder} (c : UInt8)
    (h : b.inSync = true) : (slipDecode slipEsc00 b c).1.inSync = true := by
  by_cases hend : c = END
  · rw [hend, slipDecode_end h]
    exact h
  · by_cases hesc : c = ESC
    · rw [hesc, slipDecode_esc slipEsc00 h]
      exact h
    · cases hescape : b.inEscape with
      | true =>
          rw [slipDecode_escaped slipEsc00 h hescape hend hesc]
          simpa using h
      | false =>
          rw [slipDecode_plain slipEsc00 h hescape hend hesc]
          simpa using h

theorem slipDecode_syncOwnsFrame {slipEsc00 : Bool} {b : Decoder} (c : UInt8)
    (h : b.SyncOwnsFrame) : (slipDecode slipEsc00 b c).1.SyncOwnsFrame := by
  intro hout
  cases hsync : b.inSync with
  | true =>
      rw [slipDecode_inSync c hsync] at hout
      cases hout
  | false =>
      by_cases hc : c = END
      · simp [slipDecode, hsync, hc] at hout
      · simpa [slipDecode, hsync, hc] using h hsync

theorem Reachable.syncOwnsFrame {slipEsc00 : Bool} {b : Decoder}
    (h : Reachable slipEsc00 b) : b.SyncOwnsFrame := by
  induction h with
  | drained =>
      intro _
      rfl
  | fed c _ ih => exact slipDecode_syncOwnsFrame c ih

/-!
## Decoding a stuffed payload
-/

/-- Between frames: the decoder after any END. -/
def Decoder.idle : Decoder where
  frame := []
  inEscape := false
  inSync := true
  truncated := false
  frame_le := by decide

/-- Inside a frame that fits so far, with no escape pending. -/
structure Decoder.Collecting (b : Decoder) (p : List UInt8) : Prop where
  frame_eq : b.frame = p
  inEscape_eq : b.inEscape = false
  inSync_eq : b.inSync = true
  truncated_eq : b.truncated = false

theorem Decoder.idle_collecting : Decoder.idle.Collecting [] where
  frame_eq := rfl
  inEscape_eq := rfl
  inSync_eq := rfl
  truncated_eq := rfl

theorem Decoder.Collecting.store {b : Decoder} {p : List UInt8}
    (h : b.Collecting p) (c : UInt8) (hp : p.length < MTU) :
    (b.store c).Collecting (p ++ [c]) := by
  have hlt : b.frame.length < MTU := by
    rw [h.frame_eq]
    exact hp
  rcases Decoder.store_of_lt c hlt with ⟨hframe, htruncated⟩
  exact
    { frame_eq := by rw [hframe, h.frame_eq]
      inEscape_eq := by rw [Decoder.store_inEscape, h.inEscape_eq]
      inSync_eq := by rw [Decoder.store_inSync, h.inSync_eq]
      truncated_eq := by rw [htruncated, h.truncated_eq] }

theorem escapeValue_of_slipCode {slipEsc00 : Bool} {b k : UInt8}
    (h : slipCode slipEsc00 b = some k) : escapeValue slipEsc00 k = b := by
  rcases slipCode_cases h with ⟨hb, hk⟩ | ⟨hb, hk⟩ | ⟨hesc00, hb, hk⟩
  · rw [hb, hk]
    rfl
  · rw [hb, hk]
    rfl
  · rw [hb, hk, hesc00]
    rfl

/-- The bytes that stand for one payload byte store that byte and hand nothing
over. -/
theorem foldl_decodeByte_stuffSymbol {slipEsc00 : Bool} {b : Decoder}
    {p : List UInt8} (h : b.Collecting p) (c : UInt8)
    (out : List (List UInt8)) :
    ((slipStuffing slipEsc00).stuffSymbol c).foldl
        (decodeByte slipEsc00) (b, out) = (b.store c, out) := by
  rcases (slipStuffing slipEsc00).stuffSymbol_cases c with
    ⟨k, hcode, hs⟩ | ⟨hcode, hs⟩
  · have hkend : k ≠ END := (slipStuffing slipEsc00).code_ne_stop hcode
    have hkesc : k ≠ ESC := (slipStuffing slipEsc00).code_ne_esc hcode
    have hfirst := slipDecode_esc slipEsc00 h.inSync_eq
    have hsecond :=
      slipDecode_escaped slipEsc00 (b := { b with inEscape := true })
        h.inSync_eq rfl hkend hkesc
    have hvalue : escapeValue slipEsc00 k = c := escapeValue_of_slipCode hcode
    have hsame : { b with inEscape := false } = b := by
      cases b
      have hfalse := h.inEscape_eq
      simp only at hfalse
      subst hfalse
      rfl
    rw [hs]
    show [ESC, k].foldl (decodeByte slipEsc00) (b, out) = (b.store c, out)
    simp [decodeByte, hfirst, hsecond, hvalue, hsame]
  · have hend : c ≠ END := (slipStuffing slipEsc00).ne_stop_of_code_none hcode
    have hesc : c ≠ ESC := (slipStuffing slipEsc00).ne_esc_of_code_none hcode
    have hstep :=
      slipDecode_plain slipEsc00 h.inSync_eq h.inEscape_eq
        hend hesc
    rw [hs]
    simp [decodeByte, hstep]

theorem foldl_decodeByte_stuff (slipEsc00 : Bool) {b : Decoder}
    (h : b.Collecting []) {p : List UInt8} (hp : p.length ≤ MTU)
    (out : List (List UInt8)) :
    exists b' : Decoder,
      ((slipStuffing slipEsc00).stuff p).foldl
          (decodeByte slipEsc00) (b, out) = (b', out) ∧ b'.Collecting p := by
  have hinv :=
    (slipStuffing slipEsc00).foldl_stuff_invariant (decodeByte slipEsc00)
      (fun q s => s.1.Collecting q ∧ s.2 = out) p
      (by
        intro q c rest s hsplit hs
        rcases s with ⟨d, out'⟩
        rcases hs with ⟨hd, hout⟩
        have hq : q.length < MTU := by
          rw [← hsplit, List.length_append, List.length_cons] at hp
          omega
        rw [foldl_decodeByte_stuffSymbol hd]
        exact ⟨hd.store c hq, hout⟩)
      (s := (b, out)) ⟨h, rfl⟩
  exact ⟨_, Prod.ext rfl hinv.right, hinv.left⟩

end Slip
end Z80Tcpip
