import Z80Tcpip.Foundation.Cutting
import Z80Tcpip.Irc.RoundTrip

/-!
# Lines from the server

`rx_char` collects a line in `rxline` without its CR bytes and without what does
not fit.  What stands in `rxline` is thus a function of the bytes behind the
last LF, however these were cut into segments.
-/

namespace Z80Tcpip
namespace Irc

open Foundation
open Client

/-- What `rx_char` keeps of a line. -/
def kept (text : List UInt8) : List UInt8 :=
  (text.filter (fun c => c != 13)).take (RX_LINE - 1)

theorem kept_cr (text : List UInt8) : kept (text ++ [13]) = kept text := by
  rw [kept, List.filter_append, List.filter_cons_of_neg (by decide),
    List.filter_nil, List.append_nil, kept]

theorem kept_append {c : UInt8} (hc : c ≠ 13) (text : List UInt8) :
    kept (text ++ [c]) =
      if (kept text).length < RX_LINE - 1 then kept text ++ [c]
      else kept text := by
  have hfilter : (text ++ [c]).filter (fun c => c != 13) =
      text.filter (fun c => c != 13) ++ [c] := by
    have hkeep : (c != 13) = true := bne_iff_ne.mpr hc
    rw [List.filter_append, List.filter_singleton, hkeep, cond_true]
  unfold kept
  rw [hfilter, List.length_take]
  generalize text.filter (fun c => c != 13) = line
  by_cases hroom : line.length < RX_LINE - 1
  · rw [if_pos (by omega), List.take_of_length_le (Nat.le_of_lt hroom),
      List.take_of_length_le]
    rw [List.length_append, List.length_singleton]
    exact hroom
  · rw [if_neg (by omega), List.take_append_of_le_length
      (Nat.le_of_not_lt hroom)]

/-- A line without CR that fits is kept whole. -/
theorem kept_of_fits {text : List UInt8} (hcr : (13 : UInt8) ∉ text)
    (hfit : text.length ≤ RX_LINE - 1) : kept text = text := by
  have hfilter : text.filter (fun c => c != 13) = text := by
    rw [List.filter_eq_self]
    intro c hc
    rw [bne_iff_ne]
    intro heq
    rw [heq] at hc
    exact hcr hc
  rw [kept, hfilter, List.take_of_length_le hfit]

/-!
## The unfinished line
-/

/-- A byte of a line joins what is kept of it. -/
theorem rxChar_kept {c : UInt8} (hlf : c ≠ 10) {s : State}
    {text : List UInt8} (hs : s.rxline = kept text) :
    rxChar s c = { s with rxline := kept (text ++ [c]) } := by
  rw [rxChar]
  by_cases hcr : c = 13
  · rw [if_pos hcr, hcr, kept_cr, <- hs]
  · rw [if_neg hcr, if_neg hlf, kept_append hcr, <- hs]
    split_ifs
    · rfl
    · rfl

theorem showData_kept (part : List UInt8) :
    forall {s : State} {text : List UInt8}, (10 : UInt8) ∉ part ->
      s.rxline = kept text ->
        showData part s = { s with rxline := kept (text ++ part) } := by
  induction part with
  | nil =>
      intro s text _ hs
      rw [List.append_nil, <- hs]
      rfl
  | cons c part ih =>
      intro s text hpart hs
      have hlf : c ≠ 10 := by
        intro heq
        rw [heq] at hpart
        exact hpart List.mem_cons_self
      have hrest : (10 : UInt8) ∉ part := fun hmem =>
        hpart (List.mem_cons_of_mem c hmem)
      show showData part (rxChar s c) = _
      rw [rxChar_kept hlf hs, ih hrest rfl, List.append_assoc,
        List.singleton_append]

/-- The LF hands the line over, up to a NUL in it. -/
theorem showData_lineFeed {s : State} {text : List UInt8}
    (hs : s.rxline = kept text) :
    showData [10] s =
      handleServerLine (cString (kept text))
        (readOff (cString (kept text)) s) := by
  show rxChar s 10 = _
  rw [rxChar, if_neg (by decide), if_pos rfl, hs]
  rfl

/-- A line with its LF, at the beginning of a line. -/
theorem showData_text {s : State} {text : List UInt8}
    (htext : (10 : UInt8) ∉ text) (hs : s.rxline = []) :
    showData (text ++ [10]) s =
      handleServerLine (cString (kept text))
        (readOff (cString (kept text)) s) := by
  have hpart := showData_kept text (s := s) htext
    (show s.rxline = kept [] from hs)
  rw [List.nil_append] at hpart
  rw [showData_append, hpart, showData_lineFeed rfl]
  rfl

end Irc
end Z80Tcpip
