import Z80Tcpip.Irc.TypedLines

/-!
# A PONG for every PING

The parser parks a PING in one flag and one buffer, and `flush_pending` answers
it later.  Every PING is answered exactly when none of them is parked while
another one still is.
-/

namespace Z80Tcpip
namespace Irc

open Foundation
open Client

variable {ν : Type}

/-!
## PINGs received and PONGs sent
-/

def pingsHandled (handled : List Handled) : List (List UInt8) :=
  handled.filterMap (fun h => pingArg h.line)

def pongPayload : Event State ν -> Option (List UInt8)
  | .payload .pong _ bytes => some bytes
  | _ => none

/-- The payloads that `flush_pending` has passed to `tcp_send` for a PING. -/
def pongsSent (trace : List (Event State ν)) : List (List UInt8) :=
  trace.filterMap pongPayload

/-- The answer to a PING: its first parameter, cut to 63 characters. -/
def pongLine (arg : List UInt8) : List UInt8 :=
  ascii "PONG :" ++ arg.take 63 ++ CRLF

/-- A PING that is parked while another one is. -/
def Overwrites (h : Handled) : Prop :=
  pingArg h.line ≠ none ∧ h.pongPending = true

instance (h : Handled) : Decidable (Overwrites h) :=
  inferInstanceAs (Decidable (_ ∧ _))

/-- The PONG that is still to be sent. -/
def parked (s : State) : List (List UInt8) :=
  if s.pongPending = true then [ascii "PONG :" ++ s.pongArg ++ CRLF] else []

/-!
## The invariant
-/

/-- The PONGs sent, those on their way and the parked one, against the PINGs
handled. -/
structure Answers (onTheWay : List (List UInt8)) (s : State)
    (t : List (Event State ν)) : Prop where
  count : (pongsSent t).length + onTheWay.length + (parked s).length +
    s.handled.countP (fun h => decide (Overwrites h)) =
      (pingsHandled s.handled).length
  same : s.handled.countP (fun h => decide (Overwrites h)) = 0 ->
    pongsSent t ++ onTheWay ++ parked s =
      (pingsHandled s.handled).map pongLine
  arg_length : s.pongArg.length ≤ 63

theorem Answers.congr {onTheWay : List (List UInt8)} {s s' : State}
    {t t' : List (Event State ν)} (h : Answers onTheWay s t)
    (ht : pongsSent t' = pongsSent t) (harg : s'.pongArg = s.pongArg)
    (hpending : s'.pongPending = s.pongPending)
    (hhandled : s'.handled = s.handled) : Answers onTheWay s' t' := by
  have hparked : parked s' = parked s := by
    rw [parked, parked, harg, hpending]
  rcases h with ⟨hcount, hsame, hlength⟩
  constructor
  · rw [ht, hparked, hhandled]
    exact hcount
  · rw [ht, hparked, hhandled]
    exact hsame
  · rw [harg]
    exact hlength

theorem Answers.onlyShows {onTheWay : List (List UInt8)} {s s' : State}
    {t : List (Event State ν)} (h : Answers onTheWay s t)
    (hshows : OnlyShows s s') : Answers onTheWay s' t :=
  h.congr rfl hshows.pongArg hshows.pongPending hshows.handled

theorem Noted.pong {line : List UInt8} {s s' : State} (h : Noted line s s') :
    s'.pongArg = s.pongArg ∧ s'.pongPending = s.pongPending ∧
      s'.handled = s.handled := by
  cases h <;> exact ⟨rfl, rfl, rfl⟩

/-- A line other than PING changes nothing about the answers, -/
theorem Answers.other {onTheWay : List (List UInt8)} {s s' : State}
    {t : List (Event State ν)} (h : Answers onTheWay s t) {line : List UInt8}
    (hline : pingArg line = none) (harg : s'.pongArg = s.pongArg)
    (hpending : s'.pongPending = s.pongPending)
    (hhandled : s'.handled = (readOff line s).handled) :
    Answers onTheWay s' t := by
  have hparked : parked s' = parked s := by
    rw [parked, parked, harg, hpending]
  have hpings : pingsHandled s'.handled = pingsHandled s.handled := by
    rw [hhandled, readOff, pingsHandled, List.filterMap_append]
    simp [pingsHandled, hline]
  have hcountP : s'.handled.countP (fun h => decide (Overwrites h)) =
      s.handled.countP (fun h => decide (Overwrites h)) := by
    rw [hhandled, readOff, List.countP_append]
    simp [Overwrites, hline]
  rcases h with ⟨hcount, hsame, hlength⟩
  constructor
  · rw [hparked, hpings, hcountP]
    exact hcount
  · rw [hparked, hpings, hcountP]
    exact hsame
  · rw [harg]
    exact hlength

/-- and a PING is parked, or overwrites the one that is. -/
theorem Answers.ping {onTheWay : List (List UInt8)} {s : State}
    {t : List (Event State ν)} (h : Answers onTheWay s t)
    {line arg : List UInt8} (hline : pingArg line = some arg) :
    Answers onTheWay
      { readOff line s with
        pongArg := strCopy arg PONG_ARG
        pongPending := true } t := by
  have hpings : pingsHandled (readOff line s).handled =
      pingsHandled s.handled ++ [arg] := by
    rw [readOff, pingsHandled, List.filterMap_append]
    simp [pingsHandled, hline]
  have hcountP : (readOff line s).handled.countP
      (fun h => decide (Overwrites h)) =
        s.handled.countP (fun h => decide (Overwrites h)) +
          (if s.pongPending = true then 1 else 0) := by
    rw [readOff, List.countP_append]
    simp [Overwrites, hline, List.countP_cons]
  have hcut : (strCopy arg PONG_ARG).length ≤ 63 := by
    rw [strCopy, List.length_take]
    exact Nat.min_le_left _ _
  rcases h with ⟨hcount, hsame, _⟩
  cases hpending : s.pongPending with
  | true =>
      rw [hpending, if_pos rfl] at hcountP
      rw [parked, hpending, if_pos rfl] at hcount
      constructor
      · show _ + _ + 1 + (readOff line s).handled.countP _ =
          (pingsHandled (readOff line s).handled).length
        rw [hcountP, hpings, List.length_append, ← hcount]
        simp only [List.length_singleton]
        omega
      · show (readOff line s).handled.countP _ = 0 -> _
        rw [hcountP]
        intro hzero
        omega
      · exact hcut
  | false =>
      have hnone : parked s = [] := by
        rw [parked, hpending]
        exact if_neg (by decide)
      rw [hpending, if_neg (by decide), Nat.add_zero] at hcountP
      rw [hnone] at hcount hsame
      constructor
      · show _ + _ + 1 + (readOff line s).handled.countP _ =
          (pingsHandled (readOff line s).handled).length
        rw [hcountP, hpings, List.length_append, ← hcount]
        simp only [List.length_nil, List.length_singleton]
        omega
      · show (readOff line s).handled.countP _ = 0 ->
          _ ++ [ascii "PONG :" ++ strCopy arg PONG_ARG ++ CRLF] =
            (pingsHandled (readOff line s).handled).map pongLine
        rw [hcountP, hpings, List.map_append]
        intro hzero
        have hold := hsame hzero
        rw [List.append_nil] at hold
        rw [hold]
        rfl
      · exact hcut

theorem Answers.handleLine {onTheWay : List (List UInt8)} {s : State}
    {t : List (Event State ν)} (h : Answers onTheWay s t)
    (line : List UInt8) :
    Answers onTheWay (handleServerLine line (readOff line s)) t := by
  rcases handleServerLine_cases line (readOff line s) with
    ⟨arg, hline, heq⟩ | ⟨hline, noted, entries, hnoted, heq⟩
  · rw [heq]
    exact h.ping hline
  · rcases hnoted.pong with ⟨harg, hpending, hhandled⟩
    rw [heq]
    exact (h.other hline harg hpending hhandled).onlyShows
      (logEntries_onlyShows entries noted)

theorem Answers.rxChar {onTheWay : List (List UInt8)} {s : State}
    {t : List (Event State ν)} (h : Answers onTheWay s t) (c : UInt8) :
    Answers onTheWay (rxChar s c) t := by
  unfold Irc.rxChar
  split
  · exact h
  · split
    · exact h.handleLine (cString s.rxline)
    · split
      · exact h.congr rfl rfl rfl rfl
      · exact h

theorem Answers.showData {onTheWay : List (List UInt8)}
    {t : List (Event State ν)} (data : List UInt8) :
    forall {s : State}, Answers onTheWay s t ->
      Answers onTheWay (showData data s) t := by
  induction data with
  | nil => exact fun h => h
  | cons c rest ih => exact fun h => ih (h.rxChar c)

/-!
## Runs
-/

/-- The PONGs sent answer the PINGs one to one, if and only if none of them has
been overwritten. -/
def AllAnswered (t : List (Event State ν)) (s : State) : Prop :=
  s.pongPending = false ->
    (pongsSent t = (pingsHandled s.handled).map pongLine <->
      forall h, h ∈ s.handled -> ¬ Overwrites h)

theorem Answers.allAnswered {s : State} {t : List (Event State ν)}
    (h : Answers [] s t) : AllAnswered t s := by
  intro hpending
  have hnone : parked s = [] := by
    rw [parked, hpending]
    exact if_neg (by decide)
  have hzero : s.handled.countP (fun h => decide (Overwrites h)) = 0 <->
      forall h, h ∈ s.handled -> ¬ Overwrites h := by
    simp only [List.countP_eq_zero, decide_eq_true_eq]
  rw [← hzero]
  constructor
  · intro hsame
    have hcount := h.count
    rw [hsame, hnone, List.length_map] at hcount
    simp only [List.length_nil] at hcount
    omega
  · intro hcount
    have hsame := h.same hcount
    rwa [hnone, List.append_nil, List.append_nil] at hsame

theorem pongsSent_append {t : List (Event State ν)} {e : Event State ν}
    (h : pongPayload e = none) : pongsSent (t ++ [e]) = pongsSent t := by
  rw [pongsSent, List.filterMap_append]
  simp [pongsSent, h]

theorem Answers.append {onTheWay : List (List UInt8)} {s : State}
    {t : List (Event State ν)} (h : Answers onTheWay s t)
    {e : Event State ν} (he : pongPayload e = none) :
    Answers onTheWay s (t ++ [e]) :=
  h.congr (pongsSent_append he) rfl rfl rfl

/-- A PONG on its way has been sent when its payload is in the trace. -/
theorem Answers.sent {bytes : List UInt8} {s : State}
    {t : List (Event State ν)} (h : Answers [bytes] s t)
    (pieces : List (List UInt8)) :
    Answers [] s (t ++ [.payload .pong pieces bytes]) := by
  have hsent : pongsSent (t ++ [.payload .pong pieces bytes]) =
      pongsSent t ++ [bytes] := by
    rw [pongsSent, List.filterMap_append]
    rfl
  rcases h with ⟨hcount, hsame, hlength⟩
  constructor
  · rw [hsent, List.length_append]
    exact hcount
  · rw [hsent, List.append_nil]
    exact hsame
  · exact hlength

/-- Between the commands `out[]` is empty. -/
def PongsKept (s : State) (t : List (Event State ν)) : Prop :=
  Answers [] s t ∧ s.out = [] ∧ AtReturns .flushPending AllAnswered t

/-- While a command is built and sent, the PONG in `out[]` is on its way. -/
def PongsKeptIn (origin : Origin) (s : State) (t : List (Event State ν)) :
    Prop :=
  Answers (if origin = .pong then [s.out ++ CRLF] else []) s t ∧
    AtReturns .flushPending AllAnswered t

/-- Between the commands any call may return. -/
theorem PongsKept.returned {s : State} {t : List (Event State ν)}
    (h : PongsKept s t) (call : Call) (net : ν) (windowOpen : Bool) :
    PongsKept s (t ++ [.returned call s net windowOpen]) := by
  rcases h with ⟨hanswers, hout, htraced⟩
  refine ⟨hanswers.append rfl, hout, htraced.append ?_⟩
  intro s' net' windowOpen' heq
  cases heq
  exact hanswers.allAnswered

/-- A command other than a PONG, and what stands in front of its `o_send`. -/
theorem PongsKept.begin {s s' : State} {t : List (Event State ν)}
    (h : PongsKept s t) {origin : Origin} (horigin : origin ≠ .pong)
    (harg : s'.pongArg = s.pongArg) (hpending : s'.pongPending = s.pongPending)
    (hhandled : s'.handled = s.handled) : PongsKeptIn origin s' t := by
  rcases h with ⟨hanswers, _, htraced⟩
  refine ⟨?_, htraced⟩
  rw [if_neg horigin]
  exact hanswers.congr rfl harg hpending hhandled

theorem PongsKept.displays {s s' : State} {t : List (Event State ν)}
    (h : PongsKept s t) (hshown : Displays s s') : PongsKept s' t := by
  rcases h with ⟨hanswers, hout, htraced⟩
  have hkeeps := hshown.keeps
  exact ⟨hanswers.congr rfl hkeeps.pongArg hkeeps.pongPending hkeeps.handled,
    hkeeps.out.trans hout, htraced⟩

end Irc
end Z80Tcpip
