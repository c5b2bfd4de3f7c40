import Z80Tcpip.Chat.Questions

/-!
# The server that is asked for

The first line that is an address gives the address, and the first behind it that
is a port gives the port.  Without them the questions wait for more keys.
-/

namespace Z80Tcpip
namespace Chat

open Foundation
open Foundation.Program
open Client

/-!
## The questions
-/

/-- A number, whatever follows, that is not 0 modulo 2^16. -/
def PortText (line : List UInt8) (port : UInt16) : Prop :=
  exists digits rest : List UInt8, IsNumber digits ∧ line = digits ++ rest ∧
    ¬ IsDigit (charAt rest) ∧ port = UInt16.ofNat (numberValue digits) ∧
      port ≠ 0

theorem PortText.portOf_eq {line : List UInt8} {port : UInt16}
    (h : PortText line port) : portOf line = port := by
  rcases h with ⟨digits, rest, hdigits, rfl, hrest, rfl, _⟩
  unfold portOf
  rw [if_pos (charAt_number hdigits rest), parseNumber_digits hdigits hrest]

theorem portText_of_ne {line : List UInt8} (h : portOf line ≠ 0) :
    PortText line (portOf line) := by
  by_cases hdigit : IsDigit (charAt line)
  · rcases exists_number hdigit with ⟨digits, rest, hline, hdigits, hrest⟩
    refine ⟨digits, rest, hdigits, hline, hrest, ?_, h⟩
    unfold portOf
    rw [if_pos hdigit, hline, parseNumber_digits hdigits hrest]
  · exact absurd (if_neg hdigit) h

theorem askPort_answers (turns : Nat) :
    forall keys : List UInt16, keys.length < turns ->
      Ensures Idle (askPort turns keys)
        (fun r con => Idle con ∧
          Answered (MAX_INPUT + 2) PortText keys r.1 r.2)
        (fun _ => Unanswered (MAX_INPUT + 2) PortText keys) := by
  induction turns with
  | zero => exact fun _ hturns => absurd hturns (Nat.not_lt_zero _)
  | succ turns ih =>
      intro keys hturns
      refine ensures_printText (by decide) ?_
      refine ensures_bind ((readLine_reads (MAX_INPUT + 2) keys []).mono
        (fun _ hcon => hcon) (fun _ _ hr => hr)
        (fun _ hnone => unanswered_of_none hnone)) (fun r => ?_)
      intro con hr
      rcases hr with ⟨hcon, hread⟩
      show Outcome _ _ ((if portOf r.1 = 0 then askPort turns r.2
        else pure (portOf r.1, r.2)) con)
      by_cases hnone : portOf r.1 = 0
      · have hrefused : forall b : UInt16, ¬ PortText r.1 b := by
          intro b hport
          rcases hport with ⟨digits, rest, hdigits⟩
          exact hdigits.right.right.right.right
            ((PortText.portOf_eq ⟨digits, rest, hdigits⟩).symm.trans hnone)
        rw [if_pos hnone]
        refine ((ih r.2 ?_).mono (fun _ h => h) (fun _ _ hrest => ?_)
          (fun _ hwait => ?_)) con hcon
        · exact Nat.lt_of_lt_of_le hread.shorter (Nat.lt_succ_iff.mp hturns)
        · exact ⟨hrest.left, hrest.right.refusing hread hrefused⟩
        · exact hwait.refusing hread hrefused
      · rw [if_neg hnone]
        exact ⟨hcon, answered_first hread (portText_of_ne hnone)⟩

/-- The keys ask for this server and leave the rest to the chat. -/
def ServerAsked (keys : List UInt16) (server : Server)
    (rest : List UInt16) : Prop :=
  exists behind : List UInt16,
    Answered (MAX_INPUT + 2) AddressText keys server.ip behind ∧
      Answered (MAX_INPUT + 2) PortText behind server.port rest

/-- The keys give no address, or no port behind it. -/
def NoServer (keys : List UInt16) : Prop :=
  Unanswered (MAX_INPUT + 2) AddressText keys ∨
    exists (ip : List UInt8) (behind : List UInt16),
      Answered (MAX_INPUT + 2) AddressText keys ip behind ∧
        Unanswered (MAX_INPUT + 2) PortText behind

theorem askServer_answers (keys : List UInt16) :
    Ensures Idle (askServer keys)
      (fun r con => Idle con ∧ ServerAsked keys r.1 r.2)
      (fun _ => NoServer keys) := by
  have haddress : Ensures Idle
      (askAddress (keys.length + 1) keys [0, 0, 0, 0])
      (fun r con => Idle con ∧
        Answered (MAX_INPUT + 2) AddressText keys r.1 r.2)
      (fun _ => NoServer keys) :=
    (askAddress_answers (by decide) _ _ keys _ (Nat.lt_succ_self _)
      rfl).mono
      (fun _ h => h) (fun _ _ h => h) (fun _ hnone => Or.inl hnone)
  have hport : forall r : List UInt8 × List UInt16,
      Answered (MAX_INPUT + 2) AddressText keys r.1 r.2 ->
        Ensures Idle (askPort (r.2.length + 1) r.2)
          (fun r' con => Idle con ∧
            Answered (MAX_INPUT + 2) PortText r.2 r'.1 r'.2)
          (fun _ => NoServer keys) := by
    intro r hr
    exact (askPort_answers _ r.2 (Nat.lt_succ_self _)).mono (fun _ h => h)
      (fun _ _ h => h) (fun _ hnone => Or.inr ⟨r.1, r.2, hr, hnone⟩)
  unfold askServer
  refine ensures_printText (by decide) (ensures_printText (by decide) ?_)
  refine ensures_bind haddress (fun r => ?_)
  intro con hr
  refine ensures_bind (hport r hr.right) (fun r' => ?_) con hr.left
  intro con' hr'
  have hconnecting : Ensures Idle
      (do
        printText (ascii "\nConnecting ...\n")
        pure (Server.mk r.1 r'.1, r'.2))
      (fun r con => Idle con ∧ ServerAsked keys r.1 r.2)
      (fun _ => NoServer keys) :=
    ensures_printText (by decide)
      (ensures_pure (fun _ h => ⟨h, r.2, hr.right, hr'.right⟩))
  exact hconnecting con' hr'.left

end Chat
end Z80Tcpip
