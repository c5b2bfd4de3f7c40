import Z80Tcpip.Slip.SpectrumRoundTrip

/-!
# Timeouts inside a frame

A read that times out makes `recv_packet` act on the previous byte once more.
This is harmless after an END while nothing is stored, after an ESC when the
timeouts come in pairs, and once the buffer is full, unless it turns the sense
of a second ESC or of an END.
-/

namespace Z80Tcpip
namespace Slip

open Foundation

/-- The bytes of a frame, each behind the number of timeouts before it. -/
def gapLine : List (Nat × UInt8) -> Line
  | [] => []
  | (k, b) :: rest => List.replicate k none ++ some b :: gapLine rest

/-- `k` timeouts after the byte `c` leave the state as it is, as far as the
buffer reaches.  The automaton `s` has read the bytes up to `c`. -/
def TimeoutsUnseen (len : Nat) (s : Rx) (c : UInt8) (k : Nat) : Prop :=
  k = 0 ∨
    (c = END ∧ s.decoded = []) ∨
      (c = ESC ∧ k % 2 = 0) ∨
        (c ≠ END ∧ c ≠ ESC ∧ len ≤ s.decoded.length)

/-- `k` timeouts between the bytes `c` and `b` change nothing.  Once the buffer
is full, an END may end the packet early, and a byte behind an ESC may be read
as it is. -/
def GapQuiet (len : Nat) (s : Rx) (c : UInt8) (k : Nat) (b : UInt8) : Prop :=
  TimeoutsUnseen len s c k ∨
    (len ≤ s.decoded.length ∧
      (c = END ∨ (c = ESC ∧ b ≠ END ∧ b ≠ ESC)))

/-- Every gap is quiet; `s` and `c` follow the bytes without the gaps. -/
def QuietGaps (slipEsc00 : Bool) (len : Nat) (s : Rx) (c : UInt8) :
    List (Nat × UInt8) -> Prop
  | [] => True
  | (k, b) :: rest =>
      GapQuiet len s c k b ∧
        match s.feed slipEsc00 b with
        | none => True
        | some s' => QuietGaps slipEsc00 len s' b rest

/-!
## Runs of timeouts
-/

theorem scan_none {slipEsc00 : Bool} {s s' : Rx} {c : UInt8} (rest : Line)
    (h : s.feed slipEsc00 c = some s') :
    scan slipEsc00 s c (none :: rest) = scan slipEsc00 s' c rest := by
  rw [scan, rs232Get_none, h]

theorem scan_timeouts_end (slipEsc00 : Bool) (k : Nat) (more : Line) :
    scan slipEsc00 Rx.start END (List.replicate k none ++ more) =
      scan slipEsc00 Rx.start END more := by
  induction k with
  | zero => rfl
  | succ k ih =>
      rw [List.replicate_succ, List.cons_append,
        scan_none _ (Rx.feed_end_empty slipEsc00)]
      exact ih

theorem scan_timeouts_plain (slipEsc00 : Bool) {c : UInt8} (hend : c ≠ END)
    (hesc : c ≠ ESC) (d : List UInt8) (k : Nat) (more : Line) :
    scan slipEsc00 { escaped := false, decoded := d } c
        (List.replicate k none ++ more) =
      scan slipEsc00
        { escaped := false, decoded := d ++ List.replicate k c } c more := by
  induction k generalizing d with
  | zero => simp
  | succ k ih =>
      rw [List.replicate_succ, List.cons_append,
        scan_none _ (Rx.feed_plain slipEsc00 d hend hesc), ih,
        List.append_assoc]
      rfl

/-- Each timeout after an ESC switches between the two reads of the loop. -/
theorem Rx.feed_esc_toggle (slipEsc00 : Bool) (s : Rx) :
    s.feed slipEsc00 ESC = some { s with escaped := !s.escaped } := by
  have hnoCode : slipUncode slipEsc00 ESC = none := by
    cases slipEsc00 <;> rfl
  cases s with
  | mk escaped d =>
      cases escaped with
      | true => simp [Rx.feed, hnoCode]
      | false => simp [Rx.feed]

theorem scan_timeouts_esc (slipEsc00 : Bool) (s : Rx) (k : Nat)
    (more : Line) :
    scan slipEsc00 s ESC (List.replicate k none ++ more) =
      scan slipEsc00
        (if k % 2 = 0 then s else { s with escaped := !s.escaped }) ESC
        more := by
  induction k generalizing s with
  | zero => rfl
  | succ k ih =>
      rw [List.replicate_succ, List.cons_append,
        scan_none _ (Rx.feed_esc_toggle slipEsc00 s), ih]
      rcases Nat.mod_two_eq_zero_or_one k with heven | hodd
      · rw [if_pos heven, if_neg (by omega)]
      · rw [if_neg (by omega), if_pos (by omega), Bool.not_not]

/-!
## Quiet gaps

The run with timeouts stays related to the run without them: the same escape
state, and the same bytes as far as the buffer reaches.
-/

theorem take_append_congr {n : Nat} {a b : List UInt8}
    (h : a.take n = b.take n) (x : List UInt8) :
    (a ++ x).take n = (b ++ x).take n := by
  have hlength := congrArg List.length h
  simp only [List.length_take] at hlength
  by_cases hn : a.length < n
  · rw [List.take_of_length_le (by omega), List.take_of_length_le (by omega)]
      at h
    rw [h]
  · rw [List.take_append_of_le_length (by omega),
      List.take_append_of_le_length (by omega), h]

structure SameSoFar (len : Nat) (s t : Rx) : Prop where
  escaped_eq : t.escaped = s.escaped
  take_eq : t.decoded.take len = s.decoded.take len

theorem SameSoFar.decoded_nil_iff {len : Nat} (hlen : 1 ≤ len) {s t : Rx}
    (h : SameSoFar len s t) : t.decoded = [] <-> s.decoded = [] := by
  have hlength := congrArg List.length h.take_eq
  simp only [List.length_take] at hlength
  constructor
  · intro ht
    rw [ht, List.length_nil] at hlength
    exact List.eq_nil_of_length_eq_zero (by omega)
  · intro hs
    rw [hs, List.length_nil] at hlength
    exact List.eq_nil_of_length_eq_zero (by omega)

/-- An escape is only ever pending right behind an ESC. -/
def EscapeFollowsEsc (s : Rx) (c : UInt8) : Prop :=
  s.escaped = true -> c = ESC

theorem Rx.feed_escapeFollowsEsc {slipEsc00 : Bool} {s s' : Rx} {b : UInt8}
    (h : s.feed slipEsc00 b = some s') : EscapeFollowsEsc s' b := by
  intro hescaped
  unfold Rx.feed at h
  split_ifs at h with h1 h2 h3 h4
  · cases h
    cases hescaped
  · cases h
    exact absurd hescaped h1
  · exact h4
  · cases h
    exact absurd hescaped h1

/-- Behind a byte other than END and ESC no escape is pending. -/
theorem Rx.feed_forgets (slipEsc00 : Bool) (s : Rx) {b : UInt8}
    (hend : b ≠ END) (hesc : b ≠ ESC) :
    exists s' : Rx, s.feed slipEsc00 b = some s' ∧ s'.escaped = false := by
  unfold Rx.feed
  by_cases hescaped : s.escaped = true
  · rw [if_pos hescaped]
    exact ⟨_, rfl, rfl⟩
  · rw [if_neg hescaped, if_neg hend, if_neg hesc]
    exact ⟨_, rfl, Bool.eq_false_iff.mpr hescaped⟩

theorem SameSoFar.feed (slipEsc00 : Bool) {len : Nat} (hlen : 1 ≤ len)
    {s t : Rx} (h : SameSoFar len s t) (b : UInt8) :
    (s.feed slipEsc00 b = none ∧ t.feed slipEsc00 b = none) ∨
      exists s' t' : Rx, s.feed slipEsc00 b = some s' ∧
        t.feed slipEsc00 b = some t' ∧ SameSoFar len s' t' := by
  have hnil := h.decoded_nil_iff hlen
  unfold Rx.feed
  rw [h.escaped_eq]
  by_cases hescaped : s.escaped = true
  · apply Or.inr
    simp only [if_pos hescaped]
    exact ⟨_, _, rfl, rfl, rfl, take_append_congr h.take_eq _⟩
  · simp only [if_neg hescaped]
    by_cases hend : b = END
    · simp only [if_pos hend]
      by_cases hs : s.decoded = []
      · apply Or.inr
        rw [if_pos hs, if_pos (hnil.mpr hs)]
        exact ⟨s, t, rfl, rfl, h⟩
      · apply Or.inl
        rw [if_neg hs, if_neg (fun ht => hs (hnil.mp ht))]
        exact ⟨rfl, rfl⟩
    · simp only [if_neg hend]
      apply Or.inr
      by_cases hesc : b = ESC
      · simp only [if_pos hesc]
        exact ⟨_, _, rfl, rfl, rfl, h.take_eq⟩
      · simp only [if_neg hesc]
        exact ⟨_, _, rfl, rfl, rfl, take_append_congr h.take_eq _⟩

theorem SameSoFar.timeouts (slipEsc00 : Bool) {len : Nat} (hlen : 1 ≤ len)
    {s t : Rx} (h : SameSoFar len s t) {c : UInt8}
    (hc : EscapeFollowsEsc s c) {k : Nat} (hk : TimeoutsUnseen len s c k)
    (more : Line) :
    exists t' : Rx, SameSoFar len s t' ∧
      scan slipEsc00 t c (List.replicate k none ++ more) =
        scan slipEsc00 t' c more := by
  rcases hk with hzero | ⟨hend, hnil⟩ | ⟨hesc, heven⟩ | ⟨hend, hesc, hfull⟩
  · refine ⟨t, h, ?_⟩
    rw [hzero]
    rfl
  · have htnil := (h.decoded_nil_iff hlen).mpr hnil
    have hescaped : t.escaped = false := by
      cases hs : s.escaped with
      | false => rw [h.escaped_eq, hs]
      | true => exact absurd (hend.symm.trans (hc hs)) end_ne_esc
    have ht : t = Rx.start := by
      cases t
      simp only at htnil hescaped
      rw [htnil, hescaped]
      rfl
    refine ⟨t, h, ?_⟩
    rw [hend, ht]
    exact scan_timeouts_end slipEsc00 k more
  · refine ⟨t, h, ?_⟩
    rw [hesc, scan_timeouts_esc, if_pos heven]
  · have hescaped : t.escaped = false := by
      cases hs : s.escaped with
      | false => rw [h.escaped_eq, hs]
      | true => exact absurd (hc hs) hesc
    have hlength := congrArg List.length h.take_eq
    simp only [List.length_take] at hlength
    refine ⟨{ t with decoded := t.decoded ++ List.replicate k c },
      ⟨h.escaped_eq, ?_⟩, ?_⟩
    · rw [List.take_append_of_le_length (by omega)]
      exact h.take_eq
    · cases t with
      | mk escaped d =>
          simp only at hescaped
          rw [hescaped]
          exact scan_timeouts_plain slipEsc00 hend hesc d k more

theorem Rx.feed_keeps {slipEsc00 : Bool} {s s' : Rx} {b : UInt8}
    (h : s.feed slipEsc00 b = some s') : s.decoded <+: s'.decoded := by
  unfold Rx.feed at h
  split_ifs at h
  · cases h
    exact List.prefix_append _ _
  · cases h
    exact List.prefix_refl _
  · cases h
    exact List.prefix_refl _
  · cases h
    exact List.prefix_append _ _

/-- What is stored stays stored. -/
theorem scan_keeps {slipEsc00 : Bool} {line : Line} :
    forall {s : Rx} {c : UInt8} {d : List UInt8} {rest : Line},
      scan slipEsc00 s c line = some (d, rest) -> s.decoded <+: d := by
  induction line with
  | nil =>
      intro s c d rest h
      cases h
  | cons a line ih =>
      intro s c d rest h
      rw [scan] at h
      cases hfeed : s.feed slipEsc00 (rs232Get c a) with
      | none =>
          rw [hfeed] at h
          cases h
          exact List.prefix_refl _
      | some s' =>
          rw [hfeed] at h
          exact (Rx.feed_keeps hfeed).trans (ih h)

theorem take_of_keeps {len : Nat} {a d : List UInt8} (h : a <+: d)
    (hfull : len ≤ a.length) : d.take len = a.take len := by
  rcases h with ⟨more, rfl⟩
  exact List.take_append_of_le_length hfull

/-- What `r` makes of the byte `b`: either it ends here, with what the run from
`s` without timeouts returns, or it goes on like that run. -/
def ReadsAlike (slipEsc00 : Bool) (len : Nat) (s : Rx) (b : UInt8)
    (more : Line) (r : Option (List UInt8 × Line)) : Prop :=
  ((s.feed slipEsc00 b = none ∨ len ≤ s.decoded.length) ∧
    exists (d : List UInt8) (rest : Line), r = some (d, rest) ∧
      d.take len = s.decoded.take len) ∨
    exists s' t' : Rx, s.feed slipEsc00 b = some s' ∧ SameSoFar len s' t' ∧
      r = scan slipEsc00 t' b more

theorem SameSoFar.readsAlike (slipEsc00 : Bool) {len : Nat} (hlen : 1 ≤ len)
    {s t : Rx} (h : SameSoFar len s t) (c b : UInt8) (more : Line) :
    ReadsAlike slipEsc00 len s b more
      (scan slipEsc00 t c (some b :: more)) := by
  rcases h.feed slipEsc00 hlen b with ⟨hs, ht⟩ | ⟨s', t', hs, ht, h'⟩
  · refine Or.inl ⟨Or.inl hs, t.decoded, more, ?_, h.take_eq⟩
    simp only [scan, rs232Get_some, ht]
  · exact Or.inr ⟨s', t', hs, h', scan_some _ _ ht⟩

/-- One byte behind its timeouts. -/
theorem SameSoFar.gap (slipEsc00 : Bool) {len : Nat} (hlen : 1 ≤ len)
    {s t : Rx} (h : SameSoFar len s t) {c : UInt8}
    (hc : EscapeFollowsEsc s c) {k : Nat} {b : UInt8}
    (hk : GapQuiet len s c k b) (more : Line) :
    ReadsAlike slipEsc00 len s b more
      (scan slipEsc00 t c (List.replicate k none ++ some b :: more)) := by
  rcases hk with hunseen | ⟨hfull, hend | ⟨hesc, hbend, hbesc⟩⟩
  · rcases h.timeouts slipEsc00 hlen hc hunseen (some b :: more) with
      ⟨t1, h1, htimeouts⟩
    rw [htimeouts]
    exact h1.readsAlike slipEsc00 hlen c b more
  · cases k with
    | zero => exact h.readsAlike slipEsc00 hlen c b more
    | succ k =>
        -- The first timeout reads the END again and ends the packet.
        have hescaped : t.escaped = false := by
          cases hs : s.escaped with
          | false => rw [h.escaped_eq, hs]
          | true => exact absurd (hend.symm.trans (hc hs)) end_ne_esc
        have hnil : t.decoded ≠ [] := by
          intro ht
          rw [(h.decoded_nil_iff hlen).mp ht, List.length_nil] at hfull
          omega
        have hfeed : t.feed slipEsc00 END = none := by
          unfold Rx.feed
          simp [hescaped, hnil]
        refine Or.inl ⟨Or.inr hfull, t.decoded,
          List.replicate k none ++ some b :: more, ?_, h.take_eq⟩
        rw [hend, List.replicate_succ, List.cons_append]
        simp only [scan, rs232Get_none, hfeed]
  · rcases Nat.mod_two_eq_zero_or_one k with heven | hodd
    · rw [hesc, scan_timeouts_esc, if_pos heven]
      exact h.readsAlike slipEsc00 hlen ESC b more
    · -- The two runs differ in the escape, and `b` is stored by neither.
      have hfull' : len ≤ t.decoded.length := by
        have hlength := congrArg List.length h.take_eq
        simp only [List.length_take] at hlength
        omega
      rcases Rx.feed_forgets slipEsc00 s hbend hbesc with ⟨s', hs, hs'⟩
      rcases Rx.feed_forgets slipEsc00 { t with escaped := !t.escaped } hbend
          hbesc with ⟨t', ht, ht'⟩
      refine Or.inr ⟨s', t', hs, ⟨ht'.trans hs'.symm, ?_⟩, ?_⟩
      · rw [take_of_keeps (Rx.feed_keeps ht) hfull',
          take_of_keeps (Rx.feed_keeps hs) hfull]
        exact h.take_eq
      · rw [hesc, scan_timeouts_esc, if_neg (by omega)]
        exact scan_some _ _ ht

theorem scan_quietGaps {slipEsc00 : Bool} {len : Nat} (hlen : 1 ≤ len)
    {gapped : List (Nat × UInt8)} {s t : Rx} {c : UInt8}
    (h : SameSoFar len s t) (hc : EscapeFollowsEsc s c)
    (hquiet : QuietGaps slipEsc00 len s c gapped)
    {d : List UInt8} {rest : Line}
    (hscan : scan slipEsc00 s c ((gapped.map Prod.snd).map some) =
      some (d, rest)) :
    exists (d' : List UInt8) (rest' : Line),
      scan slipEsc00 t c (gapLine gapped) = some (d', rest') ∧
        d'.take len = d.take len := by
  induction gapped generalizing s t c with
  | nil => cases hscan
  | cons gap more ih =>
      rcases gap with ⟨k, b⟩
      rcases hquiet with ⟨hk, hmore⟩
      have hkept := scan_keeps hscan
      simp only [List.map_cons, scan, rs232Get_some] at hscan
      rw [gapLine]
      rcases h.gap slipEsc00 hlen hc hk (gapLine more) with
        ⟨hlast, d', rest', hends, htake⟩ | ⟨s', t', hs, h', hgoes⟩
      · refine ⟨d', rest', hends, ?_⟩
        cases hlast with
        | inl hs =>
            rw [hs] at hscan
            cases hscan
            exact htake
        | inr hfull => rw [htake, take_of_keeps hkept hfull]
      · rw [hs] at hscan hmore
        rw [hgoes]
        exact ih h' (Rx.feed_escapeFollowsEsc hs) hmore hscan

/-!
## Gaps that are not quiet

In a frame from `slip_encode` that leaves room in the buffer, every other gap
stores an extra byte or stores a code in place of the byte it stands for.
-/

theorem slipCode_ne_self {slipEsc00 : Bool} {b k : UInt8}
    (h : slipCode slipEsc00 b = some k) : k ≠ b := by
  rcases slipCode_cases h with ⟨hb, hk⟩ | ⟨hb, hk⟩ | ⟨_, hb, hk⟩ <;>
    (rw [hb, hk]; decide)

/-- Between two symbols: ordinary bytes behind, or nothing read at all. -/
def BetweenSymbols (c : UInt8) (e : List UInt8) : Prop :=
  (c ≠ END ∧ c ≠ ESC) ∨ (c = END ∧ e = [])

theorem scan_timeouts_between (slipEsc00 : Bool) {c : UInt8}
    {e : List UInt8} (h : BetweenSymbols c e) (k : Nat) (more : Line) :
    exists extra : List UInt8,
      scan slipEsc00 { escaped := false, decoded := e } c
          (List.replicate k none ++ more) =
        scan slipEsc00 { escaped := false, decoded := e ++ extra } c more ∧
      BetweenSymbols c (e ++ extra) ∧
      (extra = [] -> k = 0 ∨ (c = END ∧ e = [])) := by
  rcases h with ⟨hend, hesc⟩ | ⟨hend, he⟩
  · refine ⟨List.replicate k c,
      scan_timeouts_plain slipEsc00 hend hesc e k more,
      Or.inl ⟨hend, hesc⟩, ?_⟩
    intro hnil
    have hlength := congrArg List.length hnil
    rw [List.length_replicate] at hlength
    exact Or.inl hlength
  · refine ⟨[], ?_, ?_, ?_⟩
    · rw [hend, he]
      exact scan_timeouts_end slipEsc00 k more
    · rw [List.append_nil]
      exact Or.inr ⟨hend, he⟩
    · intro _
      exact Or.inr ⟨hend, he⟩

theorem gapQuiet_of_between {len : Nat} {s : Rx} {c b : UInt8} {k : Nat}
    (h : k = 0 ∨ (c = END ∧ s.decoded = [])) : GapQuiet len s c k b := by
  apply Or.inl
  cases h with
  | inl hk => exact Or.inl hk
  | inr hend => exact Or.inr (Or.inl hend)

/-- An ESC and its code `y`, each behind timeouts: an odd number of timeouts
between the two stores the code itself. -/
theorem scan_gapLine_pair {slipEsc00 : Bool} {b y : UInt8}
    (hcode : slipCode slipEsc00 b = some y) {c : UInt8} {e extra : List UInt8}
    {k : Nat} (k' : Nat) (more : List (Nat × UInt8))
    (htimeouts : scan slipEsc00 { escaped := false, decoded := e } c
        (List.replicate k none ++ some ESC :: gapLine ((k', y) :: more)) =
      scan slipEsc00 { escaped := false, decoded := e ++ extra } c
        (some ESC :: gapLine ((k', y) :: more))) :
    scan slipEsc00 { escaped := false, decoded := e } c
        (gapLine ((k, ESC) :: (k', y) :: more)) =
      scan slipEsc00
        { escaped := false
          decoded := e ++ extra ++ [if k' % 2 = 0 then b else y] } y
        (gapLine more) := by
  have hyend : y ≠ END := (slipStuffing slipEsc00).code_ne_stop hcode
  have hyesc : y ≠ ESC := (slipStuffing slipEsc00).code_ne_esc hcode
  have hsecond := Rx.feed_escaped slipEsc00 (e ++ extra) y
  have hvalue : slipUncode slipEsc00 y = some b := slipUncode_of_slipCode hcode
  rw [hvalue, Option.toList_some] at hsecond
  show scan slipEsc00 { escaped := false, decoded := e } c
    (List.replicate k none ++ some ESC :: gapLine ((k', y) :: more)) = _
  rw [htimeouts, scan_some _ _ (Rx.feed_esc slipEsc00 (e ++ extra)), gapLine,
    scan_timeouts_esc]
  by_cases heven : k' % 2 = 0
  · rw [if_pos heven, if_pos heven, scan_some _ _ hsecond]
  · rw [if_neg heven, if_neg heven]
    exact scan_some _ _ (Rx.feed_plain slipEsc00 (e ++ extra) hyend hyesc)

/-- After one symbol stored as `x` behind `extra` repeated bytes: the packet
comes out right only if nothing was repeated and `x` is the symbol. -/
theorem stored_symbol {e extra d' q : List UInt8} {x b : UInt8}
    (hfront : e ++ extra ++ [x] <+: d')
    (hlength : (e ++ extra ++ [x]).length + q.length ≤ d'.length) :
    e <+: d' ∧ e.length + (b :: q).length ≤ d'.length ∧
      (d' = e ++ b :: q -> extra = [] ∧ x = b) := by
  rw [List.length_append, List.length_append, List.length_singleton] at hlength
  refine ⟨?_, by rw [List.length_cons]; omega, ?_⟩
  · rw [List.append_assoc] at hfront
    exact (List.prefix_append e _).trans hfront
  · intro heq
    have hextra : extra = [] := by
      apply List.eq_nil_of_length_eq_zero
      rw [heq, List.length_append, List.length_cons] at hlength
      omega
    rw [hextra, List.append_nil, heq] at hfront
    rcases (List.prefix_append_right_inj e).mp hfront with ⟨tail, htail⟩
    injection htail with hx
    exact ⟨hextra, hx⟩

/-- What a run over the rest `q` of a packet ends with: it never loses a byte
that is already stored, never gets shorter than the packet, and reproduces the
packet only through quiet gaps. -/
def GapsShow (slipEsc00 : Bool) (len : Nat) (q : List UInt8)
    (gapped : List (Nat × UInt8)) (c : UInt8) (e d' : List UInt8) : Prop :=
  e <+: d' ∧ e.length + q.length ≤ d'.length ∧
    (d' = e ++ q ->
      QuietGaps slipEsc00 len { escaped := false, decoded := e } c gapped)

theorem gapsShow_end {slipEsc00 : Bool} {len k : Nat} {c : UInt8}
    {e d' : List UInt8} {rest : Line} (hbetween : BetweenSymbols c e)
    (hscan : scan slipEsc00 { escaped := false, decoded := e } c
      (gapLine [(k, END)]) = some (d', rest)) :
    GapsShow slipEsc00 len [] [(k, END)] c e d' := by
  rcases scan_timeouts_between slipEsc00 hbetween k [some END] with
    ⟨extra, htimeouts, _, hextra⟩
  rw [gapLine, gapLine, htimeouts] at hscan
  by_cases hnil : e ++ extra = []
  · simp [scan, Rx.feed, hnil] at hscan
  · rw [scan_end hnil] at hscan
    cases hscan
    refine ⟨List.prefix_append e extra, by simp, ?_⟩
    intro heq
    have hextraNil : extra = [] := by simpa using heq
    have hk : k = 0 := by
      rcases hextra hextraNil with hk | ⟨_, he⟩
      · exact hk
      · rw [he, hextraNil] at hnil
        exact absurd rfl hnil
    refine ⟨Or.inl (Or.inl hk), ?_⟩
    split <;> trivial

theorem scan_gaps_of_stuff {slipEsc00 : Bool} {len : Nat}
    (q : List UInt8) :
    forall {gapped : List (Nat × UInt8)} {c : UInt8} {e d' : List UInt8}
      {rest : Line},
      gapped.map Prod.snd = (slipStuffing slipEsc00).stuff q ++ [END] ->
      BetweenSymbols c e ->
      scan slipEsc00 { escaped := false, decoded := e } c (gapLine gapped) =
        some (d', rest) ->
      GapsShow slipEsc00 len q gapped c e d' := by
  induction q with
  | nil =>
      intro gapped c e d' rest hmap hbetween hscan
      rcases List.map_eq_singleton_iff.mp hmap with ⟨⟨k, b⟩, hgapped, hb⟩
      simp only at hb
      subst hb hgapped
      exact gapsShow_end hbetween hscan
  | cons b q ih =>
      intro gapped c e d' rest hmap hbetween hscan
      rw [Stuffing.stuff_cons, List.append_assoc] at hmap
      rcases (slipStuffing slipEsc00).stuffSymbol_cases b with
        ⟨y, hcode, hs⟩ | ⟨hcode, hs⟩
      · have hpair : (slipStuffing slipEsc00).stuffSymbol b = [ESC, y] := hs
        rw [hpair, List.cons_append, List.cons_append, List.nil_append] at hmap
        rcases List.map_eq_cons_iff.mp hmap with
          ⟨⟨k, b1⟩, more1, hgapped, hb1, hmap1⟩
        rcases List.map_eq_cons_iff.mp hmap1 with
          ⟨⟨k', b2⟩, more, hmore1, hb2, hmore⟩
        have hb1' : b1 = ESC := hb1
        have hb2' : y = b2 := hb2.symm
        subst hb1' hb2' hmore1 hgapped
        rcases scan_timeouts_between slipEsc00 hbetween k
            (some ESC :: gapLine ((k', y) :: more)) with
          ⟨extra, htimeouts, _, hextra⟩
        rw [scan_gapLine_pair hcode k' more htimeouts] at hscan
        have hyend : y ≠ END := (slipStuffing slipEsc00).code_ne_stop hcode
        have hyesc : y ≠ ESC := (slipStuffing slipEsc00).code_ne_esc hcode
        rcases ih hmore (Or.inl ⟨hyend, hyesc⟩) hscan with
          ⟨hfront, hlength, hquiet⟩
        rcases stored_symbol hfront hlength with ⟨hkeep, hlong, hexact⟩
        refine ⟨hkeep, hlong, ?_⟩
        intro heq
        rcases hexact heq with ⟨hextraNil, hsymbol⟩
        have heven : k' % 2 = 0 := by
          by_contra hodd
          rw [if_neg hodd] at hsymbol
          exact slipCode_ne_self hcode hsymbol
        rw [hextraNil, List.append_nil, if_pos heven] at hquiet
        have hrest := hquiet (by rw [heq, List.append_assoc]; rfl)
        refine ⟨gapQuiet_of_between (hextra hextraNil), ?_⟩
        rw [Rx.feed_esc]
        refine ⟨Or.inl (Or.inr (Or.inr (Or.inl ⟨rfl, heven⟩))), ?_⟩
        rw [Rx.feed_escaped, slipUncode_of_slipCode hcode]
        exact hrest
      · have hend : b ≠ END :=
          (slipStuffing slipEsc00).ne_stop_of_code_none hcode
        have hesc : b ≠ ESC :=
          (slipStuffing slipEsc00).ne_esc_of_code_none hcode
        rw [hs, List.cons_append, List.nil_append] at hmap
        rcases List.map_eq_cons_iff.mp hmap with
          ⟨⟨k, b1⟩, more, hgapped, hb1, hmore⟩
        have hb1' : b = b1 := hb1.symm
        subst hb1' hgapped
        rcases scan_timeouts_between slipEsc00 hbetween k
            (some b :: gapLine more) with ⟨extra, htimeouts, _, hextra⟩
        have hstore := Rx.feed_plain slipEsc00 (e ++ extra) hend hesc
        rw [gapLine, htimeouts, scan_some _ _ hstore] at hscan
        rcases ih hmore (Or.inl ⟨hend, hesc⟩) hscan with
          ⟨hfront, hlength, hquiet⟩
        rcases stored_symbol hfront hlength with ⟨hkeep, hlong, hexact⟩
        refine ⟨hkeep, hlong, ?_⟩
        intro heq
        rcases hexact heq with ⟨hextraNil, _⟩
        rw [hextraNil, List.append_nil] at hquiet
        have hrest := hquiet (by rw [heq, List.append_assoc]; rfl)
        refine ⟨gapQuiet_of_between (hextra hextraNil), ?_⟩
        rw [Rx.feed_plain slipEsc00 e hend hesc]
        exact hrest

/-!
## Frames with gaps
-/

/-- `recv_packet` gives `rc` and the buffer `p'` for the frame with its
gaps. -/
def GapsHarmless (P : Platform) {len : Nat} (p : Buffer len)
    (timeout : Int16) (gapped : List (Nat × UInt8)) (rc : Int)
    (p' : Buffer len) : Prop :=
  exists rest : Line,
    recvPacket P p timeout (some END :: gapLine gapped) = some (rc, p', rest)

theorem recvPacket_opening_end (P : Platform) {len : Nat} (hlen : 1 ≤ len)
    (p : Buffer len) {timeout : Int16} (hreads : reads timeout ≠ 0)
    (line : Line) :
    recvPacket P p timeout (some END :: line) =
      (scan P.slipEsc00 Rx.start END line).map
        (fun r => (((r.1.take len).length : Int), p.write 0 (r.1.take len),
          r.2)) := by
  apply recvPacket_eq_scan P hlen
  rw [waitEnd_cons _ _ hreads, rs232Get_some, if_pos rfl]

theorem reads_ne_zero_of_recvPacket {P : Platform} {len : Nat}
    {p p' : Buffer len} {timeout : Int16} {line : Line} {rc : Int}
    (hline : line ≠ [])
    (h : recvPacket P p timeout line = some (rc, p', [])) :
    reads timeout ≠ 0 := by
  intro hzero
  rw [recvPacket, waitEnd_exhausted hzero] at h
  simp only [Option.some.injEq, Prod.mk.injEq] at h
  exact hline h.right.right

theorem take_eq_of_kept_eq {len : Nat} {p : Buffer len} {a b : List UInt8}
    (hlength : (a.take len).length = (b.take len).length)
    (hbuffer : p.write 0 (a.take len) = p.write 0 (b.take len)) :
    a.take len = b.take len := by
  have ha := slice_kept p a
  rw [hbuffer, hlength, slice_kept p b] at ha
  exact ha.symm

theorem gapsHarmless_of_quietGaps {P : Platform} {len : Nat} (hlen : 1 ≤ len)
    {p p' : Buffer len} {timeout : Int16} {gapped : List (Nat × UInt8)}
    {rc : Int}
    (hplain : recvPacket P p timeout
        (some END :: (gapped.map Prod.snd).map some) = some (rc, p', []))
    (hquiet : QuietGaps P.slipEsc00 len Rx.start END gapped) :
    GapsHarmless P p timeout gapped rc p' := by
  have hreads := reads_ne_zero_of_recvPacket (by simp) hplain
  rw [recvPacket_opening_end P hlen p hreads, Option.map_eq_some_iff] at hplain
  rcases hplain with ⟨⟨d, rest⟩, hscan, hresult⟩
  simp only [Prod.mk.injEq] at hresult
  have hsame : SameSoFar len Rx.start Rx.start := ⟨rfl, rfl⟩
  have hescape : EscapeFollowsEsc Rx.start END := by
    intro h
    cases h
  rcases scan_quietGaps hlen hsame hescape hquiet hscan with
    ⟨d', rest', hgaps, htake⟩
  refine ⟨rest', ?_⟩
  rw [recvPacket_opening_end P hlen p hreads, hgaps, Option.map_some, htake,
    hresult.left, hresult.right.left]

theorem quietGaps_of_gapsHarmless {P : Platform} {len : Nat} (hlen : 1 ≤ len)
    {p p' : Buffer len} {timeout : Int16} {gapped : List (Nat × UInt8)}
    {rc : Int} {q : List UInt8}
    (hplain : recvPacket P p timeout
        (some END :: (gapped.map Prod.snd).map some) = some (rc, p', []))
    (hq : slipEncode P.slipEsc00 q = END :: gapped.map Prod.snd)
    (hroom : q.length < len)
    (hharmless : GapsHarmless P p timeout gapped rc p') :
    QuietGaps P.slipEsc00 len Rx.start END gapped := by
  have hreads := reads_ne_zero_of_recvPacket (by simp) hplain
  have hmap : gapped.map Prod.snd =
      (slipStuffing P.slipEsc00).stuff q ++ [END] := by
    rw [slipEncode_eq_frame] at hq
    exact (List.cons.inj hq).right.symm
  rw [recvPacket_opening_end P hlen p hreads, hmap, Option.map_eq_some_iff]
    at hplain
  rcases hplain with ⟨⟨d, rest⟩, hscan, hresult⟩
  rcases hharmless with ⟨rest', hgaps⟩
  rw [recvPacket_opening_end P hlen p hreads, Option.map_eq_some_iff] at hgaps
  rcases hgaps with ⟨⟨d', rest''⟩, hscan', hresult'⟩
  simp only [Prod.mk.injEq] at hresult hresult'
  have hd : d = q := by
    by_cases hnil : q = []
    · rw [hnil] at hscan
      simp [scan, Rx.feed, Rx.start] at hscan
    · have hwhole := scan_stuff_end P.slipEsc00 (d := []) (q := q)
        (by simpa using hnil) END []
      rw [List.map_append] at hscan
      have hsome := hscan.symm.trans hwhole
      simp only [Option.some.injEq, Prod.mk.injEq] at hsome
      exact hsome.left
  have hlengths : (d'.take len).length = (d.take len).length := by
    have := hresult'.left.trans hresult.left.symm
    exact_mod_cast this
  have htake : d'.take len = d.take len :=
    take_eq_of_kept_eq hlengths (hresult'.right.left.trans hresult.right.left.symm)
  have hd' : d' = q := by
    rw [hd, List.take_of_length_le (Nat.le_of_lt hroom)] at htake hlengths
    rw [List.length_take] at hlengths
    rw [← htake, List.take_of_length_le (by omega)]
  exact (scan_gaps_of_stuff q hmap (Or.inr ⟨rfl, rfl⟩) hscan').right.right hd'

/-- Quiet gaps leave every frame as it is.  In a frame of `slip_encode` that
does not fill the buffer only quiet gaps do. -/
theorem recvPacket_gaps (P : Platform) {len : Nat} (hlen : 1 ≤ len)
    (p p' : Buffer len) (timeout : Int16) (gapped : List (Nat × UInt8))
    (rc : Int)
    (hplain : recvPacket P p timeout
        (some END :: (gapped.map Prod.snd).map some) = some (rc, p', [])) :
    (QuietGaps P.slipEsc00 len Rx.start END gapped ->
        GapsHarmless P p timeout gapped rc p') ∧
      forall q : List UInt8,
        slipEncode P.slipEsc00 q = END :: gapped.map Prod.snd ->
        q.length < len ->
        (GapsHarmless P p timeout gapped rc p' <->
          QuietGaps P.slipEsc00 len Rx.start END gapped) := by
  constructor
  · exact gapsHarmless_of_quietGaps hlen hplain
  · intro q hq hroom
    exact ⟨quietGaps_of_gapsHarmless hlen hplain hq hroom,
      gapsHarmless_of_quietGaps hlen hplain⟩

theorem recvPacket_gaps_paired_after_esc :
    (QuietGaps true 4 Rx.start END [(3, ESC), (2, ESC_END), (0, END)] ->
        GapsHarmless Platform.spectrum (⟨[0, 0, 0, 0], rfl⟩ : Buffer 4) 5
          [(3, ESC), (2, ESC_END), (0, END)] 1 ⟨[0xC0, 0, 0, 0], rfl⟩) ∧
      forall q : List UInt8,
        slipEncode true q =
          END :: [(3, ESC), (2, ESC_END), (0, END)].map Prod.snd ->
        q.length < 4 ->
        (GapsHarmless Platform.spectrum (⟨[0, 0, 0, 0], rfl⟩ : Buffer 4) 5
            [(3, ESC), (2, ESC_END), (0, END)] 1 ⟨[0xC0, 0, 0, 0], rfl⟩ <->
          QuietGaps true 4 Rx.start END
            [(3, ESC), (2, ESC_END), (0, END)]) :=
  recvPacket_gaps Platform.spectrum (by decide) ⟨[0, 0, 0, 0], rfl⟩
    ⟨[0xC0, 0, 0, 0], rfl⟩ 5 [(3, ESC), (2, ESC_END), (0, END)] 1 (by decide)

/-- One timeout behind the only byte of a packet makes it two bytes long. -/
theorem recvPacket_gap_repeats_byte :
    recvPacket Platform.spectrum (⟨[0, 0, 0, 0], rfl⟩ : Buffer 4) 5
        (some END :: (([(0, 0x41), (1, END)] : List (Nat × UInt8)).map
          Prod.snd).map some) = some (1, ⟨[0x41, 0, 0, 0], rfl⟩, []) ∧
      recvPacket Platform.spectrum (⟨[0, 0, 0, 0], rfl⟩ : Buffer 4) 5
        (some END :: gapLine [(0, 0x41), (1, END)]) =
          some (2, ⟨[0x41, 0x41, 0, 0], rfl⟩, []) := by
  decide

end Slip
end Z80Tcpip
