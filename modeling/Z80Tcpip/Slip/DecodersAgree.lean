import Z80Tcpip.Slip.BridgeRoundTrip
import Z80Tcpip.Slip.LossyLine
import Z80Tcpip.Slip.SerialGaps

/-!
# The two decoders on arbitrary frames

`slip_decode` stores an unknown byte behind an ESC as it is and stays in the
escape on a second ESC; an END always closes the frame.  The inner `switch` of
`recv_packet` drops whatever is no code, a second ESC and an END included.  The
two agree on a frame when every run of ESC bytes in it has odd length exactly
if a code follows the run.
-/

namespace Z80Tcpip
namespace Slip

open Foundation

/-!
## One body
-/

/-- What `slip_decode` stores of bytes without an END among them; the flag is
`in_escape`. -/
def bridgeUnescape (slipEsc00 : Bool) : Bool -> List UInt8 -> List UInt8
  | _, [] => []
  | escaped, b :: rest =>
      if b = ESC then bridgeUnescape slipEsc00 true rest
      else
        (if escaped = true then escapeValue slipEsc00 b else b) ::
          bridgeUnescape slipEsc00 false rest

/-- Every run of ESC bytes, `run` of which have been read already, has odd
length if and only if the byte behind the run is a code.  The END behind the
body is no code. -/
def EscapesPaired (slipEsc00 : Bool) : Nat -> List UInt8 -> Prop
  | run, [] => run % 2 = 0
  | run, b :: rest =>
      if b = ESC then EscapesPaired slipEsc00 (run + 1) rest
      else
        (run = 0 ∨ (run % 2 = 1 <-> slipUncode slipEsc00 b ≠ none)) ∧
          EscapesPaired slipEsc00 0 rest

instance decidableEscapesPaired (slipEsc00 : Bool) :
    (run : Nat) -> (body : List UInt8) ->
      Decidable (EscapesPaired slipEsc00 run body)
  | run, [] => inferInstanceAs (Decidable (run % 2 = 0))
  | run, b :: rest =>
      have := decidableEscapesPaired slipEsc00 (run + 1) rest
      have := decidableEscapesPaired slipEsc00 0 rest
      inferInstanceAs (Decidable (if b = ESC then _ else _))

/-- The frames as they are sent: an END before and an END after each body. -/
def delimited (bodies : List (List UInt8)) : List UInt8 :=
  bodies.flatMap (fun body => END :: (body ++ [END]))

/-- `recv_packet` returns, call by call and to the end of the line, the frames
that `slip_decode` hands over. -/
def DecodersAgree (P : Platform) {len : Nat} (p : Buffer len)
    (timeout : Int16) (bodies : List (List UInt8)) : Prop :=
  let frames :=
    (decodeBytes P.slipEsc00 Decoder.drained (delimited bodies)).2
  recvPackets P timeout frames.length p ((delimited bodies).map some) =
    some (frames.map (fun f => ((f.length : Int), f)), [])

/-!
## The values behind an ESC
-/

theorem slipUncode_esc (slipEsc00 : Bool) : slipUncode slipEsc00 ESC = none := by
  cases slipEsc00 <;> rfl

theorem escapeValue_of_slipUncode {slipEsc00 : Bool} {b c : UInt8}
    (h : slipUncode slipEsc00 b = some c) :
    escapeValue slipEsc00 b = c ∧ c ≠ b := by
  unfold slipUncode at h
  unfold escapeValue
  split_ifs at h with hzer hend hesc
  · cases h
    rw [hzer.right, hzer.left]
    decide
  · cases h
    rw [hend]
    exact ⟨rfl, by decide⟩
  · cases h
    rw [hesc]
    exact ⟨rfl, by decide⟩

theorem escapeValue_of_no_code {slipEsc00 : Bool} {b : UInt8}
    (h : slipUncode slipEsc00 b = none) : escapeValue slipEsc00 b = b := by
  unfold slipUncode at h
  unfold escapeValue
  split_ifs at h with hzer hend hesc
  rw [if_neg hend, if_neg hesc, if_neg hzer]

/-!
## Comparing what is stored
-/

section Runs

variable (slipEsc00 : Bool)

theorem unescape_esc (run : Nat) (rest : List UInt8) :
    unescape slipEsc00 (decide (run % 2 = 1)) (ESC :: rest) =
      unescape slipEsc00 (decide ((run + 1) % 2 = 1)) rest := by
  by_cases hodd : run % 2 = 1
  · have heven : ¬ (run + 1) % 2 = 1 := by
      omega
    rw [decide_eq_true hodd, decide_eq_false heven, unescape,
      slipUncode_esc]
    rfl
  · have hnext : (run + 1) % 2 = 1 := by
      omega
    rw [decide_eq_false hodd, decide_eq_true hnext, unescape, if_pos rfl]

theorem inEscape_esc (run : Nat) (rest : List UInt8) :
    inEscape (decide (run % 2 = 1)) (ESC :: rest) =
      inEscape (decide ((run + 1) % 2 = 1)) rest := by
  by_cases hodd : run % 2 = 1
  · have heven : ¬ (run + 1) % 2 = 1 := by
      omega
    rw [decide_eq_true hodd, decide_eq_false heven, inEscape, if_pos rfl]
  · have hnext : (run + 1) % 2 = 1 := by
      omega
    rw [decide_eq_false hodd, decide_eq_true hnext, inEscape,
      if_neg Bool.false_ne_true, decide_eq_true rfl]

theorem bridgeUnescape_esc (escaped : Bool) (run : Nat) (rest : List UInt8) :
    bridgeUnescape slipEsc00 escaped (ESC :: rest) =
      bridgeUnescape slipEsc00 (decide (0 < run + 1)) rest := by
  rw [bridgeUnescape, if_pos rfl, decide_eq_true (Nat.succ_pos run)]

theorem inEscape_other (escaped : Bool) {b : UInt8} (hb : b ≠ ESC)
    (rest : List UInt8) :
    inEscape escaped (b :: rest) = inEscape false rest := by
  cases escaped with
  | true => rfl
  | false => rw [inEscape, if_neg Bool.false_ne_true, decide_eq_false hb]

/-- What the Spectrum stores for a byte other than ESC behind `run` ESCs. -/
theorem unescape_other (run : Nat) {b : UInt8} (hb : b ≠ ESC)
    (rest : List UInt8) :
    unescape slipEsc00 (decide (run % 2 = 1)) (b :: rest) =
      (if run % 2 = 1 then (slipUncode slipEsc00 b).toList else [b]) ++
        unescape slipEsc00 false rest := by
  by_cases hodd : run % 2 = 1
  · rw [decide_eq_true hodd, unescape, if_pos hodd]
  · rw [decide_eq_false hodd, unescape, if_neg hb, if_neg hodd]
    rfl

/-- The bridge stores at least as much. -/
theorem unescape_length_le (body : List UInt8) :
    forall run : Nat,
      (unescape slipEsc00 (decide (run % 2 = 1)) body).length ≤
        (bridgeUnescape slipEsc00 (decide (0 < run)) body).length := by
  induction body with
  | nil =>
      intro run
      simp [unescape]
  | cons b rest ih =>
      intro run
      by_cases hb : b = ESC
      · rw [hb, unescape_esc, bridgeUnescape_esc slipEsc00 _ run]
        exact ih (run + 1)
      · have hone :
            (if run % 2 = 1 then (slipUncode slipEsc00 b).toList
              else [b]).length ≤ 1 := by
          split_ifs
          · exact Option.length_toList_le
          · exact Nat.le_refl 1
        have hrest := ih 0
        rw [unescape_other slipEsc00 run hb, bridgeUnescape, if_neg hb,
          List.length_append, List.length_cons]
        exact Nat.le_trans (Nat.add_le_add hone hrest)
          (Nat.le_of_eq (Nat.add_comm 1 _))

/-- Behind `run` ESCs both decoders store the same for a byte other than
ESC. -/
theorem sameValue_iff (run : Nat) (b : UInt8) :
    (if run % 2 = 1 then (slipUncode slipEsc00 b).toList else [b]) =
        [if decide (0 < run) = true then escapeValue slipEsc00 b else b] <->
      run = 0 ∨ (run % 2 = 1 <-> slipUncode slipEsc00 b ≠ none) := by
  rcases Nat.eq_zero_or_pos run with hzero | hpos
  · subst hzero
    simp
  · have hne : ¬ run = 0 := by
      omega
    rw [decide_eq_true hpos, if_pos rfl]
    rcases hcode : slipUncode slipEsc00 b with _ | c
    · rw [escapeValue_of_no_code hcode]
      by_cases hodd : run % 2 = 1 <;> simp [hodd, hne]
    · rcases escapeValue_of_slipUncode hcode with ⟨hvalue, hother⟩
      rw [hvalue]
      by_cases hodd : run % 2 = 1 <;> simp [hodd, hne, hother.symm]

/-- A body leaves both decoders with the same bytes, and the Spectrum outside
an escape, exactly when its escapes pair up. -/
theorem escapesPaired_iff (body : List UInt8) :
    forall run : Nat,
      EscapesPaired slipEsc00 run body <->
        inEscape (decide (run % 2 = 1)) body = false ∧
          unescape slipEsc00 (decide (run % 2 = 1)) body =
            bridgeUnescape slipEsc00 (decide (0 < run)) body := by
  induction body with
  | nil =>
      intro run
      simp only [EscapesPaired, inEscape, unescape, bridgeUnescape, and_true,
        decide_eq_false_iff_not]
      omega
  | cons b rest ih =>
      intro run
      by_cases hb : b = ESC
      · rw [EscapesPaired, if_pos hb, ih (run + 1), hb, inEscape_esc,
          unescape_esc, bridgeUnescape_esc slipEsc00 _ run]
      · have hlength := unescape_length_le slipEsc00 rest 0
        have hrest := ih 0
        rw [show decide (0 % 2 = 1) = false from rfl,
          show decide (0 < 0) = false from rfl] at hlength hrest
        rw [EscapesPaired, if_neg hb, inEscape_other _ hb,
          unescape_other slipEsc00 run hb, bridgeUnescape, if_neg hb, hrest,
          ← sameValue_iff]
        constructor
        · intro h
          rcases h with ⟨hvalue, hescape, hsame⟩
          refine ⟨hescape, ?_⟩
          rw [hvalue, hsame]
          rfl
        · intro h
          rcases h with ⟨hescape, hall⟩
          -- nothing stored for `b` would leave the Spectrum a byte short
          cases hvalue : (if run % 2 = 1 then (slipUncode slipEsc00 b).toList
              else [b]) with
          | nil =>
              rw [hvalue, List.nil_append] at hall
              rw [hall, List.length_cons] at hlength
              omega
          | cons x more =>
              have hmore : more = [] := by
                split_ifs at hvalue
                · cases hcode : slipUncode slipEsc00 b with
                  | none =>
                      rw [hcode] at hvalue
                      cases hvalue
                  | some c =>
                      rw [hcode] at hvalue
                      cases hvalue
                      rfl
                · cases hvalue
                  rfl
              rw [hvalue, hmore] at hall
              injection hall with hhead htail
              exact ⟨by rw [hmore, hhead], hescape, htail⟩

end Runs

/-!
## The bridge
-/

/-- The fields of a decoder that is inside a frame of `d` bytes. -/
structure Decoder.Inside (b : Decoder) (escaped : Bool)
    (d : List UInt8) : Prop where
  frame_eq : b.frame = d
  inEscape_eq : b.inEscape = escaped
  inSync_eq : b.inSync = true
  truncated_eq : b.truncated = false

theorem Decoder.Inside.store {b : Decoder} {escaped : Bool} {d : List UInt8}
    (h : b.Inside escaped d) (c : UInt8) (hd : d.length < MTU) :
    (b.store c).Inside escaped (d ++ [c]) := by
  have hlt : b.frame.length < MTU := by
    rw [h.frame_eq]
    exact hd
  rcases Decoder.store_of_lt c hlt with ⟨hframe, htruncated⟩
  exact
    { frame_eq := by rw [hframe, h.frame_eq]
      inEscape_eq := by rw [Decoder.store_inEscape, h.inEscape_eq]
      inSync_eq := by rw [Decoder.store_inSync, h.inSync_eq]
      truncated_eq := by rw [htruncated, h.truncated_eq] }

theorem foldl_decodeByte_body (slipEsc00 : Bool) {body : List UInt8}
    (hend : END ∉ body) (out : List (List UInt8)) :
    forall (b : Decoder) (escaped : Bool) (d : List UInt8),
      b.Inside escaped d ->
      (d ++ bridgeUnescape slipEsc00 escaped body).length ≤ MTU ->
        exists (b' : Decoder) (escaped' : Bool),
          body.foldl (decodeByte slipEsc00) (b, out) = (b', out) ∧
            b'.Inside escaped' (d ++ bridgeUnescape slipEsc00 escaped body) := by
  induction body with
  | nil =>
      intro b escaped d hb _
      refine ⟨b, escaped, rfl, ?_⟩
      rw [bridgeUnescape, List.append_nil]
      exact hb
  | cons c rest ih =>
      have hrest : END ∉ rest := by
        intro h
        exact hend (List.mem_cons_of_mem c h)
      have hc : c ≠ END := by
        intro h
        rw [h] at hend
        exact hend List.mem_cons_self
      intro b escaped d hb hroom
      rw [List.foldl_cons, bridgeUnescape]
      rw [bridgeUnescape] at hroom
      by_cases hesc : c = ESC
      · rw [if_pos hesc] at hroom ⊢
        have hstep : decodeByte slipEsc00 (b, out) c =
            ({ b with inEscape := true }, out) := by
          rw [hesc]
          simp [decodeByte, slipDecode_esc slipEsc00 hb.inSync_eq]
        rw [hstep]
        exact ih hrest _ true d
          ⟨hb.frame_eq, rfl, hb.inSync_eq, hb.truncated_eq⟩ hroom
      · rw [if_neg hesc] at hroom ⊢
        have hd : d.length < MTU := by
          rw [List.length_append, List.length_cons] at hroom
          omega
        -- the stored byte moves from the front of the rest to the end of `d`
        have hmove : forall v : UInt8,
            d ++ v :: bridgeUnescape slipEsc00 false rest =
              d ++ [v] ++ bridgeUnescape slipEsc00 false rest := by
          intro v
          rw [List.append_assoc]
          rfl
        rw [hmove] at hroom ⊢
        cases escaped with
        | true =>
            have hopen : Decoder.Inside { b with inEscape := false } false d :=
              ⟨hb.frame_eq, rfl, hb.inSync_eq, hb.truncated_eq⟩
            have hstep : decodeByte slipEsc00 (b, out) c =
                ({ b with inEscape := false }.store (escapeValue slipEsc00 c),
                  out) := by
              simp [decodeByte,
                slipDecode_escaped slipEsc00 hb.inSync_eq hb.inEscape_eq hc
                  hesc]
            rw [hstep]
            exact ih hrest _ false _ (hopen.store _ hd) hroom
        | false =>
            have hstep : decodeByte slipEsc00 (b, out) c = (b.store c, out) := by
              simp [decodeByte,
                slipDecode_plain slipEsc00 hb.inSync_eq hb.inEscape_eq hc hesc]
            rw [hstep]
            exact ih hrest _ false _ (hb.store c hd) hroom

theorem delimited_cons (body : List UInt8) (bodies : List (List UInt8)) :
    delimited (body :: bodies) =
      END :: (body ++ END :: delimited bodies) := by
  rw [delimited, List.flatMap_cons, ← delimited, List.cons_append,
    List.append_assoc]
  rfl

/-- A body the decoders are asked to agree on: it decodes, by the rules of
`slip_decode`, to a frame that fits into `MTU` and into `len` bytes. -/
structure FitsBoth (slipEsc00 : Bool) (len : Nat) (body : List UInt8) :
    Prop where
  no_end : END ∉ body
  nonempty : 1 ≤ (bridgeUnescape slipEsc00 false body).length
  fits : (bridgeUnescape slipEsc00 false body).length ≤ min MTU len

theorem foldl_decodeByte_delimited {slipEsc00 : Bool} {len : Nat}
    {bodies : List (List UInt8)}
    (hbodies : forall body, body ∈ bodies -> FitsBoth slipEsc00 len body) :
    forall (b : Decoder) (out : List (List UInt8)),
      b.SyncOwnsFrame -> b.openFrame = [] ->
        ((delimited bodies).foldl (decodeByte slipEsc00) (b, out)).2 =
          out ++ bodies.map (bridgeUnescape slipEsc00 false) := by
  induction bodies with
  | nil =>
      intro b out _ _
      simp [delimited]
  | cons body more ih =>
      intro b out hsync hopen
      have hbody := hbodies body List.mem_cons_self
      have hmore : forall body', body' ∈ more ->
          FitsBoth slipEsc00 len body' := by
        intro body' hmem
        exact hbodies body' (List.mem_cons_of_mem body hmem)
      have hidle : Decoder.idle.Inside false [] := ⟨rfl, rfl, rfl, rfl⟩
      have hroom : ([] ++ bridgeUnescape slipEsc00 false body).length ≤ MTU :=
        Nat.le_trans hbody.fits (Nat.min_le_left MTU len)
      rcases foldl_decodeByte_body slipEsc00 hbody.no_end out _ _ _ hidle hroom
        with ⟨b', escaped', hfold, hinside⟩
      rw [List.nil_append] at hinside
      have hne : bridgeUnescape slipEsc00 false body ≠ [] :=
        List.ne_nil_of_length_pos hbody.nonempty
      have hclosed : b'.openFrame = [bridgeUnescape slipEsc00 false body] := by
        simp [Decoder.openFrame, hinside.inSync_eq, hinside.truncated_eq,
          hinside.frame_eq, hne]
      have howns : b'.SyncOwnsFrame := by
        intro hout
        rw [hinside.inSync_eq] at hout
        cases hout
      rw [delimited_cons, List.foldl_cons, decodeByte_end hsync, hopen,
        List.append_nil, List.foldl_append, hfold, List.foldl_cons,
        decodeByte_end howns, hclosed,
        ih hmore Decoder.idle _ Decoder.idle_collecting.syncOwnsFrame rfl]
      simp

/-- The frames that reach `inject_frame`, one for every body. -/
theorem decodeBytes_delimited {slipEsc00 : Bool} {len : Nat}
    {bodies : List (List UInt8)}
    (hbodies : forall body, body ∈ bodies -> FitsBoth slipEsc00 len body) :
    (decodeBytes slipEsc00 Decoder.drained (delimited bodies)).2 =
      bodies.map (bridgeUnescape slipEsc00 false) := by
  have hall := foldl_decodeByte_delimited hbodies Decoder.drained []
    (fun _ => rfl) rfl
  rwa [List.nil_append] at hall

/-!
## The END marks that the Spectrum consumes
-/

theorem scan_count_end {slipEsc00 : Bool} {bytes d : List UInt8} {rest : Line} :
    forall {s : Rx} {c : UInt8},
      scan slipEsc00 s c (bytes.map some) = some (d, rest) ->
        exists bytes' : List UInt8,
          rest = bytes'.map some ∧ bytes'.count END + 1 ≤ bytes.count END := by
  induction bytes with
  | nil =>
      intro s c h
      cases h
  | cons b more ih =>
      intro s c h
      rw [List.map_cons, scan, rs232Get_some] at h
      rcases hfeed : s.feed slipEsc00 b with _ | s'
      · have hb : b = END := (Rx.feed_eq_none_iff.mp hfeed).right.left
        rw [hfeed] at h
        cases h
        refine ⟨more, rfl, ?_⟩
        exact Nat.le_of_eq (by rw [hb, List.count_cons_self])
      · rw [hfeed] at h
        rcases ih h with ⟨bytes', hrest, hcount⟩
        exact ⟨bytes', hrest, Nat.le_trans hcount List.count_le_count_cons⟩

theorem waitEnd_count_end {bytes : List UInt8} {rest : Line} :
    forall {timeout : Int16} {c : UInt8},
      waitEnd timeout c (bytes.map some) = some (true, rest) ->
        exists bytes' : List UInt8,
          rest = bytes'.map some ∧ bytes'.count END + 1 ≤ bytes.count END := by
  induction bytes with
  | nil =>
      intro timeout c h
      rw [List.map_nil, waitEnd] at h
      split at h <;> cases h
  | cons b more ih =>
      intro timeout c h
      rw [List.map_cons, waitEnd, rs232Get_some] at h
      split_ifs at h with hzero hend
      · cases h
      · cases h
        refine ⟨more, rfl, ?_⟩
        exact Nat.le_of_eq (by rw [hend, List.count_cons_self])
      · rcases ih h with ⟨bytes', hrest, hcount⟩
        exact ⟨bytes', hrest, Nat.le_trans hcount List.count_le_count_cons⟩

theorem recvPacket_count_end {P : Platform} {len : Nat} (hlen : 1 ≤ len)
    {p p' : Buffer len} {timeout : Int16} {bytes : List UInt8} {rc : Int}
    {rest : Line} (hrc : 0 < rc)
    (h : recvPacket P p timeout (bytes.map some) = some (rc, p', rest)) :
    exists bytes' : List UInt8,
      rest = bytes'.map some ∧ bytes'.count END + 2 ≤ bytes.count END := by
  have heagain := P.eagain_pos
  rcases hwait : waitEnd timeout 0 (bytes.map some) with _ | ⟨found, behind⟩
  · rw [recvPacket, hwait] at h
    cases h
  · cases found with
    | false =>
        rw [recvPacket, hwait] at h
        simp only [Option.some.injEq, Prod.mk.injEq] at h
        omega
    | true =>
        rcases waitEnd_count_end hwait with ⟨bytes1, hbehind, hcount1⟩
        rw [recvPacket_eq_scan P hlen p timeout hwait, hbehind,
          Option.map_eq_some_iff] at h
        rcases h with ⟨⟨d, rest'⟩, hscan, heq⟩
        cases heq
        rcases scan_count_end hscan with ⟨bytes2, hrest, hcount2⟩
        exact ⟨bytes2, hrest, by omega⟩

/-- Every packet takes two END marks from the line. -/
theorem recvPackets_count_end {P : Platform} {len : Nat} (hlen : 1 ≤ len)
    {timeout : Int16} {frames : List (List UInt8)} {rest : Line}
    (hframes : forall f, f ∈ frames -> 1 ≤ f.length) :
    forall {p : Buffer len} {bytes : List UInt8},
      recvPackets P timeout frames.length p (bytes.map some) =
          some (frames.map (fun f => ((f.length : Int), f)), rest) ->
        2 * frames.length ≤ bytes.count END := by
  induction frames with
  | nil =>
      intro p bytes _
      exact Nat.zero_le _
  | cons f more ih =>
      intro p bytes h
      rcases hcall : recvPacket P p timeout (bytes.map some) with
        _ | ⟨rc, p', behind⟩
      · rw [List.length_cons, recvPackets, hcall] at h
        cases h
      · rw [List.length_cons, recvPackets_succ hcall,
          Option.map_eq_some_iff] at h
        rcases h with ⟨⟨results, rest'⟩, hcalls, heq⟩
        rw [List.map_cons, Prod.mk.injEq, List.cons.injEq, Prod.mk.injEq] at heq
        rcases heq with ⟨⟨⟨hrc, _⟩, hresults⟩, hrest⟩
        have hf := hframes f List.mem_cons_self
        rcases recvPacket_count_end hlen (by omega) hcall with
          ⟨bytes', hbehind, hcount⟩
        simp only at hresults hrest
        rw [hresults, hrest, hbehind] at hcalls
        have hmore := ih (fun g hg => hframes g (List.mem_cons_of_mem f hg))
          hcalls
        rw [List.length_cons]
        omega

theorem count_end_delimited {bodies : List (List UInt8)}
    (hbodies : forall body, body ∈ bodies -> END ∉ body) :
    (delimited bodies).count END = 2 * bodies.length := by
  induction bodies with
  | nil => rfl
  | cons body more ih =>
      have hbody : body.count END = 0 :=
        List.count_eq_zero.mpr (hbodies body List.mem_cons_self)
      have hmore := ih
        (fun other hmem => hbodies other (List.mem_cons_of_mem body hmem))
      rw [delimited_cons, List.count_cons_self, List.count_append,
        List.count_cons_self, hbody, hmore, List.length_cons]
      omega

/-!
## The Spectrum
-/

/-- The Spectrum on one body: it returns at the closing END if its escapes are
complete and something has been stored; otherwise that END closes nothing. -/
theorem recvPacket_delimited {P : Platform} {len : Nat} (hlen : 1 ≤ len)
    (p : Buffer len) {timeout : Int16} (htimeout : timeout - 1 ≠ 0)
    {body : List UInt8} (hend : END ∉ body) (more : List UInt8) :
    (inEscape false body = false ∧ unescape P.slipEsc00 false body ≠ [] ∧
      recvPacket P p timeout ((END :: (body ++ END :: more)).map some) =
        some ((((unescape P.slipEsc00 false body).take len).length : Int),
          p.write 0 ((unescape P.slipEsc00 false body).take len),
          more.map some)) ∨
    ((inEscape false body = true ∨ unescape P.slipEsc00 false body = []) ∧
      exists s : Rx,
        recvPacket P p timeout ((END :: (body ++ END :: more)).map some) =
          (scan P.slipEsc00 s END (more.map some)).map
            (fun r => (((r.1.take len).length : Int),
              p.write 0 (r.1.take len), r.2))) := by
  rcases scan_survivors P.slipEsc00 hend (some END :: more.map some) false []
    END with ⟨c', hscan⟩
  rw [List.nil_append] at hscan
  have hcall :
      recvPacket P p timeout ((END :: (body ++ END :: more)).map some) =
        (scan P.slipEsc00
          { escaped := inEscape false body
            decoded := unescape P.slipEsc00 false body } c'
          (some END :: more.map some)).map
          (fun r => (((r.1.take len).length : Int),
            p.write 0 (r.1.take len), r.2)) := by
    rw [List.map_cons, List.map_append, List.map_cons,
      recvPacket_eq_scan P hlen p timeout (waitEnd_first htimeout _), Rx.start,
      hscan]
  rw [hcall]
  cases hescape : inEscape false body with
  | true =>
      refine Or.inr ⟨Or.inl rfl, ⟨false, unescape P.slipEsc00 false body⟩, ?_⟩
      rw [scan_some _ _ (Rx.feed_escaped_end P.slipEsc00 _)]
  | false =>
      by_cases hnil : unescape P.slipEsc00 false body = []
      · refine Or.inr ⟨Or.inr hnil, Rx.start, ?_⟩
        rw [hnil]
        exact congrArg _ (scan_some c' _ (Rx.feed_end_empty P.slipEsc00))
      · refine Or.inl ⟨rfl, hnil, ?_⟩
        rw [scan_end hnil]
        rfl

/-!
## Agreement
-/

/-- The packets that the bridge makes of `bodies`, as `recv_packet` would
return them. -/
def bridgeResults (slipEsc00 : Bool) (bodies : List (List UInt8)) :
    List (Int × List UInt8) :=
  (bodies.map (bridgeUnescape slipEsc00 false)).map
    (fun f => ((f.length : Int), f))

/-- A call that has lost a closing END leaves too few of them for the packets
that are still to come. -/
theorem recvPackets_lost_end {P : Platform} {len : Nat} (hlen : 1 ≤ len)
    {timeout : Int16} {p : Buffer len} {line : Line} {s : Rx}
    {more : List (List UInt8)}
    (hmore : forall body, body ∈ more -> FitsBoth P.slipEsc00 len body)
    (hcall : recvPacket P p timeout line =
      (scan P.slipEsc00 s END ((delimited more).map some)).map
        (fun r => (((r.1.take len).length : Int),
          p.write 0 (r.1.take len), r.2)))
    (first : Int × List UInt8) :
    recvPackets P timeout (more.length + 1) p line ≠
      some (first :: bridgeResults P.slipEsc00 more, []) := by
  intro h
  rcases hscan : scan P.slipEsc00 s END ((delimited more).map some) with
    _ | ⟨d, rest⟩
  · rw [hscan, Option.map_none] at hcall
    rw [recvPackets, hcall] at h
    cases h
  · rw [hscan, Option.map_some] at hcall
    rw [recvPackets_succ hcall, Option.map_eq_some_iff] at h
    rcases h with ⟨⟨results, rest'⟩, hcalls, heq⟩
    rw [Prod.mk.injEq, List.cons.injEq] at heq
    rcases heq with ⟨⟨_, hresults⟩, hrest⟩
    simp only at hresults hrest
    rcases scan_count_end hscan with ⟨bytes, hbytes, hcount⟩
    rw [count_end_delimited (fun body hmem => (hmore body hmem).no_end)]
      at hcount
    have hlow : forall f, f ∈ more.map (bridgeUnescape P.slipEsc00 false) ->
        1 ≤ f.length := by
      intro f hf
      rcases List.mem_map.mp hf with ⟨body, hmem, hbody⟩
      rw [← hbody]
      exact (hmore body hmem).nonempty
    rw [hresults, bridgeResults, hbytes,
      ← List.length_map (bridgeUnescape P.slipEsc00 false)] at hcalls
    have htwo := recvPackets_count_end hlen hlow hcalls
    rw [List.length_map] at htwo
    omega

theorem recvPackets_delimited_iff {P : Platform} {len : Nat} (hlen : 1 ≤ len)
    {timeout : Int16} (htimeout : timeout - 1 ≠ 0)
    {bodies : List (List UInt8)}
    (hbodies : forall body, body ∈ bodies -> FitsBoth P.slipEsc00 len body) :
    forall p : Buffer len,
      recvPackets P timeout bodies.length p ((delimited bodies).map some) =
          some (bridgeResults P.slipEsc00 bodies, []) <->
        forall body, body ∈ bodies -> EscapesPaired P.slipEsc00 0 body := by
  induction bodies with
  | nil =>
      intro p
      simp [recvPackets, delimited, bridgeResults]
  | cons body more ih =>
      intro p
      have hbody := hbodies body List.mem_cons_self
      have hmore : forall body', body' ∈ more ->
          FitsBoth P.slipEsc00 len body' := by
        intro body' hmem
        exact hbodies body' (List.mem_cons_of_mem body hmem)
      have hlength := unescape_length_le P.slipEsc00 body 0
      have hpaired := escapesPaired_iff P.slipEsc00 body 0
      rw [show decide (0 % 2 = 1) = false from rfl,
        show decide (0 < 0) = false from rfl] at hlength hpaired
      have hfit : (unescape P.slipEsc00 false body).length ≤ len :=
        Nat.le_trans hlength
          (Nat.le_trans hbody.fits (Nat.min_le_right MTU len))
      have hresults : bridgeResults P.slipEsc00 (body :: more) =
          (((bridgeUnescape P.slipEsc00 false body).length : Int),
            bridgeUnescape P.slipEsc00 false body) ::
            bridgeResults P.slipEsc00 more := rfl
      rw [delimited_cons, List.length_cons, hresults, List.forall_mem_cons,
        hpaired]
      rcases recvPacket_delimited hlen p htimeout hbody.no_end
          (delimited more) with
        ⟨hescape, _, hcall⟩ | ⟨hopen, s, hcall⟩
      · have hslice := slice_kept p (unescape P.slipEsc00 false body)
        rw [List.take_of_length_le hfit] at hcall hslice
        rw [recvPackets_succ hcall, Option.map_eq_some_iff]
        constructor
        · intro h
          rcases h with ⟨⟨results, rest⟩, hcalls, heq⟩
          rw [Prod.mk.injEq, List.cons.injEq, Prod.mk.injEq,
            Int.toNat_natCast, hslice] at heq
          rcases heq with ⟨⟨⟨_, hsame⟩, hmoreResults⟩, hrest⟩
          simp only at hmoreResults hrest
          rw [hmoreResults, hrest] at hcalls
          exact ⟨⟨hescape, hsame⟩, (ih hmore _).mp hcalls⟩
        · intro h
          rcases h with ⟨⟨_, hsame⟩, hall⟩
          refine ⟨_, (ih hmore _).mpr hall, ?_⟩
          rw [Int.toNat_natCast, hslice, hsame]
      · constructor
        · intro hcalls
          exact absurd hcalls (recvPackets_lost_end hlen hmore hcall _)
        · intro h
          rcases h with ⟨⟨hescape, hsame⟩, _⟩
          exfalso
          rcases hopen with hin | hnil
          · rw [hescape] at hin
            cases hin
          · have hpos := hbody.nonempty
            rw [← hsame, hnil] at hpos
            exact absurd hpos (by decide)

/-- The two decoders agree if and only if in every body a run of ESC bytes has
odd length exactly when a code follows it. -/
theorem decodersAgree_iff (P : Platform) {len : Nat} (p : Buffer len)
    {timeout : Int16} (htimeout : reads timeout ≠ 0)
    {bodies : List (List UInt8)}
    (hbodies : forall body, body ∈ bodies -> FitsBoth P.slipEsc00 len body) :
    DecodersAgree P p timeout bodies <->
      forall body, body ∈ bodies -> EscapesPaired P.slipEsc00 0 body := by
  have hframes := decodeBytes_delimited hbodies
  have hread : timeout - 1 ≠ 0 := fun hzero =>
    htimeout ((reads_eq_zero_iff timeout).mpr hzero)
  unfold DecodersAgree
  simp only [hframes, List.length_map]
  cases bodies with
  | nil => simp [recvPackets, delimited]
  | cons body more =>
      have hbody := hbodies body List.mem_cons_self
      have hlen : 1 ≤ len :=
        Nat.le_trans hbody.nonempty
          (Nat.le_trans hbody.fits (Nat.min_le_right MTU len))
      exact recvPackets_delimited_iff hlen hread hbodies p

/-- The Spectrum decodes the ESC of the first body as the bridge does, and
both drop the pair of them in the second one. -/
theorem decodersAgree_iff_two_bodies :
    DecodersAgree Platform.spectrum (⟨[0, 0, 0, 0], rfl⟩ : Buffer 4) 80
        [[0x45, ESC, ESC_ZER], [ESC, ESC, 0x41]] <->
      forall body, body ∈ [[0x45, ESC, ESC_ZER], [ESC, ESC, 0x41]] ->
        EscapesPaired true 0 body :=
  decodersAgree_iff Platform.spectrum ⟨[0, 0, 0, 0], rfl⟩
    (show reads 80 ≠ 0 by decide)
    (by
      intro body hmem
      simp at hmem
      rcases hmem with rfl | rfl <;>
        exact ⟨by decide, by decide, by decide⟩)

/-- `slip_decode` takes the byte behind the ESC as it is, `recv_packet` drops
it. -/
theorem not_decodersAgree_unknown_escape :
    FitsBoth true 4 [0x45, ESC, 0x41] ∧
      ¬ DecodersAgree Platform.spectrum (⟨[0, 0, 0, 0], rfl⟩ : Buffer 4) 80
        [[0x45, ESC, 0x41]] := by
  refine ⟨⟨by decide, by decide, by decide⟩, ?_⟩
  unfold DecodersAgree
  decide +kernel

end Slip
end Z80Tcpip
