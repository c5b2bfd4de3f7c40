import Mathlib.Data.List.TakeWhile

/-!
# Typed addresses

`parse_number` and `parse_ip` are the same in irc.c and tcp_chat.c.  A string is
the list of its bytes before the NUL, `unsigned int` is a 16-bit word.  What is
accepted is compared with the dotted notation for four bytes.
-/

namespace Z80Tcpip
namespace Client

def IsDigit (c : UInt8) : Prop :=
  0x30 ≤ c ∧ c ≤ 0x39

instance (c : UInt8) : Decidable (IsDigit c) :=
  inferInstanceAs (Decidable (_ ∧ _))

def DOT : UInt8 := 0x2e

/-- The character under a pointer: NUL at the end of the string. -/
def charAt (p : List UInt8) : UInt8 :=
  p.headD 0

theorem charAt_cons (c : UInt8) (p : List UInt8) : charAt (c :: p) = c := rfl

/-- The loop of `parse_number`: the value so far and the rest. -/
def parseNumberLoop (val : UInt16) : List UInt8 -> UInt16 × List UInt8
  | [] => (val, [])
  | c :: p =>
      if IsDigit c then parseNumberLoop (val * 10 + (c.toUInt16 - 0x30)) p
      else (val, c :: p)

def parseNumber (p : List UInt8) : UInt16 × List UInt8 :=
  parseNumberLoop 0 p

/-- The loop of `parse_ip` with `n` bytes to go, the next one at `ip[4 - n]`;
the result and the bytes at `ip`. -/
def parseIpLoop : Nat -> List UInt8 -> List UInt8 -> Int × List UInt8
  | 0, _, ip => (0, ip)
  | n + 1, p, ip =>
      if ¬ IsDigit (charAt p) then (-1, ip)
      else
        let ip' := ip.set (3 - n) (parseNumber p).1.toUInt8
        let p' := (parseNumber p).2
        if 3 - n < 3 then
          if charAt p' ≠ DOT then (-1, ip')
          else parseIpLoop n p'.tail ip'
        else parseIpLoop n p' ip'

def parseIp (p ip : List UInt8) : Int × List UInt8 :=
  parseIpLoop 4 p ip

/-!
## The notation
-/

/-- A non-empty string of decimal digits, of any length. -/
def IsNumber (digits : List UInt8) : Prop :=
  digits ≠ [] ∧ forall c, c ∈ digits -> IsDigit c

def numberValue (digits : List UInt8) : Nat :=
  digits.foldl (fun val c => 10 * val + (c.toNat - 0x30)) 0

/-- The text of four numbers between single dots. -/
def dotted (numbers : List (List UInt8)) : List UInt8 :=
  [DOT].intercalate numbers

structure FourNumbers (numbers : List (List UInt8)) : Prop where
  length_eq : numbers.length = 4
  isNumber : forall digits, digits ∈ numbers -> IsNumber digits

/-- A dotted quad: the whole string is four numbers of at most 255 each. -/
structure DottedQuad (s : List UInt8) (numbers : List (List UInt8)) :
    Prop where
  four : FourNumbers numbers
  text_eq : s = dotted numbers
  value_le : forall digits, digits ∈ numbers -> numberValue digits ≤ 255

/-- What `parse_ip` should do with `s`: accept exactly the dotted quads, with
their values in the four bytes. -/
def ParsesExactly (s : List UInt8) : Prop :=
  forall ip : List UInt8, ip.length = 4 ->
    ((parseIp s ip).1 = 0 <->
      exists numbers : List (List UInt8), DottedQuad s numbers) ∧
    (forall numbers : List (List UInt8), DottedQuad s numbers ->
      (parseIp s ip).2.map UInt8.toNat = numbers.map numberValue) ∧
    ((parseIp s ip).1 = 0 ∨ (parseIp s ip).1 = -1)

/-- Four numbers with more text behind the last one, or with a number that does
not fit in a byte. -/
def Overlooked (s : List UInt8) : Prop :=
  exists (numbers : List (List UInt8)) (rest : List UInt8),
    FourNumbers numbers ∧ s = dotted numbers ++ rest ∧
      ¬ IsDigit (charAt rest) ∧
      (rest ≠ [] ∨ exists digits, digits ∈ numbers ∧ 255 < numberValue digits)

/-!
## Numbers
-/

theorem not_isDigit_DOT (p : List UInt8) :
    ¬ IsDigit (charAt (DOT :: p)) := by
  show ¬ IsDigit DOT
  decide

theorem numberValue_concat (digits : List UInt8) (c : UInt8) :
    numberValue (digits ++ [c]) =
      10 * numberValue digits + (c.toNat - 0x30) := by
  rw [numberValue, List.foldl_append, List.foldl_cons, List.foldl_nil,
    numberValue]

/-- The digits of a number are added one by one, modulo 2^16. -/
theorem parseNumberLoop_digits {digits rest : List UInt8}
    (hrest : ¬ IsDigit (charAt rest)) :
    forall done : List UInt8, (forall c, c ∈ digits -> IsDigit c) ->
      parseNumberLoop (UInt16.ofNat (numberValue done)) (digits ++ rest) =
        (UInt16.ofNat (numberValue (done ++ digits)), rest) := by
  induction digits with
  | nil =>
      intro done _
      rw [List.nil_append, List.append_nil]
      cases rest with
      | nil => rfl
      | cons c more =>
          rw [parseNumberLoop]
          exact if_neg hrest
  | cons c digits ih =>
      intro done hdigits
      have hc : IsDigit c := hdigits c List.mem_cons_self
      have hle : 0x30 ≤ c.toNat := UInt8.le_iff_toNat_le.mp hc.1
      have hstep : UInt16.ofNat (numberValue done) * 10 +
          (c.toUInt16 - 0x30) =
            UInt16.ofNat (numberValue (done ++ [c])) := by
        rw [numberValue_concat]
        apply UInt16.toNat_inj.mp
        have hclt := c.toNat_lt
        have hsub : (c.toUInt16 - 0x30).toNat = c.toNat - 0x30 := by
          rw [UInt16.toNat_sub_of_le]
          · rfl
          · exact UInt16.le_iff_toNat_le.mpr hle
        rw [UInt16.toNat_add, UInt16.toNat_mul, hsub, UInt16.toNat_ofNat',
          UInt16.toNat_ofNat']
        show (_ * 10 % 65536 + _) % 65536 = _
        omega
      rw [List.cons_append, parseNumberLoop, if_pos hc, hstep,
        ih (done ++ [c]) (fun d hd => hdigits d (List.mem_cons_of_mem c hd)),
        List.append_assoc, List.singleton_append]

theorem parseNumber_digits {digits rest : List UInt8}
    (hdigits : IsNumber digits) (hrest : ¬ IsDigit (charAt rest)) :
    parseNumber (digits ++ rest) =
      (UInt16.ofNat (numberValue digits), rest) :=
  parseNumberLoop_digits hrest [] hdigits.2

/-- The narrowing store keeps the value modulo 256. -/
theorem toUInt8_ofNat (n : Nat) : (UInt16.ofNat n).toUInt8 = UInt8.ofNat n := by
  apply UInt8.toNat_inj.mp
  rw [UInt16.toNat_toUInt8, UInt16.toNat_ofNat', UInt8.toNat_ofNat']
  omega

/-- A string whose first character is a digit starts with a number, up to the
first character that is none. -/
theorem exists_number {p : List UInt8} (h : IsDigit (charAt p)) :
    exists digits rest : List UInt8, p = digits ++ rest ∧ IsNumber digits ∧
      ¬ IsDigit (charAt rest) := by
  induction p with
  | nil => exact absurd h (by decide)
  | cons c p ih =>
      have hc : IsDigit c := h
      by_cases hnext : IsDigit (charAt p)
      · rcases ih hnext with ⟨digits, rest, hp, hdigits, hrest⟩
        refine ⟨c :: digits, rest, ?_, ⟨List.cons_ne_nil c digits, ?_⟩, hrest⟩
        · rw [hp, List.cons_append]
        · intro d hd
          cases List.mem_cons.mp hd with
          | inl heq =>
              rw [heq]
              exact hc
          | inr hmem =>
              exact hdigits.2 d hmem
      · refine ⟨[c], p, rfl, ⟨List.cons_ne_nil c [], ?_⟩, hnext⟩
        intro d hd
        rw [List.mem_singleton.mp hd]
        exact hc

theorem charAt_number {digits : List UInt8} (h : IsNumber digits)
    (rest : List UInt8) : IsDigit (charAt (digits ++ rest)) := by
  cases digits with
  | nil => exact absurd rfl h.1
  | cons c digits => exact h.2 c List.mem_cons_self

/-- The end of a number is where its digits end. -/
theorem number_append_inj {digits digits' rest rest' : List UInt8}
    (hdigits : IsNumber digits) (hdigits' : IsNumber digits')
    (hrest : ¬ IsDigit (charAt rest)) (hrest' : ¬ IsDigit (charAt rest'))
    (h : digits ++ rest = digits' ++ rest') :
    digits = digits' ∧ rest = rest' := by
  have htake : forall {front back : List UInt8},
      (forall c, c ∈ front -> IsDigit c) -> ¬ IsDigit (charAt back) ->
        (front ++ back).takeWhile (fun c => decide (IsDigit c)) = front := by
    intro front back hfront hback
    rw [List.takeWhile_append_of_pos
      (fun c hc => decide_eq_true (hfront c hc))]
    cases back with
    | nil => exact List.append_nil front
    | cons c more =>
        rw [List.takeWhile_cons_of_neg, List.append_nil]
        rw [decide_eq_true_eq]
        exact hback
  have hfronts : digits = digits' := by
    rw [<- htake hdigits.2 hrest, h, htake hdigits'.2 hrest']
  rw [hfronts] at h
  exact ⟨hfronts, List.append_cancel_left h⟩

/-!
## Four numbers
-/

theorem dotted_singleton (digits : List UInt8) : dotted [digits] = digits :=
  List.intercalate_singleton

theorem dotted_cons_cons (digits more : List UInt8)
    (numbers : List (List UInt8)) :
    dotted (digits :: more :: numbers) =
      digits ++ DOT :: dotted (more :: numbers) := by
  rw [dotted, List.intercalate_cons_cons, List.append_assoc,
    List.singleton_append, dotted]

theorem charAt_DOT {p : List UInt8} (h : charAt p = DOT) :
    p = DOT :: p.tail := by
  cases p with
  | nil => exact absurd h (by decide)
  | cons c p =>
      have hc : c = DOT := h
      rw [hc, List.tail_cons]

theorem take_set_succ (bytes : List UInt8) {i : Nat} (h : i < bytes.length)
    (b : UInt8) : (bytes.set i b).take (i + 1) = bytes.take i ++ [b] := by
  rw [List.take_add_one, List.take_set_of_le (Nat.le_refl i),
    List.getElem?_set_self h, Option.toList_some]

/-- The loop over numbers between dots: the bytes at `ip` are written one after
the other, and what follows the last number is not looked at. -/
theorem parseIpLoop_dotted {rest : List UInt8}
    (hrest : ¬ IsDigit (charAt rest)) (numbers : List (List UInt8)) :
    forall {digits ip : List UInt8}, numbers.length < 4 -> ip.length = 4 ->
      (forall d, d ∈ digits :: numbers -> IsNumber d) ->
        parseIpLoop (numbers.length + 1)
            (dotted (digits :: numbers) ++ rest) ip =
          (0, ip.take (3 - numbers.length) ++
            (digits :: numbers).map (fun d => UInt8.ofNat (numberValue d))) := by
  induction numbers with
  | nil =>
      intro digits ip _ hip hall
      have hdigits := hall digits List.mem_cons_self
      rw [dotted_singleton, List.length_nil, parseIpLoop,
        if_neg (not_not_intro (charAt_number hdigits rest)),
        parseNumber_digits hdigits hrest, toUInt8_ofNat]
      have hset := take_set_succ ip (i := 3) (by omega)
        (UInt8.ofNat (numberValue digits))
      rw [List.take_of_length_le (by rw [List.length_set]; omega)] at hset
      show (0, ip.set 3 _) = _
      rw [hset]
      rfl
  | cons more numbers ih =>
      intro digits ip hlt hip hall
      have hdigits := hall digits List.mem_cons_self
      rw [List.length_cons] at hlt ⊢
      have hroom : 3 - (numbers.length + 1) < ip.length := by
        omega
      have hindex : 3 - numbers.length = 3 - (numbers.length + 1) + 1 := by
        omega
      rw [dotted_cons_cons, List.append_assoc, List.cons_append, parseIpLoop,
        if_neg (not_not_intro (charAt_number hdigits _)),
        parseNumber_digits hdigits (not_isDigit_DOT _), toUInt8_ofNat]
      dsimp only
      rw [if_pos (by omega), charAt_cons, if_neg (not_not_intro rfl),
        List.tail_cons,
        ih (by omega) (by rw [List.length_set, hip])
          (fun d hd => hall d (List.mem_cons_of_mem digits hd)),
        hindex, take_set_succ ip hroom, List.append_assoc,
        List.singleton_append]
      rfl

theorem failed_ne_zero (ip : List UInt8) : ((-1 : Int), ip).1 ≠ 0 := by
  show (-1 : Int) ≠ 0
  decide

/-- A string that the loop accepts is numbers between dots, and perhaps more. -/
theorem exists_dotted_of_parseIpLoop {n : Nat} :
    forall {p ip : List UInt8}, (parseIpLoop (n + 1) p ip).1 = 0 ->
      exists (numbers : List (List UInt8)) (rest : List UInt8),
        numbers.length = n + 1 ∧
          (forall d, d ∈ numbers -> IsNumber d) ∧
          p = dotted numbers ++ rest ∧ ¬ IsDigit (charAt rest) := by
  induction n with
  | zero =>
      intro p ip h
      by_cases hdigit : IsDigit (charAt p)
      · rcases exists_number hdigit with ⟨digits, rest, hp, hdigits, hrest⟩
        refine ⟨[digits], rest, rfl, ?_, ?_, hrest⟩
        · intro d hd
          rw [List.mem_singleton.mp hd]
          exact hdigits
        · rw [dotted_singleton, hp]
      · rw [parseIpLoop, if_pos hdigit] at h
        exact absurd h (failed_ne_zero _)
  | succ n ih =>
      intro p ip h
      by_cases hdigit : IsDigit (charAt p)
      · rcases exists_number hdigit with ⟨digits, rest, hp, hdigits, hrest⟩
        rw [parseIpLoop, if_neg (not_not_intro hdigit), hp,
          parseNumber_digits hdigits hrest] at h
        dsimp only at h
        rw [if_pos (by omega)] at h
        by_cases hdot : charAt rest = DOT
        · rw [if_neg (not_not_intro hdot)] at h
          rcases ih h with ⟨numbers, rest', hlength, hall, hmore, hend⟩
          cases numbers with
          | nil => cases hlength
          | cons more numbers =>
              refine ⟨digits :: more :: numbers, rest', ?_, ?_, ?_, hend⟩
              · rw [List.length_cons, hlength]
              · intro d hd
                cases List.mem_cons.mp hd with
                | inl heq =>
                    rw [heq]
                    exact hdigits
                | inr hmem =>
                    exact hall d hmem
              · rw [hp, charAt_DOT hdot, hmore, dotted_cons_cons,
                  List.append_assoc, List.cons_append]
        · rw [if_pos hdot] at h
          exact absurd h (failed_ne_zero _)
      · rw [parseIpLoop, if_pos hdigit] at h
        exact absurd h (failed_ne_zero _)

theorem parseIpLoop_result (n : Nat) :
    forall p ip : List UInt8,
      (parseIpLoop n p ip).1 = 0 ∨ (parseIpLoop n p ip).1 = -1 := by
  induction n with
  | zero =>
      intro p ip
      exact Or.inl rfl
  | succ n ih =>
      intro p ip
      rw [parseIpLoop]
      dsimp only
      split_ifs
      · exact Or.inr rfl
      · exact ih _ _
      · exact ih _ _
      · exact Or.inr rfl

/-- The numbers of a text and what follows the last one are determined. -/
theorem dotted_append_inj {rest rest' : List UInt8}
    (hrest : ¬ IsDigit (charAt rest)) (hrest' : ¬ IsDigit (charAt rest'))
    (numbers : List (List UInt8)) :
    forall {numbers' : List (List UInt8)}, numbers ≠ [] ->
      numbers.length = numbers'.length ->
      (forall d, d ∈ numbers -> IsNumber d) ->
      (forall d, d ∈ numbers' -> IsNumber d) ->
      dotted numbers ++ rest = dotted numbers' ++ rest' ->
        numbers = numbers' ∧ rest = rest' := by
  induction numbers with
  | nil =>
      intro _ hne
      exact absurd rfl hne
  | cons digits numbers ih =>
      intro numbers' _ hlength hall hall' h
      cases numbers' with
      | nil => cases hlength
      | cons digits' numbers' =>
          have hdigits := hall digits List.mem_cons_self
          have hdigits' := hall' digits' List.mem_cons_self
          have hlength : numbers.length = numbers'.length :=
            Nat.succ.inj hlength
          cases numbers with
          | nil =>
              rw [List.eq_nil_of_length_eq_zero hlength.symm] at h ⊢
              rw [dotted_singleton, dotted_singleton] at h
              rcases number_append_inj hdigits hdigits' hrest hrest' h with
                ⟨hhead, htail⟩
              rw [hhead]
              exact ⟨rfl, htail⟩
          | cons more numbers =>
              cases numbers' with
              | nil => cases hlength
              | cons more' numbers' =>
                  rw [dotted_cons_cons, dotted_cons_cons, List.append_assoc,
                    List.append_assoc] at h
                  rcases number_append_inj hdigits hdigits'
                    (not_isDigit_DOT _) (not_isDigit_DOT _) h with
                    ⟨hhead, htail⟩
                  rcases ih (List.cons_ne_nil more numbers) hlength
                    (fun d hd => hall d (List.mem_cons_of_mem digits hd))
                    (fun d hd => hall' d (List.mem_cons_of_mem digits' hd))
                    (List.cons.inj htail).2 with ⟨hmore, hend⟩
                  rw [hhead, hmore]
                  exact ⟨rfl, hend⟩

/-!
## What is accepted
-/

theorem parseIp_four {numbers : List (List UInt8)} {rest ip : List UInt8}
    (hfour : FourNumbers numbers) (hrest : ¬ IsDigit (charAt rest))
    (hip : ip.length = 4) :
    parseIp (dotted numbers ++ rest) ip =
      (0, numbers.map (fun d => UInt8.ofNat (numberValue d))) := by
  rcases hfour with ⟨hlength, hall⟩
  cases numbers with
  | nil => exact absurd hlength (by decide)
  | cons digits numbers =>
      have hthree : numbers.length = 3 := Nat.succ.inj hlength
      have hrun := parseIpLoop_dotted hrest numbers
        (by rw [hthree]; decide) hip hall
      rw [hthree, Nat.sub_self, List.take_zero, List.nil_append] at hrun
      exact hrun

theorem exists_four_of_parseIp {s ip : List UInt8}
    (h : (parseIp s ip).1 = 0) :
    exists (numbers : List (List UInt8)) (rest : List UInt8),
      FourNumbers numbers ∧ s = dotted numbers ++ rest ∧
        ¬ IsDigit (charAt rest) := by
  rcases exists_dotted_of_parseIpLoop h with
    ⟨numbers, rest, hlength, hall, hs, hrest⟩
  exact ⟨numbers, rest, ⟨hlength, hall⟩, hs, hrest⟩

theorem DottedQuad.parseIp {s ip : List UInt8} {numbers : List (List UInt8)}
    (h : DottedQuad s numbers) (hip : ip.length = 4) :
    parseIp s ip =
      (0, numbers.map (fun d => UInt8.ofNat (numberValue d))) := by
  have hend : ¬ IsDigit (charAt []) := by
    decide
  have hrun := parseIp_four h.four hend hip
  rwa [List.append_nil, <- h.text_eq] at hrun

theorem DottedQuad.bytes {s ip : List UInt8} {numbers : List (List UInt8)}
    (h : DottedQuad s numbers) (hip : ip.length = 4) :
    (Client.parseIp s ip).2.map UInt8.toNat = numbers.map numberValue := by
  rw [h.parseIp hip, List.map_map]
  apply List.map_congr_left
  intro digits hdigits
  have hle := h.value_le digits hdigits
  rw [Function.comp_apply, UInt8.toNat_ofNat']
  omega

theorem Overlooked.not_parsesExactly {s : List UInt8} (h : Overlooked s) :
    ¬ ParsesExactly s := by
  intro hexact
  rcases h with ⟨numbers, rest, hfour, hs, hrest, hwrong⟩
  have hrun := parseIp_four hfour hrest
    (show [(0 : UInt8), 0, 0, 0].length = 4 from rfl)
  rw [<- hs] at hrun
  rcases (hexact [0, 0, 0, 0] rfl).1.mp (by rw [hrun]) with ⟨quad, hquad⟩
  have hend : ¬ IsDigit (charAt []) := by
    decide
  have hne : numbers ≠ [] := by
    intro hnil
    rw [hnil] at hfour
    exact absurd hfour.length_eq (by decide)
  have htexts : dotted numbers ++ rest = dotted quad ++ [] := by
    rw [List.append_nil, <- hs, hquad.text_eq]
  rcases dotted_append_inj hrest hend numbers hne
    (hfour.length_eq.trans hquad.four.length_eq.symm) hfour.isNumber
    hquad.four.isNumber htexts with ⟨hsame, hnil⟩
  cases hwrong with
  | inl hmore =>
      exact hmore hnil
  | inr hbig =>
      rcases hbig with ⟨digits, hdigits, hlt⟩
      rw [hsame] at hdigits
      have hle := hquad.value_le digits hdigits
      omega

theorem parsesExactly_of_not_overlooked {s : List UInt8}
    (h : ¬ Overlooked s) : ParsesExactly s := by
  intro ip hip
  refine ⟨⟨?_, ?_⟩, ?_, parseIpLoop_result 4 s ip⟩
  · intro hzero
    rcases exists_four_of_parseIp hzero with ⟨numbers, rest, hfour, hs, hrest⟩
    have hnil : rest = [] := by
      by_contra hne
      exact h ⟨numbers, rest, hfour, hs, hrest, Or.inl hne⟩
    refine ⟨numbers, hfour, ?_, ?_⟩
    · rw [hs, hnil, List.append_nil]
    · intro digits hdigits
      by_contra hlt
      exact h ⟨numbers, rest, hfour, hs, hrest,
        Or.inr ⟨digits, hdigits, Nat.lt_of_not_le hlt⟩⟩
  · intro hquad
    rcases hquad with ⟨numbers, hquad⟩
    rw [hquad.parseIp hip]
  · intro numbers hquad
    exact hquad.bytes hip

/-!
## The theorem
-/

/-- `parse_ip` accepts exactly the dotted quads, but for four numbers that
something follows or one of which is too large. -/
theorem parseIp_exact_iff (s : List UInt8) :
    ParsesExactly s <-> ¬ Overlooked s := by
  constructor
  · intro hexact hover
    exact hover.not_parsesExactly hexact
  · exact parsesExactly_of_not_overlooked

/-- The address 256.0.2.1 is taken for 0.0.2.1. -/
theorem parseIp_accepts_256 :
    parseIp [0x32, 0x35, 0x36, DOT, 0x30, DOT, 0x32, DOT, 0x31]
        [0, 0, 0, 0] = (0, [0, 0, 2, 1]) ∧
      ¬ ParsesExactly
        [0x32, 0x35, 0x36, DOT, 0x30, DOT, 0x32, DOT, 0x31] := by
  constructor
  · decide
  · apply Overlooked.not_parsesExactly
    refine ⟨[[0x32, 0x35, 0x36], [0x30], [0x32], [0x31]], [], ⟨rfl, ?_⟩, rfl,
      by decide, Or.inr ⟨[0x32, 0x35, 0x36], List.mem_cons_self, by decide⟩⟩
    have hnumber : forall d : List UInt8, d ≠ [] ->
        d.all (fun c => decide (IsDigit c)) = true ->
          d ≠ [] ∧ forall c, c ∈ d -> IsDigit c := by
      intro d hne hall
      exact ⟨hne, fun c hc => of_decide_eq_true (List.all_eq_true.mp hall c hc)⟩
    intro digits hdigits
    simp only [List.mem_cons, List.not_mem_nil, or_false] at hdigits
    rcases hdigits with rfl | rfl | rfl | rfl
    all_goals exact hnumber _ (by decide) (by decide)

end Client
end Z80Tcpip
