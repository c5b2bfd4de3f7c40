import Z80Tcpip.Client.Screen

/-!
# Printing whole rows

What the console makes of 64 printable characters on the bottom row, and on the
row below it: there the first of them scrolls the screen.
-/

namespace Z80Tcpip
namespace Client

open Foundation

/-- The console is not inside a goto sequence, shows `top` above `bottom`, and
prints next at `cx`, `cy`. -/
structure Holds (con : Console) (top : List Row) (bottom : Row)
    (cx cy : Nat) : Prop where
  rows_eq : con.rows = top ++ [bottom]
  idle : con.paramsLeft = 0
  cx_eq : con.cx = cx
  cy_eq : con.cy = cy

variable {con : Console} {top : List Row} {bottom : Row} {cx cy : Nat}

theorem Holds.top_length (h : Holds con top bottom cx cy) :
    top.length = INPUT_ROW := by
  have hlen := con.rows_length
  rw [h.rows_eq, List.length_append] at hlen
  simp only [H, List.length_singleton] at hlen
  simp only [INPUT_ROW, SCREEN_ROWS]
  omega

theorem Holds.top_eq (h : Holds con top bottom cx cy) : con.top = top := by
  have hlen := h.top_length
  rw [Console.top, h.rows_eq]
  exact List.take_left' hlen

theorem Holds.bottom_eq (h : Holds con top bottom cx cy) :
    con.row INPUT_ROW = bottom := by
  have hlen := h.top_length
  rw [Console.row, h.rows_eq, List.getD_eq_getElem?_getD,
    List.getElem?_append_right (Nat.le_of_eq hlen), hlen, Nat.sub_self]
  rfl

theorem holds_of_idle (h : con.paramsLeft = 0) :
    Holds con con.top (con.row INPUT_ROW) con.cx con.cy := by
  refine ⟨?_, h, rfl, rfl⟩
  have hlen := con.rows_length
  have hlt : INPUT_ROW < con.rows.length := by
    rw [hlen]
    decide
  have hdrop : con.rows.drop INPUT_ROW = [con.rows[INPUT_ROW]] := by
    rw [List.drop_eq_getElem_cons hlt, List.drop_eq_nil_of_le]
    rw [hlen]
    decide
  have hrow : con.row INPUT_ROW = con.rows[INPUT_ROW] := by
    rw [Console.row, List.getD_eq_getElem?_getD,
      List.getElem?_eq_getElem hlt]
    rfl
  rw [hrow, ← hdrop]
  exact (List.take_append_drop INPUT_ROW con.rows).symm

/-!
## One character
-/

/-- Characters that the driver prints. -/
theorem Console.putchar_printable {c : UInt8} (hidle : con.paramsLeft = 0)
    (hc : Printable c) : con.putchar c = con.conPrintable c := by
  have hlow := hc.left
  have hne : forall b : UInt8, b.toNat < 32 -> c ≠ b := by
    intro b hb heq
    rw [heq] at hlow
    omega
  rw [Console.putchar, if_neg (fun h => h hidle), if_neg (hne 22 (by decide)),
    if_neg (hne 12 (by decide)), if_neg (hne 13 (by decide)),
    if_neg (hne 8 (by decide)), if_neg (hne 10 (by decide))]

theorem lazyScroll_idle (turns : Nat) :
    forall con : Console, (con.lazyScroll turns).paramsLeft =
      con.paramsLeft := by
  induction turns with
  | zero => exact fun _ => rfl
  | succ turns ih =>
      intro con
      unfold Console.lazyScroll
      split_ifs
      · exact ih _
      · rfl

/-- Only the character 22 starts a goto sequence. -/
theorem Console.putchar_idle {c : UInt8} (hidle : con.paramsLeft = 0)
    (hc : c ≠ 22) : (con.putchar c).paramsLeft = 0 := by
  have hprint : (con.conPrintable c).paramsLeft = 0 := by
    unfold Console.conPrintable Console.advance
    split_ifs
    · exact (lazyScroll_idle con.cy con).trans hidle
    · exact (lazyScroll_idle con.cy con).trans hidle
  rw [Console.putchar, if_neg (fun h => h hidle), if_neg hc]
  split_ifs
  all_goals first | exact hidle | exact hprint

theorem Console.putchars_no_goto {s : List UInt8} :
    forall {con : Console}, con.paramsLeft = 0 -> 22 ∉ s ->
      (con.putchars s).paramsLeft = 0 := by
  induction s with
  | nil => exact fun hidle _ => hidle
  | cons c rest ih =>
      intro con hidle hs
      have hc : c ≠ 22 := by
        intro heq
        rw [heq] at hs
        exact hs List.mem_cons_self
      exact ih (Console.putchar_idle hidle hc)
        (fun hmem => hs (List.mem_cons_of_mem c hmem))

theorem Console.putchars_idle {con : Console} {s : List UInt8}
    (hidle : con.paramsLeft = 0) (hs : forall c, c ∈ s -> Printable c) :
    (con.putchars s).paramsLeft = 0 :=
  Console.putchars_no_goto hidle
    (fun hmem => absurd (hs 22 hmem).left (by decide))

theorem modify_last (top : List Row) (bottom : Row) (f : Row -> Row) :
    (top ++ [bottom]).modify top.length f = top ++ [f bottom] := by
  induction top with
  | nil => rfl
  | cons row rest ih =>
      rw [List.cons_append, List.length_cons, List.modify_succ_cons, ih]
      rfl

theorem Holds.store (h : Holds con top bottom cx INPUT_ROW) (c : UInt8) :
    Holds (con.store c) top (bottom.put cx c) cx INPUT_ROW := by
  refine ⟨?_, h.idle, h.cx_eq, h.cy_eq⟩
  show con.rows.modify con.cy (fun row => row.put con.cx c) = _
  rw [h.rows_eq, h.cx_eq, h.cy_eq, ← h.top_length, modify_last]

/-- The position behind the one at column `cx` of the bottom row. -/
theorem Holds.advance (h : Holds con top bottom cx cy) :
    Holds con.advance top bottom (if cx + 1 = W then 0 else cx + 1)
      (if cx + 1 = W then cy + 1 else cy) := by
  unfold Console.advance
  rw [h.cx_eq]
  split_ifs
  · exact ⟨h.rows_eq, h.idle, rfl, congrArg (· + 1) h.cy_eq⟩
  · exact ⟨h.rows_eq, h.idle, rfl, h.cy_eq⟩

theorem lazyScroll_done (turns : Nat) (h : con.cy ≤ H - 1) :
    con.lazyScroll turns = con := by
  cases turns with
  | zero => rfl
  | succ turns => exact if_neg (by omega)

theorem Holds.print (h : Holds con top bottom cx INPUT_ROW) {c : UInt8}
    (hc : Printable c) :
    Holds (con.putchar c) top (bottom.put cx c)
      (if cx + 1 = W then 0 else cx + 1)
      (if cx + 1 = W then INPUT_ROW + 1 else INPUT_ROW) := by
  have hscroll : con.lazyScroll con.cy = con := by
    apply lazyScroll_done
    rw [h.cy_eq]
    decide
  rw [Console.putchar_printable h.idle hc, Console.conPrintable, hscroll]
  exact (h.store c).advance

/-- The rows that a scroll leaves above the bottom row. -/
theorem Holds.scroll (h : Holds con top bottom cx cy) (cy' : Nat) :
    Holds { con.conScroll with cy := cy' } (top.drop 1 ++ [bottom]) blankRow
      cx cy' := by
  refine ⟨?_, h.idle, h.cx_eq, rfl⟩
  have hlen := h.top_length
  show con.rows.drop 1 ++ [blankRow] = _
  rw [h.rows_eq, List.drop_append_of_le_length]
  rw [hlen]
  decide

/-- Below the bottom row the screen scrolls before a character is printed. -/
theorem Holds.print_below (h : Holds con top bottom cx (INPUT_ROW + 1))
    {c : UInt8} (hc : Printable c) :
    Holds (con.putchar c) (top.drop 1 ++ [bottom]) (blankRow.put cx c)
      (if cx + 1 = W then 0 else cx + 1)
      (if cx + 1 = W then INPUT_ROW + 1 else INPUT_ROW) := by
  have hscrolled := h.scroll INPUT_ROW
  have hlazy : con.lazyScroll con.cy =
      { con.conScroll with cy := INPUT_ROW } := by
    rw [h.cy_eq, show INPUT_ROW + 1 = 23 + 1 from rfl, Console.lazyScroll,
      h.cy_eq, if_pos (by decide)]
    exact lazyScroll_done 23 (Nat.le_refl _)
  rw [Console.putchar_printable h.idle hc, Console.conPrintable, hlazy]
  exact (hscrolled.store c).advance

/-- A newline below the bottom row scrolls once. -/
theorem Holds.newline (h : Holds con top bottom cx (INPUT_ROW + 1)) :
    Holds (con.putchar 10) (top.drop 1 ++ [bottom]) blankRow 0 INPUT_ROW := by
  have hscrolled := h.scroll INPUT_ROW
  have hcy : H - 1 ≤ con.cy := by
    rw [h.cy_eq]
    decide
  rw [Console.putchar, if_neg (fun hne => hne h.idle), if_neg (by decide),
    if_neg (by decide), if_neg (by decide), if_neg (by decide),
    if_pos (by decide), if_pos hcy]
  exact ⟨hscrolled.rows_eq, hscrolled.idle, rfl, hscrolled.cy_eq⟩

/-- The goto sequence to the front of the bottom row. -/
theorem Holds.printAt (h : Holds con top bottom cx cy) :
    Holds (con.printAt INPUT_ROW 0) top bottom 0 INPUT_ROW := by
  have hseq : con.printAt INPUT_ROW 0 =
      { con with
        cx := 0
        cy := INPUT_ROW
        paramsLeft := 0
        param0 := 55 } := by
    have hfirst : con.putchar 22 = { con with paramsLeft := 2 } := by
      rw [Console.putchar, if_neg (fun hne => hne h.idle), if_pos rfl]
    rw [Console.printAt, hfirst]
    rfl
  rw [hseq]
  exact ⟨h.rows_eq, rfl, rfl, rfl⟩

/-!
## Whole rows
-/

theorem putchars_append (con : Console) (s t : List UInt8) :
    con.putchars (s ++ t) = (con.putchars s).putchars t :=
  List.foldl_append

/-- The rest of a row, behind what has been printed on it. -/
theorem Holds.print_rest {old : Row} :
    forall (s : List UInt8) {con : Console} {d : List UInt8},
      Holds con top (old.write 0 d) d.length INPUT_ROW ->
      (forall c, c ∈ s -> Printable c) -> s ≠ [] ->
      d.length + s.length = W ->
        Holds (con.putchars s) top (rowOf (d ++ s)) 0 (INPUT_ROW + 1)
  | [], _, _, _, _, hne, _ => absurd rfl hne
  | c :: rest, con, d, h, hs, _, hlen => by
      rw [List.length_cons] at hlen
      have hroom : d.length < W := by
        omega
      have hprint := h.print (hs c List.mem_cons_self)
      rw [old.write_put c hroom] at hprint
      cases rest with
      | nil =>
          have hlast : d.length + 1 = W := by
            simpa using hlen
          have hfull : old.write 0 (d ++ [c]) = rowOf (d ++ [c]) := by
            apply Buffer.ext
            have hlen' : (d ++ [c]).length = W := by
              rw [List.length_append, List.length_singleton, hlast]
            rw [rowOf_bytes hlen', old.write_bytes (by omega), List.take_zero,
              List.nil_append, hlen', List.drop_eq_nil_of_le (by simp),
              List.append_nil]
          rw [if_pos hlast, if_pos hlast, hfull] at hprint
          exact hprint
      | cons c' more =>
          have hmore : d.length + 1 ≠ W := by
            rw [List.length_cons] at hlen
            omega
          rw [if_neg hmore, if_neg hmore,
            show d.length + 1 = (d ++ [c]).length by simp] at hprint
          have hrest := Holds.print_rest (c' :: more) hprint
            (fun b hb => hs b (List.mem_cons_of_mem c hb))
            (List.cons_ne_nil c' more)
            (by rw [List.length_append, List.length_singleton]; omega)
          rw [List.append_assoc] at hrest
          exact hrest

theorem Holds.print_row (h : Holds con top bottom 0 INPUT_ROW)
    {s : List UInt8} (hs : forall c, c ∈ s -> Printable c)
    (hlen : s.length = W) :
    Holds (con.putchars s) top (rowOf s) 0 (INPUT_ROW + 1) := by
  have hne : s ≠ [] := by
    intro hnil
    rw [hnil] at hlen
    cases hlen
  have hnone : bottom = bottom.write 0 [] := (bottom.write_nil 0).symm
  rw [hnone] at h
  exact Holds.print_rest s h hs hne (by rw [List.length_nil]; omega)

/-- A row printed below the bottom row moves the bottom row up. -/
theorem Holds.print_row_below (h : Holds con top bottom 0 (INPUT_ROW + 1))
    {s : List UInt8} (hs : forall c, c ∈ s -> Printable c)
    (hlen : s.length = W) :
    Holds (con.putchars s) (top.drop 1 ++ [bottom]) (rowOf s) 0
      (INPUT_ROW + 1) := by
  cases s with
  | nil => cases hlen
  | cons c rest =>
      rw [List.length_cons] at hlen
      have hprint := h.print_below (hs c List.mem_cons_self)
      have hfirst : blankRow.put 0 c = blankRow.write 0 [c] := by
        rw [blankRow.put_eq_write c (by decide)]
      rw [if_neg (by decide), if_neg (by decide), hfirst] at hprint
      exact Holds.print_rest rest (d := [c]) hprint
        (fun b hb => hs b (List.mem_cons_of_mem c hb))
        (by intro hnil; rw [hnil] at hlen; cases hlen)
        (by rw [List.length_singleton]; omega)

/-!
## Many rows
-/

theorem lastRows_of_length {rows : List Row} (h : rows.length = INPUT_ROW) :
    lastRows rows = rows := by
  rw [lastRows, h, Nat.sub_self, List.drop_zero]

/-- Scrolling one row at a time keeps the last rows. -/
theorem lastRows_scroll {top : List Row} (htop : top.length = INPUT_ROW)
    (row : Row) (more : List Row) :
    lastRows (top.drop 1 ++ [row] ++ more) = lastRows (top ++ row :: more) := by
  cases top with
  | nil => cases htop
  | cons first rest =>
      rw [List.length_cons] at htop
      have hlen : (rest ++ [row] ++ more).length - INPUT_ROW =
          more.length := by
        simp only [List.length_append, List.length_singleton]
        omega
      have hlen' : (first :: rest ++ row :: more).length - INPUT_ROW =
          more.length + 1 := by
        simp only [List.length_append, List.length_cons]
        omega
      rw [List.drop_one, List.tail_cons, lastRows, lastRows, hlen, hlen',
        List.cons_append, List.drop_succ_cons, List.append_assoc,
        List.singleton_append]

/-- Rows printed one after another below the bottom row, and the newline
behind the last of them. -/
theorem Holds.print_rows :
    forall (rows : List Row) {con : Console} {top : List Row} {bottom : Row},
      Holds con top bottom 0 (INPUT_ROW + 1) ->
      (forall row, row ∈ rows -> forall c, c ∈ row.bytes -> Printable c) ->
        Holds ((con.putchars (rows.flatMap Buffer.bytes)).putchar 10)
          (lastRows (top ++ bottom :: rows)) blankRow 0 INPUT_ROW
  | [], con, top, bottom, h, _ => by
      have hscroll := lastRows_scroll h.top_length bottom []
      have hlen : (top.drop 1 ++ [bottom]).length = INPUT_ROW := by
        rw [List.length_append, List.length_drop, h.top_length]
        rfl
      rw [List.append_nil, lastRows_of_length hlen] at hscroll
      rw [← hscroll]
      exact h.newline
  | row :: more, con, top, bottom, h, hrows => by
      have hprint := h.print_row_below (hrows row List.mem_cons_self)
        row.bytes_length
      have hrow : rowOf row.bytes = row :=
        Buffer.ext (rowOf_bytes row.bytes_length)
      rw [hrow] at hprint
      have hrest := Holds.print_rows more hprint
        (fun row' hmem => hrows row' (List.mem_cons_of_mem row hmem))
      rw [lastRows_scroll h.top_length] at hrest
      rw [List.flatMap_cons, putchars_append]
      exact hrest

/-!
## A text and the input line
-/

/-- A text with spaces behind it, up to a whole number of rows. -/
def padded (text : List UInt8) : List UInt8 :=
  text ++ List.replicate (W * rowCount text.length - text.length) 0x20

theorem length_le_rows (n : Nat) : n ≤ W * rowCount n := by
  simp only [W, rowCount]
  omega

/-- The rows of a text that fits on `n` of them, one behind the other. -/
theorem cutRows_bytes (n : Nat) :
    forall text : List UInt8, text.length ≤ W * n ->
      ((List.range n).map (fun i => rowOf ((text.drop (W * i)).take W))).flatMap
          Buffer.bytes =
        text ++ List.replicate (W * n - text.length) 0x20 := by
  induction n with
  | zero =>
      intro text hfit
      have hnil : text = [] := List.length_eq_zero_iff.mp (by omega)
      rw [hnil]
      rfl
  | succ n ih =>
      intro text hfit
      have hdrop : forall i : Nat,
          text.drop (W * (i + 1)) = (text.drop W).drop (W * i) := by
        intro i
        rw [List.drop_drop, Nat.mul_succ, Nat.add_comm]
      have hrest := ih (text.drop W) (by
        rw [List.length_drop]
        simp only [Nat.mul_succ] at hfit
        omega)
      have hfirst : (rowOf (text.take W)).bytes ++
          text.drop W ++ List.replicate (W * n - (text.length - W)) 0x20 =
            text ++ List.replicate (W * (n + 1) - text.length) 0x20 := by
        rcases Nat.lt_or_ge text.length W with hshort | hlong
        · have hrow : (rowOf text).bytes =
              text ++ List.replicate (W - text.length) 0x20 := by
            show (text ++ List.replicate W 0x20).take W = _
            rw [List.take_append, List.take_of_length_le (by omega),
              List.take_replicate, Nat.min_eq_left (Nat.sub_le _ _)]
          have hspaces : W - text.length + (W * n - (text.length - W)) =
              W * (n + 1) - text.length := by
            simp only [Nat.mul_succ]
            omega
          rw [List.take_of_length_le (by omega), hrow,
            List.drop_eq_nil_of_le (by omega), List.append_nil,
            List.append_assoc, List.replicate_append_replicate, hspaces]
        · have hwhole : (text.take W).length = W := by
            rw [List.length_take]
            omega
          rw [rowOf_bytes hwhole, List.take_append_drop]
          congr 2
          simp only [Nat.mul_succ]
          omega
      rw [List.range_succ_eq_map, List.map_cons, List.map_map,
        List.flatMap_cons, Nat.mul_zero, List.drop_zero, ← hfirst,
        List.append_assoc, ← List.length_drop, ← hrest]
      congr 2
      apply List.map_congr_left
      intro i _
      exact congrArg (fun t => rowOf (t.take W)) (hdrop i)

theorem textRows_bytes (text : List UInt8) :
    (textRows text).flatMap Buffer.bytes = padded text :=
  cutRows_bytes (rowCount text.length) text (length_le_rows text.length)

/-- The rows of a text are never none. -/
theorem textRows_ne_nil (text : List UInt8) : textRows text ≠ [] := by
  intro hnil
  have hlen := congrArg List.length hnil
  rw [textRows, List.length_map, List.length_range, rowCount,
    List.length_nil] at hlen
  omega

theorem printable_padded {text : List UInt8}
    (h : forall c, c ∈ text -> Printable c) :
    forall c, c ∈ padded text -> Printable c := by
  intro c hc
  rcases List.mem_append.mp hc with htext | hspace
  · exact h c htext
  · rw [List.eq_of_mem_replicate hspace]
    decide

/-- A padded text on the bottom row and the newline behind it. -/
theorem Holds.print_text (h : Holds con top bottom 0 INPUT_ROW)
    {text : List UInt8} (htext : forall c, c ∈ text -> Printable c) :
    Holds ((con.putchars (padded text)).putchar 10)
      (lastRows (top ++ textRows text)) blankRow 0 INPUT_ROW := by
  have hbytes := textRows_bytes text
  have hne := textRows_ne_nil text
  cases hrows : textRows text with
  | nil => exact absurd hrows hne
  | cons first more =>
      rw [hrows, List.flatMap_cons] at hbytes
      have hprintable : forall c, c ∈ first.bytes ++
          more.flatMap Buffer.bytes -> Printable c := by
        rw [hbytes]
        exact printable_padded htext
      have hfirst := h.print_row
        (fun c hc => hprintable c (List.mem_append_left _ hc))
        first.bytes_length
      rw [Buffer.ext (rowOf_bytes first.bytes_length)] at hfirst
      have hall := hfirst.print_rows more (fun row hrow c hc =>
        hprintable c (List.mem_append_right _
          (List.mem_flatMap.mpr ⟨row, hrow, hc⟩)))
      rw [← hbytes, putchars_append]
      exact hall

/-- `draw_input` shows the input line and leaves the log alone. -/
theorem Holds.drawInput (h : Holds con top bottom cx cy) {input : List UInt8}
    (hinput : forall c, c ∈ input -> Printable c) :
    Holds (Screen.drawInput { con := con, input := input }).con top
      (rowOf (inputRow input)) 0 INPUT_ROW :=
  (h.printAt.print_row (printable_inputRow hinput)
    (inputRow_length input)).printAt

end Client
end Z80Tcpip
