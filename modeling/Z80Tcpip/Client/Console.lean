import Z80Tcpip.Foundation.Buffer

/-!
# The console

The generic console driver as test/test_irc.c emulates it: 24 rows of 64
columns, a goto sequence of three bytes, and a scroll that is put off until
something is printed below the last row.
-/

namespace Z80Tcpip
namespace Client

open Foundation

def W : Nat := 64
def H : Nat := 24

abbrev Row := Buffer W

def blankRow : Row :=
  ⟨List.replicate W 0x20, List.length_replicate⟩

structure Console where
  rows : List Row
  rows_length : rows.length = H
  cx : Nat
  cy : Nat
  paramsLeft : Nat
  param0 : UInt8

namespace Console

/-- A cleared screen. -/
def blank : Console where
  rows := List.replicate H blankRow
  rows_length := List.length_replicate
  cx := 0
  cy := 0
  paramsLeft := 0
  param0 := 0

/-- `screen[y]` -/
def row (con : Console) (y : Nat) : Row :=
  con.rows.getD y blankRow

/-- The rows above the last one. -/
def top (con : Console) : List Row :=
  con.rows.take (H - 1)

def conScroll (con : Console) : Console :=
  { con with
    rows := con.rows.drop 1 ++ [blankRow]
    rows_length := by
      have h := con.rows_length
      simp only [H] at h
      simp only [List.length_append, List.length_drop, h, H]
      rfl }

def conCls (con : Console) : Console :=
  { con with
    rows := List.replicate H blankRow
    rows_length := List.length_replicate
    cx := 0
    cy := 0 }

/-- `while (cy > H - 1) { con_scroll(); cy--; }`, with `turns` to spare. -/
def lazyScroll : Nat -> Console -> Console
  | 0, con => con
  | turns + 1, con =>
      if H - 1 < con.cy then
        lazyScroll turns { con.conScroll with cy := con.cy - 1 }
      else con

/-- `screen[cy][cx] = c;` -/
def store (con : Console) (c : UInt8) : Console :=
  { con with
    rows := con.rows.modify con.cy (fun row => row.put con.cx c)
    rows_length := by rw [List.length_modify, con.rows_length] }

/-- `cx++; if (cx == W) { cx = 0; cy++; }` -/
def advance (con : Console) : Console :=
  if con.cx + 1 = W then { con with cx := 0, cy := con.cy + 1 }
  else { con with cx := con.cx + 1 }

def conPrintable (con : Console) (c : UInt8) : Console :=
  ((lazyScroll con.cy con).store c).advance

/-- The second parameter of a goto: the position is taken if it is on the
screen. -/
def goto (con : Console) (c : UInt8) : Console :=
  if 32 ≤ c.toNat ∧ c.toNat - 32 < W ∧
      32 ≤ con.param0.toNat ∧ con.param0.toNat - 32 < H then
    { con with cx := c.toNat - 32, cy := con.param0.toNat - 32 }
  else con

/-- test_irc.c `mock_putchar`. -/
def putchar (con : Console) (c : UInt8) : Console :=
  if con.paramsLeft ≠ 0 then
    if con.paramsLeft - 1 ≠ 0 then
      { con with paramsLeft := con.paramsLeft - 1, param0 := c }
    else goto { con with paramsLeft := con.paramsLeft - 1 } c
  else if c = 22 then { con with paramsLeft := 2 }
  else if c = 12 then con.conCls
  else if c = 13 then { con with cx := 0 }
  else if c = 8 then
    if con.cx ≠ 0 then { con with cx := con.cx - 1 }
    else { con with cx := W - 1, cy := con.cy - 1 }
  else if c = 10 then
    if H - 1 ≤ con.cy then { con.conScroll with cx := 0, cy := H - 1 }
    else { con with cx := 0, cy := con.cy + 1 }
  else con.conPrintable c

def putchars (con : Console) (s : List UInt8) : Console :=
  s.foldl putchar con

end Console

end Client
end Z80Tcpip
