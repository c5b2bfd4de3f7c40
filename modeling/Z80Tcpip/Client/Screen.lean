import Z80Tcpip.Client.Console

/-!
# The bottom row and the log

Both clients type on the bottom row and print a log line there as well: padded
to whole rows and followed by a newline, it moves up into the log.
-/

namespace Z80Tcpip
namespace Client

open Foundation

def SCREEN_COLS : Nat := 64
def SCREEN_ROWS : Nat := 24
def INPUT_ROW : Nat := SCREEN_ROWS - 1
def INPUT_VIEW : Nat := SCREEN_COLS - 2

/-- The characters of a C string literal. -/
def ascii (s : String) : List UInt8 :=
  s.toList.map (fun c => UInt8.ofNat c.toNat)

/-- The screen and the line being typed, `input[0..input_len)`. -/
structure Screen where
  con : Console
  input : List UInt8

/-- `at`: the goto sequence of the console. -/
def Console.printAt (con : Console) (row col : Nat) : Console :=
  ((con.putchar 22).putchar (UInt8.ofNat (row + 32))).putchar
    (UInt8.ofNat (col + 32))

/-- `row` as `draw_input` fills it: the prompt, the tail of what has been
typed, the cursor and blanks. -/
def inputRow (input : List UInt8) : List UInt8 :=
  let start := input.length - INPUT_VIEW
  let n := min input.length INPUT_VIEW
  [0x3e] ++ (input.drop start).take n ++ [0x5f] ++
    List.replicate (SCREEN_COLS - (n + 2)) 0x20

def Screen.drawInput (s : Screen) : Screen :=
  { s with
    con := ((s.con.printAt INPUT_ROW 0).putchars (inputRow s.input)).printAt
      INPUT_ROW 0 }

/-!
## Text and rows
-/

def Printable (c : UInt8) : Prop :=
  32 ≤ c.toNat ∧ c.toNat ≤ 126

instance (c : UInt8) : Decidable (Printable c) :=
  inferInstanceAs (Decidable (_ ∧ _))

/-- Looks at the bytes of the text only, not at all 256 bytes. -/
instance decidableForallByte (p : UInt8 -> Prop) [DecidablePred p]
    (text : List UInt8) : Decidable (forall c, c ∈ text -> p c) :=
  List.decidableBAll p text

/-- A string as a row, padded with spaces. -/
def rowOf (s : List UInt8) : Row :=
  ⟨(s ++ List.replicate W 0x20).take W, by
    rw [List.length_take, List.length_append, List.length_replicate]
    omega⟩

/-- The number of rows of a text of `n` characters, never none. -/
def rowCount (n : Nat) : Nat :=
  max 1 ((n + 63) / W)

/-- A text cut into rows, the last one padded with spaces. -/
def textRows (text : List UInt8) : List Row :=
  (List.range (rowCount text.length)).map
    (fun i => rowOf ((text.drop (W * i)).take W))

/-- The last rows, as many as the log has. -/
def lastRows (rows : List Row) : List Row :=
  rows.drop (rows.length - INPUT_ROW)

theorem inputRow_length (input : List UInt8) :
    (inputRow input).length = W := by
  simp only [inputRow, INPUT_VIEW, SCREEN_COLS, W, List.length_append,
    List.length_cons, List.length_nil, List.length_take, List.length_drop,
    List.length_replicate]
  omega

theorem rowOf_bytes {s : List UInt8} (h : s.length = W) :
    (rowOf s).bytes = s := by
  show (s ++ List.replicate W 0x20).take W = s
  rw [← h, List.take_left]

theorem printable_inputRow {input : List UInt8}
    (h : forall c, c ∈ input -> Printable c) :
    forall c, c ∈ inputRow input -> Printable c := by
  intro c hc
  simp only [inputRow, List.mem_append, List.mem_singleton,
    List.mem_replicate] at hc
  rcases hc with ((rfl | htyped) | rfl) | ⟨_, rfl⟩
  · decide
  · exact h c (List.mem_of_mem_drop (List.mem_of_mem_take htyped))
  · decide
  · decide

/-- A key that is typed is a printable character. -/
theorem printable_key {k : UInt16} (hlow : 32 ≤ k) (hhigh : k < 127) :
    Printable k.toUInt8 := by
  have hlow' : 32 ≤ k.toNat := UInt16.le_iff_toNat_le.mp hlow
  have hhigh' : k.toNat < 127 := UInt16.lt_iff_toNat_lt.mp hhigh
  rw [Printable, UInt16.toNat_toUInt8]
  omega

end Client
end Z80Tcpip
