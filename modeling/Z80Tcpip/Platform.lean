/-!
# Build configuration

The preprocessor settings of the Makefile and the error number that the
program takes from `errno.h`.
-/

namespace Z80Tcpip

/-- tcp.h `ERESET`. -/
def ERESET : Nat := 20

/-- `SLIP_ESC_00`, `RS232_TPS` and `EAGAIN`.  The programs tell the two error
numbers apart, which they can as long as `errno.h` does not reuse `ERESET`. -/
structure Platform where
  slipEsc00 : Bool
  rs232Tps : Int16
  eagain : Nat
  eagain_pos : 0 < eagain
  eagain_ne_ereset : eagain ≠ ERESET

/-- The Makefile's `-DSLIP_ESC_00 -DRS232_TPS=80`, with the host's `EAGAIN`. -/
def Platform.spectrum : Platform where
  slipEsc00 := true
  rs232Tps := 80
  eagain := 11
  eagain_pos := by decide
  eagain_ne_ereset := by decide

end Z80Tcpip
