import Z80Tcpip.Chat.State
import Z80Tcpip.Foundation.Cutting

/-!
# The rows of the chat log

Received data is a stream of bytes in which the ends of the segments are marked.
It is cut into lines at LF, a line into parts at the ends of the segments, and a
part into rows of `SCREEN_COLS` characters.  What `logline_char` keeps is a
function of the part that is still open.
-/

namespace Z80Tcpip
namespace Chat

open Foundation
open Client

/-!
## The rows of a stream
-/

/-- What is printed for a received byte, if anything. -/
def shownAs (b : UInt8) : Option UInt8 :=
  let c := if b = 9 then 0x20 else b
  if c < 32 ∨ 126 < c then none else some c

/-- `none` marks the end of a segment. -/
def shown (stream : List (Option UInt8)) : List UInt8 :=
  stream.filterMap (fun symbol => symbol.bind shownAs)

/-- The rows of a line, cut at the ends of the segments and at the width of the
screen. -/
def lineRows (line : List (Option UInt8)) : List (List UInt8) :=
  (closedPieces none line ++ [openPiece none line]).flatMap
    (fun part => columnRows SCREEN_COLS (shown part))

/-- A line that ends with LF has at least one row. -/
def closedRows (line : List (Option UInt8)) : List (List UInt8) :=
  if lineRows line = [] then [[]] else lineRows line

def streamRows (stream : List (Option UInt8)) : List (List UInt8) :=
  (closedPieces (some 10) stream).flatMap closedRows ++
    lineRows (openPiece (some 10) stream)

/-!
## Calls
-/

inductive LogCall where
  | data (segment : List UInt8)
  | line (text : List UInt8)

def LogCall.run (s : State) : LogCall -> State
  | .data segment => showData segment s
  | .line text => logLine text s

def LogCall.marked : LogCall -> List (Option UInt8)
  | .data segment => segment.map some ++ [none]
  | .line _ => []

def LogCall.received : LogCall -> List UInt8
  | .data segment => segment
  | .line _ => []

/-- Nothing is being assembled and nothing has been logged. -/
def State.fresh (s : State) : State :=
  { s with logline := [], loglineEmitted := false, flushed := [] }

/-!
## What has been assembled
-/

/-- The rows of the open line that have been logged. -/
def openRows (line : List (Option UInt8)) : List (List UInt8) :=
  (closedPieces none line).flatMap
      (fun part => columnRows SCREEN_COLS (shown part)) ++
    fullRows SCREEN_COLS (shown (openPiece none line))

/-- The state once `stream` has been received. -/
structure Assembled (stream : List (Option UInt8)) (s : State) : Prop where
  logline_eq : s.logline =
    restRow SCREEN_COLS (shown (openPiece none (openPiece (some 10) stream)))
  emitted_iff : s.loglineEmitted = true <->
    openRows (openPiece (some 10) stream) ≠ []
  flushed_eq : s.flushed =
    (closedPieces (some 10) stream).flatMap closedRows ++
      openRows (openPiece (some 10) stream)

theorem columns_pos : 0 < SCREEN_COLS := by decide

section Rows

variable (line : List (Option UInt8))

/-- The rows of a line are those logged so far and the one being assembled. -/
theorem lineRows_eq :
    lineRows line = openRows line ++
      (if (restRow SCREEN_COLS (shown (openPiece none line))).length = 0 then []
        else [restRow SCREEN_COLS (shown (openPiece none line))]) := by
  rw [lineRows, List.flatMap_append, List.flatMap_singleton, openRows,
    columnRows, List.append_assoc]

theorem openRows_nil : openRows [] = [] := rfl

theorem openRows_segmentEnd : openRows (line ++ [none]) = lineRows line := by
  rw [openRows, closedPieces_separator, openPiece_separator]
  exact List.append_nil _

/-- LF logs what is left of the line, and an empty row when nothing of it has
been logged. -/
theorem closedRows_eq :
    closedRows line = openRows line ++
      (if restRow SCREEN_COLS (shown (openPiece none line)) ≠ [] ∨
          openRows line = [] then
        [restRow SCREEN_COLS (shown (openPiece none line))]
      else []) := by
  rw [closedRows, lineRows_eq]
  by_cases hrest : restRow SCREEN_COLS (shown (openPiece none line)) = []
  · rw [hrest, if_pos List.length_nil, List.append_nil]
    by_cases hopen : openRows line = []
    · rw [if_pos hopen, if_pos (Or.inr hopen), hopen]
      rfl
    · rw [if_neg hopen, if_neg (by simp [hopen]), List.append_nil]
  · have hlength :
        (restRow SCREEN_COLS (shown (openPiece none line))).length ≠ 0 :=
      fun hzero => hrest (List.eq_nil_of_length_eq_zero hzero)
    rw [if_neg hlength, if_neg (by simp), if_pos (Or.inl hrest)]

end Rows

/-!
## One symbol
-/

theorem shown_append (stream : List (Option UInt8)) (b : UInt8) :
    shown (stream ++ [some b]) = shown stream ++ (shownAs b).toList := by
  rw [shown, List.filterMap_append, ← shown]
  cases hb : shownAs b with
  | none => simp [hb]
  | some c => simp [hb]

/-- `logline_char` on a byte other than LF. -/
theorem loglineChar_other (s : State) {b : UInt8} (hb : b ≠ 10) :
    loglineChar s b =
      match shownAs b with
      | none => s
      | some c =>
          if s.logline.length + 1 = SCREEN_COLS then
            loglineFlush { s with logline := s.logline ++ [c] }
          else { s with logline := s.logline ++ [c] } := by
  rw [loglineChar, if_neg hb, shownAs]
  simp only [List.length_append, List.length_singleton]
  split_ifs <;> rfl

theorem Assembled.fresh (s : State) : Assembled [] s.fresh := by
  constructor
  case logline_eq => exact (restRow_nil SCREEN_COLS).symm
  case emitted_iff =>
    exact iff_of_false Bool.false_ne_true (fun hne => hne openRows_nil)
  case flushed_eq => rfl

section Step

variable {stream : List (Option UInt8)} {s : State} (h : Assembled stream s)

include h

theorem Assembled.logged (text : List UInt8) :
    Assembled stream (logLine text s) := by
  constructor
  case logline_eq => rw [logLine_logline, h.logline_eq]
  case emitted_iff => rw [logLine_loglineEmitted, h.emitted_iff]
  case flushed_eq => rw [logLine_flushed, h.flushed_eq]

/-- LF closes the line. -/
theorem Assembled.newline :
    Assembled (stream ++ [some 10]) (loglineChar s 10) := by
  have hemitted : s.loglineEmitted = false <->
      openRows (openPiece (some 10) stream) = [] := by
    rw [← Bool.not_eq_true, h.emitted_iff, not_not]
  rw [loglineChar, if_pos rfl]
  constructor
  case logline_eq =>
    rw [openPiece_separator]
    show (if s.logline ≠ [] ∨ s.loglineEmitted = false then loglineFlush s
      else s).logline = []
    split_ifs with hflush
    · exact loglineFlush_logline s
    · exact not_not.mp (fun hne => hflush (Or.inl hne))
  case emitted_iff =>
    rw [openPiece_separator]
    exact iff_of_false Bool.false_ne_true (fun hne => hne openRows_nil)
  case flushed_eq =>
    rw [closedPieces_separator, openPiece_separator, openRows_nil,
      List.append_nil, List.flatMap_append, List.flatMap_singleton,
      closedRows_eq, ← h.logline_eq, ← List.append_assoc, ← h.flushed_eq]
    show (if s.logline ≠ [] ∨ s.loglineEmitted = false then loglineFlush s
      else s).flushed = _
    by_cases hflush : s.logline ≠ [] ∨ s.loglineEmitted = false
    · rw [if_pos hflush, if_pos (by rwa [← hemitted]), loglineFlush_flushed]
    · rw [if_neg hflush, if_neg (by rwa [← hemitted]), List.append_nil]

/-- The end of a segment closes the part. -/
theorem Assembled.segmentEnd :
    Assembled (stream ++ [none])
      (if s.logline ≠ [] then loglineFlush s else s) := by
  have hne : (none : Option UInt8) ≠ some 10 := by simp
  have hrows := lineRows_eq (openPiece (some 10) stream)
  rw [← h.logline_eq] at hrows
  by_cases hlog : s.logline = []
  · rw [if_pos (by rw [hlog]; rfl), List.append_nil] at hrows
    rw [if_neg (not_not.mpr hlog)]
    constructor
    case logline_eq =>
      rw [openPiece_other hne, openPiece_separator, hlog]
      exact (restRow_nil SCREEN_COLS).symm
    case emitted_iff =>
      rw [openPiece_other hne, openRows_segmentEnd, hrows, h.emitted_iff]
    case flushed_eq =>
      rw [closedPieces_other hne, openPiece_other hne, openRows_segmentEnd,
        hrows, h.flushed_eq]
  · have hlength : s.logline.length ≠ 0 :=
      fun hzero => hlog (List.eq_nil_of_length_eq_zero hzero)
    rw [if_neg hlength] at hrows
    rw [if_pos hlog]
    constructor
    case logline_eq =>
      rw [openPiece_other hne, openPiece_separator, loglineFlush_logline]
      exact (restRow_nil SCREEN_COLS).symm
    case emitted_iff =>
      rw [openPiece_other hne, openRows_segmentEnd, hrows,
        loglineFlush_loglineEmitted]
      exact iff_of_true rfl (by simp)
    case flushed_eq =>
      rw [closedPieces_other hne, openPiece_other hne, openRows_segmentEnd,
        hrows, loglineFlush_flushed, h.flushed_eq, List.append_assoc]

/-- A character goes to the row being assembled, which is logged when it is
full. -/
theorem Assembled.other {b : UInt8} (hb : b ≠ 10) :
    Assembled (stream ++ [some b]) (loglineChar s b) := by
  have hlf : some b ≠ some 10 := fun heq => hb (Option.some.inj heq)
  have hmark : some b ≠ none := by simp
  have hpart : shown (openPiece none (openPiece (some 10) (stream ++ [some b]))) =
      shown (openPiece none (openPiece (some 10) stream)) ++
        (shownAs b).toList := by
    rw [openPiece_other hlf, openPiece_other hmark, shown_append]
  have hclosed : closedPieces none (openPiece (some 10) (stream ++ [some b])) =
      closedPieces none (openPiece (some 10) stream) := by
    rw [openPiece_other hlf, closedPieces_other hmark]
  rw [loglineChar_other s hb]
  cases hshown : shownAs b with
  | none =>
      have hsame : openRows (openPiece (some 10) (stream ++ [some b])) =
          openRows (openPiece (some 10) stream) := by
        rw [openRows, hclosed, hpart, hshown, openRows]
        rw [Option.toList_none, List.append_nil]
      constructor
      case logline_eq =>
        rw [hpart, hshown, Option.toList_none, List.append_nil, h.logline_eq]
      case emitted_iff => rw [hsame, h.emitted_iff]
      case flushed_eq => rw [hsame, closedPieces_other hlf, h.flushed_eq]
  | some c =>
      rw [hshown] at hpart
      simp only
      by_cases hfull : s.logline.length + 1 = SCREEN_COLS
      · have hfull' := hfull
        rw [h.logline_eq] at hfull'
        rcases rows_append_full columns_pos c hfull' with ⟨hrows, hrest⟩
        have hopen : openRows (openPiece (some 10) (stream ++ [some b])) =
            openRows (openPiece (some 10) stream) ++ [s.logline ++ [c]] := by
          rw [openRows, hclosed, hpart, Option.toList_some, hrows,
            ← List.append_assoc, ← openRows, ← h.logline_eq]
        rw [if_pos hfull]
        constructor
        case logline_eq =>
          rw [hpart, Option.toList_some, hrest, loglineFlush_logline]
        case emitted_iff =>
          rw [hopen, loglineFlush_loglineEmitted]
          exact iff_of_true rfl (by simp)
        case flushed_eq =>
          rw [hopen, closedPieces_other hlf, loglineFlush_flushed,
            h.flushed_eq, List.append_assoc]
      · have hfull' := hfull
        rw [h.logline_eq] at hfull'
        rcases rows_append_short columns_pos c hfull' with ⟨hrows, hrest⟩
        have hopen : openRows (openPiece (some 10) (stream ++ [some b])) =
            openRows (openPiece (some 10) stream) := by
          rw [openRows, hclosed, hpart, Option.toList_some, hrows, openRows]
        rw [if_neg hfull]
        constructor
        case logline_eq =>
          rw [hpart, Option.toList_some, hrest, h.logline_eq]
        case emitted_iff => rw [hopen, h.emitted_iff]
        case flushed_eq => rw [hopen, closedPieces_other hlf, h.flushed_eq]

theorem Assembled.byte (b : UInt8) :
    Assembled (stream ++ [some b]) (loglineChar s b) := by
  by_cases hb : b = 10
  · rw [hb]
    exact h.newline
  · exact h.other hb

end Step

/-!
## Segments and calls
-/

theorem Assembled.bytes (data : List UInt8) :
    forall {stream : List (Option UInt8)} {s : State}, Assembled stream s ->
      Assembled (stream ++ data.map some) (data.foldl loglineChar s) := by
  induction data with
  | nil =>
      intro stream s h
      rw [List.map_nil, List.append_nil]
      exact h
  | cons b rest ih =>
      intro stream s h
      rw [List.map_cons, List.append_cons, List.foldl_cons]
      exact ih (h.byte b)

theorem Assembled.call {stream : List (Option UInt8)} {s : State}
    (h : Assembled stream s) (call : LogCall) :
    Assembled (stream ++ call.marked) (call.run s) := by
  cases call with
  | line text =>
      rw [LogCall.marked, List.append_nil]
      exact h.logged text
  | data segment =>
      rw [LogCall.marked, ← List.append_assoc]
      exact (h.bytes segment).segmentEnd

theorem Assembled.calls (calls : List LogCall) :
    forall {stream : List (Option UInt8)} {s : State}, Assembled stream s ->
      Assembled (stream ++ calls.flatMap LogCall.marked)
        (calls.foldl LogCall.run s) := by
  induction calls with
  | nil =>
      intro stream s h
      rw [List.flatMap_nil, List.append_nil]
      exact h
  | cons call more ih =>
      intro stream s h
      rw [List.flatMap_cons, ← List.append_assoc, List.foldl_cons]
      exact ih (h.call call)

/-- Between calls nothing is being assembled. -/
theorem run_logline (call : LogCall) {s : State} (h : s.logline = []) :
    (call.run s).logline = [] := by
  cases call with
  | line text => exact (logLine_logline text s).trans h
  | data segment =>
      rw [LogCall.run, showData]
      split_ifs with hflush
      · exact loglineFlush_logline _
      · exact not_not.mp hflush

theorem foldl_run_logline (calls : List LogCall) :
    forall {s : State}, s.logline = [] ->
      (calls.foldl LogCall.run s).logline = [] := by
  induction calls with
  | nil =>
      intro s h
      exact h
  | cons call more ih =>
      intro s h
      exact ih (run_logline call h)

/-!
## What the rows amount to
-/

theorem mem_lineRows {line : List (Option UInt8)} {row : List UInt8}
    (h : row ∈ lineRows line) : row.length ≤ SCREEN_COLS ∧ row ≠ [] := by
  rcases List.mem_flatMap.mp h with ⟨part, _, hrow⟩
  exact mem_columnRows columns_pos hrow

theorem lineRows_flatten (line : List (Option UInt8)) :
    (lineRows line).flatten = shown line := by
  have hparts : forall parts : List (List (Option UInt8)),
      (parts.flatMap (fun part => columnRows SCREEN_COLS (shown part))).flatten =
        parts.flatMap shown := by
    intro parts
    induction parts with
    | nil => rfl
    | cons part more ih =>
        rw [List.flatMap_cons, List.flatten_append,
          columnRows_flatten columns_pos, ih, List.flatMap_cons]
  rw [lineRows, hparts, List.flatMap_append, List.flatMap_singleton]
  exact filterMap_pieces rfl line

theorem lineRows_eq_nil_iff (line : List (Option UInt8)) :
    lineRows line = [] <-> shown line = [] := by
  rw [← lineRows_flatten, List.flatten_eq_nil_iff]
  constructor
  · intro h row hrow
    rw [h] at hrow
    cases hrow
  · intro h
    apply List.eq_nil_iff_forall_not_mem.mpr
    intro row hrow
    exact (mem_lineRows hrow).right (h row hrow)

theorem closedRows_flatten (line : List (Option UInt8)) :
    (closedRows line).flatten = shown line := by
  rw [closedRows]
  split_ifs with hempty
  · rw [(lineRows_eq_nil_iff line).mp hempty]
    rfl
  · exact lineRows_flatten line

theorem closedRows_count (line : List (Option UInt8)) :
    (closedRows line).count [] = if shown line = [] then 1 else 0 := by
  rw [closedRows]
  by_cases hempty : shown line = []
  · rw [if_pos ((lineRows_eq_nil_iff line).mpr hempty), if_pos hempty]
    rfl
  · rw [if_neg (fun h => hempty ((lineRows_eq_nil_iff line).mp h)),
      if_neg hempty]
    exact List.count_eq_zero.mpr (fun hmem => (mem_lineRows hmem).right rfl)

theorem streamRows_flatten (stream : List (Option UInt8)) :
    (streamRows stream).flatten = shown stream := by
  have hlines : forall lines : List (List (Option UInt8)),
      (lines.flatMap closedRows).flatten = lines.flatMap shown := by
    intro lines
    induction lines with
    | nil => rfl
    | cons line more ih =>
        rw [List.flatMap_cons, List.flatten_append, closedRows_flatten, ih,
          List.flatMap_cons]
  rw [streamRows, List.flatten_append, hlines, lineRows_flatten]
  exact filterMap_pieces (by decide) stream

theorem streamRows_count (stream : List (Option UInt8)) :
    (streamRows stream).count [] =
      (closedPieces (some 10) stream).countP (fun line => shown line = []) := by
  have hopen : (lineRows (openPiece (some 10) stream)).count [] = 0 :=
    List.count_eq_zero.mpr (fun hmem => (mem_lineRows hmem).right rfl)
  rw [streamRows, List.count_append, hopen, Nat.add_zero]
  induction closedPieces (some 10) stream with
  | nil => rfl
  | cons line more ih =>
      rw [List.flatMap_cons, List.count_append, closedRows_count, ih,
        List.countP_cons, Nat.add_comm]
      simp only [decide_eq_true_eq]

theorem mem_streamRows {stream : List (Option UInt8)} {row : List UInt8}
    (h : row ∈ streamRows stream) : row.length ≤ SCREEN_COLS := by
  rcases List.mem_append.mp h with hclosed | hopen
  · rcases List.mem_flatMap.mp hclosed with ⟨line, _, hrow⟩
    rw [closedRows] at hrow
    split_ifs at hrow
    · rw [List.mem_singleton.mp hrow]
      exact Nat.zero_le _
    · exact (mem_lineRows hrow).left
  · exact (mem_lineRows hopen).left

theorem shown_segment (segment : List UInt8) :
    shown (segment.map some ++ [none]) = segment.filterMap shownAs := by
  rw [shown, List.filterMap_append, List.filterMap_map]
  exact List.append_nil _

theorem shown_marked (calls : List LogCall) :
    shown (calls.flatMap LogCall.marked) =
      (calls.flatMap LogCall.received).filterMap shownAs := by
  induction calls with
  | nil => rfl
  | cons call more ih =>
      rw [List.flatMap_cons, List.flatMap_cons, List.filterMap_append, ← ih,
        shown, List.filterMap_append, ← shown, ← shown]
      cases call with
      | line text => rfl
      | data segment =>
          rw [LogCall.marked, LogCall.received, shown_segment]

/-- The rows that `show_data` logs are those of the stream: a line is cut at the
ends of the segments and at the width of the screen, and one that is closed
without a character to show is an empty row.  Nothing is lost and nothing shown
twice. -/
theorem showData_rows (calls : List LogCall) (s : State) :
    (calls.foldl LogCall.run s.fresh).flushed =
        streamRows (calls.flatMap LogCall.marked) ∧
      (calls.foldl LogCall.run s.fresh).flushed.flatten =
        (calls.flatMap LogCall.received).filterMap shownAs ∧
      (forall row, row ∈ (calls.foldl LogCall.run s.fresh).flushed ->
        row.length ≤ SCREEN_COLS) ∧
      (calls.foldl LogCall.run s.fresh).flushed.count [] =
        (closedPieces (some 10) (calls.flatMap LogCall.marked)).countP
          (fun line => shown line = []) ∧
      forall (before : List LogCall) (front : List UInt8),
        (front.foldl loglineChar
          (before.foldl LogCall.run s.fresh)).logline.length <
            SCREEN_COLS := by
  have hstart := Assembled.fresh s
  have hall := hstart.calls calls
  have hdone : (calls.foldl LogCall.run s.fresh).logline = [] :=
    foldl_run_logline calls rfl
  rw [List.nil_append] at hall
  have hrows : (calls.foldl LogCall.run s.fresh).flushed =
      streamRows (calls.flatMap LogCall.marked) := by
    rw [hall.flushed_eq, streamRows, lineRows_eq, ← hall.logline_eq, hdone,
      if_pos List.length_nil, List.append_nil]
  refine ⟨hrows, ?_, ?_, ?_, ?_⟩
  · rw [hrows, streamRows_flatten, shown_marked]
  · rw [hrows]
    intro row hrow
    exact mem_streamRows hrow
  · rw [hrows, streamRows_count]
  · intro before front
    have hfront := (hstart.calls before).bytes front
    rw [hfront.logline_eq]
    exact restRow_lt columns_pos

end Chat
end Z80Tcpip
