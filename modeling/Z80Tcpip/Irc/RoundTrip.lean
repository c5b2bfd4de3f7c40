import Z80Tcpip.Irc.ScreenLog

/-!
# From one client to another

What one client sends when a line is typed, relayed by the server with the
sender's name in front, is logged by another client as the text that was typed.
-/

namespace Z80Tcpip
namespace Irc

open Foundation
open Client

variable {ν : Type}

/-- What is typed to be read by others: plain text, `/me` and `/msg`. -/
inductive Saying where
  | plain (text : List UInt8)
  | action (text : List UInt8)
  | message (dest text : List UInt8)

namespace Saying

/-- The line that is typed for it. -/
def typed : Saying -> List UInt8
  | .plain text => text
  | .action text => ascii "/me " ++ text
  | .message dest text => ascii "/msg " ++ dest ++ ascii " " ++ text

/-- What the reader is to see of it. -/
def shown (nick : List UInt8) : Saying -> List UInt8
  | .plain text => ascii "<" ++ nick ++ ascii "> " ++ text
  | .action text => ascii "* " ++ nick ++ ascii " " ++ text
  | .message dest text =>
      if isChannel dest then ascii "<" ++ nick ++ ascii "> " ++ text
      else ascii "*" ++ nick ++ ascii "* " ++ text

/-- The sender echoes it as the readers see it. -/
def Echoed : Saying -> Prop
  | .message _ _ => False
  | _ => True

end Saying

/-- What is accepted as the current channel. -/
structure Channel (chan : List UInt8) : Prop where
  isChannel : isChannel chan
  word : SPACE ∉ chan
  printable : forall b, b ∈ chan -> Printable b
  length_le : chan.length ≤ MAX_CHAN

/-- The typed lines in question, on the channel `chan`. -/
inductive Saying.WellFormed (chan : List UInt8) : Saying -> Prop
  | plain {text : List UInt8} (hchan : Channel chan) (hne : text ≠ [])
      (hslash : text.head? ≠ some 0x2f) : WellFormed chan (.plain text)
  | action {text : List UInt8} (hchan : Channel chan) (hne : text ≠ [])
      (hspace : text.head? ≠ some SPACE) : WellFormed chan (.action text)
  | message {dest text : List UInt8} (hdest : dest ≠ [])
      (hword : SPACE ∉ dest) (hcolon : dest.head? ≠ some COLON)
      (hne : text ≠ []) : WellFormed chan (.message dest text)

/-- To whom a saying goes, -/
def Saying.target (chan : List UInt8) : Saying -> List UInt8
  | .message dest _ => dest
  | _ => chan

/-- and the text of the message. -/
def Saying.text : Saying -> List UInt8
  | .plain text => text
  | .action text => [1] ++ ascii "ACTION " ++ text ++ [1]
  | .message _ text => text

/-- The command for a saying. -/
def privmsg (chan : List UInt8) (saying : Saying) : List UInt8 :=
  ascii "PRIVMSG" ++ SPACE :: (saying.target chan ++
    SPACE :: (COLON :: saying.text))

/-!
## The sender
-/

theorem Channel.ne_nil {chan : List UInt8} (h : Channel chan) : chan ≠ [] := by
  intro heq
  subst heq
  rcases h.isChannel with hhead | hhead
  · cases hhead
  · cases hhead

theorem Channel.head?_ne_colon {chan : List UInt8} (h : Channel chan) :
    chan.head? ≠ some COLON := by
  intro hcolon
  rcases h.isChannel with hhead | hhead
  · rw [hcolon] at hhead
    exact absurd hhead (by decide)
  · rw [hcolon] at hhead
    exact absurd hhead (by decide)

theorem privmsg_eq (chan text : List UInt8) :
    [ascii "PRIVMSG ", chan, ascii " :", text].flatten =
      ascii "PRIVMSG" ++ SPACE :: (chan ++ SPACE :: (COLON :: text)) := by
  have hcmd : ascii "PRIVMSG " = ascii "PRIVMSG" ++ [SPACE] := by
    decide
  have hcolon : ascii " :" = [SPACE, COLON] := by
    decide
  rw [hcmd, hcolon]
  simp only [List.flatten_cons, List.flatten_nil, List.append_nil,
    List.append_assoc, List.cons_append, List.nil_append]

theorem flatten_four (a b c d : List UInt8) :
    [a, b, c, d].flatten = a ++ b ++ c ++ d := by
  simp only [List.flatten_cons, List.flatten_nil, List.append_nil,
    List.append_assoc]

/-- A line that starts with `/` is cut into the command and its argument. -/
theorem inputAction_command {s : State} {cmd arg : List UInt8}
    (hinput : s.screen.input = 0x2f :: (cmd ++ SPACE :: arg))
    (hcmd : SPACE ∉ cmd) (hne : cmd ≠ []) (harg : arg.head? ≠ some SPACE) :
    inputAction s = commandAction cmd arg s := by
  rw [inputAction, hinput, if_neg (List.cons_ne_nil _ _),
    if_neg (fun h => h rfl), List.drop_one, List.tail_cons,
    nextWord_append hcmd hne]
  simp only [dropWhile_space harg]

/-- What the client makes of a saying: the command, and the echo behind it. -/
theorem inputAction_saying {saying : Saying} {s : State}
    (h : saying.WellFormed s.curChan)
    (hinput : s.screen.input = saying.typed) :
    exists (pieces : List (List UInt8)) (echo : State -> List (List UInt8)),
      inputAction s = .send pieces clearInput
          (fun s' => logEntry (echo s') s') false ∧
        pieces.flatten = privmsg s.curChan saying ∧
        (saying.Echoed -> forall s' : State,
          (echo s').flatten = saying.shown s'.mynick) := by
  cases h with
  | @plain text hchan hne hslash =>
      have haction : inputAction s = sayAction text s := by
        rw [inputAction, hinput]
        exact (if_neg hne).trans (if_pos hslash)
      rw [haction, sayAction, if_neg hchan.ne_nil]
      exact ⟨_, fun s' => [ascii "<", s'.mynick, ascii "> ", text], rfl,
        privmsg_eq s.curChan text, fun _ s' => flatten_four _ _ _ _⟩
  | @action text hchan hne hspace =>
      have hline : s.screen.input =
          0x2f :: (ascii "me" ++ SPACE :: text) := hinput
      have haction := inputAction_command hline (by decide) (by decide) hspace
      have hme : commandAction (ascii "me") text s = meAction text s := by
        rfl
      have hgiven : ¬ (s.curChan = [] ∨ text = []) := by
        intro hcase
        rcases hcase with hnone | hnone
        · exact hchan.ne_nil hnone
        · exact hne hnone
      rw [haction, hme, meAction, if_neg hgiven]
      refine ⟨_, fun s' => [ascii "* ", s'.mynick, ascii " ", text], rfl, ?_,
        fun _ s' => flatten_four _ _ _ _⟩
      have hctcp := privmsg_eq s.curChan
        ([1] ++ ascii "ACTION " ++ text ++ [1])
      refine Eq.trans ?_ hctcp
      simp only [List.flatten_cons, List.flatten_nil, List.append_nil,
        List.append_assoc]
  | @message dest text hdest hword hcolon hne =>
      have hline : s.screen.input =
          0x2f :: (ascii "msg" ++ SPACE :: (dest ++ SPACE :: text)) := by
        rw [hinput, Saying.typed, List.append_assoc, List.append_assoc]
        rfl
      have harg : (dest ++ SPACE :: text).head? ≠ some SPACE := by
        cases dest with
        | nil => exact absurd rfl hdest
        | cons b rest =>
            have hhead : (b :: rest).head? ≠ some SPACE := head?_no_space hword
            exact hhead
      have haction := inputAction_command hline (by decide) (by decide) harg
      have hmsg : commandAction (ascii "msg") (dest ++ SPACE :: text) s =
          msgAction (dest ++ SPACE :: text) := by
        rfl
      have hgiven : ¬ (dest = [] ∨ text = []) := by
        intro hcase
        rcases hcase with hnone | hnone
        · exact hdest hnone
        · exact hne hnone
      rw [haction, hmsg, msgAction, nextWord_append hword hdest]
      simp only [if_neg hgiven]
      exact ⟨_, fun _ => [ascii ">", dest, ascii "< ", text], rfl,
        privmsg_eq dest text, fun hechoed => hechoed.elim⟩

/-!
## The reader
-/

/-- A name that the server puts in front of a line. -/
structure Named (nick user host : List UInt8) : Prop where
  nick : forall b, b ∈ nick ->
    Printable b ∧ b ≠ SPACE ∧ b ≠ 0x21 ∧ b ≠ 0x40
  user_host : forall b, b ∈ user ++ host ->
    b ≠ SPACE ∧ b ≠ 0 ∧ b ≠ 10 ∧ b ≠ 13

/-- `nick!user@host` -/
def fullName (nick user host : List UInt8) : List UInt8 :=
  nick ++ ascii "!" ++ user ++ ascii "@" ++ host

/-- A line with the name of its sender in front. -/
def relayed (nick user host line : List UInt8) : List UInt8 :=
  ascii ":" ++ fullName nick user host ++ ascii " " ++ line

theorem nickOf_fullName {nick user host : List UInt8}
    (h : Named nick user host) :
    nickOf (some (fullName nick user host)) = nick := by
  have hnick : forall b, b ∈ nick -> (b != 0x21 && b != 0x40) = true := by
    intro b hb
    rcases h.nick b hb with ⟨_, _, hbang, hat⟩
    rw [Bool.and_eq_true, bne_iff_ne, bne_iff_ne]
    exact ⟨hbang, hat⟩
  have hname : fullName nick user host =
      nick ++ 0x21 :: (user ++ ascii "@" ++ host) := by
    rw [fullName, List.append_assoc, List.append_assoc, List.append_assoc,
      List.append_assoc]
    rfl
  rw [hname, nickOf, List.takeWhile_append_of_pos hnick,
    List.takeWhile_cons_of_neg (by decide), List.append_nil]

theorem splitLine_relayed {name cmd : List UInt8} (hname : SPACE ∉ name)
    (hne : name ≠ []) (hcmd : SPACE ∉ cmd) (hcmdne : cmd ≠ [])
    (rest : List UInt8) :
    splitLine (COLON :: (name ++ SPACE :: (cmd ++ SPACE :: rest))) =
      (some name, cmd, rest) := by
  rw [splitLine, List.head?_cons, if_pos rfl, List.drop_one, List.tail_cons,
    nextWord_append hname hne]
  simp only [nextWord_append hcmd hcmdne]

/-- How a PRIVMSG is shown. -/
theorem showMessage_privmsg {dest : List UInt8} (hdest : dest ≠ [])
    (hword : SPACE ∉ dest) (hcolon : dest.head? ≠ some COLON)
    (nick text : List UInt8) (s : State) :
    showMessage (ascii "PRIVMSG") nick (dest ++ SPACE :: (COLON :: text)) s =
      if text.head? = some 1 ∧ (text.drop 1).take 7 = ascii "ACTION " then
        logLine4 (ascii "* ") nick (ascii " ") (text.drop 8) s
      else if isChannel dest then
        logLine4 (ascii "<") nick (ascii "> ") text s
      else logLine4 (ascii "*") nick (ascii "* ") text s := by
  have hnotice : ¬ ascii "PRIVMSG" = ascii "NOTICE" := by
    decide
  rw [showMessage, nextParam_middle hword hdest hcolon]
  simp only [nextParam_trailing, if_neg hnotice, ite_apply]

theorem visible_append (text more : List UInt8) :
    visible (text ++ more) = visible text ++ visible more := by
  rw [visible, List.map_append, List.filter_append]
  rfl

theorem visible_of_printable {text : List UInt8}
    (h : forall b, b ∈ text -> Printable b) : visible text = text := by
  have hmap : text.map (fun c => if c = 9 then 0x20 else c) = text := by
    have hsame := List.map_congr_left
      (f := fun c => if c = 9 then 0x20 else c) (g := id) (l := text)
      (fun b hb => if_neg (by
        intro heq
        subst heq
        exact absurd (h 9 hb).left (by decide)))
    rw [hsame, List.map_id]
  rw [visible, hmap]
  exact List.filter_eq_self.mpr (fun b hb => decide_eq_true (h b hb))

theorem Named.fullName_word {nick user host : List UInt8}
    (h : Named nick user host) : SPACE ∉ fullName nick user host := by
  intro hspace
  simp only [fullName, List.mem_append] at hspace
  rcases hspace with (((hnick | hbang) | huser) | hat) | hhost
  · exact (h.nick SPACE hnick).right.left rfl
  · exact absurd hbang (by decide)
  · exact (h.user_host SPACE (List.mem_append_left _ huser)).left rfl
  · exact absurd hat (by decide)
  · exact (h.user_host SPACE (List.mem_append_right _ hhost)).left rfl

theorem fullName_ne_nil (nick user host : List UInt8) :
    fullName nick user host ≠ [] := by
  intro hnil
  have hlen := congrArg List.length hnil
  simp only [fullName, List.length_append, List.length_nil] at hlen
  have hbang : (ascii "!").length = 1 := rfl
  omega

/-- The line is a PRIVMSG from the sender. -/
theorem handleServerLine_privmsg {chan nick user host : List UInt8}
    {saying : Saying} (hname : Named nick user host) (s : State) :
    handleServerLine (relayed nick user host (privmsg chan saying)) s =
      showMessage (ascii "PRIVMSG") nick
        (saying.target chan ++ SPACE :: (COLON :: saying.text)) s := by
  have hline : relayed nick user host (privmsg chan saying) =
      COLON :: (fullName nick user host ++ SPACE :: (ascii "PRIVMSG" ++
        SPACE :: (saying.target chan ++ SPACE :: (COLON :: saying.text)))) := by
    rw [relayed, privmsg, List.append_assoc, List.append_assoc]
    rfl
  rw [hline, handleServerLine,
    splitLine_relayed hname.fullName_word (fullName_ne_nil nick user host)
      (by decide) (by decide)]
  simp only [nickOf_fullName hname]
  rw [if_neg (by decide), if_neg (by decide), if_pos (Or.inl trivial)]

theorem printable_shown {nick user host : List UInt8} {saying : Saying}
    (hname : Named nick user host)
    (htyped : forall b, b ∈ saying.typed -> Printable b) :
    forall b, b ∈ saying.shown nick -> Printable b := by
  have hframed : forall (front middle : String) (text : List UInt8),
      (forall b, b ∈ ascii front -> Printable b) ->
      (forall b, b ∈ ascii middle -> Printable b) ->
      (forall b, b ∈ text -> Printable b) ->
        forall b, b ∈ ascii front ++ nick ++ ascii middle ++ text ->
          Printable b := by
    intro front middle text hfront hmiddle htext b hb
    simp only [List.mem_append] at hb
    rcases hb with ((hb | hb) | hb) | hb
    · exact hfront b hb
    · exact (hname.nick b hb).left
    · exact hmiddle b hb
    · exact htext b hb
  cases saying with
  | plain text => exact hframed "<" "> " text (by decide) (by decide) htyped
  | action text =>
      exact hframed "* " " " text (by decide) (by decide)
        (fun b hb => htyped b (List.mem_append_right _ hb))
  | message dest text =>
      have htext : forall b, b ∈ text -> Printable b :=
        fun b hb => htyped b (List.mem_append_right _ hb)
      show forall b, b ∈ ite (isChannel dest) _ _ -> Printable b
      split
      · exact hframed "<" "> " text (by decide) (by decide) htext
      · exact hframed "*" "* " text (by decide) (by decide) htext

/-- The reader of a relayed saying logs it as it is to be seen. -/
theorem handleServerLine_saying {chan nick user host : List UInt8}
    {saying : Saying} (hname : Named nick user host)
    (h : saying.WellFormed chan)
    (htyped : forall b, b ∈ saying.typed -> Printable b) (s : State) :
    exists pieces : List (List UInt8),
      handleServerLine (relayed nick user host (privmsg chan saying)) s =
          logEntry pieces s ∧
        visible pieces.flatten = saying.shown nick := by
  have hshown := visible_of_printable (printable_shown hname htyped)
  have hplain : forall {text : List UInt8},
      (forall b, b ∈ text -> Printable b) ->
        ¬ (text.head? = some 1 ∧ (text.drop 1).take 7 = ascii "ACTION ") := by
    intro text htext hboth
    rcases hboth with ⟨hhead, _⟩
    exact absurd (htext 1 (List.mem_of_mem_head? hhead)).left (by decide)
  rw [handleServerLine_privmsg hname]
  cases h with
  | @plain text hchan =>
      have htext : forall b, b ∈ text -> Printable b := htyped
      show exists pieces, showMessage (ascii "PRIVMSG") nick
        (chan ++ SPACE :: (COLON :: text)) s = logEntry pieces s ∧ _
      rw [showMessage_privmsg hchan.ne_nil hchan.word hchan.head?_ne_colon,
        if_neg (hplain htext), if_pos hchan.isChannel]
      refine ⟨_, rfl, ?_⟩
      rw [flatten_four]
      exact hshown
  | @action text hchan =>
      have hdropped : visible [1] = [] := by
        decide
      show exists pieces, showMessage (ascii "PRIVMSG") nick
        (chan ++ SPACE :: (COLON :: ([1] ++ ascii "ACTION " ++ text ++ [1])))
          s = logEntry pieces s ∧ _
      rw [showMessage_privmsg hchan.ne_nil hchan.word hchan.head?_ne_colon,
        if_pos ⟨rfl, rfl⟩]
      refine ⟨_, rfl, ?_⟩
      show visible [ascii "* ", nick, ascii " ", text ++ [1]].flatten = _
      rw [flatten_four, ← List.append_assoc, visible_append, hdropped,
        List.append_nil]
      exact hshown
  | @message dest text hdest hword hcolon =>
      have htext : forall b, b ∈ text -> Printable b :=
        fun b hb => htyped b (List.mem_append_right _ hb)
      show exists pieces, showMessage (ascii "PRIVMSG") nick
        (dest ++ SPACE :: (COLON :: text)) s = logEntry pieces s ∧ _
      rw [showMessage_privmsg hdest hword hcolon, if_neg (hplain htext),
        ← hshown]
      simp only [Saying.shown]
      split
      · exact ⟨_, rfl, congrArg visible (flatten_four _ _ _ _)⟩
      · exact ⟨_, rfl, congrArg visible (flatten_four _ _ _ _)⟩

/-!
## The line on its way
-/

theorem showData_append (data more : List UInt8) (s : State) :
    showData (data ++ more) s = showData more (showData data s) :=
  List.foldl_append

/-- Segments are received one after the other. -/
theorem showData_chunks (chunks : List (List UInt8)) (s : State) :
    chunks.foldl (fun s chunk => showData chunk s) s =
      showData chunks.flatten s := by
  rw [showData, List.foldl_flatten]
  rfl

/-- A part of a line is kept until the line is complete. -/
theorem showData_collects (part : List UInt8) :
    forall s : State, (forall b, b ∈ part -> b ≠ 10 ∧ b ≠ 13) ->
      s.rxline.length + part.length ≤ RX_LINE - 1 ->
        showData part s = { s with rxline := s.rxline ++ part } := by
  induction part with
  | nil =>
      intro s _ _
      rw [List.append_nil]
      rfl
  | cons b rest ih =>
      intro s hpart hroom
      rcases hpart b List.mem_cons_self with ⟨hlf, hcr⟩
      rw [List.length_cons] at hroom
      have hkept : rxChar s b = { s with rxline := s.rxline ++ [b] } := by
        rw [rxChar, if_neg hcr, if_neg hlf, if_pos (by omega)]
      have hrest := ih { s with rxline := s.rxline ++ [b] }
        (fun b' hb' => hpart b' (List.mem_cons_of_mem b hb'))
        (by rw [List.length_append, List.length_singleton]; omega)
      show showData rest (rxChar s b) = _
      rw [hkept, hrest, List.append_assoc, List.singleton_append]

/-- A whole line is handled. -/
theorem showData_line {line : List UInt8} {s : State}
    (hline : forall b, b ∈ line -> b ≠ 0 ∧ b ≠ 10 ∧ b ≠ 13)
    (hlength : line.length ≤ RX_LINE - 1) (hs : s.rxline = []) :
    showData (line ++ CRLF) s = handleServerLine line (readOff line s) := by
  have hroom : s.rxline.length + line.length ≤ RX_LINE - 1 := by
    rw [hs, List.length_nil, Nat.zero_add]
    exact hlength
  have hnul : (0 : UInt8) ∉ line := fun hmem => (hline 0 hmem).left rfl
  have hcollected := showData_collects line s
    (fun b hb => (hline b hb).right) hroom
  rw [hs, List.nil_append] at hcollected
  rw [showData_append, hcollected]
  show handleServerLine (cString line) (readOff (cString line) s) = _
  rw [cString_of_no_nul hnul]

theorem printable_clean {b : UInt8} (h : Printable b) :
    b ≠ 0 ∧ b ≠ 10 ∧ b ≠ 13 := by
  refine ⟨?_, ?_, ?_⟩ <;>
    · intro heq
      subst heq
      exact absurd h.left (by decide)

/-- Neither the receiver nor the text of a message breaks the line. -/
theorem Saying.WellFormed.clean {chan : List UInt8} {saying : Saying}
    (h : saying.WellFormed chan)
    (htyped : forall b, b ∈ saying.typed -> Printable b) :
    forall b, b ∈ saying.target chan ++ saying.text ->
      b ≠ 0 ∧ b ≠ 10 ∧ b ≠ 13 := by
  intro b hb
  cases h with
  | plain hchan =>
      rcases List.mem_append.mp hb with hchan' | htext
      · exact printable_clean (hchan.printable b hchan')
      · exact printable_clean (htyped b htext)
  | action hchan =>
      rcases List.mem_append.mp hb with hchan' | htext
      · exact printable_clean (hchan.printable b hchan')
      · simp only [Saying.text, List.mem_append, List.mem_singleton] at htext
        rcases htext with ((rfl | hctcp) | htext) | rfl
        · decide
        · have hword : forall b, b ∈ ascii "ACTION " -> Printable b := by
            decide
          exact printable_clean (hword b hctcp)
        · exact printable_clean (htyped b (List.mem_append_right _ htext))
        · decide
  | message =>
      rcases List.mem_append.mp hb with hdest | htext
      · have hmem := List.mem_append_left (ascii " ")
          (List.mem_append_right (ascii "/msg ") hdest)
        exact printable_clean (htyped b (List.mem_append_left _ hmem))
      · exact printable_clean (htyped b (List.mem_append_right _ htext))

theorem privmsg_clean {chan : List UInt8} {saying : Saying}
    (h : saying.WellFormed chan)
    (htyped : forall b, b ∈ saying.typed -> Printable b) :
    forall b, b ∈ privmsg chan saying -> b ≠ 0 ∧ b ≠ 10 ∧ b ≠ 13 := by
  intro b hb
  have hclean := h.clean htyped b
  have hcmd : forall b, b ∈ ascii "PRIVMSG" -> Printable b := by
    decide
  simp only [privmsg, List.mem_append, List.mem_cons] at hb
  rcases hb with hword | rfl | hdest | rfl | rfl | htext
  · exact printable_clean (hcmd b hword)
  · decide
  · exact hclean (List.mem_append_left _ hdest)
  · decide
  · decide
  · exact hclean (List.mem_append_right _ htext)

theorem relayed_clean {nick user host line : List UInt8}
    (h : Named nick user host)
    (hline : forall b, b ∈ line -> b ≠ 0 ∧ b ≠ 10 ∧ b ≠ 13) :
    forall b, b ∈ relayed nick user host line ->
      b ≠ 0 ∧ b ≠ 10 ∧ b ≠ 13 := by
  intro b hb
  simp only [relayed, fullName, List.mem_append] at hb
  rcases hb with
    ((hcolon | (((hnick | hbang) | huser) | hat) | hhost) | hspace) | hrest
  · rw [show b = COLON from List.mem_singleton.mp hcolon]
    decide
  · exact printable_clean (h.nick b hnick).left
  · rw [show b = 0x21 from List.mem_singleton.mp hbang]
    decide
  · exact (h.user_host b (List.mem_append_left _ huser)).right
  · rw [show b = 0x40 from List.mem_singleton.mp hat]
    decide
  · exact (h.user_host b (List.mem_append_right _ hhost)).right
  · rw [show b = 0x20 from List.mem_singleton.mp hspace]
    decide
  · exact hline b hrest

/-- The command fits into `out[]`. -/
theorem privmsg_length_le {chan : List UInt8} {saying : Saying}
    (h : saying.WellFormed chan) (hlength : saying.typed.length ≤ MAX_INPUT) :
    (privmsg chan saying).length ≤ OUT_LINE - 2 := by
  have hcmd : (ascii "PRIVMSG").length = 7 := rfl
  have haction : (ascii "ACTION ").length = 7 := rfl
  have hlimits : MAX_INPUT = 100 ∧ MAX_CHAN = 32 ∧ OUT_LINE = 256 :=
    ⟨rfl, rfl, rfl⟩
  cases h with
  | plain hchan =>
      have hchan' := hchan.length_le
      simp only [Saying.typed] at hlength
      simp only [privmsg, Saying.target, Saying.text, List.length_append,
        List.length_cons]
      omega
  | action hchan =>
      have hchan' := hchan.length_le
      simp only [Saying.typed, List.length_append] at hlength
      simp only [privmsg, Saying.target, Saying.text, List.length_append,
        List.length_cons, List.length_nil]
      omega
  | message =>
      simp only [Saying.typed, List.length_append] at hlength
      simp only [privmsg, Saying.target, Saying.text, List.length_append,
        List.length_cons]
      omega

/-!
## The payload
-/

def sentPayload : Event State ν -> Option (List UInt8)
  | .payload _ _ bytes => some bytes
  | _ => none

/-- The payloads passed to `tcp_send`. -/
def payloads (trace : List (Event State ν)) : List (List UInt8) :=
  trace.filterMap sentPayload

theorem payloads_append (t : List (Event State ν)) (e : Event State ν) :
    payloads (t ++ [e]) = payloads t ++ (sentPayload e).toList := by
  rw [payloads, List.filterMap_append]
  cases h : sentPayload e <;> simp [payloads, h]

/-- No payload has been sent since `sent`, and `out[]` holds the command. -/
def Built (sent : List (List UInt8)) (line : List UInt8) (s : State)
    (t : List (Event State ν)) : Prop :=
  s.out = line ∧ payloads t = sent

/-- The command has been sent, and nothing else. -/
def SentOnce (sent : List (List UInt8)) (line : List UInt8)
    (t : List (Event State ν)) : Prop :=
  payloads t = sent ++ [line ++ CRLF]

def SentAtMostOnce (sent : List (List UInt8)) (line : List UInt8)
    (t : List (Event State ν)) : Prop :=
  payloads t = sent ∨ SentOnce sent line t

theorem sentOnce_append {sent : List (List UInt8)} {line : List UInt8}
    {t : List (Event State ν)} (h : SentOnce sent line t)
    {e : Event State ν} (he : sentPayload e = none) :
    SentOnce sent line (t ++ [e]) := by
  rw [SentOnce, payloads_append, he, h]
  exact List.append_nil _

theorem built_app (sent : List (List UInt8)) (line : List UInt8) :
    AppInvariant app (Built (ν := ν) sent line)
      (fun _ => SentAtMostOnce sent line) where
  showData := by
    intro data s t hboth
    rcases hboth with ⟨hout, ht⟩
    exact ⟨(showData_undisturbed data s).out.trans hout, ht⟩
  logLine := by
    intro text s t hboth
    rcases hboth with ⟨hout, ht⟩
    exact ⟨(logEntry_onlyShows [text] s).out.trans hout, ht⟩
  shown := by
    intro net windowOpen s t hboth
    rcases hboth with ⟨hout, ht⟩
    refine ⟨hout, ?_⟩
    rw [payloads_append, ht]
    exact List.append_nil _
  hungUp := by
    intro net s t hboth
    rcases hboth with ⟨hout, ht⟩
    refine ⟨hout, ?_⟩
    rw [payloads_append, ht]
    exact List.append_nil _
  stopped := fun h => Or.inl h.right

theorem sentOnce_app (sent : List (List UInt8)) (line : List UInt8) :
    AppInvariant app (fun _ => SentOnce (ν := ν) sent line)
      (fun _ => SentAtMostOnce sent line) where
  showData := fun _ _ _ h => h
  logLine := fun _ _ _ h => h
  shown := fun _ _ _ _ h => sentOnce_append h rfl
  hungUp := fun _ _ _ h => sentOnce_append h rfl
  stopped := fun h => Or.inr h

/-- `o_send` passes what has been built, and a CRLF, to `tcp_send` once. -/
theorem oSend_sends (N : Network ν) (origin : Origin)
    (pieces sent : List (List UInt8)) (line : List UInt8) :
    Program.Ensures (On (Built sent line)) (oSend N origin pieces)
      (fun _ => On (fun _ => SentOnce sent line))
      (On (fun _ => SentAtMostOnce sent line)) := by
  apply ensures_oSend N (sentOnce_app sent line) (built_app sent line)
  · intro s t hboth
    rcases hboth with ⟨hout, ht⟩
    rw [SentOnce, payloads_append, ht, hout]
    rfl
  · exact fun h => Or.inr h
  · exact fun _ _ _ _ h => sentOnce_append h rfl

/-- A command that is built of `pieces`, and what follows it. -/
theorem handleInputLine_sends (N : Network ν) {c : Session State ν}
    {pieces : List (List UInt8)} {after : State -> State}
    (haction : inputAction c.app = .send pieces clearInput after false)
    (hout : c.app.out = [])
    (hfits : pieces.flatten.length ≤ OUT_LINE - 2) :
    Program.Outcome
      (fun rc c' => rc = 0 ∧
        SentOnce (payloads c.trace) pieces.flatten c'.trace ∧
          exists s : State, c'.app = after s)
      (On (fun _ => SentAtMostOnce (payloads c.trace) pieces.flatten))
      (handleInputLine N c) := by
  have hbuilt : (pieces.foldl oStr c.app).out = pieces.flatten := by
    rw [oStrs_fit pieces c.app (by rw [hout, List.length_nil]; omega), hout]
    rfl
  have hready : On (Built (payloads c.trace) pieces.flatten)
      { c with app := clearInput (pieces.foldl oStr c.app) } := by
    rcases clearInput_eq (pieces.foldl oStr c.app) with ⟨con, heq⟩
    rw [heq]
    exact ⟨hbuilt, rfl⟩
  have hsend := oSend_sends N .typed pieces (payloads c.trace) pieces.flatten
    _ hready
  unfold handleInputLine
  rw [Program.get_bind_apply, haction]
  show Program.Outcome _ _ ((command N .typed pieces clearInput >>= _) c)
  have hcommand : command N .typed pieces clearInput c =
      oSend N .typed pieces
        { c with app := clearInput (pieces.foldl oStr c.app) } := rfl
  rw [← hcommand] at hsend
  rcases hrun : command N .typed pieces clearInput c with ⟨_ | _, c'⟩
  · rw [Program.bind_none hrun]
    rw [hrun] at hsend
    exact hsend
  · rw [Program.bind_some hrun]
    rw [hrun] at hsend
    exact ⟨rfl, hsend, c'.app, rfl⟩

/-!
## The round trip
-/

theorem logEntry_logged (pieces : List (List UInt8)) (s : State) :
    exists e : LogEntry, (logEntry pieces s).logged = s.logged ++ [e] ∧
      e.pieces = pieces := by
  have hlogged : (lifted pieces s).logged = s.logged := by
    rcases lifted_eq pieces s with ⟨con, n, heq⟩
    rw [heq]
  rw [logEntry_eq, hlogged]
  exact ⟨_, rfl, rfl⟩

/-- A client that receives the line in segments of any size, at the beginning of
a line, logs `text` and nothing else. -/
def Heard (line text : List UInt8) : Prop :=
  forall (s : State) (chunks : List (List UInt8)), s.rxline = [] ->
    chunks.flatten = line ->
      exists e : LogEntry,
        (chunks.foldl (fun s chunk => showData chunk s) s).logged =
            s.logged ++ [e] ∧
          visible e.pieces.flatten = text

theorem heard_saying {chan nick user host : List UInt8} {saying : Saying}
    (h : saying.WellFormed chan)
    (htyped : forall b, b ∈ saying.typed -> Printable b)
    (hname : Named nick user host)
    (hlength : (relayed nick user host (privmsg chan saying)).length ≤
      RX_LINE - 1) :
    Heard (relayed nick user host (privmsg chan saying ++ CRLF))
      (saying.shown nick) := by
  intro s chunks hs hchunks
  have hline := showData_line
    (relayed_clean hname (privmsg_clean h htyped)) hlength hs
  rcases handleServerLine_saying hname h htyped
    (readOff (relayed nick user host (privmsg chan saying)) s) with
    ⟨pieces, hshow, hvisible⟩
  rcases logEntry_logged pieces
    (readOff (relayed nick user host (privmsg chan saying)) s) with
    ⟨e, hlogged, hpieces⟩
  have hcut : relayed nick user host (privmsg chan saying ++ CRLF) =
      relayed nick user host (privmsg chan saying) ++ CRLF :=
    (List.append_assoc _ _ _).symm
  refine ⟨e, ?_, ?_⟩
  · rw [showData_chunks, hchunks, hcut, hline, hshow, hlogged]
    rfl
  · rw [hpieces]
    exact hvisible

/-- What is typed as plain text, `/me` or `/msg` reaches the reader of the line
as it was typed, and the echo of the first two shows the same. -/
theorem saying_round_trip (N : Network ν) {saying : Saying}
    {c : Session State ν} {nick user host : List UInt8}
    (hsaying : saying.WellFormed c.app.curChan)
    (hinput : c.app.screen.input = saying.typed)
    (htyped : forall b, b ∈ saying.typed -> Printable b)
    (hlength : saying.typed.length ≤ MAX_INPUT) (hout : c.app.out = [])
    (hname : Named nick user host) :
    (forall payload : List UInt8,
      payloads (handleInputLine N c).2.trace =
          payloads c.trace ++ [payload] ->
        (relayed nick user host payload).length ≤ RX_LINE - 1 + CRLF.length ->
          Heard (relayed nick user host payload) (saying.shown nick)) ∧
      forall (rc : Int) (c' : Session State ν),
        handleInputLine N c = (some rc, c') ->
          (exists payload : List UInt8,
            payloads c'.trace = payloads c.trace ++ [payload]) ∧
          (saying.Echoed -> c'.app.mynick = nick ->
            exists (entries : List LogEntry) (e : LogEntry),
              c'.app.logged = entries ++ [e] ∧
                visible e.pieces.flatten = saying.shown nick) := by
  rcases inputAction_saying hsaying hinput with
    ⟨pieces, echo, haction, hpieces, hecho⟩
  have hfits : pieces.flatten.length ≤ OUT_LINE - 2 := by
    rw [hpieces]
    exact privmsg_length_le hsaying hlength
  have hrun := handleInputLine_sends N haction hout hfits
  rw [hpieces] at hrun
  constructor
  · intro payload hpayload hroom
    have hsent : payload = privmsg c.app.curChan saying ++ CRLF := by
      rcases hresult : handleInputLine N c with ⟨_ | rc, c'⟩
      · rw [hresult] at hrun hpayload
        rcases hrun with hnone | hsent
        · have hlen := congrArg List.length (hpayload.symm.trans hnone)
          simp at hlen
        · have heq := List.append_cancel_left (hpayload.symm.trans hsent)
          exact (List.cons.inj heq).left
      · rw [hresult] at hrun hpayload
        have heq := List.append_cancel_left
          (hpayload.symm.trans hrun.right.left)
        exact (List.cons.inj heq).left
    rw [hsent] at hroom ⊢
    apply heard_saying hsaying htyped hname
    simp only [relayed, List.length_append] at hroom ⊢
    omega
  · intro rc c' hresult
    rw [hresult] at hrun
    rcases hrun with ⟨_, hsent, s, hafter⟩
    refine ⟨⟨_, hsent⟩, ?_⟩
    intro hechoed hnick
    rcases logEntry_logged (echo s) s with ⟨e, hlogged, hshown⟩
    refine ⟨s.logged, e, ?_, ?_⟩
    · rw [hafter]
      exact hlogged
    · have hnick' : s.mynick = nick := by
        rw [← (logEntry_onlyShows (echo s) s).mynick, ← hafter]
        exact hnick
      rw [hshown, hecho hechoed s, hnick']
      exact visible_of_printable (printable_shown hname htyped)

/-- A client on the channel `#c` on which `hi` has been typed. -/
def greeting : Session State Feed :=
  Session.start
    { State.prompted Console.blank [0x62, 0x6f, 0x62, KEY_ENTER]
        [0x23, 0x63, KEY_ENTER] with
      screen := { con := Console.blank, input := ascii "hi" } }
    { current := [], coming := [] }

/-- Bob's greeting on the channel. -/
theorem saying_round_trip_greeting :
    exists (payload : List UInt8) (entries : List LogEntry) (e : LogEntry),
      payloads (handleInputLine (feedNetwork Platform.spectrum)
          greeting).2.trace = [payload] ∧
        Heard (relayed (ascii "bob") (ascii "u") (ascii "h") payload)
          (ascii "<bob> hi") ∧
        (handleInputLine (feedNetwork Platform.spectrum)
          greeting).2.app.logged = entries ++ [e] ∧
        visible e.pieces.flatten = ascii "<bob> hi" := by
  have hchan : Channel greeting.app.curChan :=
    ⟨Or.inl rfl, by decide, by decide, by decide⟩
  have hname : Named (ascii "bob") (ascii "u") (ascii "h") :=
    ⟨by decide, by decide⟩
  have hreturns : (handleInputLine (feedNetwork Platform.spectrum)
      greeting).1 = some 0 := by
    decide +kernel
  have hsent : payloads (handleInputLine (feedNetwork Platform.spectrum)
      greeting).2.trace = [ascii "PRIVMSG #c :hi\r\n"] := by
    decide +kernel
  have hnick : (handleInputLine (feedNetwork Platform.spectrum)
      greeting).2.app.mynick = ascii "bob" := by
    decide +kernel
  have hsaying : (Saying.plain (ascii "hi")).WellFormed
      greeting.app.curChan :=
    .plain hchan (by decide) (by decide)
  have htrip := saying_round_trip (feedNetwork Platform.spectrum) hsaying rfl
    (by decide) (by decide) rfl hname
  rcases hrun : handleInputLine (feedNetwork Platform.spectrum) greeting with
    ⟨rc, c'⟩
  rw [hrun] at htrip hreturns hsent hnick
  rcases htrip with ⟨hheard, hecho⟩
  rcases (hecho 0 c' (by rw [← hreturns])).right trivial hnick with
    ⟨entries, e, hlogged, hvisible⟩
  exact ⟨_, entries, e, hsent, hheard _ hsent (by decide), hlogged, hvisible⟩

end Irc
end Z80Tcpip
