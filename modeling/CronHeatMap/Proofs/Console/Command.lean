import CronHeatMap.Console.Dialogue
import CronHeatMap.Proofs.Text.Lines
import CronHeatMap.Proofs.Text.Numeral

/-!
# What is a command

A line is a word and an argument, with blanks around them (`splitWord_eq_iff`). It is a command
exactly if these have the form of one (`parse_eq_ok_iff`), so that the commands which can be given
are those that are read as they are written (`parse_text`, `wellFormed_of_parse_eq_ok`). In
particular, a listing number is never 0, and it picks out the entry that is shown with this number
(`parse_accepts_forms`).
-/

namespace CronHeatMap.Command

open Text (AllBlank NoBlank IsNumeral)

variable {cs word argument : List Char} {c : Command} {seat : Seat} {n : Nat}

/-! ### Lines -/

/-- The line consists of a word and an argument, with blanks between them and around them. Neither
the word nor the ends of the argument are blank, and without a word there is no argument. -/
structure IsLine (cs word argument : List Char) : Prop where
  spelled : ∃ before gap after, AllBlank before ∧ AllBlank gap ∧ AllBlank after ∧
    cs = before ++ (word ++ gap ++ argument) ++ after ∧ (argument ≠ [] → word ≠ [] ∧ gap ≠ [])
  word_noBlank : NoBlank word
  argument_trim : Text.trim argument = argument

lemma splitWord_blanks_append {blanks : List Char} (hblanks : AllBlank blanks) (cs : List Char) :
    splitWord (blanks ++ cs) = splitWord cs := by
  rw [splitWord, splitWord, Text.trim_blanks_append hblanks]

lemma splitWord_append_blanks {blanks : List Char} (hblanks : AllBlank blanks) (cs : List Char) :
    splitWord (cs ++ blanks) = splitWord cs := by
  rw [splitWord, splitWord, Text.trim_append_blanks hblanks]

lemma splitWord_noBlank (hword : NoBlank word) : splitWord word = (word, []) := by
  rw [splitWord, Text.trim_eq_self hword, Text.cutAt_eq_none_iff.2 hword]

/-- What follows a word and blanks is the argument, but for the blanks around it. -/
lemma splitWord_word_append (hne : word ≠ []) (hword : NoBlank word) {gap : List Char}
    (hgap : gap ≠ []) (hblank : AllBlank gap) (rest : List Char) :
    splitWord (word ++ (gap ++ rest)) = (word, Text.trim rest) := by
  by_cases hnil : Text.trim rest = []
  · have hrest : AllBlank (gap ++ rest) :=
      List.forall_mem_append.2 ⟨hblank, Text.trim_eq_nil_iff.1 hnil⟩
    rw [splitWord_append_blanks hrest, splitWord_noBlank hword, hnil]
  · obtain ⟨before, after, hbefore, hafter, hrest⟩ := Text.exists_blanks_append_trim rest
    obtain ⟨blank, gap, rfl⟩ := List.exists_cons_of_ne_nil hgap
    obtain ⟨hblank, hgap⟩ := List.forall_mem_cons.1 hblank
    -- Up to the end of the argument, nothing is trimmed.
    have htrim : Text.trim (word ++ blank :: (gap ++ (before ++ Text.trim rest))) =
        word ++ blank :: (gap ++ (before ++ Text.trim rest)) := by
      refine Text.trim_eq_self_iff.2 ⟨fun c hc => ?_, fun c hc => ?_⟩
      · rw [List.head?_append_of_ne_nil _ hne] at hc
        exact hword c (List.mem_of_head? hc)
      · have hlast : (Text.trim rest).getLast? = some c := by
          simpa [List.getLast?_append, List.getLast?_cons,
            List.getLast?_eq_some_getLast hnil] using hc
        exact Text.isBlank_of_getLast?_trim hlast
    have hline : word ++ (blank :: gap ++ rest) =
        word ++ blank :: (gap ++ (before ++ Text.trim rest)) ++ after := by
      conv_lhs => rw [hrest]
      simp
    rw [hline, splitWord_append_blanks hafter, splitWord, htrim,
      Text.cutAt_append_cons hword hblank]
    dsimp only
    rw [Text.trim_blanks_append hgap, Text.trim_blanks_append hbefore, Text.trim_trim]

lemma isLine_splitWord (cs : List Char) : IsLine cs (splitWord cs).1 (splitWord cs).2 := by
  obtain ⟨before, after, hbefore, hafter, hcs⟩ := Text.exists_blanks_append_trim cs
  rw [splitWord]
  split
  · next word rest hcut =>
    obtain ⟨blank, hblank, hword, htrim⟩ := Text.cutAt_eq_some_iff.1 hcut
    obtain ⟨gap, ending, hgap, hending, hrest⟩ := Text.exists_blanks_append_trim rest
    have hne : word ≠ [] := by
      rintro rfl
      have hhead : (Text.trim cs).head? = some blank := by rw [htrim]; rfl
      rw [Text.isBlank_of_head?_trim hhead] at hblank
      cases hblank
    refine ⟨⟨before, blank :: gap, ending ++ after, hbefore, ?_, ?_, ?_, fun _ => ⟨hne, by simp⟩⟩,
      hword, Text.trim_trim rest⟩
    · exact List.forall_mem_cons.2 ⟨hblank, hgap⟩
    · exact List.forall_mem_append.2 ⟨hending, hafter⟩
    · conv_lhs => rw [hcs, htrim, hrest]
      simp
  · next hcut =>
    exact ⟨⟨before, [], after, hbefore, by simp [AllBlank], hafter, by simpa using hcs, by simp⟩,
      Text.cutAt_eq_none_iff.1 hcut, rfl⟩

lemma splitWord_eq_of_isLine (h : IsLine cs word argument) : splitWord cs = (word, argument) := by
  obtain ⟨before, gap, after, hbefore, hgap, hafter, rfl, hne⟩ := h.spelled
  rw [splitWord_append_blanks hafter, splitWord_blanks_append hbefore, List.append_assoc]
  by_cases hargument : argument = []
  · rw [hargument, List.append_nil, splitWord_append_blanks hgap, splitWord_noBlank h.word_noBlank]
  · obtain ⟨hword, hgap'⟩ := hne hargument
    rw [splitWord_word_append hword h.word_noBlank hgap' hgap, h.argument_trim]

/-- There is one way to read a line as a word and an argument. -/
lemma splitWord_eq_iff : splitWord cs = (word, argument) ↔ IsLine cs word argument := by
  constructor
  · intro h
    have hline := isLine_splitWord cs
    rwa [h] at hline
  · exact splitWord_eq_of_isLine

/-! ### Arguments -/

/-- The text is a time of day that is written as two numbers with a colon between them. -/
def IsTime (cs : List Char) (seat : Seat) : Prop :=
  ∃ h m, cs = h ++ ':' :: m ∧ IsNumeral h seat.hour ∧ IsNumeral m seat.minute ∧
    seat.hour < 24 ∧ seat.minute < 60

lemma IsTime.ne_nil (h : IsTime cs seat) : cs ≠ [] := by
  obtain ⟨h, m, rfl, -⟩ := h
  simp

lemma IsTime.inDay (h : IsTime cs seat) : seat.hour < 24 ∧ seat.minute < 60 := by
  obtain ⟨h, m, -, -, -, hrange⟩ := h
  exact hrange

lemma IsTime.noBlank (h : IsTime cs seat) : NoBlank cs := by
  obtain ⟨h, m, rfl, hhour, hminute, -⟩ := h
  exact List.forall_mem_append.2
    ⟨hhour.noBlank, List.forall_mem_cons.2 ⟨by decide, hminute.noBlank⟩⟩

lemma isTime_timeText (hhour : seat.hour < 24) (hminute : seat.minute < 60) :
    IsTime (timeText seat).toList seat := by
  refine ⟨Text.figures 2 seat.hour, Text.figures 2 seat.minute, ?_,
    Text.isNumeral_figures (by decide) (by omega), Text.isNumeral_figures (by decide) (by omega),
    hhour, hminute⟩
  rw [timeText, String.toList_append, String.toList_append, Text.toList_twoDigits (by omega),
    Text.toList_twoDigits (by omega), List.append_assoc]
  rfl

lemma seatOf_eq_ok_iff : seatOf cs = .ok seat ↔ IsTime cs seat := by
  constructor
  · intro hseat
    rw [seatOf] at hseat
    split at hseat
    · cases hseat
    · next h m hcut =>
      obtain ⟨colon, hcolon, -, hcs⟩ := Text.cutAt_eq_some_iff.1 hcut
      rw [eq_of_beq hcolon] at hcs
      split at hseat
      · cases hseat
      · cases hseat
      · next hour minute hhour hminute =>
        split_ifs at hseat with hrange
        cases hseat
        exact ⟨h, m, hcs, (Text.readBelow?_eq_some_iff.1 hhour).1,
          (Text.readBelow?_eq_some_iff.1 hminute).1, hrange⟩
  · rintro ⟨h, m, rfl, hhour, hminute, hhourLt, hminuteLt⟩
    have hcolon : ∀ c ∈ h, (c == ':') = false := by
      intro c hc
      rcases hhour.eq_plus_or_exists hc with rfl | ⟨d, hd, rfl⟩
      · rfl
      · exact beq_false_of_ne (Text.digitChar_ne hd (by decide))
    have hread : Text.readBelow? timePartBound h = some seat.hour :=
      Text.readBelow?_eq_some_iff.2 ⟨hhour, Nat.lt_trans hhourLt (by decide)⟩
    have hread' : Text.readBelow? timePartBound m = some seat.minute :=
      Text.readBelow?_eq_some_iff.2 ⟨hminute, Nat.lt_trans hminuteLt (by decide)⟩
    rw [seatOf, Text.cutAt_append_cons hcolon (by decide)]
    simp only [hread, hread']
    exact if_pos ⟨hhourLt, hminuteLt⟩

lemma numberOf_eq_ok_iff : numberOf cs = .ok n ↔ IsNumeral cs n ∧ 1 ≤ n ∧ n < 2 ^ 64 := by
  have hread : Text.readBelow? listingNumberBound cs = some n ↔ IsNumeral cs n ∧ n < 2 ^ 64 :=
    Text.readBelow?_eq_some_iff
  rw [and_left_comm, ← hread, numberOf]
  split
  · next hnone => simp [hnone]
  · next hsome =>
    rw [hsome]
    refine iff_of_false (fun h => by cases h) ?_
    rintro ⟨hpos, hn⟩
    cases hn
    cases hpos
  · next number hzero hsome =>
    rw [hsome, Except.ok.injEq, Option.some.injEq]
    refine (and_iff_right_of_imp ?_).symm
    rintro rfl
    exact Nat.one_le_iff_ne_zero.2 hzero

/-! ### Forms -/

/-- The words that are commands whatever their argument is. -/
def plain : List (String × Command) :=
  [("clear", .clear), ("eval", .eval), ("edit", .edit), ("leave", .leave), ("back", .back),
   ("forward", .forward), ("url", .url), ("show", .repaint), ("help", .help), ("?", .help),
   ("quit", .quit), ("exit", .quit), ("/quit", .quit), ("/exit", .quit)]

/-- The forms of commands: a word, an argument, and the command that they give. Texts are taken as
they are. -/
inductive Form : String → String → Command → Prop where
  | plain {word : String} {c : Command} (argument : String) :
      (word, c) ∈ plain → Form word argument c
  | expr {text : String} : text ≠ "" → Form "expr" text (.expr text)
  | date (text : String) : Form "date" text (.date text)
  | zone {name : String} : name ≠ "" → Form "tz" name (.zone name)
  | hover {time : String} {seat : Seat} : IsTime time.toList seat → Form "hover" time (.hover seat)
  | click {time : String} {seat : Seat} : IsTime time.toList seat → Form "click" time (.click seat)
  | highlight {numeral : String} {number : Nat} : IsNumeral numeral.toList number →
      1 ≤ number → number < 2 ^ 64 → Form "hl" numeral (.highlight number)

lemma ofWord_eq_ok_of_form {word argument : String} (h : Form word argument c) :
    ofWord word argument.toList = .ok c := by
  cases h with
  | plain argument hmem =>
    have hplain : ∀ p ∈ plain, ofWord p.1 argument.toList = .ok p.2 := by simp [plain, ofWord]
    exact hplain _ hmem
  | expr hne => simp [ofWord, hne]
  | date => simp [ofWord]
  | zone hne => simp [ofWord, hne]
  | hover htime => simp [ofWord, htime.ne_nil, seatOf_eq_ok_iff.2 htime, Except.map]
  | click htime => simp [ofWord, htime.ne_nil, seatOf_eq_ok_iff.2 htime, Except.map]
  | highlight hn hpos hlt =>
    simp [ofWord, hn.ne_nil, numberOf_eq_ok_iff.2 ⟨hn, hpos, hlt⟩, Except.map]

/-- A required argument that is read is there. -/
lemma exists_of_required {α : Type} {fault : Fault} {read : Except Fault α} {make : α → Command}
    (h : (if argument.isEmpty then .error fault else read.map make) = .ok c) :
    ∃ a, read = .ok a ∧ make a = c := by
  split_ifs at h
  cases read with
  | error fault => cases h
  | ok a =>
    cases h
    exact ⟨a, rfl, rfl⟩

lemma form_of_ofWord_eq_ok {word argument : String} (h : ofWord word argument.toList = .ok c) :
    Form word argument c := by
  simp only [ofWord, String.ofList_toList] at h
  split at h
  case h_1 =>
    split_ifs at h with hempty
    cases h
    exact .expr (by simpa using hempty)
  case h_3 =>
    cases h
    exact .date argument
  case h_6 =>
    obtain ⟨seat, hseat, rfl⟩ := exists_of_required h
    exact .hover (seatOf_eq_ok_iff.1 hseat)
  case h_8 =>
    obtain ⟨seat, hseat, rfl⟩ := exists_of_required h
    exact .click (seatOf_eq_ok_iff.1 hseat)
  case h_9 =>
    obtain ⟨number, hnumber, rfl⟩ := exists_of_required h
    obtain ⟨hnumeral, hpos, hlt⟩ := numberOf_eq_ok_iff.1 hnumber
    exact .highlight hnumeral hpos hlt
  case h_10 =>
    split_ifs at h with hempty
    cases h
    exact .zone (by simpa using hempty)
  case h_21 => cases h
  -- the words that are commands whatever their argument is
  all_goals
    cases h
    exact .plain argument (by decide)

/-! ### Reading and writing -/

/-- A line is a command exactly if it consists of a word and an argument in the form of the
command. -/
lemma parse_eq_ok_iff {line : String} :
    parse line = .ok c ↔ ∃ word argument : String,
      IsLine line.toList word.toList argument.toList ∧ Form word argument c := by
  constructor
  · intro h
    refine ⟨String.ofList (splitWord line.toList).1, String.ofList (splitWord line.toList).2, ?_,
      form_of_ofWord_eq_ok ?_⟩
    · rw [String.toList_ofList, String.toList_ofList]
      exact isLine_splitWord line.toList
    · rw [String.toList_ofList]
      exact h
  · rintro ⟨word, argument, hline, hform⟩
    rw [parse, splitWord_eq_of_isLine hline]
    dsimp only
    rw [String.ofList_toList]
    exact ofWord_eq_ok_of_form hform

/-- The commands that can be given: the texts in them have no blanks at their ends and, a date
apart, hold something; times are those of a day; listing numbers are positive words of 64 bits. -/
def WellFormed : Command → Prop
  | expr text | zone text => Text.trim text.toList = text.toList ∧ text ≠ ""
  | date text => Text.trim text.toList = text.toList
  | hover seat | click seat => seat.hour < 24 ∧ seat.minute < 60
  | highlight number => 1 ≤ number ∧ number < 2 ^ 64
  | _ => True

lemma wellFormed_of_form {word argument : String} (h : Form word argument c)
    (htrim : Text.trim argument.toList = argument.toList) : c.WellFormed := by
  cases h with
  | plain argument hmem =>
    have hplain : ∀ p ∈ plain, p.2.WellFormed := by simp [plain, WellFormed]
    exact hplain _ hmem
  | expr hne => exact ⟨htrim, hne⟩
  | date => exact htrim
  | zone hne => exact ⟨htrim, hne⟩
  | hover htime => exact htime.inDay
  | click htime => exact htime.inDay
  | highlight _ hpos hlt => exact ⟨hpos, hlt⟩

lemma wellFormed_of_parse_eq_ok {line : String} (h : parse line = .ok c) : c.WellFormed := by
  obtain ⟨word, argument, hline, hform⟩ := parse_eq_ok_iff.1 h
  exact wellFormed_of_form hform hline.argument_trim

lemma isLine_word (hword : NoBlank word) : IsLine word word [] where
  spelled := ⟨[], [], [], by decide, by decide, by decide, by simp, by simp⟩
  word_noBlank := hword
  argument_trim := rfl

lemma isLine_word_append (hne : word ≠ []) (hword : NoBlank word)
    (htrim : Text.trim argument = argument) : IsLine (word ++ ' ' :: argument) word argument where
  spelled := ⟨[], [' '], [], by decide, by decide, by decide, by simp, fun _ => ⟨hne, by decide⟩⟩
  word_noBlank := hword
  argument_trim := htrim

/-- A word and an argument in the form of a command are read as this command. -/
lemma parse_of_form {word argument line : String} (hword : word ≠ "" ∧ NoBlank word.toList)
    (htrim : Text.trim argument.toList = argument.toList) (hform : Form word argument c)
    (hline : line = word ++ " " ++ argument) : parse line = .ok c := by
  refine parse_eq_ok_iff.2 ⟨word, argument, ?_, hform⟩
  rw [hline, String.toList_append, String.toList_append, List.append_assoc]
  exact isLine_word_append (by simpa using hword.1) hword.2 htrim

/-- Reading a command undoes writing it. -/
lemma parse_text (hc : c.WellFormed) : parse c.text = .ok c := by
  cases c with
  | expr text => exact parse_of_form (by decide) hc.1 (.expr hc.2) rfl
  | date text => exact parse_of_form (by decide) hc (.date text) rfl
  | zone name => exact parse_of_form (by decide) hc.1 (.zone hc.2) rfl
  | hover seat =>
    have htime := isTime_timeText hc.1 hc.2
    exact parse_of_form (by decide) (Text.trim_eq_self htime.noBlank) (.hover htime) rfl
  | click seat =>
    have htime := isTime_timeText hc.1 hc.2
    exact parse_of_form (by decide) (Text.trim_eq_self htime.noBlank) (.click htime) rfl
  | highlight number =>
    have hnumeral : IsNumeral (Text.decimal number).toList number := by
      rw [Text.decimal, String.toList_ofList]
      exact Text.isNumeral_digits number
    exact parse_of_form (by decide) (Text.trim_eq_self hnumeral.noBlank)
      (.highlight hnumeral hc.1 hc.2) rfl
  | _ => exact parse_eq_ok_iff.2 ⟨_, "", isLine_word (by decide), .plain "" (by decide)⟩

/-- Blanks around a line do not matter. -/
lemma parse_blanks {before after : String} (hbefore : AllBlank before.toList)
    (hafter : AllBlank after.toList) (line : String) :
    parse (before ++ line ++ after) = parse line := by
  rw [parse, parse, String.toList_append, String.toList_append, splitWord_append_blanks hafter,
    splitWord_blanks_append hbefore]

/-- It does not matter which blanks stand between a word and its argument. -/
lemma parse_gap {word gap gap' : String} (hword : NoBlank word.toList) (hgap : gap ≠ "")
    (hblank : AllBlank gap.toList) (hgap' : gap' ≠ "") (hblank' : AllBlank gap'.toList)
    (argument : String) : parse (word ++ gap ++ argument) = parse (word ++ gap' ++ argument) := by
  have hsplit : splitWord (word ++ gap ++ argument).toList =
      splitWord (word ++ gap' ++ argument).toList := by
    simp only [String.toList_append, List.append_assoc]
    by_cases hne : word.toList = []
    · rw [hne, List.nil_append, List.nil_append, splitWord_blanks_append hblank,
        splitWord_blanks_append hblank']
    · rw [splitWord_word_append hne hword (by simpa using hgap) hblank,
        splitWord_word_append hne hword (by simpa using hgap') hblank']
  rw [parse, parse, hsplit]

end CronHeatMap.Command

namespace CronHeatMap

/-! ### Listing numbers -/

namespace Picture

/-- What stands above the entries of the listing. -/
def listingHeading : Screen := .text "\n" :: Ink.header.line "Expressions:"

/-- The lines in which the entries of the listing are shown. -/
def entryLines (h : HeatMap) : List Screen :=
  (h.listing.zipIdx 1).map fun (entry, number) => listingLine h.index entry number

lemma listing_eq (h : HeatMap) : listing h = listingHeading ++ (entryLines h).flatten := rfl

/-- The entry that is shown with a number. -/
lemma getElem?_entryLines {h : HeatMap} {i : Nat} {entry : ListingEntry}
    (hentry : h.listing[i]? = some entry) :
    (entryLines h)[i]? = some (listingLine h.index entry (i + 1)) := by
  rw [entryLines, List.getElem?_map, List.getElem?_zipIdx, hentry, Option.map_some, Option.map_some,
    Nat.add_comm]

end Picture

namespace Dialogue

variable {s : Session} {line : String} {number : Nat}

/-- Of a listing that is long enough, the entry that is shown with the number is toggled. Otherwise
nothing happens to the session. -/
structure Picks (s : Session) (number : Nat) (reply : Reply) : Prop where
  positive : number - 1 + 1 = number
  of_short : s.view.listing.length < number → reply.session = s
  of_long : number ≤ s.view.listing.length → ∃ entry, s.view.listing[number - 1]? = some entry ∧
    Picture.listing s.view = Picture.listingHeading ++ (Picture.entryLines s.view).flatten ∧
    (Picture.entryLines s.view)[number - 1]? =
      some (Picture.listingLine s.view.index entry number) ∧
    reply.session = { s with view := (s.view.toggleHighlight (number - 1)).2 }

lemma picks_pick (hnumber : 1 ≤ number) (s : Session) : Picks s number (pick s number) where
  positive := Nat.sub_add_cancel hnumber
  of_short hshort := by rw [pick, if_pos hshort]
  of_long hlong := by
    have hlt : number - 1 < s.view.listing.length := by omega
    have hentry := List.getElem?_eq_getElem hlt
    refine ⟨_, hentry, Picture.listing_eq s.view, ?_, ?_⟩
    · rw [Picture.getElem?_entryLines hentry, Nat.sub_add_cancel hnumber]
    · rw [pick, if_neg (Nat.not_lt.2 hlong)]

/-- A blank line is no command. -/
lemma trim_ne_nil_of_parse_eq_ok {c : Command} (h : Command.parse line = .ok c) :
    Text.trim line.toList ≠ [] := by
  intro hnil
  have hsplit : Command.splitWord line.toList = ([], []) := by
    rw [Command.splitWord, hnil]
    rfl
  rw [Command.parse, hsplit] at h
  cases h

/-- The reply to a line that is a command. -/
lemma respond_of_parse_eq_ok {c : Command} (h : Command.parse line = .ok c) (today : Date)
    (s : Session) : respond today s line = carryOut today s c := by
  rw [respond, if_neg (by simpa using trim_ne_nil_of_parse_eq_ok h), h]

end Dialogue

namespace Command

open Text (AllBlank NoBlank IsNumeral)

/-- Blanks around a line, and how many there are between a word and its argument, do not matter. A
line is a command exactly if word and argument have its form, in which texts are taken as they are.
Every well-formed command is read as it is written, and no others are read; so a listing number that
is read picks out the entry that is shown with it. -/
theorem parse_accepts_forms :
    (∀ before after line : String, AllBlank before.toList → AllBlank after.toList →
      parse (before ++ line ++ after) = parse line) ∧
    (∀ word gap gap' argument : String, NoBlank word.toList →
      gap ≠ "" → AllBlank gap.toList → gap' ≠ "" → AllBlank gap'.toList →
      parse (word ++ gap ++ argument) = parse (word ++ gap' ++ argument)) ∧
    (∀ (line : String) (c : Command), parse line = .ok c ↔ ∃ word argument : String,
      IsLine line.toList word.toList argument.toList ∧ Form word argument c) ∧
    (∀ c : Command, c.WellFormed → parse c.text = .ok c) ∧
    (∀ (line : String) (c : Command), parse line = .ok c → c.WellFormed) ∧
    ∀ (line : String) (number : Nat), parse line = .ok (.highlight number) →
      ∀ (today : Date) (s : Session), ∃ reply,
        Dialogue.respond today s line = .done reply ∧ Dialogue.Picks s number reply := by
  refine ⟨?_, ?_, ?_, ?_, ?_, ?_⟩
  · exact fun before after line hbefore hafter => parse_blanks hbefore hafter line
  · exact fun word gap gap' argument hword hgap hblank hgap' hblank' =>
      parse_gap hword hgap hblank hgap' hblank' argument
  · exact fun line c => parse_eq_ok_iff
  · exact fun c hc => parse_text hc
  · exact fun line c h => wellFormed_of_parse_eq_ok h
  · intro line number h today s
    have hpos : 1 ≤ number := (wellFormed_of_parse_eq_ok h).1
    exact ⟨_, Dialogue.respond_of_parse_eq_ok h today s, Dialogue.picks_pick hpos s⟩

/-- A number with a plus sign and a zero, between blanks of several kinds, and an expression with
more than one blank in it. -/
theorem parse_accepts_forms_spaced :
    let s := (Session.new .unixEpoch .utc).onView (·.setListing ["a", "b"])
    AllBlank "\u3000\t".toList ∧ AllBlank "\n".toList ∧
      parse ("\u3000\t" ++ "hl  +02" ++ "\n") = .ok (.highlight 2) ∧
      (∃ reply, Dialogue.respond .unixEpoch s "hl  +02" = .done reply ∧
        Dialogue.Picks s 2 reply) ∧
      (expr "0 0  * ?").WellFormed ∧ parse (expr "0 0  * ?").text = .ok (.expr "0 0  * ?") := by
  intro s
  obtain ⟨hblanks, -, hforms, htext, -, hpicks⟩ := parse_accepts_forms
  have hbefore : AllBlank "\u3000\t".toList := by decide
  have hafter : AllBlank "\n".toList := by decide
  have hnumeral : IsNumeral "+02".toList 2 := ⟨1, Or.inr (by decide +kernel)⟩
  have hline : IsLine "hl  +02".toList "hl".toList "+02".toList :=
    { spelled := ⟨[], [' ', ' '], [], by decide, by decide, by decide, by decide, by decide⟩
      word_noBlank := by decide
      argument_trim := by decide }
  have hread : parse "hl  +02" = .ok (.highlight 2) :=
    (hforms _ _).2 ⟨"hl", "+02", hline, .highlight hnumeral (by decide) (by decide)⟩
  have hwell : (expr "0 0  * ?").WellFormed := ⟨by decide, by decide⟩
  refine ⟨hbefore, hafter, ?_, hpicks _ _ hread _ s, hwell, htext _ hwell⟩
  rw [hblanks _ _ _ hbefore hafter, hread]

end Command

end CronHeatMap
