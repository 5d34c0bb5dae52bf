import EventLoop.Proofs.Entry.Arguments
import Mathlib.Data.List.Basic
import Mathlib.Data.List.TakeWhile

/-!
# Settings of an attribute

The settings of an attribute are read from its print. If no argument prints a comma, then the print comes
apart at the commas between the arguments, and each argument is read on its own. So settings that are written
out plainly, with numbers in decimal digits, are all read back in their order.
-/
namespace EventLoop.Entry

/-! ## Blanks at both ends -/

/-- Characters that are blank around a setting. -/
def Blank (text : List Char) : Prop := ∀ c ∈ text, isSpace c = true

/-- Blanks in front of a text do not matter. -/
theorem trimmed_blank_append {pad : List Char} (blank : Blank pad) (text : List Char) :
    trimmed (pad ++ text) = trimmed text := by
  unfold trimmed
  rw [List.dropWhile_append_of_pos blank]

/-- Blanks behind a text do not matter. -/
theorem trimmed_append_blank {pad : List Char} (blank : Blank pad) (text : List Char) :
    trimmed (text ++ pad) = trimmed text := by
  have back : Blank pad.reverse := fun c member => blank c (List.mem_reverse.mp member)
  unfold trimmed
  rw [List.dropWhile_append]
  split
  · rename_i empty
    have none : text.dropWhile isSpace = [] := List.isEmpty_iff.mp empty
    have all : pad.dropWhile isSpace = [] := List.dropWhile_eq_nil_iff.mpr blank
    rw [none, all]
  · rw [List.reverse_append, List.dropWhile_append_of_pos back]

/-- A text without blanks at its ends stays as it is. -/
theorem trimmed_of_ends {text : List Char} (front : ∀ c ∈ text.head?, isSpace c = false)
    (back : ∀ c ∈ text.getLast?, isSpace c = false) : trimmed text = text := by
  have stays {text : List Char} (front : ∀ c ∈ text.head?, isSpace c = false) :
      text.dropWhile isSpace = text := by
    cases text with
    | nil => rfl
    | cons c rest => exact List.dropWhile_cons_of_neg (by rw [front c rfl]; exact Bool.false_ne_true)
  unfold trimmed
  rw [stays front, stays fun c member => back c (List.head?_reverse ▸ member), List.reverse_reverse]

/-! ## One setting -/

/-- A text without an equals sign is read as far as it goes. -/
theorem passes_of_not_mem {text : List Char} (none : '=' ∉ text) : ∀ c ∈ text, (c != '=') = true :=
  fun _ member => bne_iff_ne.mpr fun same => none (same ▸ member)

/-- A text without an equals sign is no setting. -/
theorem readSetting?_of_not_mem {text : List Char} (none : '=' ∉ text) :
    readSetting? text = Option.none := by
  unfold readSetting?
  rw [List.dropWhile_eq_nil_iff.mpr (passes_of_not_mem none)]

/-- The name of a setting stands before the first equals sign, and its number after it. -/
theorem readSetting?_append {key : List Char} (none : '=' ∉ key) (value : List Char) :
    readSetting? (key ++ '=' :: value) = (readCount? (trimmed value)).bind fun count =>
      if builderOptions.contains (String.ofList (trimmed key)) then
        some (String.ofList (trimmed key), count) else Option.none := by
  have stops : ('=' :: value).dropWhile (· != '=') = '=' :: value :=
    List.dropWhile_cons_of_neg (by decide)
  have empty : ('=' :: value).takeWhile (· != '=') = [] := List.takeWhile_cons_of_neg (by decide)
  unfold readSetting?
  rw [List.dropWhile_append_of_pos (passes_of_not_mem none),
    List.takeWhile_append_of_pos (passes_of_not_mem none), stops, empty, List.append_nil]
  dsimp only
  cases readCount? (trimmed value) with
  | none => rfl
  | some count => rfl

/-- Blanks around a setting do not matter. -/
theorem readSetting?_blank {before after : List Char} (front : Blank before) (back : Blank after)
    (text : List Char) : readSetting? (before ++ text ++ after) = readSetting? text := by
  have absent {pad : List Char} (blank : Blank pad) : '=' ∉ pad := fun member =>
    absurd (blank '=' member) (by decide)
  by_cases here : '=' ∈ text
  · obtain ⟨key, value, rfl, none⟩ := List.eq_append_cons_of_mem here
    have keys : '=' ∉ before ++ key := fun member =>
      (List.mem_append.mp member).elim (absent front) none
    have regrouped : before ++ (key ++ '=' :: value) ++ after =
        (before ++ key) ++ '=' :: (value ++ after) := by simp
    rw [regrouped, readSetting?_append keys, readSetting?_append none, trimmed_blank_append front,
      trimmed_append_blank back]
  · have all : '=' ∉ before ++ text ++ after := by
      simp [absent front, absent back, here]
    rw [readSetting?_of_not_mem all, readSetting?_of_not_mem here]

/-! ## The settings of an attribute -/

/-- A text without a comma is one piece. -/
theorem splitCommas_of_not_mem {text : List Char} (none : ',' ∉ text) : splitCommas text = [text] := by
  induction text with
  | nil => rfl
  | cons c rest ih =>
    have differ : c ≠ ',' := (List.ne_of_not_mem_cons none).symm
    rw [splitCommas, if_neg differ, ih (List.not_mem_of_not_mem_cons none)]

/-- The piece up to the first comma comes first. -/
theorem splitCommas_append {text : List Char} (none : ',' ∉ text) (rest : List Char) :
    splitCommas (text ++ ',' :: rest) = text :: splitCommas rest := by
  induction text with
  | nil => rw [List.nil_append, splitCommas, if_pos rfl]
  | cons c text ih =>
    have differ : c ≠ ',' := (List.ne_of_not_mem_cons none).symm
    rw [List.cons_append, splitCommas, if_neg differ, ih (List.not_mem_of_not_mem_cons none)]

/-- The setting that the print of an argument names. -/
def settingOf? (argument : List Token) : Option (String × Nat) :=
  readSetting? (Token.printAll argument).toList

/-- What stands between two tokens in print. -/
theorem blank_gap (joint : Bool) : Blank (if joint then "" else " ").toList := by
  cases joint with
  | true => exact fun _ member => absurd member List.not_mem_nil
  | false =>
    intro c member
    rw [List.mem_singleton.mp member]
    decide

/-- A run of tokens and what follows it are printed one after the other, with a blank between them at most. -/
theorem toList_printAll_append (argument : List Token) (token : Token) (rest : List Token) :
    ∃ pad, Blank pad ∧ (Token.printAll (argument ++ token :: rest)).toList =
      (Token.printAll argument).toList ++ pad ++ (Token.printAll (token :: rest)).toList := by
  induction argument with
  | nil => exact ⟨[], fun _ member => absurd member List.not_mem_nil, rfl⟩
  | cons first argument ih =>
    cases argument with
    | nil =>
      refine ⟨_, blank_gap first.isJoint, ?_⟩
      simp [Token.printAll]
    | cons second argument =>
      obtain ⟨pad, blank, same⟩ := ih
      refine ⟨pad, blank, ?_⟩
      rw [List.cons_append] at same
      rw [List.cons_append, List.cons_append, Token.printAll, Token.printAll]
      simp [same]

/-- What follows a comma is printed after it, with a blank between them at most. -/
theorem toList_printAll_comma (joint : Bool) (rest : List Token) :
    ∃ pad, Blank pad ∧ (Token.printAll (.punct ',' joint :: rest)).toList =
      ',' :: (pad ++ (Token.printAll rest).toList) := by
  cases rest with
  | nil =>
    refine ⟨[], fun _ member => absurd member List.not_mem_nil, ?_⟩
    simp [Token.printAll, Token.print]
  | cons next rest =>
    refine ⟨_, blank_gap joint, ?_⟩
    rw [Token.printAll, Token.print, String.toList_append, String.toList_append]
    rfl

/-- If no argument prints a comma, each argument is read on its own, in their order. -/
theorem readSettings_listed {first : List Token} {rest : List (Bool × List Token)}
    (silent : ',' ∉ (Token.printAll first).toList)
    (silents : ∀ entry ∈ rest, ',' ∉ (Token.printAll entry.2).toList) :
    readSettings (listed first rest) = (first :: rest.map Prod.snd).filterMap settingOf? := by
  have plain {pad : List Char} (blank : Blank pad) : ',' ∉ pad := fun member =>
    absurd (blank ',' member) (by decide)
  -- The induction needs room for the blank that may stand after a comma.
  have reads {pad : List Char} (blank : Blank pad) :
      (splitCommas (pad ++ (Token.printAll (listed first rest)).toList)).filterMap readSetting? =
        (first :: rest.map Prod.snd).filterMap settingOf? := by
    induction rest generalizing first pad with
    | nil =>
      have bare : readSetting? (pad ++ (Token.printAll first).toList) = settingOf? first := by
        have same := readSetting?_blank blank (fun _ member => absurd member List.not_mem_nil)
          (Token.printAll first).toList
        rwa [List.append_nil] at same
      have one : ',' ∉ pad ++ (Token.printAll first).toList := by simp [plain blank, silent]
      have alone : listed first [] = first := List.append_nil first
      rw [alone, splitCommas_of_not_mem one, List.filterMap_cons, bare]
      rfl
    | cons entry rest ih =>
      obtain ⟨joint, next⟩ := entry
      obtain ⟨before, front, print⟩ := toList_printAll_append first (.punct ',' joint) (listed next rest)
      obtain ⟨behind, back, after⟩ := toList_printAll_comma joint (listed next rest)
      have one : ',' ∉ pad ++ (Token.printAll first).toList ++ before := by
        simp [plain blank, plain front, silent]
      have regrouped : pad ++ ((Token.printAll first).toList ++ before ++
          ',' :: (behind ++ (Token.printAll (listed next rest)).toList)) =
            (pad ++ (Token.printAll first).toList ++ before) ++
              ',' :: (behind ++ (Token.printAll (listed next rest)).toList) := by simp
      have others := ih (silents _ List.mem_cons_self)
        (fun entry member => silents entry (List.mem_cons_of_mem _ member)) back
      rw [listed_cons, print, after, regrouped, splitCommas_append one, List.filterMap_cons,
        readSetting?_blank blank front, others]
      rfl
  exact reads (show Blank [] from fun _ member => absurd member List.not_mem_nil)

/-! ## Plain settings -/

/-- A name, an equals sign and a number in decimal digits. -/
def plainSetting (setting : String × Nat) : List Token :=
  [.word setting.1, .punct '=' false, .literal (toString setting.2)]

/-- Digits are the decimal ones. -/
theorem isDecimal_eq (c : Char) : isDecimal c = c.isDigit := rfl

/-- A number is written in decimal digits. -/
theorem isDecimal_of_mem {count : Nat} {c : Char} (member : c ∈ (toString count).toList) :
    isDecimal c = true := by
  rw [Nat.toString_eq_ofList_toDigits, String.toList_ofList] at member
  rw [isDecimal_eq]
  exact Nat.isDigit_of_mem_toDigits (by decide) (by decide) member

/-- Where the decimal digits are. -/
theorem toNat_of_isDecimal {c : Char} (digit : isDecimal c = true) : 48 ≤ c.toNat ∧ c.toNat ≤ 57 := by
  simpa [isDecimal, Char.le_def, UInt32.le_iff_toNat_le] using digit

/-- Digits are not blank. -/
theorem isSpace_of_isDecimal {c : Char} (digit : isDecimal c = true) : isSpace c = false := by
  obtain ⟨least, most⟩ := toNat_of_isDecimal digit
  have printed : isBlank c = false := by
    unfold isBlank
    simp only [Bool.or_eq_false_iff, Bool.and_eq_false_iff, beq_eq_false_iff_ne, decide_eq_false_iff_not]
    omega
  unfold isSpace
  rw [printed]
  rfl

/-- The decimal digits of a number that fits a machine word are read back. -/
theorem readCount?_toString {count : Nat} (fits : count < 1 <<< 64) :
    readCount? (toString count).toList = some count := by
  have digits : (toString count).toList = Nat.toDigits 10 count := by
    rw [Nat.toString_eq_ofList_toDigits, String.toList_ofList]
  have all : (toString count).toList.all isDecimal = true :=
    List.all_eq_true.mpr fun _ member => isDecimal_of_mem member
  have some : (toString count).toList.isEmpty = false := by
    rw [digits]
    exact List.isEmpty_eq_false_iff.mpr Nat.toDigits_ne_nil
  have value : (toString count).toList.foldl (fun total c => 10 * total + (c.toNat - '0'.toNat)) 0 = count := by
    rw [digits, ← Nat.ofDigitChars_eq_foldl, Nat.ofDigitChars_ten_toDigits]
  have unsigned (rest : List Char) : (toString count).toList ≠ '+' :: rest := fun same => by
    have sign : isDecimal '+' = true := isDecimal_of_mem (same ▸ List.mem_cons_self)
    exact absurd sign (by decide)
  generalize (toString count).toList = text at all some value unsigned
  unfold readCount?
  split
  · exact absurd rfl (unsigned _)
  · dsimp only
    rw [some, all, value]
    exact if_pos fits

/-- A plain setting is written as its name, an equals sign and its number, with blanks around the sign. -/
theorem toList_printAll_plainSetting (setting : String × Nat) :
    (Token.printAll (plainSetting setting)).toList =
      (setting.1.toList ++ [' ']) ++ '=' :: ([' '] ++ (toString setting.2).toList) := by
  simp [plainSetting, Token.printAll, Token.print, Token.isJoint]

/-- The names of the options are neither blank at their ends nor do they hold separators. -/
theorem named_of_mem {key : String} (option : key ∈ builderOptions) : ',' ∉ key.toList ∧
    '=' ∉ key.toList ++ [' '] ∧ String.ofList (trimmed (key.toList ++ [' '])) = key := by
  have cases : key = "read_buffer_size" ∨ key = "lost_write_threshold" ∨ key = "max_events" := by
    simpa [builderOptions] using option
  rcases cases with rfl | rfl | rfl
  all_goals decide

/-- A plain setting of an option is read back. -/
theorem settingOf?_plain {setting : String × Nat} (option : setting.1 ∈ builderOptions)
    (fits : setting.2 < 1 <<< 64) : settingOf? (plainSetting setting) = some setting := by
  obtain ⟨-, none, same⟩ := named_of_mem option
  have blank : Blank [' '] := fun c member => by
    rw [List.mem_singleton.mp member]
    decide
  have number : trimmed (toString setting.2).toList = (toString setting.2).toList :=
    trimmed_of_ends (fun c first => isSpace_of_isDecimal (isDecimal_of_mem (List.mem_of_mem_head? first)))
      fun c last => isSpace_of_isDecimal (isDecimal_of_mem (List.mem_of_mem_getLast? last))
  unfold settingOf?
  rw [toList_printAll_plainSetting, readSetting?_append none, same, trimmed_blank_append blank, number,
    readCount?_toString fits]
  exact if_pos (List.contains_iff_mem.mpr option)

/-- A plain setting of an option prints no comma. -/
theorem not_mem_printAll_plain {setting : String × Nat} (option : setting.1 ∈ builderOptions) :
    ',' ∉ (Token.printAll (plainSetting setting)).toList := by
  have digits : ',' ∉ (toString setting.2).toList := fun member =>
    absurd (isDecimal_of_mem member) (by decide)
  rw [toList_printAll_plainSetting]
  generalize (toString setting.2).toList = text at digits ⊢
  simp [(named_of_mem option).1, digits]

/-- Settings of options that are written out plainly are all read back, in their order. -/
theorem readSettings_plain {first : String × Nat} {rest : List (Bool × String × Nat)}
    (options : ∀ setting ∈ first :: rest.map Prod.snd, setting.1 ∈ builderOptions ∧ setting.2 < 1 <<< 64) :
    readSettings (listed (plainSetting first) (rest.map fun entry => (entry.1, plainSetting entry.2))) =
      first :: rest.map Prod.snd := by
  have silents : ∀ entry ∈ rest.map fun entry => (entry.1, plainSetting entry.2),
      ',' ∉ (Token.printAll entry.2).toList := by
    intro entry member
    obtain ⟨setting, there, rfl⟩ := List.mem_map.mp member
    exact not_mem_printAll_plain
      (options _ (List.mem_cons_of_mem _ (List.mem_map_of_mem there))).1
  have plain : plainSetting first :: (rest.map fun entry => (entry.1, plainSetting entry.2)).map Prod.snd =
      (first :: rest.map Prod.snd).map plainSetting := by
    simp [Function.comp_def]
  have reads : ∀ setting ∈ first :: rest.map Prod.snd,
      (settingOf? ∘ plainSetting) setting = some (id setting) := fun setting member =>
    settingOf?_plain (options setting member).1 (options setting member).2
  rw [readSettings_listed (not_mem_printAll_plain (options _ List.mem_cons_self).1) silents, plain,
    List.filterMap_map]
  exact (List.filterMap_eq_map_iff_forall_eq_some.mpr reads).trans (List.map_id _)

end EventLoop.Entry
