import Aliquot.CommandLine.Invocation
import Mathlib.Data.List.Infix

/-!
# Command lines that have their values

Only `--` stands on a command line without giving a value. The first one, on its own, ends the
options; where there is no other one, neither as a word nor attached to an option, all options and
operands have theirs.
-/

namespace Aliquot.CommandLine

/-- `--` occurs once at most, and is attached to no option. -/
structure HasValues (args : List String) : Prop where
  count_le : args.count "--" ≤ 1
  not_attached : ∀ text ∈ args, ¬['=', '-', '-'] <:+ text.toList

/-- The word gives no `--` for a value. -/
structure Word.HasValue (word : Word) : Prop where
  terminator : word.role = .terminator → word.text = "--"
  operand : word.role = .operand → word.text ≠ "--"
  attached : ∀ name text, word.role = .option name (some text) → text ≠ "--"

/-- What is attached to an option is not `--`. -/
theorem Word.HasValue.attached?_ne {word : Word} (h : word.HasValue) {name : String}
    {attached? : Option String} (hrole : word.role = .option name attached?) :
    attached? ≠ some "--" := by
  rintro rfl
  exact h.attached _ _ hrole rfl

section Roles

variable {names : List String} {cs start value : List Char} {name text : String}

/-- What is attached stands at the end, behind an equals sign. -/
theorem suffix_of_splitEquals (h : splitEquals cs = (start, some value)) : '=' :: value <:+ cs := by
  unfold splitEquals at h
  split at h
  · cases h
  · next c rest hdrop =>
    cases h
    have hc := List.head?_dropWhile_not (· ≠ '=') cs
    rw [hdrop] at hc
    obtain rfl : c = '=' := by simpa using hc
    exact hdrop ▸ List.dropWhile_suffix _

/-- The role of a word with the characters `cs`: it does not end the options, and what is attached
to an option stands at the end, behind an equals sign. -/
structure Role.Fits (role : Role) (cs : List Char) : Prop where
  ne_terminator : role ≠ .terminator
  suffix : ∀ name value, role = .option name (some value) → '=' :: value.toList <:+ cs

/-- The role of an option fits the word that it is split from. -/
theorem optionRole_fits {attached? : Option (List Char)}
    (h : splitEquals cs = (start, attached?)) :
    (optionRole name (attached?.map String.ofList)).Fits cs := by
  unfold optionRole
  split
  · exact ⟨nofun, nofun⟩
  · refine ⟨nofun, fun _ value hrole ↦ ?_⟩
    injection hrole with _ hvalue
    obtain ⟨value, rfl, rfl⟩ := Option.map_eq_some_iff.mp hvalue
    rw [String.toList_ofList]
    exact suffix_of_splitEquals h

/-- So does the role of an abbreviated option. -/
theorem fits_of_abbreviatedRole? {role : Role} (h : abbreviatedRole? names cs = some role) :
    role.Fits cs := by
  unfold abbreviatedRole? at h
  cases hs : splitEquals cs with
  | mk start attached? =>
    simp only [hs] at h
    split at h
    · cases h
      exact optionRole_fits hs
    · cases h
    · cases h
      exact ⟨nofun, nofun⟩
    · split at h
      · cases h
        exact ⟨nofun, nofun⟩
      · cases h
        exact ⟨nofun, nofun⟩

/-- The role of a word fits it. -/
theorem fits_of_role? {role : Role} (h : role? names text = some role) : role.Fits text.toList := by
  unfold role? at h
  cases hs : splitEquals text.toList with
  | mk start attached? =>
    simp only [hs] at h
    split at h
    · cases h
      exact ⟨nofun, nofun⟩
    · split at h
      · cases h
        exact optionRole_fits hs
      · exact fits_of_abbreviatedRole? h

end Roles

section Words

variable {options args : List String} {words : List Word}

/-- What is left of a command line has its values, too. -/
theorem HasValues.of_suffix {rest : List String} (h : HasValues args) (hs : rest <:+ args) :
    HasValues rest where
  count_le := (hs.sublist.count_le _).trans h.count_le
  not_attached text ht := h.not_attached text (hs.subset ht)

/-- The words of a command line that has its values have theirs, and are its texts. -/
theorem hasValue_of_words? (h : words? options args = some words) (ha : HasValues args) :
    (∀ word ∈ words, word.HasValue) ∧ words.map Word.text = args := by
  induction args generalizing words with
  | nil =>
    cases h
    exact ⟨List.forall_mem_nil _, rfl⟩
  | cons text texts ih =>
    rw [words?] at h
    split at h
    · next hdashes =>
      cases h
      have hcount := ha.count_le
      rw [hdashes, List.count_cons_self] at hcount
      have hnone : "--" ∉ texts := List.count_eq_zero.mp (by omega)
      refine ⟨List.forall_mem_cons.mpr ⟨⟨fun _ ↦ hdashes, nofun, nofun⟩, ?_⟩,
        by simp [Function.comp_def]⟩
      intro word hword
      obtain ⟨text, ht, rfl⟩ := List.mem_map.mp hword
      exact ⟨nofun, fun _ heq ↦ hnone (heq ▸ ht), nofun⟩
    · next hdashes =>
      obtain ⟨role, hrole, h⟩ := Option.bind_eq_some_iff.mp h
      obtain ⟨rest, hrest, h⟩ := Option.bind_eq_some_iff.mp h
      cases h
      obtain ⟨hall, htexts⟩ := ih hrest (ha.of_suffix (List.suffix_cons ..))
      have hfits := fits_of_role? hrole
      refine ⟨List.forall_mem_cons.mpr ⟨⟨?_, fun _ ↦ hdashes, ?_⟩, hall⟩,
        by rw [List.map_cons, htexts]⟩
      · exact fun hterminator ↦ absurd hterminator hfits.ne_terminator
      · rintro name _ hoption rfl
        exact ha.not_attached text List.mem_cons_self (hfits.suffix _ _ hoption)

/-- The value of an option is not `--`, and the words after it are left. -/
theorem suffix_of_optionValue {attached? : Option String} {text : String} {rest : List Word}
    (h : optionValue attached? words = .ok (text, rest)) (ha : attached? ≠ some "--")
    (hw : ∀ word ∈ words, word.HasValue) : text ≠ "--" ∧ rest <:+ words := by
  unfold optionValue at h
  split at h
  · cases h
    exact ⟨fun ht ↦ ha (congrArg some ht), List.suffix_rfl⟩
  · next word words =>
    split at h
    · next hrole =>
      cases h
      exact ⟨(hw word List.mem_cons_self).operand hrole, List.suffix_cons ..⟩
    · cases h
  · cases h

end Words

section Values

/-- What is read gives a value. -/
theorem ne_none_of_map {β : Type} {m : Except Refusal β} {value? : Option β}
    (h : some <$> m = .ok value?) : value? ≠ none := by
  obtain ⟨value, -, rfl⟩ := exists_of_map_eq_ok h
  exact nofun

/-- What is not `--` is read. -/
theorem ne_none_of_unlessDashes {β : Type} {read : String → Except Refusal β} {text : String}
    {value? : Option β} (h : unlessDashes read text = .ok value?) (ht : text ≠ "--") :
    value? ≠ none := by
  rw [unlessDashes, if_neg ht] at h
  exact ne_none_of_map h

/-- The settings name a representation and a verbosity. -/
structure Settings.IsComplete (s : Settings) : Prop where
  rep : s.rep? ≠ none
  verbosity : s.verbosity? ≠ none

/-- An option with a value leaves complete settings complete. -/
theorem Settings.IsComplete.set {s s' : Settings} {name text : String} (hs : s.IsComplete)
    (h : s.set name text = .ok s') (ht : text ≠ "--") : s'.IsComplete := by
  unfold Settings.set at h
  split at h
  · obtain ⟨rep?, hrep, h⟩ := exists_of_bind_eq_ok h
    cases h
    exact ⟨ne_none_of_unlessDashes hrep ht, hs.verbosity⟩
  · obtain ⟨logFile?, -, h⟩ := exists_of_bind_eq_ok h
    cases h
    exact ⟨hs.rep, hs.verbosity⟩
  · obtain ⟨verbosity?, hverbosity, h⟩ := exists_of_bind_eq_ok h
    cases h
    exact ⟨hs.rep, ne_none_of_unlessDashes hverbosity ht⟩

/-- What stands in front of the mode leaves complete settings complete, and the words behind the
mode are left. By induction on the words, an option with its value at a time. -/
theorem isComplete_of_readFront {s : Settings} {strange : Bool} {words : List Word} {front : Front}
    (h : readFront s strange words = .ok front) (hs : s.IsComplete)
    (hw : ∀ word ∈ words, word.HasValue) :
    front.settings.IsComplete ∧ front.rest <:+ words.map Word.text := by
  fun_induction readFront s strange words with
  | case1 => cases h
  | case2 s strange word words =>
    cases h
    exact ⟨hs, List.suffix_cons ..⟩
  | case3 => cases h
  | case4 s strange word words _ ih =>
    rw [List.forall_mem_cons] at hw
    obtain ⟨hf, hrest⟩ := ih h hs hw.2
    exact ⟨hf, hrest.trans (List.suffix_cons ..)⟩
  | case5 => cases h
  | case6 => cases h
  | case7 s strange word words name attached? hrole text rest hvalue ih =>
    rw [List.forall_mem_cons] at hw
    obtain ⟨ht, hleft⟩ := suffix_of_optionValue hvalue (hw.1.attached?_ne hrole) hw.2
    obtain ⟨s', hset, h⟩ := exists_of_bind_eq_ok h
    obtain ⟨hf, hrest⟩ := ih s' h (hs.set hset ht) fun w hmem ↦ hw.2 w (hleft.subset hmem)
    exact ⟨hf, (hrest.trans (hleft.map _)).trans (List.suffix_cons ..)⟩

/-- The options have a value and every operand is an integer. -/
structure Draft.IsComplete (d : Draft) : Prop where
  count : d.count? ≠ none
  start : d.start? ≠ none
  operands : none ∉ d.operands

/-- An option with a value leaves a complete draft complete. -/
theorem Draft.IsComplete.set {d d' : Draft} {name text : String} (hd : d.IsComplete)
    (h : d.set name text = .ok d') (ht : text ≠ "--") : d'.IsComplete := by
  unfold Draft.set at h
  split at h
  · obtain ⟨count?, hcount, h⟩ := exists_of_bind_eq_ok h
    cases h
    exact ⟨ne_none_of_unlessDashes hcount ht, hd.start, hd.operands⟩
  · obtain ⟨start?, hstart, h⟩ := exists_of_bind_eq_ok h
    cases h
    exact ⟨hd.count, ne_none_of_unlessDashes hstart ht, hd.operands⟩

/-- An integer leaves a complete draft complete. -/
theorem Draft.IsComplete.push {d d' : Draft} {operand : Except Refusal (Option Int)}
    (hd : d.IsComplete) (h : d.push operand = .ok d')
    (ho : ∀ k?, operand = .ok k? → k? ≠ none) : d'.IsComplete := by
  unfold Draft.push at h
  split at h
  · obtain ⟨k?, hk, h⟩ := exists_of_bind_eq_ok h
    cases h
    refine ⟨hd.count, hd.start, ?_⟩
    rw [List.mem_append, List.mem_singleton, not_or]
    exact ⟨hd.operands, (ho k? hk).symm⟩
  · cases h

/-- A word that is read as an integer leaves a complete draft complete. -/
theorem Draft.IsComplete.pushRead {d d' : Draft} {text : String} (hd : d.IsComplete)
    (h : d.push (some <$> readInteger text) = .ok d') : d'.IsComplete :=
  hd.push h fun _ hk ↦ ne_none_of_map hk

/-- Operands behind `--` that are not `--` leave a complete draft complete. -/
theorem isComplete_of_readRest {d d' : Draft} {texts : List String} (hd : d.IsComplete)
    (h : readRest d texts = .ok d') (ht : "--" ∉ texts) : d'.IsComplete := by
  unfold readRest at h
  induction texts generalizing d with
  | nil =>
    cases h
    exact hd
  | cons text texts ih =>
    rw [List.mem_cons, not_or] at ht
    rw [List.foldlM_cons] at h
    obtain ⟨d₁, hpush, h⟩ := exists_of_bind_eq_ok h
    have hd₁ := hd.push hpush fun k? hk ↦ ne_none_of_unlessDashes hk (Ne.symm ht.1)
    exact ih hd₁ h ht.2

/-- So do those behind the first `--`. -/
theorem isComplete_of_readBehindDashes {d d' : Draft} {afterOperand : Bool} {texts : List String}
    (hd : d.IsComplete) (h : readBehindDashes d afterOperand texts = .ok d')
    (ht : "--" ∉ texts) : d'.IsComplete := by
  unfold readBehindDashes at h
  split at h
  · exact isComplete_of_readRest hd h ht
  · next text texts =>
    obtain ⟨d₁, hpush, h⟩ := exists_of_bind_eq_ok h
    exact isComplete_of_readRest (hd.pushRead hpush) h (mt (List.mem_cons_of_mem text) ht)
  · cases h

/-- The words behind the mode make a complete draft. By induction on the words, an operand or an
option with its value at a time. -/
theorem isComplete_of_readBack {d d' : Draft} {afterOperand strange : Bool} {words : List Word}
    (h : readBack d afterOperand strange words = .ok d') (hd : d.IsComplete)
    (hw : ∀ word ∈ words, word.HasValue) (hc : (words.map Word.text).count "--" ≤ 1) :
    d'.IsComplete := by
  fun_induction readBack d afterOperand strange words with
  | case1 => cases h
  | case2 =>
    cases h
    exact hd
  | case3 d afterOperand strange word words hrole hroom ih =>
    rw [List.forall_mem_cons] at hw
    obtain ⟨d₁, hpush, h⟩ := exists_of_bind_eq_ok h
    exact ih d₁ h (hd.pushRead hpush) hw.2 (((List.sublist_cons_self ..).count_le _).trans hc)
  | case4 d afterOperand strange word words hrole hroom ih =>
    rw [List.forall_mem_cons] at hw
    exact ih h hd hw.2 (((List.sublist_cons_self ..).count_le _).trans hc)
  | case5 d afterOperand strange word words hrole =>
    rw [List.forall_mem_cons] at hw
    obtain ⟨d₁, hread, h⟩ := exists_of_bind_eq_ok h
    -- this is the one `--` that the command line has room for
    have hnone : "--" ∉ words.map Word.text := by
      rw [List.map_cons, hw.1.terminator hrole, List.count_cons_self] at hc
      exact List.count_eq_zero.mp (by omega)
    have hd₁ := isComplete_of_readBehindDashes hd hread hnone
    split at h
    · cases h
    · cases h
      exact hd₁
  | case6 d afterOperand strange word words hrole ih =>
    rw [List.forall_mem_cons] at hw
    exact ih h hd hw.2 (((List.sublist_cons_self ..).count_le _).trans hc)
  | case7 => cases h
  | case8 => cases h
  | case9 d afterOperand strange word words name attached? hrole text rest hvalue ih =>
    rw [List.forall_mem_cons] at hw
    obtain ⟨ht, hleft⟩ := suffix_of_optionValue hvalue (hw.1.attached?_ne hrole) hw.2
    obtain ⟨d₁, hset, h⟩ := exists_of_bind_eq_ok h
    have hsuffix := (hleft.map Word.text).trans (List.suffix_cons word.text _)
    exact ih d₁ h (hd.set hset ht) (fun w hmem ↦ hw.2 w (hleft.subset hmem))
      ((hsuffix.sublist.count_le _).trans hc)

end Values

/-- A command line that is understood has settings in front of its mode and a draft behind it that
make the invocation. -/
theorem exists_of_parse_eq_ok {args : List String} {i : Invocation} (h : parse args = .ok i) :
    ∃ frontWords front mode backWords draft, words? globalOptions args = some frontWords ∧
      readFront {} false frontWords = .ok front ∧
      words? mode.options front.rest = some backWords ∧
      readBack { mode } false false backWords = .ok draft ∧
      Task.ofList? mode draft.operands = some i.task ∧ i.settings = front.settings ∧
      i.count? = draft.count? ∧ i.start? = draft.start? := by
  unfold parse at h
  split at h
  · next frontWords hfrontWords =>
    obtain ⟨front, hfront, h⟩ := exists_of_bind_eq_ok h
    split at h
    · next mode _ =>
      split at h
      · next backWords hbackWords =>
        obtain ⟨draft, hdraft, h⟩ := exists_of_bind_eq_ok h
        split at h
        · next task htask =>
          dsimp only at h
          split at h
          · cases h
          · cases h
            exact ⟨frontWords, front, mode, backWords, draft, hfrontWords, hfront, hbackWords,
              hdraft, htask, rfl, rfl, rfl⟩
        · cases h
      · cases h
    · cases h
  · cases h

/-- The value of an option or of an operand is missing. -/
inductive Invocation.LacksValue (i : Invocation) : Prop where
  | rep (h : i.settings.rep? = none)
  | verbosity (h : i.settings.verbosity? = none)
  | count (h : i.count? = none)
  | start (h : i.start? = none)
  | operand (h : none ∈ i.task.operands)

/-- A command line that has its values names an invocation that lacks none. -/
theorem HasValues.not_lacksValue {args : List String} {i : Invocation} (ha : HasValues args)
    (h : parse args = .ok i) : ¬i.LacksValue := by
  obtain ⟨frontWords, front, mode, backWords, draft, hfrontWords, hfront, hbackWords, hdraft, htask,
    hsettings, hcount, hstart⟩ := exists_of_parse_eq_ok h
  obtain ⟨hfrontValues, hfrontTexts⟩ := hasValue_of_words? hfrontWords ha
  obtain ⟨hcomplete, hrest⟩ := isComplete_of_readFront hfront ⟨nofun, nofun⟩ hfrontValues
  have hargs : HasValues front.rest := ha.of_suffix (hfrontTexts ▸ hrest)
  obtain ⟨hbackValues, hbackTexts⟩ := hasValue_of_words? hbackWords hargs
  have hback := isComplete_of_readBack hdraft ⟨nofun, nofun, nofun⟩ hbackValues
    (hbackTexts ▸ hargs.count_le)
  rw [← hsettings] at hcomplete
  intro hlacks
  cases hlacks with
  | rep h => exact hcomplete.rep h
  | verbosity h => exact hcomplete.verbosity h
  | count h => exact hback.count (hcount ▸ h)
  | start h => exact hback.start (hstart ▸ h)
  | operand h => exact hback.operands ((Task.eq_of_ofList? htask).2 ▸ h)

end Aliquot.CommandLine
