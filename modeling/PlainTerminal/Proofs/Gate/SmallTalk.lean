import PlainTerminal.Gate
import PlainTerminal.Proofs.Text.Words

/-!
# Commands that pass for small talk

Small talk is recognised by how a line begins, before anybody looks whether its first word is a
command. A phrase does not have to end where a word ends: `hi` is found in `history` and `no` in
`node`. So these two commands never run as they are typed, whatever follows them. They are the only
ones, apart from `yes`, `no` and `test`, which are small talk themselves.

What follows a command cannot matter, since it begins with a blank. A phrase that reaches beyond the
command would have the command for its own first word, and no phrase has one.
-/

namespace PlainTerminal

namespace Text

/-! ## Blanks in lower case -/

/-- The code points of some closed ranges. -/
def points (ranges : List (Nat × Nat)) : List Nat :=
  ranges.flatMap fun (first, last) => (List.range (last + 1 - first)).map (first + ·)

theorem mem_points {ranges : List (Nat × Nat)} {n : Nat} (h : inRanges ranges n = true) :
    n ∈ points ranges := by
  obtain ⟨⟨first, last⟩, hrange, hin⟩ := List.any_eq_true.mp h
  rw [Bool.and_eq_true, decide_eq_true_iff, decide_eq_true_iff] at hin
  refine List.mem_flatMap.mpr ⟨(first, last), hrange, List.mem_map.mpr ⟨n - first, ?_, ?_⟩⟩
  · rw [List.mem_range]
    omega
  · omega

/-- A character that lower case leaves as it is. -/
def IsSmall (c : Char) : Prop := c ≠ '\u03a3' ∧ c ≠ '\u0130' ∧ smallLetter c = c

instance : DecidablePred IsSmall := fun _ => inferInstanceAs (Decidable (_ ∧ _ ∧ _))

/-- Blanks have no case. -/
theorem isSmall_of_isBlank {c : Char} (h : isBlank c = true) : IsSmall c := by
  have hall : ∀ n ∈ points blankRanges, IsSmall (Char.ofNat n) := by decide +kernel
  have hc := hall c.toNat (mem_points h)
  rwa [Char.ofNat_toNat] at hc

theorem lowercaseAfter_append {s : List Char} (hs : ∀ c ∈ s, IsSmall c) (before t : List Char) :
    lowercaseAfter before (s ++ t) = s ++ lowercaseAfter (s.reverse ++ before) t := by
  induction s generalizing before with
  | nil => rfl
  | cons c rest ih =>
      obtain ⟨⟨hsigma, hdotted, hsame⟩, hrest⟩ := List.forall_mem_cons.mp hs
      rw [List.cons_append, lowercaseAfter, if_neg hsigma, if_neg hdotted, hsame, ih hrest,
        List.reverse_cons, List.append_assoc]
      rfl

/-! ## A word and what follows it -/

theorem stripEndChars_prefix (p : Char → Bool) (s : List Char) : stripEndChars p s <+: s := by
  have hsuffix := List.reverse_prefix.mpr (List.dropWhile_suffix p (l := s.reverse))
  rwa [List.reverse_reverse] at hsuffix

/-- Only the end of what follows a word is trimmed. -/
theorem stripChars_word_append {word : List Char} (h : IsWord word) (rest : List Char) :
    stripChars isBlank (word ++ rest) = word ++ stripEndChars isBlank rest := by
  have hstay : ∀ s : List Char, (∀ c ∈ s, isBlank c = false) → s.dropWhile isBlank = s := by
    intro s hs
    cases s with
    | nil => rfl
    | cons c s =>
        have hc := hs c List.mem_cons_self
        rw [List.dropWhile_cons_of_neg (by rw [hc]; decide)]
  have hfront : (word ++ rest).dropWhile isBlank = word ++ rest := by
    obtain ⟨c, more, rfl⟩ := List.exists_cons_of_ne_nil h.ne_nil
    have hc := h.not_blank c List.mem_cons_self
    rw [List.cons_append, List.dropWhile_cons_of_neg (by rw [hc]; decide)]
  have hback : word.reverse.dropWhile isBlank = word.reverse :=
    hstay _ fun c hc => h.not_blank c (List.mem_reverse.mp hc)
  rw [stripChars, stripEndChars, hfront, List.reverse_append, List.dropWhile_append]
  split
  · rename_i hempty
    rw [hback, List.isEmpty_iff.mp hempty, List.reverse_reverse, List.reverse_nil,
      List.append_nil]
  · rw [List.reverse_append, List.reverse_reverse]

/-- In lower case and without the blanks around it, a line still begins with its first word, if that
is in small letters, and with a blank behind it. -/
theorem exists_toList_lowercase_trim {word rest : String} (hword : IsWord word.toList)
    (hsmall : ∀ c ∈ word.toList, IsSmall c)
    (hrest : ∀ c, rest.toList.head? = some c → isBlank c = true) :
    ∃ tail, (lowercase (trim (word ++ rest))).toList = word.toList ++ tail ∧
      ∀ c, tail.head? = some c → isBlank c = true := by
  refine ⟨lowercaseAfter word.toList.reverse (stripEndChars isBlank rest.toList), ?_, ?_⟩
  · rw [lowercase, trim, String.toList_ofList, String.toList_ofList, String.toList_append,
      stripChars_word_append hword, lowercaseAfter_append hsmall, List.append_nil]
  · intro c hc
    obtain ⟨back, hback⟩ := stripEndChars_prefix isBlank rest.toList
    cases hkept : stripEndChars isBlank rest.toList with
    | nil =>
        rw [hkept] at hc
        cases hc
    | cons b more =>
        rw [hkept] at hback
        have hfirst : (b :: more ++ back).head? = some b := rfl
        have hb : isBlank b = true := by
          rw [hback] at hfirst
          exact hrest b hfirst
        have hsame : ∀ d ∈ [b], IsSmall d := by
          intro d hd
          rw [List.mem_singleton.mp hd]
          exact isSmall_of_isBlank hb
        rw [hkept, ← List.singleton_append, lowercaseAfter_append hsame] at hc
        cases hc
        exact hb

end Text

namespace Gate

open Text

/-! ## Beginnings -/

/-- The phrase goes on behind the word, with a blank. -/
def reachesOver (word phrase : List Char) : Bool :=
  word.isPrefixOf phrase && (phrase.drop word.length).head?.any isBlank

/-- What follows the word is no part of a phrase, unless the phrase goes on with a blank. -/
theorem prefix_append_iff {phrase word tail : List Char}
    (happart : reachesOver word phrase = false)
    (htail : ∀ c, tail.head? = some c → isBlank c = true) :
    phrase <+: word ++ tail ↔ phrase <+: word := by
  refine ⟨fun h => ?_, fun h => h.trans (List.prefix_append word tail)⟩
  rcases List.prefix_or_prefix_of_prefix h (List.prefix_append word tail) with hword | hword
  · exact hword
  · obtain ⟨more, rfl⟩ := hword
    cases more with
    | nil => exact ⟨[], by simp only [List.append_nil]⟩
    | cons c more =>
        obtain ⟨back, rfl⟩ := (List.prefix_append_right_inj word).mp h
        have hc : isBlank c = true := htail c rfl
        have hreaches : reachesOver word (word ++ c :: more) = true := by
          rw [reachesOver, List.drop_left, Bool.and_eq_true]
          exact ⟨List.isPrefixOf_iff_prefix.mpr (List.prefix_append _ _), hc⟩
        rw [happart] at hreaches
        cases hreaches

theorem beginsWithAny_iff {phrases : List String} {text : String} :
    beginsWithAny phrases text = true ↔ ∃ phrase ∈ phrases, phrase.toList <+: text.toList := by
  unfold beginsWithAny
  rw [List.any_eq_true]
  simp only [List.isPrefixOf_iff_prefix]

/-- A line begins with one of some phrases if its first word does, as long as none of them goes on
behind that word. -/
theorem beginsWithAny_append {phrases : List String} {word text : String} {tail : List Char}
    (htext : text.toList = word.toList ++ tail)
    (htail : ∀ c, tail.head? = some c → isBlank c = true)
    (happart : ∀ phrase ∈ phrases, reachesOver word.toList phrase.toList = false) :
    beginsWithAny phrases text = beginsWithAny phrases word := by
  rw [Bool.eq_iff_iff, beginsWithAny_iff, beginsWithAny_iff, htext]
  refine exists_congr fun phrase => and_congr_right fun hphrase => ?_
  exact prefix_append_iff (happart phrase hphrase) htail

theorem beginsWithAny_of_saysHowIAm {text : String} (h : saysHowIAm text = true) :
    beginsWithAny aboutMyself text = true := by
  unfold saysHowIAm at h
  obtain ⟨phrase, hphrase, hsays⟩ := List.any_eq_true.mp h
  rw [Bool.and_eq_true] at hsays
  exact List.any_eq_true.mpr ⟨phrase, hphrase, hsays.1⟩

/-! ## The tables -/

/-- The known commands are words in small letters. -/
theorem isWord_of_mem_knownCommands {word : String} (h : word ∈ knownCommands) :
    IsWord word.toList ∧ ∀ c ∈ word.toList, IsSmall c := by
  have hall : ∀ word ∈ knownCommands,
      IsWord word.toList ∧ word.toList.all (fun c => decide (IsSmall c)) = true := by
    decide +kernel
  obtain ⟨hisWord, hsmall⟩ := hall word h
  exact ⟨hisWord, fun c hc => of_decide_eq_true (List.all_eq_true.mp hsmall c hc)⟩

/-- No phrase of more than one word has a known command for its first. -/
theorem not_reachesOver {word : String} (h : word ∈ knownCommands) :
    ∀ phrase ∈ smallTalk ++ aboutMyself, reachesOver word.toList phrase.toList = false := by
  have hall : ∀ word ∈ knownCommands, ∀ phrase ∈ smallTalk ++ aboutMyself,
      reachesOver word.toList phrase.toList = false := by
    decide +kernel
  exact hall word h

/-- The known commands that begin with small talk. -/
theorem beginsWithAny_smallTalk_iff {word : String} (h : word ∈ knownCommands) :
    beginsWithAny smallTalk word = true ↔
      word ∈ ["yes", "no", "test"] ∨ word ∈ ["history", "node"] := by
  have hall : ∀ word ∈ knownCommands, beginsWithAny smallTalk word = true ↔
      word ∈ ["yes", "no", "test"] ∨ word ∈ ["history", "node"] := by
    decide +kernel
  exact hall word h

theorem not_beginsWithAny_aboutMyself {word : String} (h : word ∈ knownCommands) :
    beginsWithAny aboutMyself word = false := by
  have hall : ∀ word ∈ knownCommands, beginsWithAny aboutMyself word = false := by
    decide +kernel
  exact hall word h

/-! ## Commands -/

/-- Nothing but small talk is sorted as such. -/
theorem classifyText_eq_conversational_iff {text : String} (h : text ≠ "") :
    classifyText text = .conversational ↔ isSmallTalk text = true := by
  unfold classifyText
  rw [if_neg h]
  by_cases hsmall : isSmallTalk text = true
  · rw [if_pos hsmall]
    exact iff_of_true rfl hsmall
  · rw [if_neg hsmall]
    refine iff_of_false ?_ hsmall
    split
    · exact nofun
    · split
      · split
        · exact nofun
        · exact nofun
      · split
        · exact nofun
        · exact nofun

/-- A line that begins with a known command is small talk if the command is. -/
theorem isSmallTalk_command {word text : String} {tail : List Char} (hword : word ∈ knownCommands)
    (htext : text.toList = word.toList ++ tail)
    (htail : ∀ c, tail.head? = some c → isBlank c = true) :
    isSmallTalk text = beginsWithAny smallTalk word := by
  have happart := List.forall_mem_append.mp (not_reachesOver hword)
  have habout : ¬ saysHowIAm text = true := by
    intro hsays
    have hbegins := beginsWithAny_of_saysHowIAm hsays
    rw [beginsWithAny_append htext htail happart.2, not_beginsWithAny_aboutMyself hword] at hbegins
    cases hbegins
  rw [isSmallTalk, beginsWithAny_append htext htail happart.1,
    Bool.eq_false_iff.mpr habout, Bool.or_false]

/-- **Two commands pass for small talk.** Whatever follows a known command, the line is small talk
exactly if the command is a word of small talk by itself, or is one of the two that begin with such
a word and go on. -/
theorem classify_eq_conversational_iff {word rest : String} (hword : word ∈ knownCommands)
    (hrest : ∀ c, rest.toList.head? = some c → isBlank c = true) :
    classify (word ++ rest) = .conversational ↔
      word ∈ ["yes", "no", "test"] ∨ word ∈ ["history", "node"] := by
  obtain ⟨hisWord, hsmall⟩ := isWord_of_mem_knownCommands hword
  obtain ⟨tail, htext, htail⟩ := exists_toList_lowercase_trim hisWord hsmall hrest
  have hne : lowercase (trim (word ++ rest)) ≠ "" := by
    intro hempty
    rw [hempty] at htext
    exact hisWord.ne_nil (List.append_eq_nil_iff.mp htext.symm).1
  rw [classify, classifyText_eq_conversational_iff hne, isSmallTalk_command hword htext htail,
    beginsWithAny_smallTalk_iff hword]

/-- A command with an argument behind a tab. -/
theorem classify_git_log : "git" ∈ knownCommands ∧
    (∀ c, "\tlog -n 5".toList.head? = some c → isBlank c = true) ∧
    classify ("git" ++ "\tlog -n 5") ≠ .conversational := by
  have hword : "git" ∈ knownCommands := by decide +kernel
  have hrest : ∀ c, "\tlog -n 5".toList.head? = some c → isBlank c = true := by
    intro c hc
    have htab : "\tlog -n 5".toList.head? = some '\t' := by decide +kernel
    rw [htab] at hc
    cases hc
    decide
  refine ⟨hword, hrest, fun htalk => ?_⟩
  exact absurd ((classify_eq_conversational_iff hword hrest).mp htalk) (by decide +kernel)

/-- `history` greets with its first two letters, and `node` says no. -/
theorem commands_pass_for_small_talk :
    ("history" ∈ knownCommands ∧ "history" ∉ ["yes", "no", "test"] ∧
      classify ("history" ++ "") = .conversational) ∧
    ("node" ∈ knownCommands ∧ "node" ∉ ["yes", "no", "test"] ∧
      classify ("node" ++ " app.js") = .conversational) := by
  decide +kernel

end Gate

end PlainTerminal
