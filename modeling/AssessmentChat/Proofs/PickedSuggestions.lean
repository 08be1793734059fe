import AssessmentChat.Console.Dialogue
import AssessmentChat.Proofs.Numerals
import Mathlib.Data.List.Induction

namespace AssessmentChat.Console

/-!
# Picked suggestions

An answer is printed with its suggestions, each behind a number, and they are on show
until the next answer is printed.  A slash and a numeral pick the suggestion that is on
show behind this number.  A line that is no command of any kind is a message, as it is.
-/

/-- A suggestion on show behind its number. -/
abbrev Choice := Nat × FollowUpOption

/-- The line in which a choice is shown. -/
def Choice.line (colours : Bool) (choice : Choice) : String :=
  painted colours .yellow s!"  [{choice.1}] {choice.2.pillText}"

/--
The choices that are on show after notices were printed: those that were printed with the
latest answer, or none if there was no answer yet.  Other notices make no difference.
-/
inductive OnShow (colours : Bool) : List Notice → List Choice → Prop where
  | nothing :
      OnShow colours [] []
  | answered
      {notices : List Notice}
      {message : String}
      {followUp : Option FollowUp}
      {canBeVoted : Bool}
      {choices : List Choice} :
      printed colours (.answer message followUp canBeVoted) =
        (linesOf message).map (painted colours .brightBlue) ++
          choices.map (Choice.line colours) ++ [""] →
      choices.map Prod.fst = List.range' 1 choices.length →
      choices.map Prod.snd = suggestionsOf followUp →
      OnShow colours (notices ++ [.answer message followUp canBeVoted]) choices
  | other
      {notices : List Notice}
      {notice : Notice}
      {choices : List Choice} :
      (∀ message followUp canBeVoted,
        notice ≠ .answer message followUp canBeVoted) →
      OnShow colours notices choices →
      OnShow colours (notices ++ [notice]) choices

/-- The suggestions that are stored after notices were printed. -/
def storedAfter (notices : List Notice) : List FollowUpOption :=
  notices.foldl suggestionsAfter []

/-! ## Choices -/

/-- Suggestions as choices, numbered from one. -/
def choicesOf (suggestions : List FollowUpOption) : List Choice :=
  (suggestions.zipIdx 1).map Prod.swap

theorem numbered_eq
    (colours : Bool)
    (suggestions : List FollowUpOption) :
    numbered colours suggestions =
      (choicesOf suggestions).map (Choice.line colours) := by
  rw [numbered, choicesOf, List.zipIdx_succ, List.map_map, List.map_map]
  rfl

theorem map_fst_choicesOf
    (suggestions : List FollowUpOption) :
    (choicesOf suggestions).map Prod.fst =
      List.range' 1 (choicesOf suggestions).length := by
  rw [choicesOf, List.map_map, List.length_map, List.length_zipIdx]
  exact List.zipIdx_map_snd 1 suggestions

theorem map_snd_choicesOf
    (suggestions : List FollowUpOption) :
    (choicesOf suggestions).map Prod.snd = suggestions := by
  rw [choicesOf, List.map_map]
  exact List.zipIdx_map_fst 1 suggestions

/-- Choices numbered one by one are found in the place that their number tells. -/
theorem lookup_choices
    {choices : List Choice}
    {first : Nat}
    (inOrder :
      choices.map Prod.fst = List.range' first choices.length)
    (number : Nat) :
    choices.lookup number =
      if number < first then none
      else (choices.map Prod.snd)[number - first]? := by
  induction choices generalizing first with
  | nil =>
      simp
  | cons choice others inductionHypothesis =>
      obtain ⟨own, option⟩ := choice
      rw [List.map_cons, List.length_cons, List.range'_succ,
        List.cons.injEq] at inOrder
      obtain ⟨rfl, othersInOrder⟩ := inOrder
      by_cases isOwn : number = own
      · simp [isOwn]
      · rw [List.lookup_cons, beq_false_of_ne isOwn]
        refine (inductionHypothesis othersInOrder).trans ?_
        by_cases isLess : number < own
        · rw [if_pos isLess, if_pos (by omega)]
        · have next : number - own = number - (own + 1) + 1 := by omega
          rw [if_neg isLess, if_neg (by omega), next]
          rfl

/-- The numbers of no choice are zero and those beyond the last one. -/
theorem lookup_choices_eq_none
    {choices : List Choice}
    (inOrder : choices.map Prod.fst = List.range' 1 choices.length)
    (number : Nat) :
    choices.lookup number = none ↔ number = 0 ∨ choices.length < number := by
  rw [lookup_choices inOrder]
  by_cases isZero : number = 0
  · simp [isZero]
  · rw [if_neg (by omega), List.getElem?_eq_none_iff, List.length_map]
    omega

/-- A choice is looked up as the suggestion in its place is. -/
theorem lookup_eq_suggestion?
    {choices : List Choice}
    (inOrder : choices.map Prod.fst = List.range' 1 choices.length)
    (number : Nat) :
    choices.lookup number = suggestion? (choices.map Prod.snd) number := by
  rw [lookup_choices inOrder, suggestion?]
  exact if_congr Nat.lt_one_iff rfl rfl

/-- What is on show is what is stored, behind the numbers from one on. -/
theorem OnShow.choices_eq
    {colours : Bool}
    {notices : List Notice}
    {choices : List Choice}
    (onShow : OnShow colours notices choices) :
    choices.map Prod.fst = List.range' 1 choices.length ∧
      choices.map Prod.snd = storedAfter notices := by
  induction onShow with
  | nothing =>
      exact ⟨rfl, rfl⟩
  | answered _ inOrder same =>
      rw [storedAfter, List.foldl_append]
      exact ⟨inOrder, same⟩
  | @other _ notice _ notAnswer _ inductionHypothesis =>
      rw [storedAfter, List.foldl_append]
      refine ⟨inductionHypothesis.1, inductionHypothesis.2.trans ?_⟩
      cases notice with
      | answer =>
          exact absurd rfl (notAnswer _ _ _)
      | answerStream | placeholder | signInNeeded | inputEnabled =>
          rfl

/-- After whatever was printed, some choices are on show, if only none. -/
theorem onShow_choicesOf
    (colours : Bool)
    (notices : List Notice) :
    OnShow colours notices (choicesOf (storedAfter notices)) := by
  induction notices using List.reverseRecOn with
  | nil =>
      exact .nothing
  | append_singleton earlier notice inductionHypothesis =>
      rw [storedAfter, List.foldl_append]
      cases notice with
      | answer message followUp canBeVoted =>
          refine .answered ?_ (map_fst_choicesOf _) (map_snd_choicesOf _)
          exact congrArg (_ ++ · ++ [""]) (numbered_eq colours _)
      | answerStream | placeholder | signInNeeded | inputEnabled =>
          exact .other nofun inductionHypothesis

/-! ## Lines -/

/-- Lines with a meaning of their own. -/
inductive IsCommandLine : String → Prop where
  | stop :
      IsCommandLine "/stop"
  | quit :
      IsCommandLine "/quit"
  | help :
      IsCommandLine "/help"
  | download :
      IsCommandLine "/download"
  | downloadTo
      {destination : List Char} :
      IsCommandLine (.ofList ("/download ".toList ++ destination))
  | number
      {numeral : List Char}
      {number : Nat} :
      IsNumeral numeral number →
      number < UInt64.size →
      IsCommandLine (.ofList ('/' :: numeral))

theorem after?_eq_some
    {beginning : String}
    {line rest : List Char} :
    after? beginning line = some rest ↔ line = beginning.toList ++ rest := by
  unfold after?
  rw [← String.length_toList]
  constructor
  · intro found
    split at found
    next begins =>
      cases found
      obtain ⟨rest, rfl⟩ := List.isPrefixOf_iff_prefix.mp begins
      rw [List.drop_left]
    next =>
      cases found
  · rintro rfl
    have begins :
        beginning.toList.isPrefixOf (beginning.toList ++ rest) = true :=
      List.isPrefixOf_iff_prefix.mpr ⟨rest, rfl⟩
    rw [if_pos begins, List.drop_left]

/-- A download is asked for by the bare command, or by it and a space. -/
theorem destination?_isSome
    {line : List Char} :
    (destination? line).isSome = true ↔
      line = "/download".toList ∨
        ∃ destination, line = "/download ".toList ++ destination := by
  unfold destination?
  constructor
  · intro found
    split at found
    next begins =>
      exact .inl (after?_eq_some.mp begins)
    next destination begins =>
      have shape : line = "/download".toList ++ ' ' :: destination :=
        after?_eq_some.mp begins
      exact .inr ⟨destination, shape⟩
    next =>
      cases found
  · rintro (rfl | ⟨destination, rfl⟩)
    · rfl
    · rfl

/-- A number is picked by a slash and a numeral of it. -/
theorem pickedNumber?_eq_some
    {line : List Char}
    {number : Nat} :
    pickedNumber? line = some number ↔
      ∃ numeral,
        line = '/' :: numeral ∧ IsNumeral numeral number ∧
          number < UInt64.size := by
  unfold pickedNumber?
  constructor
  · intro picked
    split at picked
    next numeral =>
      rw [naturalBelow?_eq_some, String.toList_ofList] at picked
      exact ⟨numeral, rfl, picked⟩
    next =>
      cases picked
  · rintro ⟨numeral, rfl, isNumeral, below⟩
    refine naturalBelow?_eq_some.mpr ⟨?_, below⟩
    rwa [String.toList_ofList]

/-- No word begins as a numeral does. -/
theorem ne_numeral
    {numeral rest : List Char}
    {number : Nat}
    {first : Char}
    (isNumeral : IsNumeral numeral number)
    (isWord : first ≠ '+' ∧ first.isDigit = false) :
    '/' :: numeral ≠ '/' :: first :: rest := by
  intro same
  cases isNumeral with
  | plain _ allDigits =>
      cases same
      have isDigit := allDigits first List.mem_cons_self
      rw [isWord.2] at isDigit
      cases isDigit
  | signed =>
      cases same
      exact isWord.1 rfl

namespace LineMeaning

variable
  {line sessionId : String}
  {suggestions : List FollowUpOption}

/-- A slash and a numeral pick a suggestion by its number. -/
theorem of_numeral
    {numeral : List Char}
    {number : Nat}
    (isNumeral : IsNumeral numeral number)
    (below : number < UInt64.size) :
    of (.ofList ('/' :: numeral)) sessionId suggestions =
      ((suggestion? suggestions number).map fun suggestion =>
        command (.followUpClicked sessionId suggestion)).getD
        (.noSuggestion number) := by
  have isNoWord
      {word : String}
      {first : Char}
      {rest : List Char}
      (isWord : first ≠ '+' ∧ first.isDigit = false)
      (shape : word.toList = '/' :: first :: rest) :
      String.ofList ('/' :: numeral) ≠ word := by
    rintro rfl
    rw [String.toList_ofList] at shape
    exact ne_numeral isNumeral isWord shape
  have noDownload : destination? ('/' :: numeral) = none := by
    rw [← Option.not_isSome_iff_eq_none, destination?_isSome]
    rintro (same | ⟨_, same⟩)
    · exact ne_numeral isNumeral (by decide) same
    · exact ne_numeral isNumeral (by decide) same
  have picked : pickedNumber? ('/' :: numeral) = some number :=
    pickedNumber?_eq_some.mpr ⟨numeral, rfl, isNumeral, below⟩
  rw [of, if_neg (isNoWord (by decide) rfl), if_neg (isNoWord (by decide) rfl),
    if_neg (isNoWord (by decide) rfl), String.toList_ofList, noDownload]
  simp only [picked]
  cases suggestion? suggestions number <;> rfl

/-- A line without a meaning of its own is a message. -/
theorem of_other
    (noCommand : ¬ IsCommandLine line) :
    of line sessionId suggestions =
      .command (.chatMessage sessionId line) := by
  have noDownload : destination? line.toList = none := by
    rw [← Option.not_isSome_iff_eq_none, destination?_isSome]
    rintro (same | ⟨destination, same⟩)
    · rw [String.toList_inj.mp same] at noCommand
      exact noCommand .download
    · rw [← @String.ofList_toList line, same] at noCommand
      exact noCommand .downloadTo
  have noNumber : pickedNumber? line.toList = none := by
    rw [Option.eq_none_iff_forall_ne_some]
    intro number picked
    obtain ⟨numeral, same, isNumeral, below⟩ :=
      pickedNumber?_eq_some.mp picked
    rw [← @String.ofList_toList line, same] at noCommand
    exact noCommand (.number isNumeral below)
  have noWord
      {word : String}
      (isCommand : IsCommandLine word) :
      line ≠ word := by
    rintro rfl
    exact noCommand isCommand
  rw [of, if_neg (noWord .stop), if_neg (noWord .quit), if_neg (noWord .help),
    noDownload]
  simp only [noNumber]

theorem of_download
    (isDownload : (destination? line.toList).isSome = true)
    (message : String) :
    of line sessionId suggestions ≠
      .command (.chatMessage sessionId message) := by
  obtain ⟨destination, found⟩ := Option.isSome_iff_exists.mp isDownload
  rw [of, found]
  split_ifs <;> exact nofun

/-- A line with a meaning of its own is no message. -/
theorem of_commandLine
    (isCommand : IsCommandLine line)
    (message : String) :
    of line sessionId suggestions ≠
      .command (.chatMessage sessionId message) := by
  intro isMessage
  cases isCommand with
  | stop | quit | help | download =>
      cases isMessage
  | @downloadTo destination =>
      refine of_download (destination?_isSome.mpr (.inr ?_)) message isMessage
      exact ⟨destination, String.toList_ofList⟩
  | @number _ number isNumeral below =>
      rw [of_numeral isNumeral below] at isMessage
      cases found : suggestion? suggestions number with
      | none | some =>
          rw [found] at isMessage
          cases isMessage

/-- Exactly the lines without a meaning of their own are messages. -/
theorem of_eq_chatMessage :
    of line sessionId suggestions = .command (.chatMessage sessionId line) ↔
      ¬ IsCommandLine line :=
  ⟨fun isMessage isCommand => of_commandLine isCommand line isMessage,
    of_other⟩

end LineMeaning

theorem slash_append
    (text : String) :
    "/" ++ text = .ofList ('/' :: text.toList) := by
  simp

/-- What it comes to when a number is picked among choices. -/
def LineMeaning.picking
    (sessionId : String)
    (choices : List Choice)
    (number : Nat) : LineMeaning :=
  match choices.lookup number with
  | some option => .command (.followUpClicked sessionId option)
  | none => .noSuggestion number

/-- A slash and a numeral pick among the choices on show. -/
theorem OnShow.of_numeral
    {colours : Bool}
    {notices : List Notice}
    {choices : List Choice}
    (onShow : OnShow colours notices choices)
    (sessionId : String)
    {numeral : List Char}
    {number : Nat}
    (isNumeral : IsNumeral numeral number)
    (below : number < UInt64.size) :
    LineMeaning.of (.ofList ('/' :: numeral)) sessionId
        (storedAfter notices) =
      .picking sessionId choices number := by
  obtain ⟨inOrder, same⟩ := onShow.choices_eq
  rw [LineMeaning.of_numeral isNumeral below, LineMeaning.picking, ← same,
    lookup_eq_suggestion? inOrder]
  cases suggestion? (choices.map Prod.snd) number <;> rfl

/-! ## Dialogues -/

/--
The notices that turns printed, in order.  Besides, a turn prints what there is to remark
about its line.
-/
inductive Shows (colours : Bool) : List Turn → List Notice → Prop where
  | nothing :
      Shows colours [] []
  | turn
      {turn : Turn}
      {turns : List Turn}
      {meaning : LineMeaning}
      {notices later : List Notice} :
      turn.printed =
        meaning.remarks colours ++ notices.flatMap (printed colours) →
      Shows colours turns later →
      Shows colours (turn :: turns) (notices ++ later)

/--
Taking a line prints what there is to remark about it, and notices.  Only these change the
stored suggestions.
-/
theorem Dialogue.shows_enter
    {σ : Type}
    (dialogue : Dialogue σ)
    (line : String) :
    ∃ (meaning : LineMeaning) (notices : List Notice),
      (dialogue.enter line).1.printed =
          meaning.remarks dialogue.colours ++
            notices.flatMap (printed dialogue.colours) ∧
        (dialogue.enter line).2.colours = dialogue.colours ∧
        (dialogue.enter line).2.suggestions =
          notices.foldl suggestionsAfter dialogue.suggestions := by
  unfold enter
  extract_lets meaning
  split
  next outcome stage _ =>
    exact ⟨meaning, notices stage, rfl, rfl, rfl⟩

/-- Only the notices that a dialogue prints change the suggestions that it stores. -/
theorem Dialogue.shows_enterAll
    {σ : Type}
    (dialogue : Dialogue σ)
    (lines : List String) :
    ∃ notices,
      Shows dialogue.colours (dialogue.enterAll lines).1 notices ∧
        (dialogue.enterAll lines).2.suggestions =
          notices.foldl suggestionsAfter dialogue.suggestions := by
  induction lines generalizing dialogue with
  | nil =>
      exact ⟨[], .nothing, rfl⟩
  | cons line rest inductionHypothesis =>
      obtain ⟨meaning, notices, prints, sameColours, changed⟩ :=
        dialogue.shows_enter line
      obtain ⟨later, shows, same⟩ :=
        inductionHypothesis (dialogue.enter line).2
      rw [sameColours] at shows
      rw [changed, ← List.foldl_append] at same
      simp only [enterAll]
      exact ⟨notices ++ later, .turn prints shows, same⟩

/-! ## Numbers and other lines -/

/--
After whatever notices were printed, the digits of a number after a slash pick the
suggestion that the latest answer showed behind just this number, and nothing if there is
none; so does every other numeral of it.  A line is a message, unchanged, exactly if it is
no command, and no line changes the stored suggestions but through the notices that are
printed after it.
-/
theorem number_picks_what_is_shown
    (colours : Bool)
    (notices : List Notice)
    (sessionId : String) :
    (∃ choices, OnShow colours notices choices) ∧
      (∀ choices,
        OnShow colours notices choices →
        (∀ number,
          choices.lookup number = none ↔
            number = 0 ∨ choices.length < number) ∧
          (∀ number,
            number < UInt64.size →
            LineMeaning.of ("/" ++ toString number) sessionId
                (storedAfter notices) =
              .picking sessionId choices number) ∧
          ∀ numeral number,
            IsNumeral numeral number →
            number < UInt64.size →
            LineMeaning.of (.ofList ('/' :: numeral)) sessionId
                (storedAfter notices) =
              .picking sessionId choices number) ∧
      (∀ line suggestions,
        LineMeaning.of line sessionId suggestions =
            .command (.chatMessage sessionId line) ↔
          ¬ IsCommandLine line) ∧
      ∀ (σ : Type) (dialogue : Dialogue σ) lines,
        ∃ shown,
          Shows dialogue.colours (dialogue.enterAll lines).1 shown ∧
            (dialogue.enterAll lines).2.suggestions =
              shown.foldl suggestionsAfter dialogue.suggestions := by
  refine ⟨⟨_, onShow_choicesOf colours notices⟩, ?_,
    fun _ _ => LineMeaning.of_eq_chatMessage,
    fun _ dialogue lines => dialogue.shows_enterAll lines⟩
  intro choices onShow
  refine ⟨lookup_choices_eq_none onShow.choices_eq.1, ?_,
    fun _ _ => onShow.of_numeral sessionId⟩
  intro number below
  rw [slash_append]
  exact onShow.of_numeral sessionId (.toString number) below

/-! ## Two answers -/

/-- An answer with two suggestions, one with another suggestion, and what is on its way. -/
def twoAnswers : List Notice :=
  [.answer "First" (some ⟨"Try:", [⟨"A", "a"⟩, ⟨"B", "b"⟩]⟩) false,
    .answer "Second" (some ⟨"Try:", [⟨"C", "c"⟩]⟩) false,
    .answerStream "m" "..."]

/-- The later answer counts, and a word that goes on after a command is a message. -/
theorem later_answer_is_picked_from :
    LineMeaning.of ("/" ++ toString 1) "cli" (storedAfter twoAnswers) =
        .command (.followUpClicked "cli" ⟨"C", "c"⟩) ∧
      LineMeaning.of ("/" ++ toString 2) "cli" (storedAfter twoAnswers) =
        .noSuggestion 2 ∧
      LineMeaning.of (.ofList ['/', '+', '0', '1']) "cli"
          (storedAfter twoAnswers) =
        .command (.followUpClicked "cli" ⟨"C", "c"⟩) ∧
      ¬ IsCommandLine "/downloads" := by
  obtain ⟨-, picks, messages, -⟩ :=
    number_picks_what_is_shown false twoAnswers "cli"
  obtain ⟨-, digits, numerals⟩ :=
    picks _ (onShow_choicesOf false twoAnswers)
  have signed : IsNumeral ['+', '0', '1'] 1 :=
    .signed (by decide) (by simp)
  exact
    ⟨digits 1 (by decide), digits 2 (by decide), numerals _ 1 signed (by decide),
      (messages "/downloads" []).mp (by decide +kernel)⟩

end AssessmentChat.Console
