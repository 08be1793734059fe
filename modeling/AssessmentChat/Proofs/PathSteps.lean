import AssessmentChat.Files.Path

namespace AssessmentChat.Path

/-!
# Steps of paths

A path is read into its steps and written from them.  A name without a slash is
one step, so a name put behind a folder adds one step to those of the folder, and
different names lie at different paths.
-/

/-- A text that is one step: it is not empty and has no slash. -/
def IsStep (name : String) : Prop :=
  name ≠ "" ∧ '/' ∉ name.toList

theorem piecesAfter_letter
    {letter : Char}
    (notSlash : letter ≠ '/')
    (letters rest : List Char) :
    piecesAfter letters (letter :: rest) =
      piecesAfter (letter :: letters) rest := by
  rw [piecesAfter.eq_def]
  split
  next empty =>
    cases empty
  next same =>
    cases same
    exact absurd rfl notSlash
  next same =>
    cases same
    rfl

/-- A slash ends a piece. -/
theorem piecesAfter_append_slash
    (letters front back : List Char) :
    piecesAfter letters (front ++ '/' :: back) =
      piecesAfter letters front ++ piecesAfter [] back := by
  induction front generalizing letters with
  | nil =>
      rfl
  | cons letter rest inductionHypothesis =>
      by_cases slash : letter = '/'
      · subst slash
        have restPieces := inductionHypothesis []
        simpa [piecesAfter] using restPieces
      · rw [List.cons_append, piecesAfter_letter slash,
          piecesAfter_letter slash]
        exact inductionHypothesis _

/-- Letters without a slash are one piece. -/
theorem piecesAfter_plain
    {name : List Char}
    (plain : '/' ∉ name)
    (letters : List Char) :
    piecesAfter letters name =
      [String.ofList (letters.reverse ++ name)] := by
  induction name generalizing letters with
  | nil =>
      simp [piecesAfter]
  | cons letter rest inductionHypothesis =>
      have notSlash : letter ≠ '/' := by
        rintro rfl
        exact plain (List.mem_cons_self ..)
      have restPlain : '/' ∉ rest :=
        fun member => plain (List.mem_cons_of_mem _ member)
      rw [piecesAfter_letter notSlash, inductionHypothesis restPlain]
      simp

/-- No piece has a slash. -/
theorem slash_notMem_piecesAfter
    {letters rest : List Char}
    (plain : '/' ∉ letters)
    {piece : String}
    (member : piece ∈ piecesAfter letters rest) :
    '/' ∉ piece.toList := by
  induction rest generalizing letters with
  | nil =>
      rw [List.mem_singleton.mp member]
      simpa using plain
  | cons letter rest inductionHypothesis =>
      by_cases slash : letter = '/'
      · subst slash
        rcases List.mem_cons.mp member with rfl | later
        · simpa using plain
        · exact inductionHypothesis List.not_mem_nil later
      · rw [piecesAfter_letter slash] at member
        refine inductionHypothesis ?_ member
        simpa [eq_comm, slash] using plain

/-- Every step of a path is a step. -/
theorem isStep_of_mem_steps
    {path step : String}
    (member : step ∈ steps path) :
    IsStep step := by
  obtain ⟨piece, named⟩ := List.mem_filter.mp member
  exact ⟨by simpa using named,
    slash_notMem_piecesAfter List.not_mem_nil piece⟩

/-- A name is its own only step. -/
theorem steps_of_isStep
    {name : String}
    (isStep : IsStep name) :
    steps name = [name] := by
  obtain ⟨named, plain⟩ := isStep
  simp [steps, piecesAfter_plain plain, named]

theorem not_isAbsolute_of_isStep
    {name : String}
    (isStep : IsStep name) :
    isAbsolute name = false := by
  obtain ⟨-, plain⟩ := isStep
  cases letters : name.toList with
  | nil =>
      simp [isAbsolute, letters]
  | cons letter rest =>
      rw [letters] at plain
      have notSlash : letter ≠ '/' := by
        rintro rfl
        exact plain (List.mem_cons_self ..)
      simp [isAbsolute, letters, notSlash]

/-- The steps of a text that a slash ends are those of what comes before. -/
theorem steps_append_slash
    (front : List Char)
    (back : List Char) :
    steps (String.ofList (front ++ '/' :: back)) =
      steps (String.ofList front) ++ steps (String.ofList back) := by
  simp [steps, piecesAfter_append_slash]

/-! ## A name in a folder -/

section Joining

variable
  {name other : String}

/-- How a name is put behind a folder. -/
theorem join_toList
    (folder : String)
    (isStep : IsStep name) :
    ∃ front,
      (join folder name).toList = front ++ name.toList ∧
        (front = [] ∧ folder = "" ∨
          ∃ letters,
            front = letters ++ ['/'] ∧
              (folder.toList = front ∨ folder.toList = letters)) := by
  unfold join
  rw [not_isAbsolute_of_isStep isStep]
  by_cases closed : (folder.isEmpty || endsInSlash folder) = true
  · refine ⟨folder.toList, by simp [closed], ?_⟩
    rcases Bool.or_eq_true_iff.mp closed with empty | slash
    · have empty : folder = "" := by simpa using empty
      exact .inl ⟨by simp [empty], empty⟩
    · have slash : folder.toList.getLast? = some '/' := by
        simpa [endsInSlash] using slash
      obtain ⟨letters, shape⟩ := List.getLast?_eq_some_iff.mp slash
      exact .inr ⟨letters, shape, .inl rfl⟩
  · refine ⟨folder.toList ++ ['/'], by simp [closed], ?_⟩
    exact .inr ⟨folder.toList, rfl, .inr rfl⟩

/-- A name in a folder is one more step. -/
theorem steps_join
    (folder : String)
    (isStep : IsStep name) :
    steps (join folder name) = steps folder ++ [name] := by
  obtain ⟨front, joined, shape⟩ := join_toList folder isStep
  have path : join folder name = String.ofList (front ++ name.toList) := by
    rw [← joined, String.ofList_toList]
  rw [path]
  rcases shape with ⟨rfl, rfl⟩ | ⟨letters, rfl, shape⟩
  · simpa [steps, piecesAfter] using steps_of_isStep isStep
  · have apart := steps_append_slash letters name.toList
    rw [String.ofList_toList, steps_of_isStep isStep] at apart
    have folderSteps : steps folder = steps (String.ofList letters) := by
      rw [← String.ofList_toList (s := folder)]
      rcases shape with closed | bare
      · rw [closed, steps_append_slash letters []]
        simp [steps, piecesAfter]
      · rw [bare]
    rw [folderSteps, ← apart]
    simp

/-- A joined path is absolute if its folder is. -/
theorem isAbsolute_join
    (folder : String)
    (isStep : IsStep name) :
    isAbsolute (join folder name) = isAbsolute folder := by
  unfold join
  rw [not_isAbsolute_of_isStep isStep]
  cases letters : folder.toList with
  | nil =>
      have empty : folder = "" := String.toList_eq_nil_iff.mp letters
      have bare := not_isAbsolute_of_isStep isStep
      simpa [empty, isAbsolute] using bare
  | cons letter rest =>
      by_cases closed : (folder.isEmpty || endsInSlash folder) = true
      · simp [closed, isAbsolute, letters]
      · simp [closed, isAbsolute, letters]

/-- A joined path ends in its name. -/
theorem not_endsInSlash_join
    (folder : String)
    (isStep : IsStep name) :
    endsInSlash (join folder name) = false := by
  obtain ⟨front, joined, -⟩ := join_toList folder isStep
  obtain ⟨named, plain⟩ := isStep
  have letters : name.toList ≠ [] := by simpa using named
  rw [endsInSlash, joined, List.getLast?_append,
    List.getLast?_eq_some_getLast letters]
  rw [decide_eq_false_iff_not]
  intro slash
  have last : name.toList.getLast letters = '/' := Option.some.inj slash
  exact plain (last ▸ List.getLast_mem letters)

theorem join_ne_empty
    (folder : String)
    (isStep : IsStep name) :
    join folder name ≠ "" := by
  obtain ⟨front, joined, -⟩ := join_toList folder isStep
  intro empty
  rw [empty] at joined
  have none : name.toList = [] := by
    simpa using (List.append_eq_nil_iff.mp joined.symm).2
  exact isStep.1 (String.toList_eq_nil_iff.mp none)

/-- Different names lie at different paths. -/
theorem join_inj
    (folder : String)
    (isStep : IsStep name)
    (otherIsStep : IsStep other) :
    join folder name = join folder other ↔ name = other := by
  constructor
  · intro same
    have sameSteps := steps_join folder isStep
    rw [same, steps_join folder otherIsStep] at sameSteps
    simpa [eq_comm] using sameSteps
  · rintro rfl
    rfl

end Joining

/-! ## Names below a folder -/

section Descending

variable
  {names : List String}

/-- Joining names adds them as steps. -/
theorem steps_foldl_join
    (folder : String)
    (areSteps : ∀ name ∈ names, IsStep name) :
    steps (names.foldl join folder) = steps folder ++ names := by
  induction names generalizing folder with
  | nil =>
      simp
  | cons name rest inductionHypothesis =>
      obtain ⟨isStep, restSteps⟩ := List.forall_mem_cons.mp areSteps
      rw [List.foldl_cons, inductionHypothesis _ restSteps,
        steps_join folder isStep]
      simp

/-- Joining names leaves a path absolute or not. -/
theorem isAbsolute_foldl_join
    (folder : String)
    (areSteps : ∀ name ∈ names, IsStep name) :
    isAbsolute (names.foldl join folder) = isAbsolute folder := by
  induction names generalizing folder with
  | nil =>
      rfl
  | cons name rest inductionHypothesis =>
      obtain ⟨isStep, restSteps⟩ := List.forall_mem_cons.mp areSteps
      rw [List.foldl_cons, inductionHypothesis _ restSteps,
        isAbsolute_join folder isStep]

theorem foldl_join_ne_empty
    {folder : String}
    (named : folder ≠ "")
    (areSteps : ∀ name ∈ names, IsStep name) :
    names.foldl join folder ≠ "" := by
  induction names generalizing folder with
  | nil =>
      exact named
  | cons name rest inductionHypothesis =>
      obtain ⟨isStep, restSteps⟩ := List.forall_mem_cons.mp areSteps
      exact inductionHypothesis (join_ne_empty folder isStep) restSteps

theorem not_endsInSlash_foldl_join
    (folder : String)
    (some : names ≠ [])
    (areSteps : ∀ name ∈ names, IsStep name) :
    endsInSlash (names.foldl join folder) = false := by
  obtain ⟨above, last, rfl⟩ :=
    (List.eq_nil_or_concat names).resolve_left some
  rw [List.concat_eq_append, List.foldl_append]
  exact not_endsInSlash_join _ (areSteps last (by simp))

/-- A path is at least as long as the names below its folder. -/
theorem length_mul_le_utf8ByteSize_foldl_join
    {size : Nat}
    (folder : String)
    (areSteps : ∀ name ∈ names, IsStep name)
    (areLong : ∀ name ∈ names, size ≤ name.utf8ByteSize) :
    names.length * size ≤ (names.foldl join folder).utf8ByteSize := by
  suffices
      folder.utf8ByteSize + names.length * size ≤
        (names.foldl join folder).utf8ByteSize from
    Nat.le_trans (Nat.le_add_left ..) this
  induction names generalizing folder with
  | nil =>
      simp
  | cons name rest inductionHypothesis =>
      obtain ⟨isStep, restSteps⟩ := List.forall_mem_cons.mp areSteps
      obtain ⟨isLong, restLong⟩ := List.forall_mem_cons.mp areLong
      have joined :
          folder.utf8ByteSize + name.utf8ByteSize ≤
            (join folder name).utf8ByteSize := by
        unfold join
        rw [not_isAbsolute_of_isStep isStep]
        split
        · contradiction
        · split
          · exact Nat.le_of_eq String.utf8ByteSize_append.symm
          · simp only [String.utf8ByteSize_append]
            omega
      have onward :=
        inductionHypothesis (join folder name) restSteps restLong
      simp only [List.length_cons, Nat.succ_mul, List.foldl_cons]
      omega

end Descending

/-! ## Paths written from steps -/

/-- The slashes between steps are where the pieces end. -/
theorem steps_intercalate
    {names : List String}
    (areSteps : ∀ name ∈ names, IsStep name) :
    steps ("/".intercalate names) = names := by
  induction names with
  | nil =>
      rfl
  | cons name rest inductionHypothesis =>
      have isStep := areSteps name (List.mem_cons_self ..)
      have restSteps := inductionHypothesis fun other member =>
        areSteps other (List.mem_cons_of_mem _ member)
      cases rest with
      | nil =>
          simpa using steps_of_isStep isStep
      | cons second others =>
          have shape :
              "/".intercalate (name :: second :: others) =
                String.ofList
                  (name.toList ++
                    '/' :: ("/".intercalate (second :: others)).toList) := by
            rw [← String.toList_inj]
            simp [String.toList_intercalate]
          rw [shape, steps_append_slash, String.ofList_toList,
            String.ofList_toList, restSteps, steps_of_isStep isStep]
          rfl

/-- A path of steps has these steps. -/
theorem steps_ofSteps
    {names : List String}
    (areSteps : ∀ name ∈ names, IsStep name)
    (absolute : Bool) :
    steps (ofSteps absolute names) = names := by
  have written := steps_intercalate areSteps
  cases absolute with
  | false =>
      simpa [ofSteps] using written
  | true =>
      have shape :
          ofSteps true names =
            String.ofList
              ([] ++ '/' :: ("/".intercalate names).toList) := by
        rw [← String.toList_inj]
        simp [ofSteps]
      rw [shape, steps_append_slash, String.ofList_toList, written]
      rfl

theorem isAbsolute_ofSteps
    {names : List String}
    (areSteps : ∀ name ∈ names, IsStep name)
    (absolute : Bool) :
    isAbsolute (ofSteps absolute names) = absolute := by
  cases absolute with
  | true =>
      simp [ofSteps, isAbsolute]
  | false =>
      cases names with
      | nil =>
          rfl
      | cons name rest =>
          have isStep := areSteps name (List.mem_cons_self ..)
          have bare := not_isAbsolute_of_isStep isStep
          obtain ⟨letter, others, letters⟩ :=
            List.exists_cons_of_ne_nil
              (show name.toList ≠ [] by simpa using isStep.1)
          have starts :
              ("/".intercalate (name :: rest)).toList.head? =
                some letter := by
            rw [String.toList_intercalate]
            cases rest with
            | nil =>
                simp [letters]
            | cons second rest =>
                simp [letters]
          rw [isAbsolute, letters] at bare
          have same : ofSteps false (name :: rest) =
              "/".intercalate (name :: rest) := by
            simp [ofSteps]
          rw [isAbsolute, same, starts]
          exact bare

end AssessmentChat.Path
