import AssessmentChat.Files.Disk
import AssessmentChat.Proofs.PathSteps

namespace AssessmentChat

/-!
# Following paths

What `Disk.walk` arrives at is taken apart step by step by `Disk.Walks`.  A walk
that has arrived somewhere arrives there again after a change that keeps the ways:
every folder and every link stays, and a file stays a file.

A folder of files is followed by one more step to each of its files.  Making it
again changes nothing, and writing one of its files sets one entry.
-/

namespace FileTree

/-- Setting an entry changes what is found under its own name only. -/
theorem lookup_setEntry
    (name key : String)
    (tree : FileTree)
    (entries : List (String × FileTree)) :
    (setEntry name tree entries).lookup key =
      if key = name then some tree else entries.lookup key := by
  induction entries with
  | nil =>
      by_cases same : key = name
      · simp [setEntry, same]
      · have apart : (key == name) = false := by simpa using same
        simp [setEntry, List.lookup_cons, apart, same]
  | cons entry rest inductionHypothesis =>
      obtain ⟨present, old⟩ := entry
      by_cases replaced : present = name
      · subst replaced
        by_cases same : key = present
        · simp [setEntry, same]
        · have apart : (key == present) = false := by simpa using same
          simp [setEntry, List.lookup_cons, apart, same]
      · by_cases here : key = present
        · subst here
          simp [setEntry, replaced]
        · have apart : (key == present) = false := by simpa using here
          simp [setEntry, List.lookup_cons, replaced, apart,
            inductionHypothesis]

/-- The last step of a path is one into the folder before. -/
theorem at?_snoc
    (tree : FileTree)
    (path : List String)
    (name : String) :
    tree.at? (path ++ [name]) =
      ((tree.at? path).bind entries?).bind fun entries =>
        entries.lookup name := by
  induction path generalizing tree with
  | nil =>
      cases tree <;> simp [at?, entries?]
  | cons step rest inductionHypothesis =>
      cases tree with
      | file | link =>
          simp [at?]
      | folder entries =>
          cases child : entries.lookup step with
          | none =>
              simp [at?, child]
          | some child' =>
              simpa [at?, child] using inductionHypothesis child'

/-- Two trees that a walk treats alike: files, folders, or links to one target. -/
inductive SameKind : FileTree → FileTree → Prop where
  | file
      (content other : ByteArray) :
      SameKind (.file content) (.file other)
  | folder
      (entries others : List (String × FileTree)) :
      SameKind (.folder entries) (.folder others)
  | link
      (target : String) :
      SameKind (.link target) (.link target)

theorem SameKind.refl
    (tree : FileTree) :
    tree.SameKind tree := by
  cases tree with
  | file content =>
      exact .file content content
  | folder entries =>
      exact .folder entries entries
  | link target =>
      exact .link target

/-- Whatever was there is still there, and of the same kind. -/
def KeepsWays (before after : FileTree) : Prop :=
  ∀ path found,
    before.at? path = some found →
    ∃ now, after.at? path = some now ∧ found.SameKind now

namespace KeepsWays

theorem refl
    (tree : FileTree) :
    tree.KeepsWays tree := by
  intro path found present
  exact ⟨found, present, .refl found⟩

theorem file
    (content other : ByteArray) :
    (FileTree.file content).KeepsWays (.file other) := by
  intro path found present
  cases path with
  | nil =>
      cases present
      exact ⟨.file other, rfl, .file content other⟩
  | cons =>
      cases present

/-- A folder keeps its ways when one of its entries does. -/
theorem setEntry
    (entries : List (String × FileTree))
    (name : String)
    {replacement : FileTree}
    (entryKeeps :
      ∀ old,
        entries.lookup name = some old →
        old.KeepsWays replacement) :
    (FileTree.folder entries).KeepsWays
      (.folder (FileTree.setEntry name replacement entries)) := by
  intro path found present
  cases path with
  | nil =>
      cases present
      exact ⟨_, rfl, .folder _ _⟩
  | cons step rest =>
      obtain ⟨child, entry, below⟩ := Option.bind_eq_some_iff.mp present
      by_cases same : step = name
      · subst same
        obtain ⟨now, nowPresent, sameKind⟩ :=
          entryKeeps child entry rest found below
        refine ⟨now, ?_, sameKind⟩
        simpa [at?, lookup_setEntry] using nowPresent
      · refine ⟨found, ?_, .refl found⟩
        simpa [at?, lookup_setEntry, same, entry] using below

/-- A tree keeps its ways when what is put somewhere keeps those below it. -/
theorem put
    {tree replacement : FileTree}
    {path : List String}
    (belowKeeps :
      ∀ old,
        tree.at? path = some old →
        old.KeepsWays replacement) :
    tree.KeepsWays (tree.put replacement path) := by
  induction path generalizing tree with
  | nil =>
      exact belowKeeps tree rfl
  | cons step rest inductionHypothesis =>
      cases tree with
      | file | link =>
          exact .refl _
      | folder entries =>
          cases entry : entries.lookup step with
          | none =>
              have entryKeeps (old : FileTree)
                  (present : entries.lookup step = some old) :
                  old.KeepsWays replacement := by
                rw [entry] at present
                cases present
              simpa [FileTree.put, entry] using
                setEntry entries step entryKeeps
          | some child =>
              have childKeeps : child.KeepsWays
                  (child.put replacement rest) := by
                refine inductionHypothesis ?_
                intro old below
                exact belowKeeps old (by simp [at?, entry, below])
              have entryKeeps (old : FileTree)
                  (present : entries.lookup step = some old) :
                  old.KeepsWays (child.put replacement rest) := by
                rw [entry] at present
                cases present
                exact childKeeps
              simpa [FileTree.put, entry] using
                setEntry entries step entryKeeps

end KeepsWays

/-- What is put into a folder becomes one of its entries. -/
theorem at?_put_snoc
    {tree : FileTree}
    {path : List String}
    {entries : List (String × FileTree)}
    (found : tree.at? path = some (.folder entries))
    (replacement : FileTree)
    (name : String) :
    (tree.put replacement (path ++ [name])).at? path =
      some (.folder (setEntry name replacement entries)) := by
  induction path generalizing tree with
  | nil =>
      cases found
      cases entry : entries.lookup name with
      | none =>
          simp [put, at?, entry]
      | some old =>
          simp [put, at?, entry]
  | cons step rest inductionHypothesis =>
      cases tree with
      | file | link =>
          cases found
      | folder others =>
          obtain ⟨child, entry, below⟩ := Option.bind_eq_some_iff.mp found
          have childPut := inductionHypothesis below
          simpa [put, at?, entry, lookup_setEntry] using childPut

end FileTree

/-- The names that lead to a place, whether or not something is there. -/
def Place.position : Place → List String
  | .found position => position
  | .vacant folder name => folder ++ [name]

namespace Disk

/-- A step by which a walk looks for an entry. -/
def IsName (step : String) : Prop :=
  step ≠ "." ∧ step ≠ ".."

section Walking

variable (disk : Disk) (throughLast : Bool)

/-- How a walk arrives at a place. -/
inductive Walks : Nat → List String → List String → Place → Prop where
  | arrived
      (links : Nat)
      (position : List String) :
      Walks links position [] (.found position)
  | stays
      {links : Nat}
      {position rest : List String}
      {entries : List (String × FileTree)}
      {place : Place} :
      disk.top.at? position = some (.folder entries) →
      Walks links position rest place →
      Walks links position ("." :: rest) place
  | goesUp
      {links : Nat}
      {position rest : List String}
      {entries : List (String × FileTree)}
      {place : Place} :
      disk.top.at? position = some (.folder entries) →
      Walks links position.dropLast rest place →
      Walks links position (".." :: rest) place
  | misses
      (links : Nat)
      {position : List String}
      {step : String}
      {entries : List (String × FileTree)} :
      disk.top.at? position = some (.folder entries) →
      IsName step →
      step.utf8ByteSize ≤ nameLimit →
      entries.lookup step = none →
      Walks links position [step] (.vacant position step)
  | endsAtLink
      (links : Nat)
      {position : List String}
      {step target : String}
      {entries : List (String × FileTree)} :
      disk.top.at? position = some (.folder entries) →
      IsName step →
      step.utf8ByteSize ≤ nameLimit →
      entries.lookup step = some (.link target) →
      throughLast = false →
      Walks links position [step] (.found (position ++ [step]))
  | followsLink
      {links : Nat}
      {position rest : List String}
      {step target : String}
      {entries : List (String × FileTree)}
      {place : Place} :
      disk.top.at? position = some (.folder entries) →
      IsName step →
      step.utf8ByteSize ≤ nameLimit →
      entries.lookup step = some (.link target) →
      rest ≠ [] ∨ throughLast = true →
      Walks links (if Path.isAbsolute target then [] else position)
        (Path.steps target ++ rest) place →
      Walks (links + 1) position (step :: rest) place
  | enters
      {links : Nat}
      {position rest : List String}
      {step : String}
      {entries : List (String × FileTree)}
      {child : FileTree}
      {place : Place} :
      disk.top.at? position = some (.folder entries) →
      IsName step →
      step.utf8ByteSize ≤ nameLimit →
      entries.lookup step = some child →
      (∀ target, child ≠ .link target) →
      Walks links (position ++ [step]) rest place →
      Walks links position (step :: rest) place

end Walking

variable
  {disk : Disk}
  {throughLast : Bool}
  {links : Nat}
  {position remaining : List String}
  {place : Place}

/-- A walk that ends has walked the steps. -/
theorem Walks.of_walk
    (walked :
      disk.walk throughLast links position remaining = .ok place) :
    disk.Walks throughLast links position remaining place := by
  fun_induction disk.walk throughLast links position remaining with
  | case1 links position =>
      cases walked
      exact .arrived links position
  | case2 links position rest entries folder inductionHypothesis =>
      exact .stays folder (inductionHypothesis walked)
  | case3 links position rest entries folder _ inductionHypothesis =>
      exact .goesUp folder (inductionHypothesis walked)
  | case4 | case6 | case8 | case11 =>
      cases walked
  | case5 links position step entries folder notHere notUp short entry =>
      cases walked
      exact .misses links folder ⟨notHere, notUp⟩
        (Nat.le_of_not_gt short) entry
  | case7 links position step rest entries folder notHere notUp short
      target entry last =>
      obtain ⟨rfl, notThrough⟩ : rest = [] ∧ throughLast = false := by
        simpa using last
      cases walked
      exact .endsAtLink links folder ⟨notHere, notUp⟩
        (Nat.le_of_not_gt short) entry notThrough
  | case9 position step rest entries folder notHere notUp short target
      entry followed links inductionHypothesis =>
      have through : rest ≠ [] ∨ throughLast = true := by
        by_cases last : rest = []
        · exact .inr (by simpa [last] using followed)
        · exact .inl last
      exact .followsLink folder ⟨notHere, notUp⟩
        (Nat.le_of_not_gt short) entry through
        (inductionHypothesis walked)
  | case10 links position step rest entries folder notHere notUp short
      child notLink entry inductionHypothesis =>
      exact .enters folder ⟨notHere, notUp⟩ (Nat.le_of_not_gt short)
        entry notLink (inductionHypothesis walked)

/-- Steps that can be walked end where they lead. -/
theorem Walks.walk_eq
    (walks : disk.Walks throughLast links position remaining place) :
    disk.walk throughLast links position remaining = .ok place := by
  induction walks with
  | arrived =>
      rw [walk]
  | stays folder _ inductionHypothesis =>
      rw [walk, folder]
      simpa using inductionHypothesis
  | goesUp folder _ inductionHypothesis =>
      rw [walk, folder]
      simpa using inductionHypothesis
  | misses _ folder isName short entry =>
      rw [walk, folder]
      simp [isName.1, isName.2, Nat.not_lt.mpr short, entry]
  | endsAtLink _ folder isName short entry notThrough =>
      rw [walk, folder]
      simp [isName.1, isName.2, Nat.not_lt.mpr short, entry, notThrough]
  | @followsLink _ _ rest _ _ _ _ folder isName short entry through _
      inductionHypothesis =>
      have followed : (decide (rest = []) && !throughLast) = false := by
        rcases through with more | through
        · simp [more]
        · simp [through]
      rw [walk, folder]
      simp only [isName.1, isName.2, Nat.not_lt.mpr short, entry, followed]
      simpa using inductionHypothesis
  | @enters _ _ _ _ _ child _ folder isName short entry notLink _
      inductionHypothesis =>
      rw [walk, folder]
      simp only [isName.1, isName.2, Nat.not_lt.mpr short, entry]
      cases child with
      | file | folder =>
          simpa using inductionHypothesis
      | link target =>
          exact absurd rfl (notLink target)

/-- A walk arrives at a place exactly in the ways of `Walks`. -/
theorem walk_eq_ok :
    disk.walk throughLast links position remaining = .ok place ↔
      disk.Walks throughLast links position remaining place :=
  ⟨.of_walk, Walks.walk_eq⟩

namespace Walks

/--
What was found is found again as long as the ways are kept, and so is what has been
put where nothing was.
-/
theorem again
    {after : Disk}
    (walks : disk.Walks throughLast links position remaining place)
    (keeps : disk.top.KeepsWays after.top)
    (filled :
      ∀ folder name,
        place = .vacant folder name →
        ∃ tree,
          after.top.at? (folder ++ [name]) = some tree ∧
            ∀ target, tree ≠ .link target) :
    after.Walks throughLast links position remaining
      (.found place.position) := by
  have stillFolder {position : List String}
      {entries : List (String × FileTree)}
      (folder : disk.top.at? position = some (.folder entries)) :
      ∃ others, after.top.at? position = some (.folder others) := by
    obtain ⟨now, present, sameKind⟩ := keeps position _ folder
    cases sameKind with
    | folder _ others =>
        exact ⟨others, present⟩
  have stillEntry {position : List String}
      {entries others : List (String × FileTree)}
      {step : String}
      {child : FileTree}
      (folder : disk.top.at? position = some (.folder entries))
      (folderNow : after.top.at? position = some (.folder others))
      (entry : entries.lookup step = some child) :
      ∃ now, others.lookup step = some now ∧ child.SameKind now := by
    have below : disk.top.at? (position ++ [step]) = some child := by
      simp [FileTree.at?_snoc, folder, FileTree.entries?, entry]
    obtain ⟨now, present, sameKind⟩ := keeps _ _ below
    refine ⟨now, ?_, sameKind⟩
    simpa [FileTree.at?_snoc, folderNow, FileTree.entries?] using present
  induction walks with
  | arrived links position =>
      exact .arrived links position
  | stays folder _ inductionHypothesis =>
      obtain ⟨others, folderNow⟩ := stillFolder folder
      exact .stays folderNow (inductionHypothesis filled)
  | goesUp folder _ inductionHypothesis =>
      obtain ⟨others, folderNow⟩ := stillFolder folder
      exact .goesUp folderNow (inductionHypothesis filled)
  | @misses links position step entries folder isName short entry =>
      obtain ⟨others, folderNow⟩ := stillFolder folder
      obtain ⟨tree, present, notLink⟩ := filled position step rfl
      have entryNow : others.lookup step = some tree := by
        simpa [FileTree.at?_snoc, folderNow, FileTree.entries?] using
          present
      exact .enters folderNow isName short entryNow notLink
        (.arrived links _)
  | endsAtLink links folder isName short entry notThrough =>
      obtain ⟨others, folderNow⟩ := stillFolder folder
      obtain ⟨now, entryNow, sameKind⟩ :=
        stillEntry folder folderNow entry
      cases sameKind
      exact .endsAtLink links folderNow isName short entryNow notThrough
  | followsLink folder isName short entry through _
      inductionHypothesis =>
      obtain ⟨others, folderNow⟩ := stillFolder folder
      obtain ⟨now, entryNow, sameKind⟩ :=
        stillEntry folder folderNow entry
      cases sameKind
      exact .followsLink folderNow isName short entryNow through
        (inductionHypothesis filled)
  | enters folder isName short entry notLink _ inductionHypothesis =>
      obtain ⟨others, folderNow⟩ := stillFolder folder
      obtain ⟨now, entryNow, sameKind⟩ :=
        stillEntry folder folderNow entry
      have notLinkNow (target : String) : now ≠ .link target := by
        rintro rfl
        cases sameKind
        exact notLink target rfl
      exact .enters folderNow isName short entryNow notLinkNow
        (inductionHypothesis filled)

/-- What is found is found again as long as the ways are kept. -/
theorem found_again
    {after : Disk}
    {found : List String}
    (walks :
      disk.Walks throughLast links position remaining (.found found))
    (keeps : disk.top.KeepsWays after.top) :
    after.Walks throughLast links position remaining (.found found) :=
  walks.again keeps nofun

/-- What a link at the end leads to is there, so the link itself is found. -/
theorem without_last
    {found : List String}
    (walks : disk.Walks true links position remaining (.found found)) :
    ∃ other, disk.Walks false links position remaining (.found other) := by
  generalize arrives : Place.found found = place at walks
  induction walks with
  | arrived links position =>
      exact ⟨position, .arrived links position⟩
  | stays folder _ inductionHypothesis =>
      obtain ⟨other, walks⟩ := inductionHypothesis arrives
      exact ⟨other, .stays folder walks⟩
  | goesUp folder _ inductionHypothesis =>
      obtain ⟨other, walks⟩ := inductionHypothesis arrives
      exact ⟨other, .goesUp folder walks⟩
  | misses =>
      cases arrives
  | endsAtLink _ _ _ _ _ notThrough =>
      cases notThrough
  | @followsLink links _ rest _ _ _ _ folder isName short entry _ _
      inductionHypothesis =>
      obtain ⟨other, walks⟩ := inductionHypothesis arrives
      by_cases last : rest = []
      · subst last
        exact ⟨_, .endsAtLink (links + 1) folder isName short entry rfl⟩
      · exact ⟨other,
          .followsLink folder isName short entry (.inl last) walks⟩
  | enters folder isName short entry notLink _ inductionHypothesis =>
      obtain ⟨other, walks⟩ := inductionHypothesis arrives
      exact ⟨other, .enters folder isName short entry notLink walks⟩

/-- A walk goes one step further from what it has found. -/
theorem snoc
    {found : List String}
    {step : String}
    (walks : disk.Walks true links position remaining (.found found))
    (further :
      ∀ links, disk.Walks throughLast links found [step] place) :
    disk.Walks throughLast links position (remaining ++ [step]) place := by
  generalize arrives : Place.found found = reached at walks
  induction walks with
  | arrived links position =>
      cases arrives
      exact further links
  | stays folder _ inductionHypothesis =>
      exact .stays folder (inductionHypothesis arrives)
  | goesUp folder _ inductionHypothesis =>
      exact .goesUp folder (inductionHypothesis arrives)
  | misses =>
      cases arrives
  | endsAtLink _ _ _ _ _ notThrough =>
      cases notThrough
  | followsLink folder isName short entry _ _ inductionHypothesis =>
      have onward := inductionHypothesis arrives
      rw [List.append_assoc] at onward
      exact .followsLink folder isName short entry (.inl (by simp)) onward
  | enters folder isName short entry notLink _ inductionHypothesis =>
      exact .enters folder isName short entry notLink
        (inductionHypothesis arrives)

/-- The last step of a walk starts from what the steps before it find. -/
theorem of_snoc
    {step : String}
    (walks :
      disk.Walks throughLast links position (remaining ++ [step]) place) :
    ∃ found left,
      disk.Walks true links position remaining (.found found) ∧
        disk.Walks throughLast left found [step] place := by
  generalize shape : remaining ++ [step] = all at walks
  induction walks generalizing remaining with
  | arrived =>
      simp at shape
  | @stays links position rest entries place folder walks
      inductionHypothesis =>
      rcases List.append_eq_cons_iff.mp shape with
        ⟨rfl, same⟩ | ⟨before, rfl, rfl⟩
      · obtain ⟨rfl, rfl⟩ := List.cons_eq_cons.mp same
        exact ⟨position, links, .arrived links position,
          .stays folder walks⟩
      · obtain ⟨found, left, earlier, last⟩ := inductionHypothesis rfl
        exact ⟨found, left, .stays folder earlier, last⟩
  | @goesUp links position rest entries place folder walks
      inductionHypothesis =>
      rcases List.append_eq_cons_iff.mp shape with
        ⟨rfl, same⟩ | ⟨before, rfl, rfl⟩
      · obtain ⟨rfl, rfl⟩ := List.cons_eq_cons.mp same
        exact ⟨position, links, .arrived links position,
          .goesUp folder walks⟩
      · obtain ⟨found, left, earlier, last⟩ := inductionHypothesis rfl
        exact ⟨found, left, .goesUp folder earlier, last⟩
  | @misses links position name entries folder isName short entry =>
      rcases List.append_eq_cons_iff.mp shape with
        ⟨rfl, same⟩ | ⟨before, rfl, nothing⟩
      · obtain ⟨rfl, -⟩ := List.cons_eq_cons.mp same
        exact ⟨position, links, .arrived links position,
          .misses links folder isName short entry⟩
      · simp at nothing
  | @endsAtLink links position name target entries folder isName short
      entry notThrough =>
      rcases List.append_eq_cons_iff.mp shape with
        ⟨rfl, same⟩ | ⟨before, rfl, nothing⟩
      · obtain ⟨rfl, -⟩ := List.cons_eq_cons.mp same
        exact ⟨position, links, .arrived links position,
          .endsAtLink links folder isName short entry notThrough⟩
      · simp at nothing
  | @followsLink links position rest name target entries place folder
      isName short entry through walks inductionHypothesis =>
      rcases List.append_eq_cons_iff.mp shape with
        ⟨rfl, same⟩ | ⟨before, rfl, rfl⟩
      · obtain ⟨rfl, rfl⟩ := List.cons_eq_cons.mp same
        exact ⟨position, links + 1, .arrived (links + 1) position,
          .followsLink folder isName short entry through walks⟩
      · obtain ⟨found, left, earlier, last⟩ :=
          inductionHypothesis (List.append_assoc ..)
        exact ⟨found, left,
          .followsLink folder isName short entry (.inr rfl) earlier, last⟩
  | @enters links position rest name entries child place folder isName
      short entry notLink walks inductionHypothesis =>
      rcases List.append_eq_cons_iff.mp shape with
        ⟨rfl, same⟩ | ⟨before, rfl, rfl⟩
      · obtain ⟨rfl, rfl⟩ := List.cons_eq_cons.mp same
        exact ⟨position, links, .arrived links position,
          .enters folder isName short entry notLink walks⟩
      · obtain ⟨found, left, earlier, last⟩ := inductionHypothesis rfl
        exact ⟨found, left,
          .enters folder isName short entry notLink earlier, last⟩

end Walks

end Disk

end AssessmentChat
