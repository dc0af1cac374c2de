import SheetPricing.Proofs.Storage.BlobStore

/-! Making the directories before a file. Where no file stands on the way they are all made, and then
only the lengths of the names decide whether the file is written. -/
namespace SheetPricing.Storage

/-- A path that is short enough, with names that are short enough. -/
structure Path.Fits (path : Path) : Prop where
  text : path.text.utf8ByteSize ≤ FileTree.maxPathBytes
  names : ∀ name ∈ path.names, FileTree.isTooLong name = false

theorem Path.Fits.parent {path : Path} (fits : path.Fits) : path.parent.Fits := by
  refine ⟨?_, fun name inside => fits.names name (List.dropLast_subset _ inside)⟩
  by_cases some : path.names.dropLast = []
  · have anchor : path.anchor.utf8ByteSize ≤ FileTree.maxPathBytes ∨ path.anchor.isEmpty := by
      rcases anchored : path.anchor.isEmpty with _ | _
      · have whole := fits.text
        rw [Path.text, anchored, Bool.false_and, if_neg Bool.false_ne_true,
          String.utf8ByteSize_append] at whole
        exact .inl (Nat.le_trans (Nat.le_add_right _ _) whole)
      · exact .inr rfl
    rw [Path.parent, Path.text, some]
    rcases anchor with short | empty
    · split
      · decide
      · simpa using short
    · rw [empty]
      exact show ".".utf8ByteSize ≤ FileTree.maxPathBytes by decide
  · exact (Path.size_text_le some (List.dropLast_sublist _)).trans fits.text

namespace FileTree
open Path
variable {β : Type} {tree made : FileTree β} {before next names rest found : List String}
  {path : Path} {name : String} {data : β}

/-- No file stands on the way along some names. -/
def Clear (tree : FileTree β) (before names : List String) : Prop :=
  ∀ front, front <+: names → tree.files.get? (resolveNames (before ++ front)) = none

/-- A step to a directory that is there: back, or down by one name. -/
inductive Step (tree : FileTree β) (before : List String) : String → List String → Prop
  | back : Step tree before back before.dropLast
  | down (name : String) (forward : name ≠ Path.back) (short : isTooLong name = false)
      (free : tree.files.get? (before ++ [name]) = none)
      (inside : before ++ [name] ∈ tree.directories) : Step tree before name (before ++ [name])

namespace Step

theorem short (step : tree.Step before name next) : isTooLong name = false := by
  cases step with
  | back => decide
  | down _ _ short => exact short

/-- Where steps back are carried out already, a step carries out the next one. -/
theorem next_eq (step : tree.Step before name next) (forward : Path.back ∉ before) :
    next = resolveNames (before ++ [name]) := by
  rw [resolveNames_concat, resolveNames_eq_self forward]
  cases step with
  | back => rw [if_pos rfl]
  | down _ other => rw [if_neg other]

theorem addDirectory (step : tree.Step before name next) (added : List String) :
    (tree.addDirectory added).Step before name next := by
  cases step with
  | back => exact .back
  | down _ forward short free inside =>
    refine .down name forward short ?_ (mem_addDirectory.mpr (.inr inside))
    rw [files_addDirectory]
    exact free

theorem reach (step : tree.Step before name next) (rest : List String) :
    tree.reach before (name :: rest) = tree.reach next rest := by
  rw [FileTree.reach]
  cases step with
  | back => rw [if_pos rfl]
  | down _ forward short free inside =>
    rw [if_neg forward, short, if_neg Bool.false_ne_true]
    dsimp only
    rw [Table.contains, free, Option.isSome_none, if_neg Bool.false_ne_true, if_pos inside]

theorem walk (step : tree.Step before name next) (rest : List String) :
    tree.walk before (name :: rest) = tree.walk next rest := by
  rw [FileTree.walk]
  cases step with
  | back => rw [if_pos rfl]
  | down _ forward short free inside =>
    rw [if_neg forward, short, if_neg Bool.false_ne_true]
    dsimp only
    rw [free]
    dsimp only
    rw [if_pos inside]

end Step

theorem step_of_reach (ok : tree.reach before (name :: rest) = .ok found) :
    ∃ next, tree.Step before name next ∧ tree.reach next rest = .ok found := by
  rw [reach] at ok
  split at ok
  · next same => exact ⟨_, same ▸ .back, ok⟩
  next forward =>
    split at ok
    · cases ok
    next short =>
      dsimp only at ok
      split at ok
      · cases ok
      next free =>
        split at ok
        · next inside =>
          rw [Table.contains, Option.not_isSome_iff_eq_none] at free
          exact ⟨_, .down name forward (eq_false_of_ne_true short) free inside, ok⟩
        · cases ok

theorem step_of_walk (ends : tree.walk before (name :: rest) = .ok .directory) :
    ∃ next, tree.Step before name next ∧ tree.walk next rest = .ok .directory := by
  rw [walk] at ends
  split at ends
  · next same => exact ⟨_, same ▸ .back, ends⟩
  next forward =>
    split at ends
    · cases ends
    next short =>
      dsimp only at ends
      split at ends
      · split at ends <;> cases ends
      next free =>
        split at ends
        · next inside => exact ⟨_, .down name forward (eq_false_of_ne_true short) free inside, ends⟩
        · cases ends

/-- Where no file stands there is a step, or the directory is missing. -/
theorem step_cases (free : name ≠ back → tree.files.get? (before ++ [name]) = none)
    (short : isTooLong name = false) (rest : List String) :
    (∃ next, tree.Step before name next) ∨ tree.reach before (name :: rest) = .error .notFound := by
  by_cases forward : name = back
  · subst forward
    exact .inl ⟨_, .back⟩
  by_cases inside : before ++ [name] ∈ tree.directories
  · exact .inl ⟨_, .down name forward short (free forward) inside⟩
  · right
    rw [reach, if_neg forward, short, if_neg Bool.false_ne_true]
    dsimp only
    rw [Table.contains, free forward, Option.isSome_none, if_neg Bool.false_ne_true, if_neg inside]

theorem Clear.first (clear : tree.Clear before (name :: rest)) (forward : back ∉ before)
    (other : name ≠ back) : tree.files.get? (before ++ [name]) = none := by
  have free := clear [name] ⟨rest, rfl⟩
  rwa [resolveNames_concat, if_neg other, resolveNames_eq_self forward] at free

theorem Clear.onward (clear : tree.Clear before (name :: rest)) (forward : back ∉ before)
    (step : tree.Step before name next) : tree.Clear next rest := by
  intro front prior
  have free := clear (name :: front) ((List.prefix_cons_inj name).mpr prior)
  rwa [step.next_eq forward, resolveNames_resolveNames_append, List.append_assoc]

theorem Clear.dropLast (clear : tree.Clear before names) : tree.Clear before names.dropLast :=
  fun front prior => clear front (prior.trans (List.dropLast_prefix names))

theorem reach_cases (clear : tree.Clear before names) (forward : back ∉ before)
    (short : ∀ name ∈ names, isTooLong name = false) :
    (∃ found, tree.reach before names = .ok found) ∨ tree.reach before names = .error .notFound := by
  induction names generalizing before with
  | nil => exact .inl ⟨before, rfl⟩
  | cons name rest ih =>
    rcases step_cases (clear.first forward) (short name List.mem_cons_self) rest with
      ⟨next, step⟩ | missing
    · have onward : back ∉ next := by
        rw [step.next_eq forward]
        exact back_notMem_resolveNames _
      rw [step.reach]
      exact ih (clear.onward forward step) onward
        fun other inside => short other (List.mem_cons_of_mem _ inside)
    · exact .inr missing

theorem short_of_reach (ok : tree.reach before names = .ok found) :
    ∀ name ∈ names, isTooLong name = false := by
  induction names generalizing before with
  | nil => exact fun name inside => absurd inside List.not_mem_nil
  | cons name rest ih =>
    obtain ⟨next, step, ok⟩ := step_of_reach ok
    intro other inside
    rcases List.mem_cons.mp inside with rfl | inside
    · exact step.short
    · exact ih ok other inside

theorem reach_append (ok : tree.reach before names = .ok found) (rest : List String) :
    tree.reach before (names ++ rest) = tree.reach found rest := by
  induction names generalizing before with
  | nil =>
    obtain rfl := Except.ok.inj ok
    rfl
  | cons name more ih =>
    obtain ⟨next, step, ok⟩ := step_of_reach ok
    rw [List.cons_append, step.reach, ih ok]

theorem walk_of_reach (ok : tree.reach before names = .ok found) :
    tree.walk before names = .ok .directory := by
  induction names generalizing before with
  | nil => rfl
  | cons name rest ih =>
    obtain ⟨next, step, ok⟩ := step_of_reach ok
    rw [step.walk, ih ok]

theorem reach_of_walk (ends : tree.walk before names = .ok .directory) :
    ∃ found, tree.reach before names = .ok found := by
  induction names generalizing before with
  | nil => exact ⟨before, rfl⟩
  | cons name rest ih =>
    obtain ⟨next, step, ends⟩ := step_of_walk ends
    rw [step.reach]
    exact ih ends

/-- What is reached stays within reach when a directory is added. -/
theorem reach_addDirectory (ok : tree.reach before names = .ok found) (added : List String) :
    (tree.addDirectory added).reach before names = .ok found := by
  induction names generalizing before with
  | nil => exact ok
  | cons name rest ih =>
    obtain ⟨next, step, ok⟩ := step_of_reach ok
    rw [(step.addDirectory added).reach, ih ok]

/-- A directory that is reached along a path. -/
def Passable (tree : FileTree β) (path : Path) : Prop :=
  ∃ found, tree.reach [] path.names = .ok found

theorem Passable.unlessDirectory (passable : tree.Passable path)
    (short : path.text.utf8ByteSize ≤ maxPathBytes) (problem : FileProblem) :
    tree.unlessDirectory [] path problem = .ok () := by
  obtain ⟨found, ok⟩ := passable
  have ends : tree.find [] path = .ok .directory := by
    rw [find, if_neg (Nat.not_lt.mpr short), ite_self]
    exact walk_of_reach ok
  rw [FileTree.unlessDirectory, ends]

theorem fits_of_unlessDirectory {problem : FileProblem}
    (ok : tree.unlessDirectory [] path problem = .ok ()) : path.Fits := by
  rw [unlessDirectory] at ok
  split at ok
  · next ends =>
    rw [find, ite_self] at ends
    split at ends
    · cases ends
    · next short =>
      obtain ⟨found, ok⟩ := reach_of_walk ends
      exact ⟨Nat.not_lt.mp short, short_of_reach ok⟩
  · cases ok
  · cases ok

/-- The last of the names that a path has. -/
theorem names_eq_concat {last : String} (ends : path.names.getLast? = some last) :
    path.names = path.parent.names ++ [last] := by
  obtain ⟨before, names⟩ := List.getLast?_eq_some_iff.mp ends
  rw [parent, names, List.dropLast_concat]

/-- A directory is made below one that is there, and it was not there before. -/
theorem makeOne_ok (ok : tree.makeOne [] path = .ok made) :
    ∃ found last, tree.reach [] path.parent.names = .ok found ∧
      path.names = path.parent.names ++ [last] ∧ last ≠ back ∧
      tree.files.get? (found ++ [last]) = none ∧ path.Fits ∧
      made = tree.addDirectory (found ++ [last]) := by
  rw [makeOne] at ok
  split at ok
  · cases ok
  next short =>
    obtain ⟨found, reached, ok⟩ := ok_of_bind ok
    rw [ite_self] at reached
    split at ok
    · cases ok
    next last ends =>
      dsimp only at ok
      split at ok
      · cases ok
      next forward =>
        split at ok
        · cases ok
        next fits =>
          split at ok
          · cases ok
          next free =>
            simp only [Bool.or_eq_true, not_or, Table.contains, Option.not_isSome_iff_eq_none]
              at free
            have names := names_eq_concat ends
            refine ⟨found, last, reached, names, forward, free.1, ⟨Nat.not_lt.mp short, ?_⟩,
              (Except.ok.inj ok).symm⟩
            rw [names]
            intro name inside
            rcases List.mem_append.mp inside with inside | inside
            · exact short_of_reach reached name inside
            · obtain rfl := List.mem_singleton.mp inside
              exact eq_false_of_ne_true fits

theorem passable_of_makeOne (ok : tree.makeOne [] path = .ok made) : made.Passable path := by
  obtain ⟨found, last, reached, names, forward, free, fits, rfl⟩ := makeOne_ok ok
  have short := fits.names last (names ▸ List.mem_append_right _ (List.mem_singleton_self _))
  refine ⟨found ++ [last], ?_⟩
  have step : (tree.addDirectory (found ++ [last])).Step found last (found ++ [last]) := by
    refine .down last forward short ?_ (mem_addDirectory.mpr (.inl rfl))
    rwa [files_addDirectory]
  rw [names, reach_append (reach_addDirectory reached _), step.reach]
  rfl

/-- On a way without files a directory is made, or the one before it is missing, or it is there. -/
theorem makeOne_cases (formed : tree.WellFormed) (clear : tree.Clear [] path.names)
    (fits : path.Fits) :
    (∃ made, tree.makeOne [] path = .ok made) ∨
      (tree.makeOne [] path = .error .notFound ∧ path.names ≠ [] ∧ ¬ tree.Passable path.parent) ∨
      tree.makeOne [] path = .error .alreadyExists ∧ tree.Passable path := by
  rw [makeOne, if_neg (Nat.not_lt.mpr fits.text), ite_self]
  cases ends : path.names.getLast? with
  | none =>
    have empty := List.getLast?_eq_none_iff.mp ends
    refine .inr (.inr ⟨?_, [], by rw [empty]; rfl⟩)
    rw [empty]
    rfl
  | some last =>
    have names := names_eq_concat ends
    have short := fits.names last (names ▸ List.mem_append_right _ (List.mem_singleton_self _))
    rw [show path.names.dropLast = path.parent.names from rfl]
    rcases reach_cases clear.dropLast List.not_mem_nil
      (fun name inside => fits.names name (List.dropLast_subset _ inside)) with
      ⟨found, reached⟩ | missing
    · have reached : tree.reach [] path.parent.names = .ok found := reached
      have through (step : ∃ next, tree.Step found last next) : tree.Passable path := by
        obtain ⟨next, step⟩ := step
        refine ⟨next, ?_⟩
        rw [names, reach_append reached, step.reach]
        rfl
      rw [reached]
      dsimp only [pure, bind, Except.pure, Except.bind]
      split
      · next same => exact .inr (.inr ⟨rfl, through (same ▸ ⟨_, .back⟩)⟩)
      next forward =>
        have free := clear path.names List.prefix_rfl
        rw [List.nil_append, names, resolveNames_concat, if_neg forward,
          ← List.nil_append path.parent.names, ← (formed.reached (.inl rfl) reached).1] at free
        rw [short, if_neg Bool.false_ne_true, Table.contains, free]
        dsimp only [Option.isSome_none, Bool.false_or]
        split
        · next inside =>
          have inside := of_decide_eq_true inside
          exact .inr (.inr ⟨rfl, through ⟨_, .down last forward short free inside⟩⟩)
        · exact .inl ⟨_, rfl⟩
    · have missing : tree.reach [] path.parent.names = .error .notFound := missing
      rw [missing]
      refine .inr (.inl ⟨rfl, by simp [names], ?_⟩)
      rintro ⟨found, reached⟩
      cases missing.symm.trans reached

/-- On a way without files all directories are made. -/
theorem makeDirectory_of_clear (formed : tree.WellFormed) (clear : tree.Clear [] path.names)
    (fits : path.Fits) :
    (tree.makeDirectory [] path).1 = .ok () ∧ (tree.makeDirectory [] path).2.Passable path := by
  fun_induction FileTree.makeDirectory tree [] path with
  | case1 path made one => exact ⟨rfl, passable_of_makeOne one⟩
  | case2 path problem _ _ error made earlier ih =>
    rw [earlier] at ih
    cases (ih clear.dropLast fits.parent).1
  | case3 path problem _ _ made earlier all one ih => exact ⟨rfl, passable_of_makeOne one⟩
  | case4 path problem _ _ made earlier later failed ih =>
    have kept := formed.makeDirectory path.parent
    rw [earlier] at ih kept
    have again : made.Clear [] path.names := by
      rw [Clear, kept.files]
      exact clear
    rcases makeOne_cases kept.formed again fits with
      ⟨all, one⟩ | ⟨_, _, missing⟩ | ⟨_, passable⟩
    · cases failed.symm.trans one
    · exact absurd (ih clear.dropLast fits.parent).2 missing
    · exact ⟨passable.unlessDirectory fits.text _, passable⟩
  | case5 path problem failed other =>
    rcases makeOne_cases formed clear fits with
      ⟨all, one⟩ | ⟨missing, some, _⟩ | ⟨_, passable⟩
    · cases failed.symm.trans one
    · exact absurd ⟨Except.error.inj (failed.symm.trans missing), some⟩ other
    · exact ⟨passable.unlessDirectory fits.text _, passable⟩

theorem fits_of_makeDirectory (path : Path) :
    (tree.makeDirectory [] path).1 = .ok () → path.Fits := by
  have one {tree made : FileTree β} {path : Path} (ok : tree.makeOne [] path = .ok made) :
      path.Fits := by
    obtain ⟨_, _, _, _, _, _, fits, _⟩ := makeOne_ok ok
    exact fits
  fun_cases FileTree.makeDirectory tree [] path with
  | case1 made ok => exact fun _ => one ok
  | case2 => exact fun failed => by cases failed
  | case3 problem _ _ made earlier all ok => exact fun _ => one ok
  | case4 => exact fits_of_unlessDirectory
  | case5 => exact fits_of_unlessDirectory

/-- Every directory that is made is on the way. -/
theorem directories_makeDirectory (formed : tree.WellFormed) (path : Path) :
    ∀ names ∈ (tree.makeDirectory [] path).2.directories, names ∈ tree.directories ∨
      ∃ front, front <+: path.names ∧ names = resolveNames front := by
  have last {tree made : FileTree β} {path : Path} (formed : tree.WellFormed)
      (ok : tree.makeOne [] path = .ok made) (names : List String)
      (inside : names ∈ made.directories) :
      names = resolveNames path.names ∨ names ∈ tree.directories := by
    obtain ⟨found, name, reached, whole, forward, _, _, rfl⟩ := makeOne_ok ok
    have here : resolveNames path.names = found ++ [name] := by
      rw [whole, resolveNames_concat, if_neg forward, (formed.reached (.inl rfl) reached).1,
        List.nil_append]
    rw [here]
    exact mem_addDirectory.mp inside
  have earlier {path : Path} {names : List String}
      (before : ∃ front, front <+: path.parent.names ∧ names = resolveNames front) :
      ∃ front, front <+: path.names ∧ names = resolveNames front := by
    obtain ⟨front, prior, same⟩ := before
    exact ⟨front, prior.trans (List.dropLast_prefix _), same⟩
  fun_induction FileTree.makeDirectory tree [] path with
  | case1 path made ok =>
    intro names inside
    rcases last formed ok names inside with here | before
    · exact .inr ⟨_, List.prefix_rfl, here⟩
    · exact .inl before
  | case2 path problem _ _ error made before ih =>
    rw [before] at ih
    exact fun names inside => (ih names inside).imp_right earlier
  | case3 path problem _ _ made before all ok ih =>
    have kept := (formed.makeDirectory path.parent).formed
    rw [before] at ih kept
    intro names inside
    rcases last kept ok names inside with here | inside
    · exact .inr ⟨_, List.prefix_rfl, here⟩
    · exact (ih names inside).imp_right earlier
  | case4 path problem _ _ made before later _ ih =>
    rw [before] at ih
    exact fun names inside => (ih names inside).imp_right earlier
  | case5 path problem _ _ => exact fun names inside => .inl inside

theorem write_ok {written : FileTree β} (ok : tree.write path data = .ok written) :
    isTooLong path.name = false ∧ path.text.utf8ByteSize ≤ maxPathBytes ∧
      written.directories = tree.directories := by
  rw [write] at ok
  split at ok
  · cases ok
  next short =>
    simp only [Bool.or_eq_true, decide_eq_true_eq, not_or, Nat.not_lt] at short
    split at ok
    · cases ok
    · obtain rfl := Except.ok.inj ok
      exact ⟨eq_false_of_ne_true short.1, short.2, rfl⟩

theorem directories_place (tree : FileTree β) (path : Path) (data : β) :
    (tree.place path data).2.directories = (tree.makeDirectory [] path.parent).2.directories := by
  rw [place]
  rcases tree.makeDirectory [] path.parent with ⟨error | done, made⟩
  · rfl
  · dsimp only
    cases ok : made.write path data with
    | error error => rfl
    | ok written => exact (write_ok ok).2.2

/-- Where no file and no directory is in the way, a file is written if and only if its path fits. -/
theorem place_eq_ok_iff (formed : tree.WellFormed) (names : path.names = before ++ [name])
    (clear : tree.Clear [] path.parent.names)
    (free : path.resolve.names ∉ (tree.makeDirectory [] path.parent).2.directories) (data : β) :
    (tree.place path data).1 = .ok () ↔ path.Fits := by
  have last : path.name = name := by simp [Path.name, names]
  have parent : path.parent.names = before := by simp [Path.parent, names]
  have early : (tree.makeDirectory [] path.parent).1 = .ok () → path.parent.Fits :=
    fits_of_makeDirectory path.parent
  have makes (fits : path.Fits) := makeDirectory_of_clear formed clear fits.parent
  rw [place]
  generalize tree.makeDirectory [] path.parent = making at free early makes
  obtain ⟨outcome, made⟩ := making
  constructor
  · intro ok
    rcases outcome with error | done
    · cases ok
    have earlier := early rfl
    dsimp only at ok
    cases written : made.write path data with
    | error error =>
      rw [written] at ok
      cases ok
    | ok after =>
      obtain ⟨short, text, _⟩ := write_ok written
      refine ⟨text, fun other inside => ?_⟩
      rw [names] at inside
      rcases List.mem_append.mp inside with inside | inside
      · exact earlier.names other (parent ▸ inside)
      · rw [List.mem_singleton.mp inside, ← last, short]
  · intro fits
    obtain ⟨rfl, _⟩ := makes fits
    have short := fits.names name (names ▸ List.mem_append_right _ (List.mem_singleton_self _))
    dsimp only
    rw [write, last, short, Bool.false_or, if_neg (by simpa using fits.text), if_neg free]

end FileTree
end SheetPricing.Storage
