import Rollout.Files.Edit
import Rollout.Proofs.Computation

/-!
# Written files

A file that was written is found under its path. Writing puts a node where no directory lies, so it
changes none of the directories that the path leads through.
-/

set_option autoImplicit false

namespace Rollout.Files

variable {files after : Files} {path place target : Path} {node : Node}

private theorem isGiven_put (files : Files) (place target : Path) (node : Node) :
    (files.put target node).isGiven place = files.isGiven place := rfl

private theorem lookup_filter {nodes : List (Path × Node)} (different : place ≠ target) :
    (nodes.filter fun entry => entry.1 != target).lookup place = nodes.lookup place := by
  have passed : (place == target) = false := beq_false_of_ne different
  induction nodes with
  | nil => rfl
  | cons entry rest ih =>
      rcases entry with ⟨key, kept⟩
      by_cases same : key = target
      · subst same
        simp [List.lookup_cons, passed, ih]
      · simp [same, List.lookup_cons, ih]

private theorem node?_put_of_ne (different : place ≠ target) :
    (files.put target node).node? place = files.node? place := by
  have passed : (place == target) = false := beq_false_of_ne different
  have others : (files.put target node).nodes.lookup place = files.nodes.lookup place := by
    rw [put, List.lookup_cons, passed]
    exact lookup_filter different
  rw [node?, node?, isGiven_put, others]

private theorem node?_put (notGiven : files.isGiven target = false) :
    (files.put target node).node? target = some node := by
  have found : (files.put target node).nodes.lookup target = some node := by
    rw [put, List.lookup_cons, beq_self_eq_true]
  rw [node?, isGiven_put, notGiven, found]
  rfl

/-- The way to a place leads through directories, which stay what they are. -/
theorem follow_put (node : Node) (free : files.node? target ≠ some .directory) :
    ∀ (parts : List String) (start : Path), files.follow start parts = .ok place →
      (files.put target node).follow start parts = .ok place
  | [], _, followed => followed
  | part :: rest, start, followed => by
      rw [follow] at followed
      cases found : files.node? start with
      | none => rw [found] at followed; cases followed
      | some here =>
          cases here with
          | text | octets | locked => rw [found] at followed; cases followed
          | directory =>
              have different : start ≠ target := by
                rintro rfl
                exact free found
              rw [found] at followed
              rw [follow, node?_put_of_ne different, found]
              dsimp only at followed ⊢
              split at followed
              · next up => rw [if_pos up]; exact follow_put node free rest _ followed
              · next down =>
                  rw [if_neg down]
                  split at followed
                  · cases followed
                  · next short => rw [if_neg short]; exact follow_put node free rest _ followed

private theorem locate_put (node : Node) (free : files.node? target ≠ some .directory)
    (located : files.locate path = .ok place) :
    (files.put target node).locate path = .ok place := by
  rw [locate] at located ⊢
  split at located
  · cases located
  · next proper =>
      split at located
      · cases located
      · next short =>
          rw [if_neg proper, if_neg short]
          cases followed : files.follow (files.origin path) path.parts with
          | error fault => rw [followed] at located; cases located
          | ok reached =>
              rw [followed] at located
              cases located
              have same : (files.put target node).follow (files.origin path) path.parts =
                  .ok place := follow_put node free path.parts (files.origin path) followed
              exact congrArg (·.mapError fun kind => FileFault.failed kind path) same

private theorem write_eq_ok (written : (write path node).run.run files = (.ok (), after)) :
    ∃ place, files.locate path = .ok place ∧ files.node? place ≠ some .directory ∧
      after = files.put place node := by
  obtain ⟨_, _, got, continued⟩ := Computation.run_bind_eq_ok written
  cases got
  obtain ⟨place, _, located, finished⟩ := Computation.run_bind_eq_ok continued
  cases found : files.locate path with
  | error fault => rw [found] at located; cases located
  | ok reached =>
      rw [found] at located
      cases located
      by_cases taken : files.node? place = some .directory
      · rw [if_pos taken] at finished
        cases finished
      · rw [if_neg taken] at finished
        cases finished
        exact ⟨place, rfl, taken, rfl⟩

private theorem isGiven_eq_false (free : files.node? target ≠ some .directory) :
    files.isGiven target = false := by
  cases given : files.isGiven target with
  | false => rfl
  | true => exact absurd (by rw [node?, given]; rfl) free

private theorem find_write (written : (write path node).run.run files = (.ok (), after)) :
    after.find path = .ok node := by
  obtain ⟨place, located, free, rfl⟩ := write_eq_ok written
  have there := locate_put node free located
  simp only [find, there, bind, Except.bind, node?_put (isGiven_eq_false free)]

/-- A file is found that was written into directories made for it. -/
theorem find_install (installed : (install path node).run.run files = (.ok (), after)) :
    after.find path = .ok node := by
  obtain ⟨_, middle, _, written⟩ := Computation.run_bind_eq_ok installed
  exact find_write written

theorem find_eq_ok_iff :
    files.find path = .ok node ↔
      ∃ place, files.locate path = .ok place ∧ files.node? place = some node := by
  unfold find
  cases files.locate path with
  | error fault => simp [bind, Except.bind]
  | ok place =>
      cases found : files.node? place with
      | none => simp [bind, Except.bind, found]
      | some other => simp [bind, Except.bind, found]

theorem isDirectory_eq_true_iff :
    files.isDirectory path = .ok true ↔ files.find path = .ok .directory := by
  unfold isDirectory leadsTo
  split
  · next found => simp [found]
  · next failed => simp [failed]
  · next failed => simp [failed]

private theorem run_get (files : Files) :
    (get : Edit Files).run.run files = (.ok files, files) := rfl

private theorem run_liftM {α : Type} {computation : Except FileFault α} {value : α}
    (computed : computation = .ok value) (files : Files) :
    (liftM computation : Edit α).run.run files = (.ok value, files) := by
  rw [computed]
  rfl

private theorem makeDirectory_of_find (found : files.find path = .ok node) :
    (makeDirectory path).run.run files = (.error (.failed .alreadyThere path), files) := by
  obtain ⟨place, located, given⟩ := find_eq_ok_iff.mp found
  refine (Computation.run_bind_ok (run_get files)).trans ?_
  refine (Computation.run_bind_ok (run_liftM located files)).trans ?_
  rw [given]
  rfl

private theorem ensurePath_of_isDirectory (there : files.isDirectory path = .ok true) :
    (ensurePath path).run.run files = (.ok (), files) := by
  have made := makeDirectory_of_find (isDirectory_eq_true_iff.mp there)
  have rescued : (unlessDirectory path (.failed .alreadyThere path)).run.run files =
      (.ok (), files) := by
    refine (Computation.run_bind_ok (run_get files)).trans ?_
    exact Computation.run_bind_ok (run_liftM there files)
  unfold ensurePath
  cases path.parts.length with
  | zero => exact (Computation.run_tryCatch_error made).trans rescued
  | succ depth => exact (Computation.run_tryCatch_error made).trans rescued

theorem install_of_isDirectory (there : files.isDirectory path.parent = .ok true)
    (located : files.locate path = .ok target) (free : files.node? target ≠ some .directory) :
    (install path node).run.run files = (.ok (), files.put target node) := by
  refine (Computation.run_bind_ok (ensurePath_of_isDirectory there)).trans ?_
  refine (Computation.run_bind_ok (run_get files)).trans ?_
  refine (Computation.run_bind_ok (run_liftM located files)).trans ?_
  rw [if_neg free]
  rfl

/-!
## Writing again
-/

private theorem isDirectory_of_makeDirectory
    (made : (makeDirectory path).run.run files = (.ok (), after)) :
    after.isDirectory path = .ok true := by
  obtain ⟨_, _, got, continued⟩ := Computation.run_bind_eq_ok made
  cases got
  obtain ⟨place, _, located, finished⟩ := Computation.run_bind_eq_ok continued
  cases found : files.locate path with
  | error fault => rw [found] at located; cases located
  | ok reached =>
      rw [found] at located
      cases located
      cases given : files.node? place with
      | some there => rw [given] at finished; cases finished
      | none =>
          rw [given] at finished
          cases finished
          have free : files.node? place ≠ some .directory := by simp [given]
          rw [isDirectory_eq_true_iff, find_eq_ok_iff]
          exact ⟨place, locate_put _ free found, node?_put (isGiven_eq_false free)⟩

private theorem isDirectory_of_unlessDirectory {fault : FileFault}
    (passed : (unlessDirectory path fault).run.run files = (.ok (), after)) :
    after.isDirectory path = .ok true := by
  obtain ⟨_, _, got, continued⟩ := Computation.run_bind_eq_ok passed
  cases got
  obtain ⟨there, _, looked, finished⟩ := Computation.run_bind_eq_ok continued
  cases found : files.isDirectory path with
  | error fault => rw [found] at looked; cases looked
  | ok is =>
      rw [found] at looked
      cases looked
      cases there with
      | false => cases finished
      | true =>
          cases finished
          exact found

private theorem isDirectory_of_ensureDirectory
    (ensured : (ensureDirectory path).run.run files = (.ok (), after)) :
    after.isDirectory path = .ok true := by
  obtain made | ⟨_, _, passed⟩ := Computation.run_tryCatch_eq_ok ensured
  · exact isDirectory_of_makeDirectory made
  · exact isDirectory_of_unlessDirectory passed

private theorem isDirectory_of_ensurePath (ensured : (ensurePath path).run.run files = (.ok (), after)) :
    after.isDirectory path = .ok true := by
  unfold ensurePath at ensured
  generalize path.parts.length = depth at ensured
  cases depth with
  | zero => exact isDirectory_of_ensureDirectory ensured
  | succ depth =>
      obtain made | ⟨fault, middle, rescued⟩ := Computation.run_tryCatch_eq_ok ensured
      · exact isDirectory_of_makeDirectory made
      · split at rescued
        · split at rescued
          · cases rescued
          · obtain ⟨_, _, _, last⟩ := Computation.run_bind_eq_ok rescued
            exact isDirectory_of_ensureDirectory last
        · exact isDirectory_of_unlessDirectory rescued

/-- A node that is put where no directory lies leaves the directories. -/
theorem isDirectory_put (node : Node) (free : files.node? target ≠ some .directory)
    (there : files.isDirectory path = .ok true) :
    (files.put target node).isDirectory path = .ok true := by
  obtain ⟨place, located, here⟩ := find_eq_ok_iff.mp (isDirectory_eq_true_iff.mp there)
  have differs : place ≠ target := by
    rintro rfl
    exact free here
  rw [isDirectory_eq_true_iff, find_eq_ok_iff]
  exact ⟨place, locate_put _ free located, (node?_put_of_ne differs).trans here⟩

/-- Where a node can be installed does not depend on the node. -/
theorem install_other (installed : (install path node).run.run files = (.ok (), after))
    (other : Node) : ∃ last, (install path other).run.run files = (.ok (), last) := by
  obtain ⟨_, middle, ensured, written⟩ := Computation.run_bind_eq_ok installed
  obtain ⟨place, located, free, _⟩ := write_eq_ok written
  refine ⟨middle.put place other, (Computation.run_bind_ok ensured).trans ?_⟩
  refine (Computation.run_bind_ok (run_get middle)).trans ?_
  refine (Computation.run_bind_ok (run_liftM located middle)).trans ?_
  rw [if_neg free]
  rfl

/-- Where a file was installed, another can be. -/
theorem install_again {content : String}
    (installed : (install path (.text content)).run.run files = (.ok (), after)) (other : Node) :
    ∃ last, (install path other).run.run after = (.ok (), last) := by
  obtain ⟨_, middle, ensured, written⟩ := Computation.run_bind_eq_ok installed
  obtain ⟨place, located, free, rfl⟩ := write_eq_ok written
  have still := isDirectory_put (.text content) free (isDirectory_of_ensurePath ensured)
  refine ⟨_, install_of_isDirectory still (locate_put _ free located) ?_⟩
  rw [node?_put (isGiven_eq_false free)]
  simp

private theorem find_put (node : Node) (free : files.node? target ≠ some .directory)
    (located : files.locate path = .ok place) (apart : place ≠ target) :
    (files.put target node).find path = files.find path := by
  have there := locate_put node free located
  simp only [find, there, located, bind, Except.bind, node?_put_of_ne apart]

/-- A path under which a file can be written without a change to others: its directory is there,
and where it leads lies no directory and none of the others. -/
structure Apart (files : Files) (path target : Path) (others : List Path) : Prop where
  parent : files.isDirectory path.parent = .ok true
  located : files.locate path = .ok target
  free : files.node? target ≠ some .directory
  others : ∀ other ∈ others, ∃ place, files.locate other = .ok place ∧ place ≠ target

namespace Apart

variable {others : List Path} (apart : Apart files path target others)

include apart

theorem find_put {other : Path} (node : Node) (member : other ∈ others) :
    (files.put target node).find other = files.find other := by
  obtain ⟨place, located, differs⟩ := apart.others other member
  exact Files.find_put node apart.free located differs

/-- Once a file is written there, it can be written again. -/
theorem put (content : String) : Apart (files.put target (.text content)) path target others where
  parent := isDirectory_put _ apart.free apart.parent
  located := locate_put _ apart.free apart.located
  free := by
    rw [node?_put (isGiven_eq_false apart.free)]
    simp
  others other member := by
    obtain ⟨place, located, differs⟩ := apart.others other member
    exact ⟨place, locate_put _ apart.free located, differs⟩

end Apart

theorem isThere_of_find (found : files.find path = .ok node) : files.isThere path = .ok true := by
  rw [isThere, leadsTo, found]

private theorem plainLines_eq_self {text : List Char} (plain : '\r' ∉ text) :
    plainLines text = text := by
  induction text with
  | nil => rfl
  | cons char rest ih =>
      rw [List.mem_cons, not_or] at plain
      rw [plainLines, ih plain.2]
      · intro _ same _
        exact plain.1 same.symm
      · intro same
        exact plain.1 same.symm

/-- A text without carriage returns is read as it was written. -/
theorem readText_of_find {content : String} (found : files.find path = .ok (.text content))
    (plain : '\r' ∉ content.toList) : files.readText path = .ok content := by
  simp only [readText, found, bind, Except.bind, plainLines_eq_self plain, String.ofList_toList]
  rfl

end Rollout.Files
