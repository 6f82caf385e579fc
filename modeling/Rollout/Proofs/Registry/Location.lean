import Rollout.Proofs.Path
import Rollout.Registry.Location

/-!
# Files of chains

What stands in the name of a chain up to its last slash leads to the folder of its registry, and
what stands behind it names the file there. So chains whose names have no slashes have different
files in the directory of the registries, while other names may share a file or lead elsewhere.
-/

set_option autoImplicit false

namespace Rollout

/-- The directory of the registries. -/
def registryRoot (workingDirectory : Path) : Option Path → Path
  | some given => workingDirectory.join given
  | none => registryDirectory workingDirectory

/-- The folder of the registry of a chain. -/
def registryFolder (workingDirectory : Path) (chain : String) (directory : Option Path) : Path :=
  (registryRoot workingDirectory directory).child (Path.folder chain)

private theorem proper_fileName (chain : String) : Path.Proper (Path.leaf chain ++ ".json") where
  slash := by
    rw [String.toList_append, List.mem_append, not_or]
    exact ⟨Path.slash_notMem_leaf chain, by decide⟩
  filled := by
    rw [ne_eq, ← String.toList_inj, String.toList_append]
    simp
  moves := by
    -- the name ends in another character than the place itself
    intro same
    have last := congrArg (fun text : String => text.toList.getLast?) same
    simp at last

variable {workingDirectory : Path} {directory : Option Path}

private theorem registryPath_eq (chain : String) :
    registryPath workingDirectory chain directory =
      (registryFolder workingDirectory chain directory).child (Path.leaf chain ++ ".json") := by
  have path : registryPath workingDirectory chain directory =
      (registryRoot workingDirectory directory).child (chain ++ ".json") := by
    cases directory <;> rfl
  have name : chain ++ ".json" = Path.folder chain ++ (Path.leaf chain ++ ".json") := by
    rw [← String.append_assoc, Path.folder_append_leaf]
  rw [path, name, registryFolder,
    Path.child_append _ (Path.ended_folder chain) (proper_fileName chain)]

private theorem parent_registryPath (chain : String) :
    (registryPath workingDirectory chain directory).parent =
      registryFolder workingDirectory chain directory := by
  rw [registryPath_eq, Path.parent_child _ (proper_fileName chain)]

theorem registryPath_eq_iff {chain other : String} :
    registryPath workingDirectory chain directory = registryPath workingDirectory other directory ↔
      Path.leaf chain = Path.leaf other ∧
        registryFolder workingDirectory chain directory =
          registryFolder workingDirectory other directory := by
  rw [registryPath_eq, registryPath_eq,
    Path.child_inj (proper_fileName chain) (proper_fileName other)]
  refine and_congr_left fun _ => ⟨fun same => ?_, fun same => by rw [same]⟩
  have joined := congrArg String.toList same
  rw [String.toList_append, String.toList_append, List.append_left_inj] at joined
  exact String.toList_inj.mp joined

private theorem registryFolder_of_notMem {chain : String} (plain : '/' ∉ chain.toList) :
    registryFolder workingDirectory chain directory = registryRoot workingDirectory directory := by
  rw [registryFolder, Path.folder_of_notMem plain, Path.child_eq_self_iff, Path.ofString_empty]
  exact .inl rfl

/-- The file of a chain lies directly in the directory of the registries exactly if what stands
before the last slash of its name leads nowhere else, and two chains share a file exactly if what
stands behind is the same and what stands before leads to the same folder. So chains whose names
have no slashes have different files there. -/
theorem registryPath_placed (workingDirectory : Path) (directory : Option Path) :
    (∀ chain, (registryPath workingDirectory chain directory).parent =
        registryRoot workingDirectory directory ↔
      Path.ofString (Path.folder chain) = ⟨"", []⟩ ∨
        (Path.ofString (Path.folder chain)).isAbsolute = true ∧
          Path.ofString (Path.folder chain) = registryRoot workingDirectory directory) ∧
      (∀ chain other, registryPath workingDirectory chain directory =
          registryPath workingDirectory other directory ↔
        Path.leaf chain = Path.leaf other ∧
          (registryRoot workingDirectory directory).child (Path.folder chain) =
            (registryRoot workingDirectory directory).child (Path.folder other)) ∧
      ∀ chain other, '/' ∉ chain.toList → '/' ∉ other.toList → chain ≠ other →
        registryPath workingDirectory chain directory ≠
            registryPath workingDirectory other directory ∧
          (registryPath workingDirectory chain directory).parent =
            registryRoot workingDirectory directory ∧
          (registryPath workingDirectory other directory).parent =
            registryRoot workingDirectory directory := by
  refine ⟨?_, fun chain other => registryPath_eq_iff, ?_⟩
  · intro chain
    rw [parent_registryPath]
    exact Path.child_eq_self_iff
  · intro chain other plain plainToo differ
    rw [parent_registryPath, parent_registryPath, registryFolder_of_notMem plain,
      registryFolder_of_notMem plainToo]
    refine ⟨fun same => differ ?_, rfl, rfl⟩
    have leaves := (registryPath_eq_iff.mp same).1
    rwa [Path.leaf_of_notMem plain, Path.leaf_of_notMem plainToo] at leaves

/-- Two names that differ in a part for the place itself share a file, and a name that begins with a
slash leads away from the directory of the registries. -/
theorem dotted_chain_shares_file :
    ("devnet" ≠ "./devnet" ∧ registryPath ⟨"/", ["work"]⟩ "devnet" none =
        registryPath ⟨"/", ["work"]⟩ "./devnet" none) ∧
      registryRoot ⟨"/", ["work"]⟩ (some ⟨"", ["registries"]⟩) = ⟨"/", ["work", "registries"]⟩ ∧
      registryPath ⟨"/", ["work"]⟩ "/localterra" (some ⟨"", ["registries"]⟩) =
        ⟨"/", ["localterra.json"]⟩ := by
  simp only [registryPath, registryDirectory, registryRoot, Path.child, Path.ofString,
    Path.splitParts, Path.splitOn_slash]
  decide +kernel

end Rollout
