import Rollout.Proofs.Deployment.Resumption

/-!
# Registries that are saved again and again

A run that keeps its registry in a file writes it behind every contract. Where a registry could be
saved once, any that can be written can be saved from then on. Where that changes the code of no
contract, the run reads the code that was there when it began.
-/

set_option autoImplicit false

namespace Rollout

variable {σ : Type}

/-- What files come to when registries are saved under a path, one after another. -/
inductive Files.Resaved (path : Option Path) (files : Files) : Files → Prop where
  | refl : Resaved path files files
  | saved {place : Path} {now after : Files} {registry : Registry} {clock : String} :
      path = some place → Resaved path files now →
      (registry.save place clock).run.run now = (.ok (), after) → Resaved path files after

theorem Files.Resaved.trans {path : Option Path} {files now later : Files}
    (first : files.Resaved path now) (second : now.Resaved path later) :
    files.Resaved path later := by
  induction second with
  | refl => exact first
  | saved kept _ written ih => exact .saved kept ih written

namespace Deployment

/-- Saving registries under a path leaves the code of contracts as it is. -/
def KeepsCode (path : Option Path) (descriptors : List Descriptor) (files : Files) : Prop :=
  ∀ now, files.Resaved path now → ∀ descriptor ∈ descriptors,
    readBytecode now descriptor = readBytecode files descriptor

/-- A registry can be saved under a path, if it is to be kept under one. -/
def Saves (path : Option Path) (registry : Registry) (files : Files) : Prop :=
  ∀ place, path = some place → registry.Writable ∧
    ∃ node after, (Files.install place node).run.run files = (.ok (), after)

section

variable {path : Option Path} {place target : Path} {registry other : Registry} {files after : Files}
  {clock : String} {descriptors : List Descriptor}

private theorem saves_of_save
    (saved : (registry.save place clock).run.run files = (.ok (), after)) :
    Saves (some place) registry files := by
  obtain ⟨writable, installed⟩ := Registry.save_eq_ok_iff.mp saved
  rintro _ ⟨⟩
  exact ⟨writable, _, _, installed⟩

theorem Saves.save (saves : Saves (some place) registry files) (clock : String) :
    ∃ after, (registry.save place clock).run.run files = (.ok (), after) := by
  obtain ⟨writable, _, _, installed⟩ := saves place rfl
  obtain ⟨after, again⟩ := Files.install_other installed (.text (registry.print clock))
  exact ⟨after, Registry.save_eq_ok_iff.mpr ⟨writable, again⟩⟩

/-- Where a registry was saved, any that can be written can be. -/
theorem saves_after_save (saved : (registry.save place clock).run.run files = (.ok (), after))
    (writable : other.Writable) : Saves (some place) other after := by
  obtain ⟨_, installed⟩ := Registry.save_eq_ok_iff.mp saved
  obtain ⟨last, again⟩ := Files.install_again installed (.text "")
  rintro _ ⟨⟩
  exact ⟨writable, _, last, again⟩

/-- A registry can be saved still when others were. -/
theorem Saves.resaved {now : Files} (saves : Saves path registry files)
    (resaved : files.Resaved path now) : Saves path registry now := by
  cases resaved with
  | refl => exact saves
  | saved kept _ written =>
      subst kept
      exact saves_after_save written (saves _ rfl).1

theorem Saves.of_writable (saves : Saves path registry files)
    (writable : ∀ place, path = some place → other.Writable) : Saves path other files :=
  fun place kept => ⟨writable place kept, (saves place kept).2⟩

theorem Saves.of_subset {larger : Registry} (saves : Saves path larger files)
    (within : registry.records ⊆ larger.records) (chainId : registry.chainId = larger.chainId) :
    Saves path registry files := by
  intro place kept
  obtain ⟨writable, installs⟩ := saves place kept
  exact ⟨⟨chainId ▸ writable.chainId, fun record member => writable.records record (within member)⟩,
    installs⟩

theorem keepsCode_none (descriptors : List Descriptor) (files : Files) :
    KeepsCode none descriptors files := by
  intro now resaved
  cases resaved with
  | refl => exact fun _ _ => rfl
  | saved kept => cases kept

/-- A path that is apart from the code stays so, however often a registry is saved under it. -/
theorem resaved_apart (apart : Files.Apart files place target (descriptors.map (·.bytecode)))
    {now : Files} (resaved : files.Resaved (some place) now) :
    Files.Apart now place target (descriptors.map (·.bytecode)) ∧
      ∀ descriptor ∈ descriptors, readBytecode now descriptor = readBytecode files descriptor := by
  induction resaved with
  | refl => exact ⟨apart, fun _ _ => rfl⟩
  | @saved _ _ _ registry clock kept _ written ih =>
      obtain ⟨still, code⟩ := ih
      obtain rfl := Option.some.inj kept
      obtain ⟨_, installed⟩ := Registry.save_eq_ok_iff.mp written
      rw [Files.install_of_isDirectory still.parent still.located still.free] at installed
      cases installed
      refine ⟨still.put (registry.print clock), fun descriptor member => ?_⟩
      rw [← code descriptor member, readBytecode, readBytecode,
        still.find_put _ (List.mem_map_of_mem member)]

theorem keepsCode_of_apart (apart : Files.Apart files place target (descriptors.map (·.bytecode))) :
    KeepsCode (some place) descriptors files :=
  fun _ resaved => (resaved_apart apart resaved).2

end

section

variable {client : Client σ} {catalog : Schema.Catalog} {path : Option Path}
  {registry extended : Registry} {descriptor : Descriptor} {descriptors : List Descriptor}
  {session after : Session σ}

theorem Keeping.saves {ending : Except Halt Unit}
    (keeping : Keeping registry session path ending after) :
    ending = .ok () ∧ Saves path registry session.files ∨
      (∃ halt, ending = .error halt) ∧ ¬Saves path registry session.files := by
  cases keeping with
  | unasked => exact .inl ⟨rfl, fun _ kept => by cases kept⟩
  | saved written => exact .inl ⟨rfl, saves_of_save written⟩
  | failed unwritten =>
      refine .inr ⟨⟨_, rfl⟩, fun saves => ?_⟩
      obtain ⟨_, written⟩ := saves.save _
      cases written.symm.trans unwritten

private theorem Turn.resaved {ending : Except Halt Unit}
    (turn : Turn client catalog path registry descriptor session extended ending after)
    (ended : ending = .ok ()) : session.files.Resaved path after.files := by
  cases turn with
  | skipped _ quiet =>
      rw [quiet.files]
      exact .refl
  | halted => cases ended
  | recorded _ sends _ _ _ keeping =>
      cases keeping with
      | unasked =>
          rw [sends.files]
          exact .refl
      | saved written =>
          rw [sends.files] at written
          exact .saved rfl .refl written
      | failed => cases ended

theorem step_resaved
    (ran : (step client catalog path registry descriptor).run session =
      ((extended, .ok ()), after)) : session.files.Resaved path after.files := by
  obtain ⟨_, _, _, stepped, turn⟩ := step_turn client catalog path registry descriptor session
  rw [ran] at stepped
  cases stepped
  exact turn.resaved rfl

private theorem advance_resaved
    (ran : (advance client catalog path registry descriptors).run session =
      ((extended, .ok ()), after)) : session.files.Resaved path after.files := by
  induction descriptors generalizing registry session with
  | nil =>
      cases ran
      exact .refl
  | cons descriptor rest ih =>
      rcases stepped : (step client catalog path registry descriptor).run session with
        ⟨⟨next, ending⟩, middle⟩
      cases ending with
      | error halt =>
          rw [advance_cons_error stepped] at ran
          cases ran
      | ok _ =>
          rw [advance_cons_ok stepped] at ran
          exact (step_resaved stepped).trans (ih ran)

/-- A run reads the code that was there when it began. -/
theorem KeepsCode.readsFrom (keeps : KeepsCode path descriptors session.files) :
    ReadsFrom session.files client catalog path registry descriptors session := by
  intro before descriptor rest known middle divided advanced
  refine keeps middle.files (advance_resaved advanced) descriptor ?_
  rw [divided]
  exact List.mem_append_right _ List.mem_cons_self

end

end Deployment

end Rollout
