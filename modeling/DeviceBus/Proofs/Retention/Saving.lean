import DeviceBus.Proofs.Bytes
import DeviceBus.Proofs.Retention.Room

/-!
# What a save does

A save is refused and changes nothing, or it removes the files that have to go and then copies.  It is held up
where one of these files is stuck.  The copy writes a file where its destination leads, or it fails, and then what
stands at the destination is removed as well.

* `dueFor`, `removedBy`: the files that have to go, and those that a save removes.
* `Refuses`, `Accepts`, `HeldUp`: what a save is refused for, what it is accepted for, and where it is held up.
* `save_cases`: a save is refused, held up, or a copy in the tree without the files that have to go.
* `copyOrRemove_cases`: what such a copy comes to.
* `copyOrRemove_wellFormed`, `copyOrRemove_keepsDirectories`, `sizeWithin_copyOrRemove_le`: what it keeps,
  and how much bigger the files below a place get.
-/

namespace DeviceBus.Retention

open FileTree

/-! ## What counts -/

/-- The files that count for a path are files of the tree, each once. -/
theorem collect_cases (tree : FileTree) (directory : String) :
    (∃ path fault, collect tree directory = .error (.access path fault)) ∨
      (∃ place isSealed, tree.status false directory = .ok (place, .directory isSealed) ∧
        collect tree directory = .ok (countedWithin tree place)) ∨
      (∃ place contents modified, tree.status false directory = .ok (place, .file contents modified) ∧
        collect tree directory = .ok [⟨place, contents.size, modified⟩]) ∨
      collect tree directory = .ok [] := by
  rw [collect]
  split
  · exact .inl ⟨_, _, rfl⟩
  · split
    · exact .inl ⟨_, _, rfl⟩
    · exact .inr (.inl ⟨_, _, ‹_›, rfl⟩)
  · exact .inr (.inr (.inl ⟨_, _, _, ‹_›, rfl⟩))
  · exact .inr (.inr (.inr rfl))

/-- Files cannot be counted for a fault of the system only. -/
theorem exists_fault_of_collect {tree : FileTree} {directory : String} {error : RetentionError}
    (h : collect tree directory = .error error) : ∃ path fault, error = .access path fault := by
  rcases collect_cases tree directory with ⟨path, fault, hcollect⟩ | ⟨_, _, -, hcollect⟩ |
    ⟨_, _, _, -, hcollect⟩ | hcollect
  · rw [hcollect] at h
    exact ⟨path, fault, (Except.error.inj h).symm⟩
  · rw [hcollect] at h
    cases h
  · rw [hcollect] at h
    cases h
  · rw [hcollect] at h
    cases h

/-- What counts for a path to a directory is what lies below its place. -/
theorem collect_eq_of_status {tree : FileTree} {directory : String} {place : Place} {isSealed : Bool}
    {files : List Counted}
    (hdirectory : tree.status false directory = .ok (place, .directory isSealed))
    (hfiles : collect tree directory = .ok files) : files = countedWithin tree place := by
  simp only [collect, hdirectory] at hfiles
  split at hfiles
  · cases hfiles
  · exact (Except.ok.inj hfiles).symm

/-- By a path that names everything in a directory, everything in it is counted. -/
theorem collect_of_nameable {tree : FileTree} {directory : String} {place : Place} {isSealed : Bool}
    (hdirectory : tree.status false directory = .ok (place, .directory isSealed))
    (hnameable : ∀ names ∈ tree.namesBelow place, isNameable directory names = true) :
    collect tree directory = .ok (countedWithin tree place) := by
  have hnone : (tree.namesBelow place).find? (fun names => !isNameable directory names) = none := by
    rw [List.find?_eq_none]
    intro names hmem
    rw [hnameable names hmem]
    decide
  simp only [collect, hdirectory, hnone]

/-- By a path that is too long for something in a directory, nothing in it is counted. -/
theorem collect_of_not_nameable {tree : FileTree} {directory : String} {place : Place} {isSealed : Bool}
    (hdirectory : tree.status false directory = .ok (place, .directory isSealed))
    (hnot : ¬∀ names ∈ tree.namesBelow place, isNameable directory names = true) :
    ∃ names ∈ tree.namesBelow place, isNameable directory names = false ∧
      collect tree directory = .error (.access (pathBelow directory names) (.system .nameTooLong)) := by
  cases hfound : (tree.namesBelow place).find? fun names => !isNameable directory names with
  | none =>
      refine absurd (fun names hmem => ?_) hnot
      simpa using List.find?_eq_none.1 hfound names hmem
  | some names =>
      refine ⟨names, List.mem_of_find?_eq_some hfound, by simpa using List.find?_some hfound, ?_⟩
      simp only [collect, hdirectory, hfound]

/-- Files that stand in a tree as they count. -/
def StandIn (tree : FileTree) (files : List Counted) : Prop :=
  ∀ file ∈ files, ∃ contents, contents.size = file.size ∧
    tree.entry? file.place = some (.file contents file.modified)

theorem standIn_countedWithin {tree : FileTree} (h : tree.WellFormed) (top : Place) :
    StandIn tree (countedWithin tree top) := by
  intro file hmem
  obtain ⟨-, contents, hsize, hentry⟩ := mem_countedWithin.1 hmem
  exact ⟨contents, hsize, (h.mem_entries_iff.1 hentry).2⟩

theorem standIn_of_collect {tree : FileTree} (h : tree.WellFormed) {directory : String}
    {files : List Counted} (hfiles : collect tree directory = .ok files) : StandIn tree files := by
  rcases collect_cases tree directory with ⟨_, _, hcollect⟩ | ⟨place, _, -, hcollect⟩ |
    ⟨place, contents, modified, hstatus, hcollect⟩ | hcollect
  · rw [hcollect] at hfiles
    cases hfiles
  · rw [hcollect] at hfiles
    cases hfiles
    exact standIn_countedWithin h place
  · rw [hcollect] at hfiles
    cases hfiles
    intro file hmem
    rw [List.mem_singleton] at hmem
    subst hmem
    exact ⟨contents, rfl, entry_of_status hstatus⟩
  · rw [hcollect] at hfiles
    cases hfiles
    intro file hmem
    exact absurd hmem List.not_mem_nil

/-! ## The tree without the files that go -/

section RemoveAll

variable {tree : FileTree} {files : List Counted}

theorem entry?_removeAll (hroot : ∀ file ∈ files, file.place ≠ []) (other : Place) :
    entry? (removeAll tree files) other =
      if other ∈ files.map Counted.place then none else tree.entry? other := by
  induction files generalizing tree with
  | nil => rfl
  | cons file rest ih =>
      rw [removeAll_cons, ih fun f hmem => hroot f (List.mem_cons_of_mem _ hmem),
        entry?_erase tree (hroot file List.mem_cons_self)]
      by_cases hplace : other = file.place
      · simp [hplace]
      · simp [hplace]

theorem StandIn.ne_root (h : StandIn tree files) : ∀ file ∈ files, file.place ≠ [] := by
  intro file hmem hroot
  obtain ⟨contents, -, hentry⟩ := h file hmem
  rw [hroot, entry?_root] at hentry
  cases hentry

/-- Where a way stands, no file does. -/
theorem StandIn.not_mem_of_isWay (h : StandIn tree files) {place : Place} {entry : Entry}
    (hentry : tree.entry? place = some entry) (hway : entry.isWay = true) :
    place ∉ files.map Counted.place := by
  intro hmem
  obtain ⟨file, hfile, rfl⟩ := List.mem_map.1 hmem
  obtain ⟨contents, -, hstands⟩ := h file hfile
  rw [hstands] at hentry
  cases hentry
  cases hway

/-- Without some files, the ways are the same. -/
theorem StandIn.keepsWays (h : StandIn tree files) : tree.KeepsWays (removeAll tree files) where
  work := by
    clear h
    induction files generalizing tree with
    | nil => rfl
    | cons file rest ih => exact ih.trans rfl
  ways := by
    intro place entry hway hentry
    rw [entry?_removeAll h.ne_root, if_neg (h.not_mem_of_isWay hentry hway), hentry]

/-- What stands there without some files stands there with them. -/
theorem StandIn.entry?_of_removeAll (h : StandIn tree files) {place : Place} {entry : Entry}
    (hentry : entry? (removeAll tree files) place = some entry) : tree.entry? place = some entry := by
  rw [entry?_removeAll h.ne_root] at hentry
  split at hentry
  · cases hentry
  · exact hentry

theorem StandIn.keepsWays_back (h : StandIn tree files) : (removeAll tree files).KeepsWays tree where
  work := h.keepsWays.work.symm
  ways := fun _ _ _ hentry => h.entry?_of_removeAll hentry

theorem StandIn.wellFormed (h : StandIn tree files) (htree : tree.WellFormed) :
    (removeAll tree files).WellFormed := by
  have hplain : ∀ file ∈ files, ∀ isSealed, tree.entry? file.place ≠ some (.directory isSealed) := by
    intro file hmem isSealed hentry
    exact h.not_mem_of_isWay hentry rfl (List.mem_map_of_mem hmem)
  clear h
  induction files generalizing tree with
  | nil => exact htree
  | cons file rest ih =>
      rw [removeAll_cons]
      have hfile := hplain file List.mem_cons_self
      refine ih (htree.erase hfile) ?_
      intro other hmem isSealed hentry
      rw [entry?_erase tree (ne_root_of_not_directory hfile)] at hentry
      split at hentry
      · cases hentry
      · exact hplain other (List.mem_cons_of_mem _ hmem) isSealed hentry

end RemoveAll

/-! ## Refusals, and room -/

/-- The files that have to go so that a save can be made. -/
def dueFor (tree : FileTree) (directory source : String) (maxSizeKb : Nat) : List Counted :=
  match tree.status true source, collect tree directory with
  | .ok (_, .file contents _), .ok files =>
      if contents.size ≤ byteLimit maxSizeKb then evicted (byteLimit maxSizeKb) contents.size files else []
  | _, _ => []

/-- The files that a save removes to make room: all that have to go, or those before one that is stuck. -/
def removedBy (tree : FileTree) (directory source : String) (maxSizeKb : Nat)
    (stuck : List (Place × SystemFault) := []) : List Counted :=
  removable stuck (dueFor tree directory source maxSizeKb)

/-- What a save is accepted for: a source that is a regular file within the limit, with a name of its own, and a
directory whose files can be counted. -/
structure Accepts (tree : FileTree) (directory source : String) (maxSizeKb : Nat) (place : Place)
    (contents : ByteArray) (modified : Int) (files : List Counted) (name : String) : Prop where
  readable : tree.status true source = .ok (place, .file contents modified)
  fits : contents.size ≤ byteLimit maxSizeKb
  counted : collect tree directory = .ok files
  named : Path.fileName? source = some name
  isName : Path.IsName name

/-- The files that have to go for a save that is accepted. -/
theorem Accepts.dueFor_eq {tree : FileTree} {directory source : String} {maxSizeKb : Nat} {place : Place}
    {contents : ByteArray} {modified : Int} {files : List Counted} {name : String}
    (h : Accepts tree directory source maxSizeKb place contents modified files name) :
    dueFor tree directory source maxSizeKb = evicted (byteLimit maxSizeKb) contents.size files := by
  simp only [dueFor, h.readable, h.counted, if_pos h.fits]

/-- What is removed to make room are files that count. -/
theorem evicted_subset {limit size : Nat} {files : List Counted} : evicted limit size files ⊆ files := by
  rw [evicted]
  split
  · obtain ⟨kept, hparts, -⟩ := exists_kept (limit - size) (oldestFirst files)
    rw [totalSize_perm (perm_oldestFirst files)] at hparts
    intro file hmem
    rw [← (perm_oldestFirst files).mem_iff, hparts]
    exact List.mem_append_left _ hmem
  · exact List.nil_subset _

theorem standIn_removedBy {tree : FileTree} (h : tree.WellFormed) (directory source : String)
    (maxSizeKb : Nat) (stuck : List (Place × SystemFault)) :
    StandIn tree (removedBy tree directory source maxSizeKb stuck) := by
  have hdue : StandIn tree (dueFor tree directory source maxSizeKb) := by
    rw [dueFor]
    split
    · rename_i hfiles
      split
      · exact fun file hmem => standIn_of_collect h hfiles file (evicted_subset hmem)
      · exact fun _ hmem => absurd hmem List.not_mem_nil
    · exact fun _ hmem => absurd hmem List.not_mem_nil
  exact fun file hmem => hdue file (removable_subset hmem)

/-- A save that is held up comes to a file that has to go and is stuck, once those before it are removed. -/
def HeldUp (tree : FileTree) (directory source : String) (maxSizeKb : Nat)
    (stuck : List (Place × SystemFault)) (file : Counted) (fault : SystemFault) : Prop :=
  stuck.lookup file.place = some fault ∧ ∃ rest, dueFor tree directory source maxSizeKb =
    removedBy tree directory source maxSizeKb stuck ++ file :: rest

/-- A save that is held up does not remove all that has to go. -/
theorem HeldUp.ne_dueFor {tree : FileTree} {directory source : String} {maxSizeKb : Nat}
    {stuck : List (Place × SystemFault)} {file : Counted} {fault : SystemFault}
    (h : HeldUp tree directory source maxSizeKb stuck file fault) :
    removedBy tree directory source maxSizeKb stuck ≠ dueFor tree directory source maxSizeKb := by
  obtain ⟨-, rest, hdue⟩ := h
  intro hall
  rw [hall] at hdue
  exact List.cons_ne_nil file rest (List.self_eq_append_right.1 hdue)

/-- Why a save is refused: there is no source, or it is no regular file, or too large; or the files of the
directory cannot be counted. -/
inductive Refuses (tree : FileTree) (directory source : String) (maxSizeKb : Nat) : RetentionError → Prop
  | lost (fault : SystemFault) (hsource : tree.status true source = .error fault) :
      Refuses tree directory source maxSizeKb (.access source fault)
  | notAFile (place : Place) (entry : Entry) (hsource : tree.status true source = .ok (place, entry))
      (hentry : ∀ contents modified, entry ≠ .file contents modified) :
      Refuses tree directory source maxSizeKb (.notAFile source)
  | tooLarge (place : Place) (contents : ByteArray) (modified : Int)
      (hsource : tree.status true source = .ok (place, .file contents modified))
      (hsize : byteLimit maxSizeKb < contents.size) :
      Refuses tree directory source maxSizeKb (.fileTooLarge contents.size (byteLimit maxSizeKb))
  | uncounted (path : String) (fault : SystemFault)
      (hfiles : collect tree directory = .error (.access path fault)) :
      Refuses tree directory source maxSizeKb (.access path fault)

namespace Refuses

variable {tree : FileTree} {directory source : String} {maxSizeKb : Nat} {error : RetentionError}

/-- No save is refused because no room can be made. -/
theorem ne_noSpace (h : Refuses tree directory source maxSizeKb error) (remaining target : Nat) :
    error ≠ .noSpace remaining target := by
  intro heq
  cases h with
  | lost => cases heq
  | notAFile => cases heq
  | tooLarge => cases heq
  | uncounted => cases heq

/-- No save of a file within the limit is refused, if the files of the directory can be counted. -/
theorem lt_size (h : Refuses tree directory source maxSizeKb error) {place : Place}
    {contents : ByteArray} {modified : Int}
    (hsource : tree.status true source = .ok (place, .file contents modified)) {files : List Counted}
    (hfiles : collect tree directory = .ok files) : byteLimit maxSizeKb < contents.size := by
  cases h with
  | lost fault hlost =>
      rw [hlost] at hsource
      cases hsource
  | notAFile place entry hfound hentry =>
      rw [hfound] at hsource
      cases hsource
      exact absurd rfl (hentry _ _)
  | tooLarge place contents modified hfound hsize =>
      rw [hfound] at hsource
      cases hsource
      exact hsize
  | uncounted path fault hfault =>
      rw [hfault] at hfiles
      cases hfiles

theorem not_accepts (h : Refuses tree directory source maxSizeKb error) {place : Place}
    {contents : ByteArray} {modified : Int} {files : List Counted} {name : String} :
    ¬Accepts tree directory source maxSizeKb place contents modified files name :=
  fun haccepts => Nat.not_lt.2 haccepts.fits (h.lt_size haccepts.readable haccepts.counted)

/-- For a refused save nothing has to go. -/
theorem dueFor_eq_nil (h : Refuses tree directory source maxSizeKb error) :
    dueFor tree directory source maxSizeKb = [] := by
  rw [dueFor]
  split
  · exact if_neg (Nat.not_le.2 (h.lt_size ‹_› ‹_›))
  · rfl

/-- A refused save removes nothing. -/
theorem removedBy_eq_nil (h : Refuses tree directory source maxSizeKb error)
    (stuck : List (Place × SystemFault)) : removedBy tree directory source maxSizeKb stuck = [] := by
  rw [removedBy, h.dueFor_eq_nil]
  rfl

end Refuses

/-- The room that a save makes is what it removes, unless it is held up. -/
theorem freed_cases {tree : FileTree} {directory source : String} {maxSizeKb : Nat} {place : Place}
    {contents : ByteArray} {modified : Int} {files : List Counted} {name : String}
    (h : Accepts tree directory source maxSizeKb place contents modified files name)
    (stuck : List (Place × SystemFault)) :
    let freed := if byteLimit maxSizeKb < totalSize files + contents.size then
      freeDownTo tree directory files (byteLimit maxSizeKb - contents.size) stuck else (.ok (), tree)
    (removedBy tree directory source maxSizeKb stuck = dueFor tree directory source maxSizeKb ∧
        freed = (.ok (), removeAll tree (removedBy tree directory source maxSizeKb stuck))) ∨
      ∃ file fault, HeldUp tree directory source maxSizeKb stuck file fault ∧
        freed = (.error (.access (pathOf tree directory file) fault),
          removeAll tree (removedBy tree directory source maxSizeKb stuck)) := by
  simp only [HeldUp, removedBy, h.dueFor_eq, evicted]
  split
  · rcases freeDownTo_cases tree directory files (byteLimit maxSizeKb - contents.size) stuck with
      ⟨hall, hfreed⟩ | ⟨file, fault, rest, hdue, hstuck, hfreed⟩
    · exact .inl ⟨hall, hfreed.trans (by rw [hall])⟩
    · exact .inr ⟨file, fault, ⟨hstuck, rest, hdue⟩, hfreed⟩
  · exact .inl ⟨rfl, rfl⟩

/-- A save is refused and changes nothing; or it is accepted.  Then it is held up once some files are removed, or
it is a copy to the name of the source in the directory, in the tree without all files that have to go. -/
theorem save_cases {tree : FileTree} (htree : tree.WellFormed) (directory source : String)
    (maxSizeKb : Nat) (now : Int) (mishaps : Mishaps) :
    (∃ error, Refuses tree directory source maxSizeKb error ∧
        save tree directory source maxSizeKb now mishaps = (.error error, tree)) ∨
      ∃ place contents modified files name,
        Accepts tree directory source maxSizeKb place contents modified files name ∧
        ((∃ file fault, HeldUp tree directory source maxSizeKb mishaps.stuck file fault ∧
            save tree directory source maxSizeKb now mishaps =
              (.error (.access (pathOf tree directory file) fault),
                removeAll tree (removedBy tree directory source maxSizeKb mishaps.stuck))) ∨
          (removedBy tree directory source maxSizeKb mishaps.stuck =
              dueFor tree directory source maxSizeKb ∧
            save tree directory source maxSizeKb now mishaps =
              copyOrRemove (removeAll tree (removedBy tree directory source maxSizeKb mishaps.stuck)) source
                (Path.join directory name) now mishaps)) := by
  rw [save]
  split
  · exact .inl ⟨_, .lost _ ‹_›, rfl⟩
  · rename_i place contents modified hsource
    by_cases hsize : contents.size ≤ byteLimit maxSizeKb
    · simp only [if_neg (Nat.not_lt.2 hsize)]
      split
      · rename_i error hfiles
        obtain ⟨path, fault, rfl⟩ := exists_fault_of_collect hfiles
        exact .inl ⟨_, .uncounted path fault hfiles, rfl⟩
      · rename_i files hfiles
        obtain ⟨name, hname, hisName⟩ := htree.fileName?_of_status hsource (by simp)
        have haccepts : Accepts tree directory source maxSizeKb place contents modified files name :=
          ⟨hsource, hsize, hfiles, hname, hisName⟩
        refine .inr ⟨place, contents, modified, files, name, haccepts, ?_⟩
        rcases freed_cases haccepts mishaps.stuck with ⟨hall, hfreed⟩ | ⟨file, fault, hheld, hfreed⟩
        · refine .inr ⟨hall, ?_⟩
          simp only [hfreed, hname]
        · refine .inl ⟨file, fault, hheld, ?_⟩
          simp only [hfreed]
    · exact .inl ⟨_, .tooLarge place contents modified hsource (Nat.not_le.1 hsize),
        if_pos (Nat.not_le.1 hsize)⟩
  · rename_i found hentry hsource
    refine .inl ⟨_, .notAFile found.1 found.2 hsource ?_, rfl⟩
    exact fun contents modified heq => hentry found.1 contents modified (Prod.ext rfl heq)

/-! ## Copying, and removing what failed -/

/-- What a copy has written: what it reads of its source, where its destination leads. -/
def Copies (tree : FileTree) (source destination : String) (now : Int)
    (interruption : Option Interruption) (written : FileTree) : Prop :=
  ∃ sourcePlace contents modified place,
    tree.status true source = .ok (sourcePlace, .file contents modified) ∧
    tree.placeToWrite destination = .ok place ∧
    written = tree.store place
      (copied (if sourcePlace = place then .empty else contents) interruption) now

/-- What a copy leaves: the tree as it was, or with the file written. -/
def Leaves (tree : FileTree) (source destination : String) (now : Int)
    (interruption : Option Interruption) (written : FileTree) : Prop :=
  written = tree ∨ Copies tree source destination now interruption written

/-- A copy comes to its end and has written the file; or it fails, having written or not, and what its
destination then leads to is removed if it can be. -/
theorem copyOrRemove_cases (tree : FileTree) (source destination : String) (now : Int) (mishaps : Mishaps) :
    (mishaps.copying = none ∧ ∃ written, Copies tree source destination now none written ∧
        copyOrRemove tree source destination now mishaps = (.ok destination, written)) ∨
      ∃ fault written, Leaves tree source destination now mishaps.copying written ∧
        (copyOrRemove tree source destination now mishaps = (.error (.access destination fault), written) ∨
          ∃ place entry, written.status false destination = .ok (place, entry) ∧
            (∀ isSealed, entry ≠ .directory isSealed) ∧
            copyOrRemove tree source destination now mishaps =
              (.error (.access destination fault), written.erase place)) := by
  have hfailed : ∀ fault written,
      tree.copy source destination now mishaps.copying = (.error fault, written) →
      copyOrRemove tree source destination now mishaps = (.error (.access destination fault), written) ∨
        ∃ place entry, written.status false destination = .ok (place, entry) ∧
          (∀ isSealed, entry ≠ .directory isSealed) ∧
          copyOrRemove tree source destination now mishaps =
            (.error (.access destination fault), written.erase place) := by
    intro fault written hcopy
    cases hcleaning : mishaps.cleaning with
    | some _ => exact .inl (by simp only [copyOrRemove, hcopy, hcleaning])
    | none =>
        rcases remove_cases written destination with
          ⟨_, hremove⟩ | ⟨place, entry, hstatus, hentry, hremove⟩
        · exact .inl (by simp only [copyOrRemove, hcopy, hcleaning, hremove])
        · exact .inr ⟨place, entry, hstatus, hentry,
            by simp only [copyOrRemove, hcopy, hcleaning, hremove]⟩
  rcases copy_cases tree source destination now mishaps.copying with
    ⟨fault, hcopy⟩ | ⟨hbegins, sourcePlace, contents, modified, place, hsource, hplace, hcopy⟩
  · exact .inr ⟨fault, tree, .inl rfl, hfailed fault tree hcopy⟩
  · have hcopies : Copies tree source destination now mishaps.copying _ :=
      ⟨sourcePlace, contents, modified, place, hsource, hplace, rfl⟩
    rcases hbegins with hnone | ⟨written, fault, hbroken⟩
    · rw [hnone] at hcopy hcopies
      refine .inl ⟨hnone, _, hcopies, ?_⟩
      simp only [copyOrRemove, hnone, hcopy, copyResult]
    · refine .inr ⟨fault, _, .inr hcopies, hfailed fault _ ?_⟩
      rw [hcopy, hbroken, copyResult]

/-- A copy succeeds with its destination once it has written the file. -/
theorem copies_of_ok {tree : FileTree} {source destination saved : String} {now : Int}
    {mishaps : Mishaps}
    (hok : (copyOrRemove tree source destination now mishaps).1 = .ok saved) :
    saved = destination ∧ Copies tree source destination now none
      (copyOrRemove tree source destination now mishaps).2 := by
  rcases copyOrRemove_cases tree source destination now mishaps with
    ⟨-, written, hcopies, hresult⟩ | ⟨_, _, -, hresult | ⟨_, _, -, -, hresult⟩⟩
  · rw [hresult] at hok ⊢
    exact ⟨(Except.ok.inj hok).symm, hcopies⟩
  · rw [hresult] at hok
    cases hok
  · rw [hresult] at hok
    cases hok

/-- Without a source, nothing is copied, and what stands at the destination is removed if it can be. -/
theorem copyOrRemove_of_lost {tree : FileTree} {source : String} {fault : SystemFault}
    (hlost : tree.status true source = .error fault) (destination : String) (now : Int)
    (mishaps : Mishaps) :
    copyOrRemove tree source destination now mishaps = (.error (.access destination fault), tree) ∨
      ∃ place, copyOrRemove tree source destination now mishaps =
        (.error (.access destination fault), tree.erase place) := by
  have hcopy := copy_of_lost hlost destination now mishaps.copying
  cases hcleaning : mishaps.cleaning with
  | some _ => exact .inl (by simp only [copyOrRemove, hcopy, hcleaning])
  | none =>
      rcases remove_cases tree destination with ⟨_, hremove⟩ | ⟨place, _, -, -, hremove⟩
      · exact .inl (by simp only [copyOrRemove, hcopy, hcleaning, hremove])
      · exact .inr ⟨place, by simp only [copyOrRemove, hcopy, hcleaning, hremove]⟩

namespace Copies

variable {tree written : FileTree} {source destination : String} {now : Int}
  {interruption : Option Interruption}

theorem keepsWays (h : Copies tree source destination now interruption written) :
    tree.KeepsWays written := by
  obtain ⟨_, _, _, place, -, hplace, rfl⟩ := h
  exact keepsWays_store (resolve_of_placeToWrite hplace).2 _ now

theorem wellFormed (h : Copies tree source destination now interruption written)
    (htree : tree.WellFormed) : written.WellFormed := by
  obtain ⟨_, _, _, place, -, hplace, rfl⟩ := h
  exact htree.store (resolve_of_placeToWrite hplace).2 _ now

/-- The destination of a copy leads to a file with what its source holds, or to a device, unless it leads to
the source itself. -/
theorem fileAt? (h : Copies tree source destination now none written) {place : Place}
    {contents : ByteArray} {modified : Int}
    (hsource : tree.status true source = .ok (place, .file contents modified))
    (hother : ∀ entry, tree.status true destination ≠ .ok (place, entry)) :
    FileTree.fileAt? written destination = some contents ∨
      ∃ other, written.status true destination = .ok (other, .device) := by
  obtain ⟨_, _, _, other, hread, hplace, rfl⟩ := h
  rw [hsource] at hread
  cases hread
  obtain ⟨hresolve, hwritable⟩ := resolve_of_placeToWrite hplace
  have hne : place ≠ other := by
    rintro rfl
    rw [entry_of_status hsource] at hresolve
    exact hother _ (status_eq_ok_iff.2 (resolve_of_toMake hresolve))
  rw [if_neg hne]
  rcases store_cases tree other (copied contents none) now with ⟨hstore, -⟩ | ⟨hstore, hdevice⟩
  · have hfile : entry? (tree.store other (copied contents none) now) other =
        some (.file contents now) := by
      rw [hstore, entry?_put_self tree _ hwritable.ne_root, copied_none]
    have hstatus := ((keepsWays_store hwritable _ now).placeToWrite hplace hfile).2
    rw [FileTree.fileAt?, hstatus]
    exact .inl rfl
  · rw [hdevice] at hresolve
    rw [hstore]
    exact .inr ⟨other, status_eq_ok_iff.2 (resolve_of_toMake hresolve)⟩

end Copies

namespace Leaves

variable {tree written : FileTree} {source destination : String} {now : Int}
  {interruption : Option Interruption}

theorem keepsWays (h : Leaves tree source destination now interruption written) :
    tree.KeepsWays written := by
  rcases h with rfl | hcopies
  · exact .refl _
  · exact hcopies.keepsWays

theorem wellFormed (h : Leaves tree source destination now interruption written)
    (htree : tree.WellFormed) : written.WellFormed := by
  rcases h with rfl | hcopies
  · exact htree
  · exact hcopies.wellFormed htree

end Leaves

/-- What is copied of some contents is no longer than they are. -/
theorem size_copied_le (contents : ByteArray) (interruption : Option Interruption) :
    (copied contents interruption).size ≤ contents.size := by
  unfold copied
  split
  · rw [← length_bytesOf, bytesOf_extract_zero, List.length_take, length_bytesOf]
    exact Nat.min_le_right _ _
  · exact Nat.le_refl _

theorem sizeWithin_erase_le (tree : FileTree) (top place : Place) :
    sizeWithin (tree.erase place) top ≤ sizeWithin tree top := by
  rw [sizeWithin, countedWithin_erase]
  exact totalSize_filter_le _ _

/-- A file that is put at a place counts below a place at or above it. -/
theorem countedWithin_put (tree : FileTree) (top place : Place) (contents : ByteArray) (now : Int) :
    countedWithin (tree.put place (.file contents now)) top =
      countedWithin (tree.erase place) top ++
        (if isWithin top place then [⟨place, contents.size, now⟩] else []) := by
  rw [countedWithin, filesWithin_put, List.map_append, countedWithin]
  by_cases hwithin : isWithin top place = true
  · simp [fileWithin?, hwithin]
  · simp [fileWithin?, hwithin]

/-- Storing contents adds at most their bytes. -/
theorem sizeWithin_store_le (tree : FileTree) (top place : Place) (contents : ByteArray) (now : Int) :
    sizeWithin (tree.store place contents now) top ≤ sizeWithin tree top + contents.size := by
  rcases tree.store_cases place contents now with ⟨hstore, -⟩ | ⟨hstore, -⟩
  · have herase := sizeWithin_erase_le tree top place
    rw [sizeWithin] at herase
    rw [hstore, sizeWithin, countedWithin_put, totalSize_append]
    split
    · simp only [totalSize_cons, totalSize_nil]
      omega
    · simp only [totalSize_nil]
      omega
  · rw [hstore]
    exact Nat.le_add_right _ _

section CopyOrRemove

variable (tree : FileTree) (source destination : String) (now : Int) (mishaps : Mishaps)

theorem copyOrRemove_keepsDirectories :
    tree.KeepsDirectories (copyOrRemove tree source destination now mishaps).2 := by
  rcases copyOrRemove_cases tree source destination now mishaps with
    ⟨-, written, hcopies, hresult⟩ | ⟨_, written, hleaves, hresult | ⟨place, entry, hstatus, hentry, hresult⟩⟩
  · rw [hresult]
    exact hcopies.keepsWays.keepsDirectories (keepsDirectories_refl _)
  · rw [hresult]
    exact hleaves.keepsWays.keepsDirectories (keepsDirectories_refl _)
  · rw [hresult]
    refine hleaves.keepsWays.keepsDirectories (keepsDirectories_erase fun isSealed hdirectory => ?_)
    rw [entry_of_status hstatus] at hdirectory
    exact hentry isSealed (Option.some.inj hdirectory)

theorem copyOrRemove_wellFormed (htree : tree.WellFormed) :
    (copyOrRemove tree source destination now mishaps).2.WellFormed := by
  rcases copyOrRemove_cases tree source destination now mishaps with
    ⟨-, written, hcopies, hresult⟩ | ⟨_, written, hleaves, hresult | ⟨place, entry, hstatus, hentry, hresult⟩⟩
  · rw [hresult]
    exact hcopies.wellFormed htree
  · rw [hresult]
    exact hleaves.wellFormed htree
  · rw [hresult]
    refine (hleaves.wellFormed htree).erase fun isSealed hdirectory => ?_
    rw [entry_of_status hstatus] at hdirectory
    exact hentry isSealed (Option.some.inj hdirectory)

/-- The files below a place get bigger by no more than the source has bytes. -/
theorem sizeWithin_copyOrRemove_le {size : Nat}
    (hsize : ∀ place contents modified,
      tree.status true source = .ok (place, .file contents modified) → contents.size ≤ size)
    (top : Place) :
    sizeWithin (copyOrRemove tree source destination now mishaps).2 top ≤
      sizeWithin tree top + size := by
  have hcopied : ∀ interruption written, Copies tree source destination now interruption written →
      sizeWithin written top ≤ sizeWithin tree top + size := by
    rintro interruption written ⟨sourcePlace, contents, modified, place, hsource, -, rfl⟩
    have hstore := sizeWithin_store_le tree top place
      (copied (if sourcePlace = place then .empty else contents) interruption) now
    have hcopy := size_copied_le (if sourcePlace = place then .empty else contents) interruption
    have hread : (if sourcePlace = place then ByteArray.empty else contents).size ≤ contents.size := by
      split
      · exact Nat.zero_le _
      · exact Nat.le_refl _
    have hsource := hsize _ _ _ hsource
    omega
  have hleft : ∀ written, Leaves tree source destination now mishaps.copying written →
      sizeWithin written top ≤ sizeWithin tree top + size := by
    rintro written (rfl | hcopies)
    · exact Nat.le_add_right _ _
    · exact hcopied mishaps.copying written hcopies
  rcases copyOrRemove_cases tree source destination now mishaps with
    ⟨-, written, hcopies, hresult⟩ | ⟨_, written, hleaves, hresult | ⟨place, _, -, -, hresult⟩⟩
  · rw [hresult]
    exact hcopied none written hcopies
  · rw [hresult]
    exact hleft written hleaves
  · rw [hresult]
    exact Nat.le_trans (sizeWithin_erase_le written top place) (hleft written hleaves)

end CopyOrRemove

end DeviceBus.Retention
