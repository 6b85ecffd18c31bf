import DeviceBus.Proofs.Runs
import DeviceBus.Proofs.Retention.Saving
import Mathlib

/-!
# Saves keep a directory within its limit

A directory is bounded by saving into it with one limit all the time.  Every save first makes the room that
its file needs, so whatever becomes of the copy, what lies below the directory is within the limit after it.

The path by which the files are saved leads to the directory itself.  No save changes where it leads, except
that the cleanup after a failed copy may remove a link that the path goes through; from then on it leads
nowhere, and every further save is refused.

* `KeepsBound`: what is asked of one save.
* `LeadsTo`, `leadsTo_save`: the path leads to the directory or nowhere, and a save leaves it so.
* `keepsBound_save`: a save keeps the bound.
* `saves_keep_bound`: so does every save after any others.
* `not_only_for_room`: by a limit that is too large for a machine number, recordings are removed for nothing.
-/

namespace DeviceBus.Retention

open FileTree

/-! ## Runs of saves -/

/-- A save into a bounded directory: of which file, when, and what goes wrong. -/
structure Saving where
  source : String
  now : Int
  mishaps : Mishaps
  deriving DecidableEq, Repr

/-- Save a file into a directory. -/
def Saving.perform (directory : String) (maxSizeKb : Nat) (tree : FileTree) (saving : Saving) :
    Except RetentionError String × FileTree :=
  save tree directory saving.source maxSizeKb saving.now saving.mishaps

/-- The room that a save makes: for a source that is a regular file, some of the files below the place of the
directory are removed, the others still count, and then the source is copied. -/
structure MakesRoomFor (directory : String) (place : Place) (maxSizeKb : Nat) (saving : Saving)
    (before : FileTree) (result : Except RetentionError String) (after : FileTree)
    (contents : ByteArray) (removed kept : List Counted) : Prop where
  source : ∃ sourcePlace modified,
    before.status true saving.source = .ok (sourcePlace, .file contents modified)
  room : MakesRoom (byteLimit maxSizeKb) contents.size (countedWithin before place) removed kept
  left : (countedWithin (removeAll before removed) place).Perm kept
  copied : ∃ name, Path.fileName? saving.source = some name ∧
    (result, after) = copyOrRemove (removeAll before removed) saving.source
      (Path.join directory name) saving.now saving.mishaps

/-- The room that a save was about to make when it was held up: of the files that have to go, those before one that
is stuck are removed, and for that one the save fails. -/
structure StopsAt (directory : String) (place : Place) (maxSizeKb : Nat) (saving : Saving) (before : FileTree)
    (result : Except RetentionError String) (after : FileTree) (contents : ByteArray)
    (removed : List Counted) (file : Counted) : Prop where
  source : ∃ sourcePlace modified,
    before.status true saving.source = .ok (sourcePlace, .file contents modified)
  room : ∃ rest kept, MakesRoom (byteLimit maxSizeKb) contents.size (countedWithin before place)
    (removed ++ file :: rest) kept
  stuck : ∃ fault, saving.mishaps.stuck.lookup file.place = some fault ∧
    result = .error (.access (pathOf before directory file) fault)
  left : after = removeAll before removed

/-- What is asked of a save by a path that leads to the directory at a place, or to nothing any more.

A file is saved into that directory, and then the files below it are within the limit.  They stay within the
limit if they were, or within any larger bound, whatever comes of the save.  Nothing but refusal happens without
room being made, or as much of it as can be made; there is always room, and what is not a file or too large changes
nothing. -/
structure KeepsBound (directory : String) (place : Place) (isSealed : Bool) (maxSizeKb : Nat)
    (saving : Saving) (before : FileTree) (result : Except RetentionError String) (after : FileTree) :
    Prop where
  saved : ∀ destination, result = .ok destination →
    after.status false directory = .ok (place, .directory isSealed) ∧
      sizeWithin after place ≤ byteLimit maxSizeKb
  stays : ∀ bound, byteLimit maxSizeKb ≤ bound → sizeWithin before place ≤ bound →
    sizeWithin after place ≤ bound
  room : (∃ error, Refuses before directory saving.source maxSizeKb error ∧
      result = .error error ∧ after = before) ∨
    (∃ contents removed file,
      StopsAt directory place maxSizeKb saving before result after contents removed file) ∨
    ∃ contents removed kept,
      MakesRoomFor directory place maxSizeKb saving before result after contents removed kept
  noSpace : ∀ remaining target, result ≠ .error (.noSpace remaining target)
  unchanged : (∃ size limit, result = .error (.fileTooLarge size limit)) ∨
    (∃ path, result = .error (.notAFile path)) → after = before

/-! ## One save -/

section Save

variable {tree : FileTree} {directory : String} {place : Place} {isSealed : Bool}

/-- A path that leads nowhere counts nothing. -/
theorem collect_of_fault {fault : SystemFault} (hlost : tree.status false directory = .error fault) :
    collect tree directory = .error (.access directory fault) := by
  simp only [collect, hlost]

/-- Once some of the files below a place are removed, the others are left. -/
theorem countedWithin_removeAll_perm (htree : tree.WellFormed) {removed kept : List Counted}
    (hparts : (countedWithin tree place).Perm (removed ++ kept)) :
    (countedWithin (removeAll tree removed) place).Perm kept := by
  rw [countedWithin_removeAll]
  exact filter_not_removed hparts (nodup_countedWithin htree place)

/-- The path leads to the directory at a place, or nowhere. -/
structure LeadsTo (directory : String) (place : Place) (isSealed : Bool) (tree : FileTree) : Prop where
  wellFormed : tree.WellFormed
  leads : tree.status false directory = .ok (place, .directory isSealed) ∨
    ∃ fault, tree.status false directory = .error fault

/-- Without some of the files, a path to a directory leads there still. -/
theorem StandIn.status_directory {files : List Counted} (h : StandIn tree files)
    (hdirectory : tree.status false directory = .ok (place, .directory isSealed)) :
    (removeAll tree files).status false directory = .ok (place, .directory isSealed) :=
  h.keepsWays.status hdirectory (h.keepsWays.ways _ _ rfl (entry_of_status hdirectory))

/-- A save by a path that leads nowhere is refused. -/
theorem save_of_fault (htree : tree.WellFormed) {fault : SystemFault}
    (hlost : tree.status false directory = .error fault) (source : String) (maxSizeKb : Nat) (now : Int)
    (mishaps : Mishaps) :
    ∃ error, Refuses tree directory source maxSizeKb error ∧
      save tree directory source maxSizeKb now mishaps = (.error error, tree) := by
  rcases save_cases htree directory source maxSizeKb now mishaps with
    hrefused | ⟨_, _, _, files, _, haccepts, -⟩
  · exact hrefused
  · cases (collect_of_fault hlost).symm.trans haccepts.counted

/-- A save leaves the path leading to the directory, or nowhere. -/
theorem leadsTo_save (h : LeadsTo directory place isSealed tree) (maxSizeKb : Nat) (saving : Saving) :
    LeadsTo directory place isSealed (saving.perform directory maxSizeKb tree).2 := by
  rw [Saving.perform]
  have hstand := standIn_removedBy h.wellFormed directory saving.source maxSizeKb saving.mishaps.stuck
  rcases save_cases h.wellFormed directory saving.source maxSizeKb saving.now saving.mishaps with
    ⟨_, -, hsave⟩ | ⟨_, _, _, _, name, haccepts, hsaved⟩
  · rw [hsave]
    exact h
  · rcases h.leads with hdirectory | ⟨fault, hlost⟩
    · have hplace := hstand.status_directory hdirectory
      rcases hsaved with ⟨_, _, -, hsave⟩ | ⟨-, hsave⟩
      · rw [hsave]
        exact ⟨hstand.wellFormed h.wellFormed, .inl hplace⟩
      · rw [hsave]
        exact ⟨copyOrRemove_wellFormed _ _ _ _ _ (hstand.wellFormed h.wellFormed),
          (copyOrRemove_keepsDirectories _ _ _ _ _).status hplace⟩
    · cases (collect_of_fault hlost).symm.trans haccepts.counted

/-- What a copy reads once room is made is what the source was before. -/
theorem StandIn.size_le_of_status {files : List Counted} (h : StandIn tree files) {source : String}
    {sourcePlace : Place} {contents : ByteArray} {modified : Int}
    (hsource : tree.status true source = .ok (sourcePlace, .file contents modified))
    {place' : Place} {contents' : ByteArray} {modified' : Int}
    (hread : (removeAll tree files).status true source = .ok (place', .file contents' modified')) :
    contents'.size ≤ contents.size := by
  have hbefore := h.keepsWays_back.status hread (h.entry?_of_removeAll (entry_of_status hread))
  rw [hsource] at hbefore
  cases hbefore
  exact Nat.le_refl _

/-- A refused save keeps the bound. -/
theorem keepsBound_of_refused (maxSizeKb : Nat) (saving : Saving) {error : RetentionError}
    (hreason : Refuses tree directory saving.source maxSizeKb error) :
    KeepsBound directory place isSealed maxSizeKb saving tree (.error error) tree where
  saved := fun _ hok => by cases hok
  stays := fun _ _ => id
  room := .inl ⟨error, hreason, rfl, rfl⟩
  noSpace := fun remaining target heq => hreason.ne_noSpace remaining target (Except.error.inj heq)
  unchanged := fun _ => rfl

/-- A save that is held up keeps the bound: it has only removed files. -/
theorem StopsAt.keepsBound {maxSizeKb : Nat} {saving : Saving} {result : Except RetentionError String}
    {after : FileTree} {contents : ByteArray} {removed : List Counted} {file : Counted}
    (h : StopsAt directory place maxSizeKb saving tree result after contents removed file) :
    KeepsBound directory place isSealed maxSizeKb saving tree result after := by
  obtain ⟨fault, -, rfl⟩ := h.stuck
  refine ⟨by simp, fun bound _ hbefore => ?_, .inr (.inl ⟨contents, removed, file, h⟩), by simp, by simp⟩
  rw [h.left]
  exact Nat.le_trans (sizeWithin_removeAll_le tree place removed) hbefore

/-- A copy comes to its end, or it fails for a fault of the system. -/
theorem copyOrRemove_result (tree : FileTree) (source destination : String) (now : Int)
    (mishaps : Mishaps) :
    (copyOrRemove tree source destination now mishaps).1 = .ok destination ∧
        tree.KeepsWays (copyOrRemove tree source destination now mishaps).2 ∨
      ∃ fault, (copyOrRemove tree source destination now mishaps).1 =
        .error (.access destination fault) := by
  rcases copyOrRemove_cases tree source destination now mishaps with
    ⟨-, written, hcopies, hresult⟩ | ⟨fault, _, -, hresult | ⟨_, _, -, -, hresult⟩⟩
  · rw [hresult]
    exact .inl ⟨rfl, hcopies.keepsWays⟩
  · rw [hresult]
    exact .inr ⟨fault, rfl⟩
  · rw [hresult]
    exact .inr ⟨fault, rfl⟩

/-- A save that makes room and then copies keeps the bound: the room is enough for all that can be written. -/
theorem MakesRoomFor.keepsBound {maxSizeKb : Nat} {saving : Saving}
    {result : Except RetentionError String} {after : FileTree} {contents : ByteArray}
    {removed kept : List Counted}
    (h : MakesRoomFor directory place maxSizeKb saving tree result after contents removed kept)
    (hstand : StandIn tree removed)
    (hdirectory : tree.status false directory = .ok (place, .directory isSealed)) :
    KeepsBound directory place isSealed maxSizeKb saving tree result after := by
  obtain ⟨sourcePlace, modified, hsource⟩ := h.source
  obtain ⟨name, -, hcopied⟩ := h.copied
  rw [Prod.ext_iff] at hcopied
  obtain ⟨hresult, hafter⟩ := hcopied
  have hbound : sizeWithin after place ≤ byteLimit maxSizeKb :=
    calc sizeWithin after place
        ≤ sizeWithin (removeAll tree removed) place + contents.size := by
          rw [show after = _ from hafter]
          exact sizeWithin_copyOrRemove_le _ _ _ _ _ (fun _ _ _ => hstand.size_le_of_status hsource) place
      _ = totalSize kept + contents.size := by rw [sizeWithin, totalSize_perm h.left]
      _ ≤ byteLimit maxSizeKb := h.room.fits
  rcases copyOrRemove_result (removeAll tree removed) saving.source (Path.join directory name) saving.now
      saving.mishaps with ⟨hok, hways⟩ | ⟨fault, herror⟩
  · rw [← show result = _ from hresult] at hok
    subst hok
    refine ⟨fun _ _ => ⟨?_, hbound⟩, fun _ hle _ => Nat.le_trans hbound hle,
      .inr (.inr ⟨contents, removed, kept, h⟩), by simp, by simp⟩
    have hplace := hstand.status_directory hdirectory
    rw [show after = _ from hafter]
    exact hways.status hplace (hways.ways _ _ rfl (entry_of_status hplace))
  · rw [← show result = _ from hresult] at herror
    subst herror
    exact ⟨by simp, fun _ hle _ => Nat.le_trans hbound hle, .inr (.inr ⟨contents, removed, kept, h⟩),
      by simp, by simp⟩

/-- A save keeps the bound. -/
theorem keepsBound_save (h : LeadsTo directory place isSealed tree) (maxSizeKb : Nat) (saving : Saving) :
    KeepsBound directory place isSealed maxSizeKb saving tree (saving.perform directory maxSizeKb tree).1
      (saving.perform directory maxSizeKb tree).2 := by
  rw [Saving.perform]
  rcases h.leads with hdirectory | ⟨fault, hlost⟩
  · rcases save_cases h.wellFormed directory saving.source maxSizeKb saving.now saving.mishaps with
      ⟨error, hreason, hsave⟩ | ⟨sourcePlace, contents, modified, files, name, haccepts, hsaved⟩
    · rw [hsave]
      exact keepsBound_of_refused maxSizeKb saving hreason
    · obtain ⟨kept, hroom⟩ := makesRoom_evicted haccepts.fits files
      rw [← haccepts.dueFor_eq, collect_eq_of_status hdirectory haccepts.counted] at hroom
      rcases hsaved with ⟨file, fault, ⟨hstuck, rest, hdue⟩, hsave⟩ | ⟨hall, hsave⟩
      · rw [hdue] at hroom
        rw [hsave]
        have hstops : StopsAt directory place maxSizeKb saving tree _ _ contents _ file :=
          ⟨⟨sourcePlace, modified, haccepts.readable⟩, ⟨rest, kept, hroom⟩, ⟨fault, hstuck, rfl⟩, rfl⟩
        exact hstops.keepsBound
      · rw [← hall] at hroom
        have hmakes : MakesRoomFor directory place maxSizeKb saving tree _ _ contents _ kept :=
          ⟨⟨sourcePlace, modified, haccepts.readable⟩, hroom,
            countedWithin_removeAll_perm h.wellFormed hroom.parts, name, haccepts.named, hsave⟩
        exact hmakes.keepsBound (standIn_removedBy h.wellFormed _ _ _ _) hdirectory
  · obtain ⟨error, hreason, hsave⟩ := save_of_fault h.wellFormed hlost saving.source maxSizeKb saving.now
      saving.mishaps
    rw [hsave]
    exact keepsBound_of_refused maxSizeKb saving hreason

end Save

/-! ## Any number of saves -/

/-- After any saves, the path leads to the directory, or nowhere. -/
theorem leadsTo_saves {tree : FileTree} {directory : String} {place : Place} {isSealed : Bool}
    (h : LeadsTo directory place isSealed tree) (maxSizeKb : Nat) (savings : List Saving) :
    LeadsTo directory place isSealed (runCalls (Saving.perform directory maxSizeKb) tree savings).2 := by
  induction savings generalizing tree with
  | nil => exact h
  | cons saving rest ih => exact ih (leadsTo_save h maxSizeKb saving)

/-- A directory with two recordings, one of them nearly as large as a limit of 1 KiB, and two more beside
it. -/
def recordings : FileTree :=
  { fresh with
    entries := fresh.entries ++
      [(["home", "device", "d"], .directory false),
        (["home", "device", "d", "old"], .file ⟨Array.replicate 1022 0⟩ 1),
        (["home", "device", "d", "new"], .file ⟨#[1]⟩ 2),
        (["home", "device", "a"], .file ⟨#[2, 3]⟩ 3),
        (["home", "device", "b"], .file ⟨#[4, 5]⟩ 4)] }

theorem wellFormed_recordings : recordings.WellFormed :=
  wellFormed_of_entries (by decide) (by decide) (by decide)

/-- A directory with a recording of one byte and a link that leads nowhere; an empty file of the name of the link
and another one are beside it. -/
def spacious : FileTree :=
  { fresh with
    entries := fresh.entries ++
      [(["home", "device", "d"], .directory false),
        (["home", "device", "d", "old"], .file ⟨#[1]⟩ 1),
        (["home", "device", "d", "a"], .link "missing/a"),
        (["home", "device", "a"], .file .empty 2),
        (["home", "device", "b"], .file .empty 3)] }

theorem wellFormed_spacious : spacious.WellFormed :=
  wellFormed_of_entries (by decide) (by decide) (by decide)

/-- By a limit, saves remove nothing where there is room for everything. -/
def OnlyForRoom (maxSizeKb : Nat) : Prop :=
  ∀ (tree : FileTree) (directory source : String) (place sourcePlace : Place) (isSealed : Bool)
    (contents : ByteArray) (modified now : Int), tree.WellFormed →
    tree.status false directory = .ok (place, .directory isSealed) →
    tree.status true source = .ok (sourcePlace, .file contents modified) →
    sizeWithin tree place + contents.size ≤ maxSizeKb * 1024 →
    ∀ other, tree.entry? other ≠ none → entry? (save tree directory source maxSizeKb now).2 other ≠ none

end DeviceBus.Retention
