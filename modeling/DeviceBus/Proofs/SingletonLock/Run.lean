import DeviceBus.Proofs.Files.Change
import DeviceBus.Proofs.Path
import DeviceBus.Proofs.Runs
import DeviceBus.Proofs.SingletonLock.Record
import Mathlib.Data.List.TakeWhile

/-!
# Runs of lock and release

Processes take their locks and release them, in any order, on a machine where nothing else changes the lock
files.  A start may fail on its way, and then it leaves the lock file as it was, or with the beginning of a record.
So a lock file records the lock that was last taken on it, or what a start that failed has left since, or what it
held at first; and while a lock is held, it is the last one taken on its file.

* `previousText?`, `acquire_of_free`: what an acquisition does where no lock is held on the file.
* `Opens`, `Acquired`, `acquired_acquire`: what an acquisition can come to at all.
* `Machine`, `Event`: locks that are held, and the files; acquisitions and releases.
* `recordedAt?`, `lastCount?`: the count that a file records, and the one that it should by what has happened.
* `Kept`: what stays true on the machine; `Kept.step` for one event, `Kept.run` for a run.
* `lock_runs`: in every run, one lock at most is held on a file, a second one is refused, and each new one
  counts one more start and records it.
* `not_every_start_counts`: a start that is not counted, and others that do not go as one might think.
-/

namespace DeviceBus.SingletonLock

open FileTree

/-! ## Names -/

/-- The name of a process is the text behind the last slash. -/
theorem baseName_eq {program last : String} (hlast : '/' ∉ last.toList)
    (h : program = last ∨ ∃ front, program = front ++ "/" ++ last) : baseName program = last := by
  have hreversed : ∀ c ∈ last.toList.reverse, decide (c ≠ '/') = true := by
    intro c hmem
    rw [decide_eq_true_eq]
    rintro rfl
    exact hlast (List.mem_reverse.1 hmem)
  rw [baseName, Path.afterLastSlash, ← String.toList_inj, String.toList_ofList]
  rcases h with rfl | ⟨front, rfl⟩
  · rw [List.takeWhile_eq_self_iff.2 hreversed, List.reverse_reverse]
  · have hsplit : (front ++ "/" ++ last).toList.reverse = last.toList.reverse ++ '/' :: front.toList.reverse := by
      simp
    rw [hsplit, List.takeWhile_append_of_pos hreversed, List.takeWhile_cons_of_neg (by simp), List.append_nil,
      List.reverse_reverse]

/-! ## One acquisition -/

/-- The text that an acquisition reads in a lock file, if it is one and holds text; a missing one is made
empty. -/
def previousText? : Option Entry → Option String
  | none => some ""
  | some (.file contents _) => (Text.decode contents).toOption
  | some _ => none

/-- A file that holds text is read as it was written. -/
theorem previousText?_text (text : String) (now : Int) :
    previousText? (some (.file text.toByteArray now)) = some text := by
  have hdecode : Text.decode text.toByteArray = .ok text := (Text.decode_eq_ok_iff _ _).2 rfl
  rw [previousText?, hdecode]
  rfl

theorem any_place_iff {held : List SingletonLock} {place : Place} :
    (held.any fun lock => lock.place = place) = true ↔ place ∈ held.map SingletonLock.place := by
  simp [List.any_eq_true, List.mem_map]

section Acquire

variable {held : List SingletonLock} {tree : FileTree} {directory program : String} {place : Place}

/-- While a lock is held on the file, a second one is refused as it is locked, and the file stays as it is. -/
theorem acquire_of_held (hpath : tree.placeToWrite (filePath directory (baseName program)) = .ok place)
    (hheld : place ∈ held.map SingletonLock.place) (hstands : tree.entry? place ≠ none)
    {hindrance : Option Hindrance} (hopening : ∀ fault, hindrance ≠ some (.opening fault))
    (hlocking : ∀ errno, hindrance ≠ some (.locking errno)) (pid : Nat) (now : Int) :
    acquire held tree directory program pid now hindrance =
      (.error (.alreadyRunning (baseName program)), tree) := by
  have hopen : ∃ contents, openFile tree (filePath directory (baseName program)) now hindrance =
      .ok (place, tree, contents) := by
    unfold openFile
    split
    · cases hpath.symm.trans ‹_›
    · exact absurd rfl (hopening _)
    · cases hpath.symm.trans ‹_›
      rcases (resolve_of_placeToWrite hpath).2 with ⟨hnone, -⟩ | ⟨contents, modified, hfile⟩ | hdevice
      · exact absurd hnone hstands
      · rw [hfile]
        exact ⟨contents, rfl⟩
      · rw [hdevice]
        exact ⟨.empty, rfl⟩
  obtain ⟨contents, hopen⟩ := hopen
  have hrefusal : ∀ path name, refusal? held place path name hindrance = some (.alreadyRunning name) := by
    intro path name
    unfold refusal?
    split
    · exact absurd rfl (hlocking _)
    · rw [if_pos (any_place_iff.2 hheld)]
  unfold acquire
  simp only [hopen, hrefusal]

/-- Where no lock is held on the file, one is taken if the file holds text, and it is recorded there. -/
theorem acquire_of_free (hpath : tree.placeToWrite (filePath directory (baseName program)) = .ok place)
    (hfree : place ∉ held.map SingletonLock.place) (pid : Nat) (now : Int) {text : String}
    (htext : previousText? ( tree.entry? place) = some text) :
    acquire held tree directory program pid now =
      (.ok ⟨place, filePath directory (baseName program), baseName program, nextCount text⟩,
        tree.put place (.file (record (nextCount text) pid).toByteArray now)) := by
  have hany : ¬(held.any fun lock => lock.place = place) = true := mt any_place_iff.1 hfree
  have hwritable := (resolve_of_placeToWrite hpath).2
  rcases id hwritable with ⟨hnone, -⟩ | ⟨contents, modified, hfile⟩ | hdevice
  · -- the file that is made for the lock is the one that the record is then written to
    have hmade := entry?_put_self tree (.file .empty now) hwritable.ne_root
    have hempty : Text.decode .empty = .ok "" := (Text.decode_eq_ok_iff _ _).2 rfl
    rw [hnone] at htext
    cases htext
    unfold acquire
    simp only [openFile, hpath, hnone, refusal?, if_neg hany, readAll, hempty, Except.mapError,
      rewrite, hmade, put_put]
  · rw [hfile, previousText?] at htext
    cases hdecode : Text.decode contents with
    | error fault =>
        rw [hdecode] at htext
        cases htext
    | ok read =>
        rw [hdecode] at htext
        cases htext
        unfold acquire
        simp only [openFile, hpath, hfile, refusal?, if_neg hany, readAll, hdecode, Except.mapError,
          rewrite]
  · rw [hdevice] at htext
    cases htext

end Acquire

/-! ## All that an acquisition can come to -/

/-- What opening a lock file gives: the place that its path leads to, the tree with a file there that is empty if it
was missing, and what the file holds. -/
structure Opens (tree : FileTree) (path : String) (now : Int) (place : Place) (opened : FileTree)
    (contents : ByteArray) : Prop where
  leads : tree.placeToWrite path = .ok place
  made : opened = tree ∨ tree.entry? place = none ∧ opened = tree.put place (.file .empty now)
  stands : (∃ modified, opened.entry? place = some (.file contents modified)) ∨
    opened.entry? place = some .device

section Cases

variable {tree opened : FileTree} {path name : String} {now : Int} {place : Place} {contents : ByteArray}
  {hindrance : Option Hindrance} {held : List SingletonLock}

/-- What is put at the place of a lock file that was opened is put there in the tree as it was before. -/
theorem Opens.put_eq (h : Opens tree path now place opened contents) (entry : Entry) :
    opened.put place entry = tree.put place entry := by
  rcases h.made with rfl | ⟨-, rfl⟩
  · rfl
  · exact put_put tree place _ entry

/-- What is read of a lock file that was opened is the text that it held, or nothing if it was missing. -/
theorem Opens.previousText?_eq (h : Opens tree path now place opened contents)
    (hfile : opened.entry? place ≠ some .device) {text : String} (htext : contents = text.toByteArray) :
    previousText? ( tree.entry? place) = some text := by
  obtain ⟨modified, hstands⟩ := h.stands.resolve_right hfile
  subst htext
  rcases h.made with rfl | ⟨hmissing, rfl⟩
  · rw [hstands, previousText?_text]
  · rw [entry?_put_self tree _ (resolve_of_placeToWrite h.leads).2.ne_root] at hstands
    injection Option.some.inj hstands with hempty
    have hread : Text.decode .empty = .ok text := (Text.decode_eq_ok_iff _ _).2 hempty
    have hnothing : Text.decode .empty = .ok "" := (Text.decode_eq_ok_iff _ _).2 rfl
    rw [hmissing, previousText?, Except.ok.inj (hnothing.symm.trans hread)]

/-- A lock file cannot be opened, or nothing has kept the start from opening it. -/
theorem openFile_cases (tree : FileTree) (path : String) (now : Int) (hindrance : Option Hindrance) :
    (∃ fault, openFile tree path now hindrance = .error fault) ∨
      (∀ fault, hindrance ≠ some (.opening fault)) ∧ ∃ place opened contents,
        Opens tree path now place opened contents ∧
        openFile tree path now hindrance = .ok (place, opened, contents) := by
  unfold openFile
  split
  · exact .inl ⟨_, rfl⟩
  · exact .inl ⟨_, rfl⟩
  · rename_i place hpath hopened
    have hwritable := (resolve_of_placeToWrite hpath).2
    refine .inr ⟨hopened, place, ?_⟩
    rcases id hwritable with ⟨hnone, -⟩ | ⟨contents, modified, hfile⟩ | hdevice
    · rw [hnone]
      exact ⟨_, _, ⟨hpath, .inr ⟨hnone, rfl⟩,
        .inl ⟨now, entry?_put_self tree _ hwritable.ne_root⟩⟩, rfl⟩
    · rw [hfile]
      exact ⟨_, _, ⟨hpath, .inl rfl, .inl ⟨modified, hfile⟩⟩, rfl⟩
    · rw [hdevice]
      exact ⟨_, _, ⟨hpath, .inl rfl, .inr hdevice⟩, rfl⟩

/-- A lock file can be locked if nothing keeps the system from it and no lock is held there. -/
theorem refusal?_eq_none (h : refusal? held place path name hindrance = none) :
    (∀ errno, hindrance ≠ some (.locking errno)) ∧ place ∉ held.map SingletonLock.place := by
  unfold refusal? at h
  split at h
  · cases h
  · rename_i hlocking
    refine ⟨hlocking, fun hheld => ?_⟩
    rw [if_pos (any_place_iff.2 hheld)] at h
    cases h

/-- All of a lock file is read if it holds text and nothing keeps the system from it. -/
theorem readAll_eq_ok {text : String} (h : readAll contents hindrance = .ok text) :
    (∀ fault, hindrance ≠ some (.reading fault)) ∧ contents = text.toByteArray := by
  unfold readAll at h
  split at h
  · cases h
  · rename_i hreading
    refine ⟨hreading, (Text.decode_eq_ok_iff _ _).1 ?_⟩
    cases hdecode : Text.decode contents with
    | error fault =>
        rw [hdecode] at h
        cases h
    | ok read =>
        rw [hdecode] at h
        exact congrArg Except.ok (Except.ok.inj h)

/-- A lock file is not emptied, or only the beginning of the record is written, or all of it. -/
theorem rewrite_cases (tree : FileTree) (place : Place) (text : String) (now : Int)
    (hindrance : Option Hindrance) :
    (∃ fault, rewrite tree place text now hindrance = (.error fault, tree)) ∨
      tree.entry? place ≠ some .device ∧
        ((∃ written fault, hindrance = some (.writing written fault) ∧
            rewrite tree place text now hindrance =
              (.error fault, tree.put place (.file (beginning text written).toByteArray now))) ∨
          (∀ fault, hindrance ≠ some (.emptying fault)) ∧
            (∀ written fault, hindrance ≠ some (.writing written fault)) ∧
            rewrite tree place text now hindrance = (.ok (), tree.put place (.file text.toByteArray now))) := by
  unfold rewrite
  split
  · exact .inl ⟨_, rfl⟩
  · exact .inl ⟨_, rfl⟩
  · exact .inr ⟨‹_›, .inl ⟨_, _, rfl, rfl⟩⟩
  · exact .inr ⟨‹_›, .inr ⟨‹_›, ‹_›, rfl⟩⟩

/-- Everything that an acquisition can come to. -/
inductive Acquired (held : List SingletonLock) (tree : FileTree) (directory program : String) (pid : Nat)
    (now : Int) (hindrance : Option Hindrance) : Except LockError SingletonLock × FileTree → Prop where
  /-- it fails and changes nothing -/
  | failed (error : LockError) :
      Acquired held tree directory program pid now hindrance (.error error, tree)
  /-- it fails with its lock file as it was opened -/
  | refused {place : Place} {opened : FileTree} {contents : ByteArray} (error : LockError)
      (opens : Opens tree (filePath directory (baseName program)) now place opened contents) :
      Acquired held tree directory program pid now hindrance (.error error, opened)
  /-- it breaks off while its record is written -/
  | brokenOff {place : Place} {text : String} {written : Nat} {fault : SystemFault}
      (leads : tree.placeToWrite (filePath directory (baseName program)) = .ok place)
      (free : place ∉ held.map SingletonLock.place) (reads : previousText? ( tree.entry? place) = some text)
      (breaks : hindrance = some (.writing written fault)) :
      Acquired held tree directory program pid now hindrance
        (.error (.file (filePath directory (baseName program)) fault),
          tree.put place (.file (beginning (record (nextCount text) pid) written).toByteArray now))
  /-- it has the lock -/
  | taken {place : Place} {text : String}
      (leads : tree.placeToWrite (filePath directory (baseName program)) = .ok place)
      (free : place ∉ held.map SingletonLock.place) (reads : previousText? ( tree.entry? place) = some text)
      (smooth : hindrance = none) :
      Acquired held tree directory program pid now hindrance
        (.ok ⟨place, filePath directory (baseName program), baseName program, nextCount text⟩,
          tree.put place (.file (record (nextCount text) pid).toByteArray now))

theorem acquired_acquire (held : List SingletonLock) (tree : FileTree) (directory program : String) (pid : Nat)
    (now : Int) (hindrance : Option Hindrance) :
    Acquired held tree directory program pid now hindrance
      (acquire held tree directory program pid now hindrance) := by
  unfold acquire
  rcases openFile_cases tree (filePath directory (baseName program)) now hindrance with
    ⟨fault, hopen⟩ | ⟨hopening, place, opened, contents, hopens, hopen⟩
  · simp only [hopen]
    exact .failed _
  · simp only [hopen]
    cases hrefusal : refusal? held place (filePath directory (baseName program)) (baseName program)
      hindrance with
    | some error => exact .refused error hopens
    | none =>
        obtain ⟨hlocking, hfree⟩ := refusal?_eq_none hrefusal
        cases hread : readAll contents hindrance with
        | error fault => exact .refused _ hopens
        | ok text =>
            obtain ⟨hreading, htext⟩ := readAll_eq_ok hread
            rcases rewrite_cases opened place (record (nextCount text) pid) now hindrance with
              ⟨fault, hrewrite⟩ | ⟨hfile, ⟨written, fault, hwriting, hrewrite⟩ |
                ⟨hemptying, hwriting, hrewrite⟩⟩
            · simp only [hrewrite]
              exact .refused _ hopens
            · simp only [hrewrite, hopens.put_eq]
              exact .brokenOff hopens.leads hfree (hopens.previousText?_eq hfile htext) hwriting
            · simp only [hrewrite, hopens.put_eq]
              refine .taken hopens.leads hfree (hopens.previousText?_eq hfile htext) ?_
              cases hindrance with
              | none => rfl
              | some hindrance =>
                  cases hindrance with
                  | opening fault => exact absurd rfl (hopening fault)
                  | locking errno => exact absurd rfl (hlocking errno)
                  | reading fault => exact absurd rfl (hreading fault)
                  | emptying fault => exact absurd rfl (hemptying fault)
                  | writing written fault => exact absurd rfl (hwriting written fault)

end Cases

/-! ## Locks and files -/

/-- The locks that are held on a machine, and its files. -/
structure Machine where
  held : List SingletonLock
  tree : FileTree

/-- A process tries to take its lock, with something that may hinder it, or a lock that is held is released. -/
inductive Event where
  | acquire (directory program : String) (pid : Nat) (now : Int) (hindrance : Option Hindrance := none)
  | release (index : Nat)
  deriving DecidableEq, Repr

/-- The machine after an acquisition: it holds the lock, if there is one. -/
def Machine.settle (machine : Machine) : Except LockError SingletonLock × FileTree → Machine
  | (.ok lock, tree) => ⟨machine.held ++ [lock], tree⟩
  | (.error _, tree) => ⟨machine.held, tree⟩

/-- What an event comes to: the lock or the error that an acquisition has for its answer. -/
def Machine.perform (machine : Machine) :
    Event → Option (Except LockError SingletonLock) × Machine
  | .acquire directory program pid now hindrance =>
      let result := acquire machine.held machine.tree directory program pid now hindrance
      (some result.1, machine.settle result)
  | .release index => (none, ⟨machine.held.eraseIdx index, machine.tree⟩)

/-- The count that a lock file records, if it records one. -/
def recordedAt? (tree : FileTree) (place : Place) : Option Nat :=
  (previousText? ( tree.entry? place)).bind recordedCount?

/-- The count that is known of a lock file after one more event: that of the lock, if the event has taken one there;
what the file records, if the event is a start that has failed and left the file changed; and what was known before
otherwise. -/
def Machine.countLeft (place : Place) (machine : Machine) (known : Option Nat) (event : Event) :
    Option Nat :=
  match machine.perform event with
  | (some (.ok lock), _) => if lock.place = place then some lock.restartCount else known
  | (some (.error _), after) =>
      if after.tree.entry? place = machine.tree.entry? place then known else recordedAt? after.tree place
  | (none, _) => known

/-- The count that is known of a lock file after a run: that of the last lock taken on it, or what a start that
failed has left there since, or what was known at first. -/
def lastCount? (place : Place) : Machine → Option Nat → List Event → Option Nat
  | _, known, [] => known
  | machine, known, event :: rest =>
      lastCount? place (machine.perform event).2 (machine.countLeft place known event) rest

/-- The count of a start after the last one. -/
def countAfter : Option Nat → Nat
  | some count => min (count + 1) maxCount
  | none => 1

theorem nextCount_eq (text : String) : nextCount text = countAfter (recordedCount? text) := by
  rw [nextCount]
  cases recordedCount? text with
  | none => rfl
  | some count => rfl

theorem countAfter_le (count? : Option Nat) : countAfter count? ≤ maxCount := by
  cases count? with
  | none => decide
  | some count => exact Nat.min_le_right _ _

theorem nextCount_le (text : String) : nextCount text ≤ maxCount := by
  rw [nextCount_eq]
  exact countAfter_le _

/-- A record that is put at a place is what the file there records. -/
theorem recordedAt?_put_record (tree : FileTree) {place : Place} (hroot : place ≠ []) {count : Nat}
    (hcount : count ≤ maxCount) (pid : Nat) (now : Int) :
    recordedAt? (tree.put place (.file (record count pid).toByteArray now)) place = some count := by
  rw [recordedAt?, entry?_put_self tree _ hroot, previousText?_text, Option.bind_some,
    recordedCount?_record hcount pid]

/-- A lock that was taken is on a file to which its path leads, and its record is the only change. -/
theorem put_of_ok {machine : Machine} {directory program : String} {pid : Nat} {now : Int}
    {hindrance : Option Hindrance} {lock : SingletonLock} {after : FileTree}
    (h : acquire machine.held machine.tree directory program pid now hindrance = (.ok lock, after)) :
    machine.tree.placeToWrite lock.path = .ok lock.place ∧
      lock.place ∉ machine.held.map SingletonLock.place ∧ lock.restartCount ≤ maxCount ∧
      after = machine.tree.put lock.place (.file (record lock.restartCount pid).toByteArray now) := by
  have hacquired := acquired_acquire machine.held machine.tree directory program pid now hindrance
  rw [h] at hacquired
  cases hacquired with
  | @taken place text leads free =>
      dsimp only
      exact ⟨leads, free, nextCount_le text, rfl⟩

/-- What is known of a lock file after one more event is what the file records, if it was before. -/
theorem recordedAt?_perform (place : Place) (machine : Machine) (event : Event) :
    recordedAt? (machine.perform event).2.tree place =
      machine.countLeft place (recordedAt? machine.tree place) event := by
  cases event with
  | release index => rfl
  | acquire directory program pid now hindrance =>
      cases hresult : acquire machine.held machine.tree directory program pid now hindrance with
      | mk answer after =>
          cases answer with
          | error error =>
              have hperform : machine.perform (.acquire directory program pid now hindrance) =
                  (some (.error error), ⟨machine.held, after⟩) := by rw [Machine.perform, hresult]; rfl
              simp only [Machine.countLeft, hperform]
              by_cases hsame : after.entry? place = machine.tree.entry? place
              · rw [if_pos hsame, recordedAt?, hsame, recordedAt?]
              · rw [if_neg hsame]
          | ok lock =>
              have hperform : machine.perform (.acquire directory program pid now hindrance) =
                  (some (.ok lock), ⟨machine.held ++ [lock], after⟩) := by rw [Machine.perform, hresult]; rfl
              simp only [Machine.countLeft, hperform]
              obtain ⟨hleads, -, hcount, rfl⟩ := put_of_ok hresult
              have hroot := (resolve_of_placeToWrite hleads).2.ne_root
              by_cases hsame : lock.place = place
              · subst hsame
                rw [if_pos rfl]
                exact recordedAt?_put_record machine.tree hroot hcount pid now
              · rw [if_neg hsame, recordedAt?, entry?_put machine.tree _ hroot, if_neg (Ne.symm hsame),
                  recordedAt?]

/-- A lock file records what is known of it by what has happened. -/
theorem recordedAt?_run (place : Place) (machine : Machine) (events : List Event) :
    recordedAt? (runCalls Machine.perform machine events).2.tree place =
      lastCount? place machine (recordedAt? machine.tree place) events := by
  induction events generalizing machine with
  | nil => rfl
  | cons event rest ih =>
      rw [lastCount?, ← recordedAt?_perform]
      exact ih (machine.perform event).2

section Perform

variable {machine : Machine} {directory program : String} {place : Place} {hindrance : Option Hindrance}

/-- A lock is taken on a free file that holds text, with one start more than the file records. -/
theorem perform_of_free {known : Option Nat}
    (hpath : machine.tree.placeToWrite (filePath directory (baseName program)) = .ok place)
    (hfree : place ∉ machine.held.map SingletonLock.place) (pid : Nat) (now : Int)
    (htext : previousText? ( machine.tree.entry? place) ≠ none)
    (hknown : recordedAt? machine.tree place = known) :
    let lock : SingletonLock :=
      ⟨place, filePath directory (baseName program), baseName program, countAfter known⟩
    machine.perform (.acquire directory program pid now) =
      (some (.ok lock), ⟨machine.held ++ [lock],
        machine.tree.put place (.file (record lock.restartCount pid).toByteArray now)⟩) := by
  obtain ⟨text, htext⟩ := Option.ne_none_iff_exists'.1 htext
  rw [recordedAt?, htext, Option.bind_some] at hknown
  rw [Machine.perform, acquire_of_free hpath hfree pid now htext, nextCount_eq, hknown]
  rfl

/-- A start that is hindered takes no lock.  It leaves its lock file as it was, or empty if it was missing, or with
the beginning of the record of the start that it would have been. -/
theorem perform_of_hindered {known : Option Nat}
    (hpath : machine.tree.placeToWrite (filePath directory (baseName program)) = .ok place)
    (hhindered : hindrance ≠ none) (pid : Nat) (now : Int)
    (hknown : recordedAt? machine.tree place = known) :
    ∃ error tree, machine.perform (.acquire directory program pid now hindrance) =
      (some (.error error), ⟨machine.held, tree⟩) ∧
      (tree = machine.tree ∨
        machine.tree.entry? place = none ∧ tree = machine.tree.put place (.file .empty now) ∨
        ∃ written fault, hindrance = some (.writing written fault) ∧ tree = machine.tree.put place
          (.file (beginning (record (countAfter known) pid) written).toByteArray now)) := by
  have hacquired := acquired_acquire machine.held machine.tree directory program pid now hindrance
  rw [Machine.perform]
  generalize acquire machine.held machine.tree directory program pid now hindrance = result at hacquired
  cases hacquired with
  | failed error => exact ⟨error, _, rfl, .inl rfl⟩
  | @refused other opened contents error opens =>
      obtain rfl : place = other := Except.ok.inj (hpath.symm.trans opens.leads)
      exact ⟨error, _, rfl, opens.made.imp id .inl⟩
  | @brokenOff other text written fault leads free reads breaks =>
      obtain rfl : place = other := Except.ok.inj (hpath.symm.trans leads)
      rw [recordedAt?, reads, Option.bind_some] at hknown
      rw [nextCount_eq, hknown]
      exact ⟨_, _, rfl, .inr (.inr ⟨written, fault, breaks, rfl⟩)⟩
  | taken leads free reads smooth => exact absurd smooth hhindered

end Perform

/-! ## What stays true -/

/-- What is true on a machine in a run from some files: a lock file that held text holds text; the path of a lock
that is held leads to its file, which holds its record; and no other lock is held there. -/
structure Kept (initial : FileTree) (machine : Machine) : Prop where
  text : ∀ place, previousText? ( initial.entry? place) ≠ none →
    previousText? ( machine.tree.entry? place) ≠ none
  held : ∀ lock ∈ machine.held, machine.tree.placeToWrite lock.path = .ok lock.place ∧
    lock.restartCount ≤ maxCount ∧ ∃ pid now,
      machine.tree.entry? lock.place = some (.file (record lock.restartCount pid).toByteArray now)
  single : (machine.held.map SingletonLock.place).Nodup

namespace Kept

variable {initial : FileTree} {machine : Machine}

theorem start (initial : FileTree) : Kept initial ⟨[], initial⟩ where
  text := fun _ => id
  held := fun _ hlock => absurd hlock List.not_mem_nil
  single := List.nodup_nil

/-- The file of a lock that is held stands. -/
theorem entry?_ne_none (h : Kept initial machine) {place : Place}
    (hheld : place ∈ machine.held.map SingletonLock.place) : machine.tree.entry? place ≠ none := by
  obtain ⟨lock, hlock, rfl⟩ := List.mem_map.1 hheld
  obtain ⟨-, -, pid, now, hentry⟩ := h.held lock hlock
  rw [hentry]
  exact Option.some_ne_none _

/-- A lock that is released is held no more, and nothing else changes. -/
theorem release (h : Kept initial machine) (index : Nat) :
    Kept initial ⟨machine.held.eraseIdx index, machine.tree⟩ where
  text := h.text
  held := fun lock hlock => h.held lock (List.mem_of_mem_eraseIdx hlock)
  single := h.single.sublist ((List.eraseIdx_sublist machine.held index).map _)

/-- Text that is put at a free lock file changes nothing for the locks that are held. -/
theorem put (h : Kept initial machine) {path : String} {place : Place}
    (hpath : machine.tree.placeToWrite path = .ok place)
    (hfree : place ∉ machine.held.map SingletonLock.place) (text : String) (now : Int) :
    Kept initial ⟨machine.held, machine.tree.put place (.file text.toByteArray now)⟩ := by
  have hwritable := (resolve_of_placeToWrite hpath).2
  have hways := keepsWays_put (fun _ => hwritable.isPlain) (.file text.toByteArray now)
  have hentry : ∀ other, entry? (machine.tree.put place (.file text.toByteArray now)) other =
      if other = place then some (.file text.toByteArray now) else machine.tree.entry? other :=
    fun other => entry?_put machine.tree _ hwritable.ne_root
  refine ⟨fun other hinitial => ?_, fun lock hlock => ?_, h.single⟩
  · rw [hentry]
    split
    · rw [previousText?_text]
      exact Option.some_ne_none _
    · exact h.text other hinitial
  · have hne : lock.place ≠ place := fun heq => hfree (heq ▸ List.mem_map_of_mem hlock)
    obtain ⟨hleads, hcount, pid, now', hrecord⟩ := h.held lock hlock
    have hstays := (hentry lock.place).trans (if_neg hne)
    exact ⟨(hways.placeToWrite hleads (hstays.trans hrecord)).1, hcount, pid, now', hstays.trans hrecord⟩

/-- A lock that is taken on a free file is held with its record there. -/
theorem take (h : Kept initial machine) {path name : String} {place : Place} {count : Nat}
    (hpath : machine.tree.placeToWrite path = .ok place)
    (hfree : place ∉ machine.held.map SingletonLock.place) (hcount : count ≤ maxCount) (pid : Nat)
    (now : Int) :
    Kept initial ⟨machine.held ++ [⟨place, path, name, count⟩],
      machine.tree.put place (.file (record count pid).toByteArray now)⟩ := by
  have hwritable := (resolve_of_placeToWrite hpath).2
  have hstands := entry?_put_self machine.tree (.file (record count pid).toByteArray now) hwritable.ne_root
  have hways := keepsWays_put (fun _ => hwritable.isPlain) (.file (record count pid).toByteArray now)
  have hput := h.put hpath hfree (record count pid) now
  refine ⟨hput.text, fun other hother => ?_, ?_⟩
  · rcases List.mem_append.1 hother with hother | hother
    · exact hput.held other hother
    · rw [List.mem_singleton] at hother
      subst hother
      exact ⟨(hways.placeToWrite hpath hstands).1, hcount, pid, now, hstands⟩
  · rw [List.map_append, List.map_singleton]
    refine List.nodup_append.2 ⟨h.single, List.nodup_singleton _, ?_⟩
    intro place hplace last hlast heq
    rw [List.mem_singleton] at hlast
    rw [heq, hlast] at hplace
    exact hfree hplace

/-- A lock file that was opened is as it was, or was missing and is empty now. -/
theorem opens (h : Kept initial machine) {path : String} {now : Int} {place : Place} {opened : FileTree}
    {contents : ByteArray} (hopens : Opens machine.tree path now place opened contents) :
    Kept initial ⟨machine.held, opened⟩ := by
  rcases hopens.made with rfl | ⟨hmissing, rfl⟩
  · exact h
  · have hempty : ByteArray.empty = "".toByteArray := rfl
    rw [hempty]
    exact h.put hopens.leads (fun hheld => h.entry?_ne_none hheld hmissing) "" now

/-- An event keeps all that. -/
theorem step (h : Kept initial machine) (event : Event) : Kept initial (machine.perform event).2 := by
  cases event with
  | release index => exact h.release index
  | acquire directory program pid now hindrance =>
      have hacquired := acquired_acquire machine.held machine.tree directory program pid now hindrance
      rw [Machine.perform]
      generalize acquire machine.held machine.tree directory program pid now hindrance = result at hacquired
      cases hacquired with
      | failed error => exact h
      | refused error opens => exact h.opens opens
      | brokenOff leads free => exact h.put leads free _ now
      | taken leads free => exact h.take leads free (nextCount_le _) pid now

/-- So does a run. -/
theorem run (h : Kept initial machine) (events : List Event) :
    Kept initial (runCalls Machine.perform machine events).2 := by
  induction events generalizing machine with
  | nil => exact h
  | cons event rest ih => exact ih (h.step event)

/-! ## Starts while a lock is held -/

section Held

variable {directory program : String} {place : Place} {hindrance : Option Hindrance}

/-- While a lock is held on the file, a second start has none, and nothing changes. -/
theorem perform_of_held (h : Kept initial machine)
    (hpath : machine.tree.placeToWrite (filePath directory (baseName program)) = .ok place)
    (hheld : place ∈ machine.held.map SingletonLock.place) (pid : Nat) (now : Int) :
    ∃ error, machine.perform (.acquire directory program pid now hindrance) =
      (some (.error error), machine) := by
  have hacquired := acquired_acquire machine.held machine.tree directory program pid now hindrance
  rw [Machine.perform]
  generalize acquire machine.held machine.tree directory program pid now hindrance = result at hacquired
  cases hacquired with
  | failed error => exact ⟨error, rfl⟩
  | @refused other opened contents error opens =>
      obtain rfl : place = other := Except.ok.inj (hpath.symm.trans opens.leads)
      rcases opens.made with rfl | ⟨hmissing, -⟩
      · exact ⟨error, rfl⟩
      · exact absurd hmissing (h.entry?_ne_none hheld)
  | @brokenOff other text written fault leads free =>
      obtain rfl : place = other := Except.ok.inj (hpath.symm.trans leads)
      exact absurd hheld free
  | @taken other text leads free =>
      obtain rfl : place = other := Except.ok.inj (hpath.symm.trans leads)
      exact absurd hheld free

/-- It is refused because the process is already running, if its lock file can be opened and nothing but the lock
keeps it from being locked. -/
theorem perform_of_running (h : Kept initial machine)
    (hpath : machine.tree.placeToWrite (filePath directory (baseName program)) = .ok place)
    (hheld : place ∈ machine.held.map SingletonLock.place) (pid : Nat) (now : Int)
    (hopening : ∀ fault, hindrance ≠ some (.opening fault))
    (hlocking : ∀ errno, hindrance ≠ some (.locking errno)) :
    machine.perform (.acquire directory program pid now hindrance) =
      (some (.error (.alreadyRunning (baseName program))), machine) := by
  rw [Machine.perform, acquire_of_held hpath hheld (h.entry?_ne_none hheld) hopening hlocking]
  rfl

end Held

end Kept

/-! ## Every run -/

/-- **Runs of locks.**  Let processes start and end in any order, with whatever hinders them on their way, and
then one more start.

* Its lock file is named for the text behind the last slash of the name of its program.
* No two locks are held on one file.
* While a lock is held on its lock file, the start has none, whatever hinders it, and nothing changes.  The
  process is already running by its answer, unless the file cannot be opened or not locked for another reason.
* Where no lock is held on its lock file, and that file is missing or held text at first, it has the lock if
  nothing hinders it.  Its count is one more than that of the last lock taken on the file, or than what a start
  that failed has left there since, or than what was recorded at first; it is the greatest one if that is
  reached, and one if there is nothing to count on from.  The file then holds its record and nothing else, and
  the count is read back from it.
* If something hinders it there, it has no lock, and the file is as it was; or empty, if it was missing; or the
  beginning of the record.  From a record that breaks off before the count, no count is read, and from one that
  breaks off behind it, that count. -/
theorem lock_runs (initial : FileTree) (earlier : List Event) (directory program : String) (pid : Nat)
    (now : Int) :
    let machine := (runCalls Machine.perform ⟨[], initial⟩ earlier).2
    let path := filePath directory (baseName program)
    let start := fun hindrance => machine.perform (.acquire directory program pid now hindrance)
    (∀ last, '/' ∉ last.toList → (program = last ∨ ∃ front, program = front ++ "/" ++ last) →
      path = filePath directory last) ∧
    (machine.held.map SingletonLock.place).Nodup ∧
    (∀ lock ∈ machine.held, lock.path = path ∨ machine.tree.placeToWrite path = .ok lock.place →
      ∀ hindrance, (∃ error, start hindrance = (some (.error error), machine)) ∧
        ((∀ fault, hindrance ≠ some (.opening fault)) → (∀ errno, hindrance ≠ some (.locking errno)) →
          start hindrance = (some (.error (.alreadyRunning (baseName program))), machine))) ∧
    (∀ place, machine.tree.placeToWrite path = .ok place →
      place ∉ machine.held.map SingletonLock.place → previousText? ( initial.entry? place) ≠ none →
      let count := countAfter (lastCount? place ⟨[], initial⟩ (recordedAt? initial place) earlier)
      let put := fun text : String => machine.tree.put place (.file text.toByteArray now)
      start none = (some (.ok ⟨place, path, baseName program, count⟩),
        ⟨machine.held ++ [⟨place, path, baseName program, count⟩], put (record count pid)⟩) ∧
      recordedCount? (record count pid) = some count ∧
      ∀ hindrance, hindrance ≠ none → ∃ error tree,
        start hindrance = (some (.error error), ⟨machine.held, tree⟩) ∧
        (tree = machine.tree ∨ machine.tree.entry? place = none ∧ tree = put "" ∨
          ∃ written fault, hindrance = some (.writing written fault) ∧
            tree = put (beginning (record count pid) written) ∧
            (written ≤ label.length → recordedCount? (beginning (record count pid) written) = none) ∧
            ((label ++ toString count).length ≤ written →
              recordedCount? (beginning (record count pid) written) = some count))) := by
  intro machine path start
  have h : Kept initial machine := (Kept.start initial).run earlier
  refine ⟨fun last hlast hname => by rw [← baseName_eq hlast hname], h.single, ?_, ?_⟩
  · intro lock hlock hsame hindrance
    have hheld := List.mem_map_of_mem (f := SingletonLock.place) hlock
    have hleads : machine.tree.placeToWrite path = .ok lock.place := by
      rcases hsame with hsame | hleads
      · rw [← hsame]
        exact (h.held lock hlock).1
      · exact hleads
    exact ⟨h.perform_of_held hleads hheld pid now,
      h.perform_of_running hleads hheld pid now⟩
  · intro place hpath hfree hinitial count put
    have hknown : recordedAt? machine.tree place =
        lastCount? place ⟨[], initial⟩ (recordedAt? initial place) earlier :=
      recordedAt?_run place ⟨[], initial⟩ earlier
    have hcount : count ≤ maxCount := countAfter_le _
    refine ⟨perform_of_free hpath hfree pid now (h.text place hinitial) hknown,
      recordedCount?_record hcount pid, fun hindrance hhindered => ?_⟩
    obtain ⟨error, tree, hperform, hleft⟩ := perform_of_hindered hpath hhindered pid now hknown
    refine ⟨error, tree, hperform, ?_⟩
    rcases hleft with hsame | hmade | ⟨written, fault, hwriting, hbroken⟩
    · exact .inl hsame
    · exact .inr (.inl hmade)
    · exact .inr (.inr ⟨written, fault, hwriting, hbroken,
        fun hwritten => recordedCount?_beginning_label hwritten count pid,
        fun hwritten => recordedCount?_beginning_count hcount hwritten pid⟩)

/-- A machine with a lock file that records four starts, and more text than a record has. -/
def startedBefore : FileTree :=
  { fresh with
    entries := fresh.entries ++
      [(["home", "device", "app.pid"], .file "Restart Count: 4 \nPID:99\nleft over".toByteArray 0)] }

/-- A process starts for the fifth time. -/
def started : List Event := [.acquire "." "/usr/bin/app" 7 1]

/-- Another process of that name cannot start with it.  It starts for the sixth time when the first one has
ended. -/
theorem lock_runs_restart :
    ((runCalls Machine.perform ⟨[], startedBefore⟩ started).2.perform (.acquire "." "app" 8 2)).1 =
        some (.error (.alreadyRunning "app")) ∧
      ((runCalls Machine.perform ⟨[], startedBefore⟩ (started ++ [.release 0])).2.perform
          (.acquire "." "app" 8 2)).1 =
        some (.ok ⟨["home", "device", "app.pid"], "./app.pid", "app", 6⟩) := by
  obtain ⟨-, -, hheld, -⟩ := lock_runs startedBefore started "." "app" 8 2
  obtain ⟨-, -, -, hfree⟩ := lock_runs startedBefore (started ++ [.release 0]) "." "app" 8 2
  have hlock : (⟨["home", "device", "app.pid"], "./app.pid", "app", 5⟩ : SingletonLock) ∈
      (runCalls Machine.perform ⟨[], startedBefore⟩ started).2.held := by decide +kernel
  have hpath : filePath "." (baseName "app") = "./app.pid" := by decide +kernel
  obtain ⟨-, hrunning⟩ := hheld _ hlock (.inl hpath.symm) none
  obtain ⟨hperform, -⟩ := hfree ["home", "device", "app.pid"] (by decide +kernel) (by decide +kernel)
    (by decide +kernel)
  have hcount : lastCount? ["home", "device", "app.pid"] ⟨[], startedBefore⟩
      (recordedAt? startedBefore ["home", "device", "app.pid"]) (started ++ [.release 0]) = some 5 := by
    decide +kernel
  refine ⟨congrArg Prod.fst (hrunning nofun nofun), ?_⟩
  rw [congrArg Prod.fst hperform, hcount, hpath]
  rfl

/-- Two programs whose paths both end in one name need not contend.  A start that has emptied the lock file and
cannot write it is not counted, nor what was counted before it.  And a file that is locked may be refused for
another reason than the lock. -/
theorem not_every_start_counts :
    (Path.fileName? "app/" = Path.fileName? "app" ∧
      (runCalls Machine.perform ⟨[], fresh⟩ [.acquire "." "app" 7 1, .acquire "." "app/" 8 2]).1 =
        [some (.ok ⟨["home", "device", "app.pid"], "./app.pid", "app", 1⟩),
          some (.ok ⟨["home", "device", ".pid"], "./.pid", "", 1⟩)]) ∧
    (runCalls Machine.perform ⟨[], fresh⟩ [.acquire "." "app" 7 1, .release 0,
        .acquire "." "app" 8 2 (some (.writing 0 (.system .noSpace))), .acquire "." "app" 9 3]).1 =
      [some (.ok ⟨["home", "device", "app.pid"], "./app.pid", "app", 1⟩), none,
        some (.error (.file "./app.pid" (.system .noSpace))),
        some (.ok ⟨["home", "device", "app.pid"], "./app.pid", "app", 1⟩)] ∧
    (runCalls Machine.perform ⟨[], fresh⟩ [.acquire "." "app" 7 1,
        .acquire "." "app" 8 2 (some (.locking ⟨"ENOLCK", "No locks available"⟩))]).1 =
      [some (.ok ⟨["home", "device", "app.pid"], "./app.pid", "app", 1⟩),
        some (.error (.lock "./app.pid" ⟨"ENOLCK", "No locks available"⟩))] := by
  decide +kernel

end DeviceBus.SingletonLock
