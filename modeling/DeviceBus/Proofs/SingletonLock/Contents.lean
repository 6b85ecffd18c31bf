import DeviceBus.Proofs.SingletonLock.Run
import Mathlib.Data.List.TakeWhile

/-!
# Lock files with any contents

A lock file may hold anything when a process starts: a record, other text, or bytes that are no text at all.
What a text records is read off its first line; a text without a count there begins again at one.  But all of
the file is read before the line is looked at.  So bytes anywhere in it that are no text keep the process from
starting, now and after every later attempt, since the file is left as it is.

* `Records`, `recordedCount?_eq_some_iff`: the first lines that record a count.
* `IsStartCount`, `isStartCount_iff`: the count of a start after a text.
* `Stuck`, `Stuck.run`: a lock file that is no text stays as it is, and no lock is ever taken on it.
* `start_by_contents`: what the contents of a free lock file mean for the process.
* `not_every_content_starts`: a readable first line is of no use where another byte is no text.
-/

namespace DeviceBus

namespace SingletonLock

open FileTree

/-! ## What a text records -/

/-- The first line of a text: what stands before the first line break, which is a line feed alone or with a
carriage return before it, or all of a text without one. -/
def IsFirstLine (line text : List Char) : Prop :=
  '\n' ∉ line ∧
    (text = line ∨ (∃ rest, text = line ++ '\n' :: rest ∧ line.getLast? ≠ some '\r') ∨
      ∃ rest, text = line ++ '\r' :: '\n' :: rest)

/-- A text whose first line records a count: the label and a number that is no greater than counts are, with
nothing but blanks around the number. -/
def Records (text : String) (count : Nat) : Prop :=
  ∃ front number back, IsFirstLine (label.toList ++ (front ++ number ++ back)) text.toList ∧
    (∀ c ∈ front, Text.isBlank c = true) ∧ (∀ c ∈ back, Text.isBlank c = true) ∧
    Number.Spells number count ∧ count ≤ maxCount

/-- A text has a first line, and it is the one that is read. -/
theorem isFirstLine_firstLine (text : List Char) : IsFirstLine (firstLine text) text := by
  have hline : '\n' ∉ text.takeWhile (· ≠ '\n') := fun hmem => by
    simpa using List.all_eq_true.1 List.all_takeWhile _ hmem
  have hsplit := List.takeWhile_append_dropWhile (p := (· ≠ '\n')) (l := text)
  cases hrest : text.dropWhile (· ≠ '\n') with
  | nil =>
      rw [hrest, List.append_nil] at hsplit
      rw [firstLine, hsplit, if_neg fun hends => Nat.lt_irrefl _ hends.1]
      exact ⟨hsplit ▸ hline, .inl rfl⟩
  | cons c rest =>
      have hbreak : c = '\n' := by
        have hhead := List.head?_dropWhile_not (· ≠ '\n') text
        rw [hrest] at hhead
        simpa using hhead
      subst hbreak
      rw [hrest] at hsplit
      rw [firstLine]
      split
      · rename_i hends
        obtain ⟨front, hfront⟩ := List.getLast?_eq_some_iff.1 hends.2
        rw [hfront, List.dropLast_concat]
        rw [hfront, List.append_assoc] at hsplit
        refine ⟨fun hmem => hline ?_, .inr (.inr ⟨rest, hsplit.symm⟩)⟩
        rw [hfront]
        exact List.mem_append_left _ hmem
      · rename_i hends
        refine ⟨hline, .inr (.inl ⟨rest, hsplit.symm, fun hreturn => hends ⟨?_, hreturn⟩⟩)⟩
        have hlength := congrArg List.length hsplit
        rw [List.length_append, List.length_cons] at hlength
        omega

/-- A text has one first line. -/
theorem firstLine_of_isFirstLine {line text : List Char} (h : IsFirstLine line text) :
    firstLine text = line := by
  obtain ⟨hbreak, rfl | ⟨rest, rfl, hreturn⟩ | ⟨rest, rfl⟩⟩ := h
  · exact firstLine_of_single hbreak
  · exact firstLine_append hbreak hreturn
  · have hline : (line ++ '\r' :: '\n' :: rest).takeWhile (· ≠ '\n') = line ++ ['\r'] := by
      rw [show line ++ '\r' :: '\n' :: rest = (line ++ ['\r']) ++ '\n' :: rest by simp,
        List.takeWhile_append_of_pos]
      · simp
      · intro c hmem
        rw [decide_eq_true_eq]
        rintro rfl
        simp [hbreak] at hmem
    rw [firstLine, hline, if_pos ⟨by simp, by simp⟩, List.dropLast_concat]

/-- A digit or a plus sign is not blank. -/
theorem isBlank_of_spells {number : List Char} {count : Nat} (h : Number.Spells number count) :
    ∀ c ∈ number, Text.isBlank c = false := by
  intro c hmem
  rcases h.mem hmem with hdigit | rfl
  · exact Text.isBlank_of_isDigit hdigit
  · decide

/-- **Reading a count.**  A count is read from a text exactly if its first line records it. -/
theorem recordedCount?_eq_some_iff (text : String) (count : Nat) :
    recordedCount? text = some count ↔ Records text count := by
  rw [recordedCount?]
  constructor
  · intro h
    split at h
    · cases h
    · rename_i rest hprefix
      rw [List.isPrefixOf?_eq_some_iff_append_eq] at hprefix
      obtain ⟨hspells, hle⟩ := Number.unsigned?_eq_some_iff.1 h
      obtain ⟨front, back, hrest, hfront, hback⟩ := Text.exists_trimBlank rest
      refine ⟨front, Text.trimBlank rest, back, ?_, hfront, hback, hspells, hle⟩
      rw [← hrest, hprefix]
      exact isFirstLine_firstLine _
  · rintro ⟨front, number, back, hline, hfront, hback, hspells, hle⟩
    have hprefix : label.toList.isPrefixOf? (label.toList ++ (front ++ number ++ back)) =
        some (front ++ number ++ back) := by
      rw [List.isPrefixOf?_eq_some_iff_append_eq]
    rw [firstLine_of_isFirstLine hline, hprefix]
    dsimp only
    rw [Text.trimBlank_between hfront (isBlank_of_spells hspells) hspells.nonempty hback]
    exact Number.unsigned?_eq_some_iff.2 ⟨hspells, hle⟩

/-- What a start counts after a text: one more than the count that the text records, up to the greatest count;
one if it records none. -/
def IsStartCount (text : String) (count : Nat) : Prop :=
  (∃ previous, Records text previous ∧ count = min (previous + 1) maxCount) ∨
    (∀ previous, ¬Records text previous) ∧ count = 1

/-- Every text has one count for the start after it. -/
theorem isStartCount_iff (text : String) (count : Nat) :
    IsStartCount text count ↔ count = nextCount text := by
  simp only [IsStartCount, ← recordedCount?_eq_some_iff]
  rw [nextCount]
  cases recordedCount? text with
  | none => simp
  | some previous => simp

/-! ## Files that are no text -/

/-- Opening a lock file changes no file that stands. -/
theorem Opens.entry?_of_stands {tree opened : FileTree} {path : String} {now : Int} {other place : Place}
    {contents : ByteArray} (h : Opens tree path now other opened contents) {entry : Entry}
    (hstands : tree.entry? place = some entry) : opened.entry? place = some entry := by
  rcases h.made with rfl | ⟨hmissing, rfl⟩
  · exact hstands
  · have hne : place ≠ other := fun heq => by
      rw [← heq, hstands] at hmissing
      cases hmissing
    rw [entry?_put tree _ (resolve_of_placeToWrite h.leads).2.ne_root, if_neg hne, hstands]

/-- A lock file that no text is in, and on which no lock is held. -/
structure Stuck (machine : Machine) (place : Place) (contents : ByteArray) (modified : Int) : Prop where
  stands : machine.tree.entry? place = some (.file contents modified)
  free : place ∉ machine.held.map SingletonLock.place
  noText : ∀ text : String, contents ≠ text.toByteArray

namespace Stuck

variable {machine : Machine} {place : Place} {contents : ByteArray} {modified : Int}

/-- A start whose path leads to the file fails at reading it, and changes nothing. -/
theorem acquire_eq (h : Stuck machine place contents modified) {directory program : String}
    (hpath : machine.tree.placeToWrite (filePath directory (baseName program)) = .ok place) (pid : Nat)
    (now : Int) : acquire machine.held machine.tree directory program pid now =
      (.error (.file (filePath directory (baseName program)) .notText), machine.tree) := by
  have hany : ¬(machine.held.any fun lock => lock.place = place) = true := mt any_place_iff.1 h.free
  unfold acquire
  simp only [openFile, hpath, h.stands, refusal?, if_neg hany, readAll]
  cases hdecode : Text.decode contents with
  | error fault => rfl
  | ok text => exact absurd ((Text.decode_eq_ok_iff _ _).1 hdecode) (h.noText text)

/-- Another file is where text is read. -/
theorem ne_of_reads (h : Stuck machine place contents modified) {other : Place} {text : String}
    (hreads : previousText? ( machine.tree.entry? other) = some text) : place ≠ other := by
  rintro rfl
  rw [h.stands, previousText?] at hreads
  cases hdecode : Text.decode contents with
  | error fault =>
      rw [hdecode] at hreads
      cases hreads
  | ok decoded => exact h.noText decoded ((Text.decode_eq_ok_iff _ _).1 hdecode)

/-- What is written is written to another file. -/
theorem entry?_put (h : Stuck machine place contents modified) {path : String} {other : Place} {text : String}
    (hleads : machine.tree.placeToWrite path = .ok other)
    (hreads : previousText? ( machine.tree.entry? other) = some text) (entry : Entry) :
    FileTree.entry? (machine.tree.put other entry) place = some (.file contents modified) := by
  rw [FileTree.entry?_put machine.tree entry (resolve_of_placeToWrite hleads).2.ne_root,
    if_neg (h.ne_of_reads hreads), h.stands]

/-- Any event leaves the file as it is, and takes no lock on it. -/
theorem perform (h : Stuck machine place contents modified) (event : Event) :
    Stuck (machine.perform event).2 place contents modified := by
  cases event with
  | release index =>
      refine ⟨h.stands, fun hmem => h.free ?_, h.noText⟩
      obtain ⟨lock, hlock, rfl⟩ := List.mem_map.1 hmem
      exact List.mem_map_of_mem (List.mem_of_mem_eraseIdx hlock)
  | acquire directory program pid now hindrance =>
      have hacquired := acquired_acquire machine.held machine.tree directory program pid now hindrance
      rw [Machine.perform]
      generalize acquire machine.held machine.tree directory program pid now hindrance = result at hacquired
      cases hacquired with
      | failed error => exact h
      | refused error opens => exact ⟨opens.entry?_of_stands h.stands, h.free, h.noText⟩
      | brokenOff leads free reads => exact ⟨h.entry?_put leads reads _, h.free, h.noText⟩
      | taken leads free reads =>
          refine ⟨h.entry?_put leads reads _, fun hmem => ?_, h.noText⟩
          rw [Machine.settle, List.map_append, List.map_singleton, List.mem_append,
            List.mem_singleton] at hmem
          exact hmem.elim h.free (h.ne_of_reads reads)

/-- **No way out.**  Whatever processes start and end, such a file stays as it is, and no lock is ever taken
on it. -/
theorem run (h : Stuck machine place contents modified) (events : List Event) :
    Stuck (runCalls Machine.perform machine events).2 place contents modified := by
  induction events generalizing machine with
  | nil => exact h
  | cons event events ih => exact ih (h.perform event)

end Stuck

/-! ## What the contents mean -/

section Start

variable {held : List SingletonLock} {tree : FileTree} {directory program : String} {place : Place}
  {contents : ByteArray} {modified : Int}

/-- A start at a free lock file that holds text gives the lock and leaves the record of it. -/
theorem acquire_of_text
    (hpath : tree.placeToWrite (filePath directory (baseName program)) = .ok place)
    (hfree : place ∉ held.map SingletonLock.place) {text : String}
    (hfile : tree.entry? place = some (.file text.toByteArray modified)) (pid : Nat) (now : Int) :
    acquire held tree directory program pid now =
      (.ok ⟨place, filePath directory (baseName program), baseName program, nextCount text⟩,
        tree.put place (.file (record (nextCount text) pid).toByteArray now)) := by
  have htext : previousText? ( tree.entry? place) = some text := by rw [hfile, previousText?_text]
  exact acquire_of_free hpath hfree pid now htext

/-- **What the contents of a lock file mean.**  Let a process start at a lock file that can be opened and
written and on which no lock is held.

* If the file holds text, the process has the lock.  It counts one start more than the first line of the text
  records, up to the greatest count, and it counts one if the line records none; the file then holds a record
  from which that count is read back, with the number of the process in its second line.
* If the file holds anything else, even behind a first line that records a count, the start fails, and so does
  every later one by any path to the file: whatever else starts and ends, no lock is taken on it and it stays
  as it is. -/
theorem start_by_contents
    (hpath : tree.placeToWrite (filePath directory (baseName program)) = .ok place)
    (hfile : tree.entry? place = some (.file contents modified))
    (hfree : place ∉ held.map SingletonLock.place) (pid : Nat) (now : Int) :
    let path := filePath directory (baseName program)
    let result := acquire held tree directory program pid now
    (∀ text : String, contents = text.toByteArray → ∃ count, IsStartCount text count ∧
      result = (.ok ⟨place, path, baseName program, count⟩,
        tree.put place (.file (record count pid).toByteArray now)) ∧
      (record count pid).toList =
        label.toList ++ (toString count).toList ++ "\nPID:".toList ++ (toString pid).toList ++ ['\n'] ∧
      Records (record count pid) count) ∧
    ((∀ text : String, contents ≠ text.toByteArray) →
      result = (.error (.file path .notText), tree) ∧
      ∀ events, let machine := (runCalls Machine.perform ⟨held, tree⟩ events).2
        machine.tree.entry? place = some (.file contents modified) ∧
        place ∉ machine.held.map SingletonLock.place ∧
        ∀ directory' program' pid' now',
          machine.tree.placeToWrite (filePath directory' (baseName program')) = .ok place →
          acquire machine.held machine.tree directory' program' pid' now' =
            (.error (.file (filePath directory' (baseName program')) .notText), machine.tree)) := by
  intro path result
  refine ⟨?_, ?_⟩
  · rintro text rfl
    refine ⟨nextCount text, (isStartCount_iff _ _).2 rfl, acquire_of_text hpath hfree hfile pid now, ?_, ?_⟩
    · simp [record]
    · rw [← recordedCount?_eq_some_iff, nextCount_eq]
      exact recordedCount?_record (countAfter_le _) pid
  · intro hnoText
    have hstuck : Stuck ⟨held, tree⟩ place contents modified := ⟨hfile, hfree, hnoText⟩
    refine ⟨hstuck.acquire_eq hpath pid now, fun events => ?_⟩
    have hlater := hstuck.run events
    exact ⟨hlater.stands, hlater.free, fun _ _ pid' now' hpath' => hlater.acquire_eq hpath' pid' now'⟩

end Start

/-- A lock file that records five starts in its first line, with a byte behind it that begins no character. -/
def damaged : ByteArray := "Restart Count:5\n".toByteArray.push 0xff

/-- A machine with that lock file. -/
def damagedMachine : FileTree :=
  { fresh with entries := fresh.entries ++ [(["home", "device", "app.pid"], .file damaged 0)] }

/-- No text has the bytes of that file. -/
theorem damaged_ne_text (text : String) : damaged ≠ text.toByteArray := by
  intro heq
  have hdecode := (Text.decode_eq_ok_iff _ _).2 heq
  have hfault : (Text.decode damaged).isOk = false := by decide +kernel
  rw [hdecode] at hfault
  cases hfault

/-- A record of four starts with other text behind it makes the next start the fifth one.  At the damaged file,
neither the first start nor one after another process has come and gone has the lock. -/
theorem start_by_contents_damaged :
    (∃ count, IsStartCount "Restart Count: 4 \nPID:99\nleft over" count ∧
      (acquire [] startedBefore "." "app" 7 1).1 =
        .ok ⟨["home", "device", "app.pid"], "./app.pid", "app", count⟩) ∧
    (acquire [] damagedMachine "." "/usr/bin/app" 7 1).1 = .error (.file "./app.pid" .notText) ∧
    let later := (runCalls Machine.perform ⟨[], damagedMachine⟩
      [.acquire "." "/usr/bin/app" 7 1, .acquire "." "other" 8 2, .release 0]).2
    later.tree.entry? ["home", "device", "app.pid"] = some (.file damaged 0) ∧ later.held = [] := by
  obtain ⟨htext, -⟩ := @start_by_contents [] startedBefore "." "app" ["home", "device", "app.pid"]
    "Restart Count: 4 \nPID:99\nleft over".toByteArray 0 (by decide +kernel) (by decide +kernel)
    List.not_mem_nil 7 1
  obtain ⟨-, hstuck⟩ := @start_by_contents [] damagedMachine "." "/usr/bin/app"
    ["home", "device", "app.pid"] damaged 0 (by decide +kernel) (by decide +kernel) List.not_mem_nil 7 1
  obtain ⟨count, hcount, hstarted, -⟩ := htext _ rfl
  obtain ⟨hrefused, hlater⟩ := hstuck damaged_ne_text
  exact ⟨⟨count, hcount, congrArg Prod.fst hstarted⟩, congrArg Prod.fst hrefused, (hlater _).1,
    by decide +kernel⟩

/-- A lock file may keep its process from starting. -/
theorem not_every_content_starts :
    ¬∀ (held : List SingletonLock) (tree : FileTree) (directory program : String) (place : Place)
      (contents : ByteArray) (modified : Int) (pid : Nat) (now : Int),
      tree.placeToWrite (filePath directory (baseName program)) = .ok place →
      tree.entry? place = some (.file contents modified) →
      place ∉ held.map SingletonLock.place →
      ∃ lock, (acquire held tree directory program pid now).1 = .ok lock := by
  intro h
  obtain ⟨lock, hlock⟩ := h [] damagedMachine "." "app" ["home", "device", "app.pid"] damaged 0 7 1
    (by decide +kernel) (by decide +kernel) List.not_mem_nil
  have hrefused : (acquire [] damagedMachine "." "app" 7 1).1.isOk = false := by decide +kernel
  rw [hlock] at hrefused
  cases hrefused

end SingletonLock

end DeviceBus
