import DeviceBus.Proofs.Retention.Bound

/-!
# What becomes of the file that is saved

A save removes old files of the directory, writes where its destination leads, and removes what stands at the
destination when it fails.  A file is safe from it if it is not one of the removed ones and the destination
does not lead to it.  The file that is saved is not always safe: it can lie below the directory itself.

* `entry?_copyOrRemove`, `entry?_save`: a save leaves every file that is safe from it as it is.
* `save_of_removed`: a save that removes its own source loses it and fails.
* `saved_of_ok`: what is saved is equal to its source, unless it is saved over it.
* `empty_of_savesOver`: a file that is saved over itself is empty.
* `fate_of_source`: all that can become of the file that is saved.
-/

namespace DeviceBus.Retention

open FileTree

variable {tree : FileTree} {directory source : String} {maxSizeKb : Nat} {now : Int} {mishaps : Mishaps}

/-! ## Files that are safe -/

/-- What a copy writes, and what is removed when it fails, is no file that its destination does not lead
to. -/
theorem entry?_copyOrRemove {destination : String} {place : Place} {contents : ByteArray} {modified : Int}
    (hfile : tree.entry? place = some (.file contents modified))
    (hother : ∀ entry, tree.status true destination ≠ .ok (place, entry)) :
    entry? (copyOrRemove tree source destination now mishaps).2 place =
      some (.file contents modified) := by
  have hleft : ∀ interruption written, Leaves tree source destination now interruption written →
      written.entry? place = some (.file contents modified) ∧ written.KeepsWays tree := by
    rintro interruption written (rfl | ⟨_, read, _, other, -, hplace, rfl⟩)
    · exact ⟨hfile, .refl _⟩
    · obtain ⟨hresolve, hwritable⟩ := resolve_of_placeToWrite hplace
      refine ⟨?_, keepsWays_of_store hwritable _ _⟩
      rw [entry?_store_of_ne hwritable _, hfile]
      rintro rfl
      rw [hfile] at hresolve
      exact hother _ (status_eq_ok_iff.2 (resolve_of_toMake hresolve))
  rcases copyOrRemove_cases tree source destination now mishaps with
    ⟨-, written, hcopies, hresult⟩ | ⟨_, written, hleaves, hresult | ⟨other, entry, hstatus, hentry, hresult⟩⟩
  · rw [hresult]
    exact (hleft none written (.inr hcopies)).1
  · rw [hresult]
    exact (hleft mishaps.copying written hleaves).1
  · obtain ⟨hstands, hback⟩ := hleft mishaps.copying written hleaves
    have hother' := entry_of_status hstatus
    have hroot : other ≠ [] := by
      rintro rfl
      exact hentry false (Option.some.inj hother').symm
    rw [hresult, entry?_erase written hroot, if_neg, hstands]
    rintro rfl
    rw [hstands] at hother'
    cases hother'
    exact hother _ (hback.status (status_of_follows hstatus (by simp)) hfile)

/-- The path that a file is saved to leads to a place already. -/
def SavesOver (tree : FileTree) (directory source : String) (place : Place) : Prop :=
  ∃ name entry, Path.fileName? source = some name ∧
    tree.status true (Path.join directory name) = .ok (place, entry)

/-- A save leaves a file as it is, if it does not remove the file to make room and its destination does not
lead there. -/
theorem entry?_save (htree : tree.WellFormed) {place : Place} {contents : ByteArray} {modified : Int}
    (hfile : tree.entry? place = some (.file contents modified))
    (hkept : place ∉ (removedBy tree directory source maxSizeKb mishaps.stuck).map Counted.place)
    (hother : ¬SavesOver tree directory source place) :
    entry? (save tree directory source maxSizeKb now mishaps).2 place =
      some (.file contents modified) := by
  rcases save_cases htree directory source maxSizeKb now mishaps with
    ⟨_, -, hsave⟩ | ⟨_, _, _, _, name, haccepts, hsaved⟩
  · rw [hsave]
    exact hfile
  · have hstand := standIn_removedBy htree directory source maxSizeKb mishaps.stuck
    have hstays : entry? (removeAll tree (removedBy tree directory source maxSizeKb mishaps.stuck)) place =
        some (.file contents modified) := by
      rw [entry?_removeAll hstand.ne_root, if_neg hkept, hfile]
    rcases hsaved with ⟨_, _, -, hsave⟩ | ⟨-, hsave⟩
    · rw [hsave]
      exact hstays
    · rw [hsave]
      refine entry?_copyOrRemove hstays fun entry hstatus => hother ⟨name, entry, haccepts.named, ?_⟩
      exact hstand.keepsWays_back.status hstatus (hstand.entry?_of_removeAll (entry_of_status hstatus))

/-! ## The source -/

section Source

variable {place : Place} {contents : ByteArray} {modified : Int}

variable (now) in
/-- A save that removes its own source to make room has nothing to copy any more, unless it is held up by another
file. -/
theorem save_of_removed (htree : tree.WellFormed)
    (hsource : tree.status true source = .ok (place, .file contents modified))
    (hremoved : place ∈ (removedBy tree directory source maxSizeKb mishaps.stuck).map Counted.place) :
    ((∃ path, (save tree directory source maxSizeKb now mishaps).1 =
        .error (.access path (.system .noSuchFile))) ∨
      ∃ file fault, HeldUp tree directory source maxSizeKb mishaps.stuck file fault ∧
        (save tree directory source maxSizeKb now mishaps).1 =
          .error (.access (pathOf tree directory file) fault)) ∧
      entry? (save tree directory source maxSizeKb now mishaps).2 place = none := by
  rcases save_cases htree directory source maxSizeKb now mishaps with
    ⟨_, hrefused, hsave⟩ | ⟨_, _, _, _, name, -, hsaved⟩
  · rw [hrefused.removedBy_eq_nil] at hremoved
    exact absurd hremoved List.not_mem_nil
  · have hstand := standIn_removedBy htree directory source maxSizeKb mishaps.stuck
    have hgone : entry? (removeAll tree (removedBy tree directory source maxSizeKb mishaps.stuck)) place =
        none := by
      rw [entry?_removeAll hstand.ne_root, if_pos hremoved]
    rcases hsaved with ⟨file, fault, hheld, hsave⟩ | ⟨-, hsave⟩
    · rw [hsave]
      exact ⟨.inr ⟨file, fault, hheld, rfl⟩, hgone⟩
    · rw [hsave]
      have hlost := hstand.keepsWays.status_of_gone hsource rfl hgone
      rcases copyOrRemove_of_lost hlost (Path.join directory name) now mishaps with
        hresult | ⟨other, hresult⟩
      · rw [hresult]
        exact ⟨.inl ⟨_, rfl⟩, hgone⟩
      · rw [hresult]
        exact ⟨.inl ⟨_, rfl⟩, entry?_erase_of_none hgone other⟩

/-- A save that succeeds is a copy in the tree without all files that have to go. -/
theorem accepts_of_ok (htree : tree.WellFormed) {destination : String}
    (hok : (save tree directory source maxSizeKb now mishaps).1 = .ok destination) :
    ∃ name, Path.fileName? source = some name ∧ save tree directory source maxSizeKb now mishaps =
      copyOrRemove (removeAll tree (removedBy tree directory source maxSizeKb mishaps.stuck)) source
        (Path.join directory name) now mishaps := by
  rcases save_cases htree directory source maxSizeKb now mishaps with
    ⟨_, -, hsave⟩ | ⟨_, _, _, _, name, haccepts, ⟨_, _, -, hsave⟩ | ⟨-, hsave⟩⟩
  · cases (congrArg Prod.fst hsave).symm.trans hok
  · cases (congrArg Prod.fst hsave).symm.trans hok
  · exact ⟨name, haccepts.named, hsave⟩

/-- What is saved is equal to the file that is copied, or it went to a device. -/
theorem saved_of_ok (htree : tree.WellFormed)
    (hsource : tree.status true source = .ok (place, .file contents modified))
    (hother : ¬SavesOver tree directory source place)
    {destination : String}
    (hok : (save tree directory source maxSizeKb now mishaps).1 = .ok destination) :
    fileAt? (save tree directory source maxSizeKb now mishaps).2 destination = some contents ∨
      ∃ other, status (save tree directory source maxSizeKb now mishaps).2 true destination =
        .ok (other, .device) := by
  obtain ⟨name, hname, hsave⟩ := accepts_of_ok htree hok
  rw [hsave] at hok ⊢
  have hstand := standIn_removedBy htree directory source maxSizeKb mishaps.stuck
  obtain ⟨rfl, hcopies⟩ := copies_of_ok hok
  obtain ⟨_, _, _, _, hread, -⟩ := id hcopies
  have hbefore := hstand.keepsWays_back.status hread (hstand.entry?_of_removeAll (entry_of_status hread))
  rw [hsource] at hbefore
  cases hbefore
  refine hcopies.fileAt? hread fun entry hleads => hother ⟨name, entry, hname, ?_⟩
  exact hstand.keepsWays_back.status hleads (hstand.entry?_of_removeAll (entry_of_status hleads))

/-- A save whose destination leads to its own source empties it, if the copy comes to its end. -/
theorem empty_of_savesOver (htree : tree.WellFormed)
    (hsource : tree.status true source = .ok (place, .file contents modified))
    (hover : SavesOver tree directory source place) {destination : String}
    (hok : (save tree directory source maxSizeKb now mishaps).1 = .ok destination) :
    entry? (save tree directory source maxSizeKb now mishaps).2 place = some (.file .empty now) := by
  obtain ⟨last, entry, hlast, hleads⟩ := hover
  have hkept : place ∉ (removedBy tree directory source maxSizeKb mishaps.stuck).map Counted.place := by
    intro hremoved
    obtain ⟨⟨_, herror⟩ | ⟨_, _, -, herror⟩, -⟩ := save_of_removed now htree hsource hremoved
    · cases herror.symm.trans hok
    · cases herror.symm.trans hok
  obtain ⟨name, hname, hsave⟩ := accepts_of_ok htree hok
  rw [hname] at hlast
  cases hlast
  rw [hsave] at hok ⊢
  have hstand := standIn_removedBy htree directory source maxSizeKb mishaps.stuck
  have hstands : entry? (removeAll tree (removedBy tree directory source maxSizeKb mishaps.stuck)) place =
      some (.file contents modified) := by
    rw [entry?_removeAll hstand.ne_root, if_neg hkept, entry_of_status hsource]
  have hentry := entry_of_status hleads
  rw [entry_of_status hsource] at hentry
  cases hentry
  obtain ⟨rfl, _, _, _, other, hread, hplace, hwritten⟩ := copies_of_ok hok
  -- the two paths lead to one place still
  rw [hstand.keepsWays.status hsource hstands] at hread
  cases hread
  obtain ⟨hresolve, hwritable⟩ := resolve_of_placeToWrite hplace
  have hfound := resolve_of_toMake hresolve
  rw [status_eq_ok_iff.1 (hstand.keepsWays.status hleads hstands)] at hfound
  obtain rfl : place = other := congrArg Spot.place (Except.ok.inj hfound)
  rw [hwritten, if_pos rfl]
  rcases store_cases _ place (copied .empty none) now with ⟨hstore, -⟩ | ⟨-, hdevice⟩
  · rw [hstore, entry?_put_self _ _ hwritable.ne_root, copied_none]
  · cases hstands.symm.trans hdevice

/-- What becomes of the file that is saved.  If it is one of those that are removed to make room, it is gone
and the save fails, for want of it or because it is held up by another file.  If it is not, and the destination
does not lead to it, it stays as it is, and what is saved is equal to it or went to a device.  If the destination
leads to it, saving it empties it. -/
theorem fate_of_source (htree : tree.WellFormed)
    (hsource : tree.status true source = .ok (place, .file contents modified)) :
    let removed := (removedBy tree directory source maxSizeKb mishaps.stuck).map Counted.place
    let (result, after) := save tree directory source maxSizeKb now mishaps
    (place ∈ removed →
      ((∃ path, result = .error (.access path (.system .noSuchFile))) ∨
        ∃ file fault, HeldUp tree directory source maxSizeKb mishaps.stuck file fault ∧
          result = .error (.access (pathOf tree directory file) fault)) ∧
      after.entry? place = none) ∧
    (place ∉ removed → ¬SavesOver tree directory source place →
      after.entry? place = some (.file contents modified) ∧
      ∀ destination, result = .ok destination → after.fileAt? destination = some contents ∨
        ∃ other, after.status true destination = .ok (other, .device)) ∧
    (SavesOver tree directory source place →
      ∀ destination, result = .ok destination → after.entry? place = some (.file .empty now)) :=
  ⟨save_of_removed now htree hsource,
    fun hkept hother => ⟨entry?_save htree (entry_of_status hsource) hkept hother,
      fun _ => saved_of_ok htree hsource hother⟩,
    fun hover _ => empty_of_savesOver htree hsource hover⟩

end Source

set_option maxRecDepth 20000 in
/-- A recording beside the directory is there twice once it is saved. -/
theorem fate_of_source_beside :
    let (result, after) := save recordings "d" "a" 1 10
    result = .ok "d/a" ∧ after.entry? ["home", "device", "a"] = some (.file ⟨#[2, 3]⟩ 3) ∧
      (after.fileAt? "d/a" = some ⟨#[2, 3]⟩ ∨ ∃ other, after.status true "d/a" = .ok (other, .device)) := by
  have hok : (save recordings "d" "a" 1 10).1 = .ok "d/a" := by cbv
  have hremoved : (removedBy recordings "d" "a" 1).map Counted.place = [["home", "device", "d", "old"]] := by
    cbv
  have hother : ¬SavesOver recordings "d" "a" ["home", "device", "a"] := by
    rintro ⟨name, entry, hname, hleads⟩
    obtain rfl : "a" = name := Option.some.inj (hname.symm.trans rfl).symm
    have hnothing : recordings.status true (Path.join "d" "a") = .error (.system .noSuchFile) := by cbv
    rw [hnothing] at hleads
    cases hleads
  obtain ⟨-, hsafe, -⟩ := @fate_of_source recordings "d" "a" 1 10 {} _ _ _ wellFormed_recordings rfl
  obtain ⟨hstays, hsaved⟩ := hsafe (by rw [hremoved]; decide) hother
  exact ⟨hok, hstays, hsaved _ hok⟩

set_option maxRecDepth 20000 in
/-- A recording in the directory itself is emptied by saving it. -/
theorem not_source_survives :
    ¬∀ (tree : FileTree) (directory source : String) (maxSizeKb : Nat) (now : Int) (place : Place)
      (contents : ByteArray) (modified : Int), tree.WellFormed →
      tree.status true source = .ok (place, .file contents modified) →
      let (result, after) := save tree directory source maxSizeKb now
      (∃ time, after.entry? place = some (.file contents time)) ∧
        ∀ destination, result = .ok destination → after.fileAt? destination = some contents := by
  intro h
  obtain ⟨⟨time, hentry⟩, -⟩ := h recordings "d" "d/new" 1 10 ["home", "device", "d", "new"] ⟨#[1]⟩ 2
    wellFormed_recordings rfl
  have hemptied : entry? (save recordings "d" "d/new" 1 10).2 ["home", "device", "d", "new"] =
      some (.file .empty 10) := by cbv
  cases hemptied.symm.trans hentry

end DeviceBus.Retention
