import DeviceBus.Proofs.Number
import DeviceBus.Proofs.Text
import DeviceBus.Url
import Mathlib.Data.List.Basic

/-!
# How addresses are written

An address of a socket file is its scheme and any path.  An address on the network is its scheme, a host, a
colon and a number of sixteen bits; the host may hold colons itself, so the number is what follows the last
one.  Nothing else is an address.  An address is kept as it was written, leading zeros and plus sign of its
number included, so that it is printed as it was read.

* `splitAtLast?_eq_some_iff`: a list is split where the rest does not hold the character again.
* `hostAndNumber?_eq_some_iff`: a host and a number with the last colon between them.
* `Spells`, `parse?_eq_some_iff`: how an address is written, and that exactly what is written so is read.
* `written_form`: reading and printing are inverse to each other, and what is not read is told as it is.
-/

namespace DeviceBus.Url

/-! ## The last colon -/

/-- A list without the character is not split, and no other. -/
theorem splitAtLast?_eq_none_iff {c : Char} {cs : List Char} : splitAtLast? c cs = none ↔ c ∉ cs := by
  induction cs with
  | nil => exact iff_of_true rfl List.not_mem_nil
  | cons x rest ih =>
      rw [splitAtLast?, List.mem_cons, not_or, ← ih]
      cases splitAtLast? c rest with
      | some parts => simp
      | none => simp [eq_comm]

/-- A list is split at a character that does not occur behind it. -/
theorem splitAtLast?_append {c : Char} (before : List Char) {after : List Char} (h : c ∉ after) :
    splitAtLast? c (before ++ c :: after) = some (before, after) := by
  induction before with
  | nil =>
      rw [List.nil_append, splitAtLast?, splitAtLast?_eq_none_iff.2 h]
      exact if_pos rfl
  | cons x before ih => rw [List.cons_append, splitAtLast?, ih]

/-- Where a list is split, the character stands, and it does not occur behind that. -/
theorem eq_append_of_splitAtLast? {c : Char} {cs before after : List Char}
    (h : splitAtLast? c cs = some (before, after)) : cs = before ++ c :: after ∧ c ∉ after := by
  fun_induction splitAtLast? c cs generalizing before after with
  | case1 => cases h
  | case2 x rest front back _ ih =>
      cases h
      obtain ⟨hrest, hlast⟩ := ih ‹_›
      exact ⟨by rw [hrest, List.cons_append], hlast⟩
  | case3 rest hrest _ =>
      cases h
      exact ⟨rfl, splitAtLast?_eq_none_iff.1 hrest⟩
  | case4 => cases h

theorem splitAtLast?_eq_some_iff {c : Char} {cs before after : List Char} :
    splitAtLast? c cs = some (before, after) ↔ cs = before ++ c :: after ∧ c ∉ after :=
  ⟨eq_append_of_splitAtLast?, fun h => h.1 ▸ splitAtLast?_append before h.2⟩

/-- No number is spelled with a colon. -/
theorem colon_not_mem_of_spells {digits : List Char} {number : Nat} (h : Number.Spells digits number) :
    ':' ∉ digits := by
  intro hmem
  rcases h.mem hmem with hdigit | hsign
  · exact absurd hdigit (by decide)
  · exact absurd hsign (by decide)

/-- A host and a number are what stands before and after the last colon. -/
theorem hostAndNumber?_eq_some_iff {address host : List Char} {number : Nat} :
    hostAndNumber? address = some (host, number) ↔
      ∃ digits, address = host ++ ':' :: digits ∧ host ≠ [] ∧ Number.Spells digits number ∧
        number ≤ maxSocketNumber := by
  rw [hostAndNumber?]
  constructor
  · intro h
    split at h
    · cases h
    · rename_i front digits hsplit
      split at h
      · cases h
      · rename_i hhost
        obtain ⟨value, hvalue, heq⟩ := Option.map_eq_some_iff.1 h
        cases heq
        exact ⟨digits, (splitAtLast?_eq_some_iff.1 hsplit).1, hhost, Number.unsigned?_eq_some_iff.1 hvalue⟩
  · rintro ⟨digits, haddress, hhost, hspells, hbound⟩
    have hsplit := splitAtLast?_eq_some_iff.2 ⟨haddress, colon_not_mem_of_spells hspells⟩
    simp only [hsplit, if_neg hhost, Number.unsigned?_eq_some_iff.2 ⟨hspells, hbound⟩, Option.map_some]

/-! ## Whole addresses -/

/-- How an address is written: `ipc://` and a path, or `tcp://` and a host, a colon and a number of sixteen
bits, which is what follows the last colon.  The number is written in decimal digits, any zeros first, and a
plus sign may stand in front. -/
inductive Spells : String → Url → Prop
  | ipc (path : String) (nonempty : path ≠ "") : Spells ("ipc://" ++ path) (.ipc path)
  | tcp (host digits : String) (number : Nat) (nonempty : host ≠ "") (last : ':' ∉ digits.toList)
      (spelled : Number.Spells digits.toList number) (bound : number ≤ 65535) :
      Spells ("tcp://" ++ (host ++ ":" ++ digits)) (.tcp (host ++ ":" ++ digits))

/-- An address is printed as it is written. -/
theorem Spells.toText_eq {text : String} {url : Url} (h : Spells text url) : url.toText = text := by
  cases h with
  | ipc => rfl
  | tcp => rfl

/-- Exactly what is written as an address is read, and as that address. -/
theorem parse?_eq_some_iff {text : String} {url : Url} : parse? text = some url ↔ Spells text url := by
  constructor
  · intro h
    rw [parse?] at h
    split at h
    · rename_i path hipc
      split at h
      · cases h
      · rename_i hpath
        cases h
        rw [Text.isPrefixOf?_toList_eq_some_iff.1 hipc]
        exact .ipc _ fun hempty => hpath (by simpa using hempty)
    · split at h
      · rename_i address htcp
        split at h
        · rename_i hsome
          cases h
          obtain ⟨⟨host, number⟩, hread⟩ := Option.isSome_iff_exists.1 hsome
          obtain ⟨digits, rfl, hhost, hspells, hbound⟩ := hostAndNumber?_eq_some_iff.1 hread
          have haddress : String.ofList (host ++ ':' :: digits) =
              String.ofList host ++ ":" ++ String.ofList digits := by
            rw [← String.toList_inj]
            simp
          rw [Text.isPrefixOf?_toList_eq_some_iff.1 htcp, haddress]
          refine .tcp _ _ number (fun hempty => hhost (by simpa using hempty)) ?_ ?_ hbound
          · rw [String.toList_ofList]
            exact colon_not_mem_of_spells hspells
          · rwa [String.toList_ofList]
        · cases h
      · cases h
  · intro h
    cases h with
    | ipc path nonempty =>
        have hscheme : ipcScheme.toList.isPrefixOf? ("ipc://" ++ path).toList = some path.toList :=
          Text.isPrefixOf?_toList_eq_some_iff.2 (by rw [String.ofList_toList]; rfl)
        have hpath : path.toList ≠ [] := fun hnil => nonempty (String.toList_eq_nil_iff.1 hnil)
        simp only [parse?, hscheme, if_neg hpath, String.ofList_toList]
    | tcp host digits number nonempty last spelled bound =>
        have hother :
            ipcScheme.toList.isPrefixOf? ("tcp://" ++ (host ++ ":" ++ digits)).toList = none := by
          rw [String.toList_append]
          rfl
        have hscheme : tcpScheme.toList.isPrefixOf? ("tcp://" ++ (host ++ ":" ++ digits)).toList =
            some (host ++ ":" ++ digits).toList :=
          Text.isPrefixOf?_toList_eq_some_iff.2 (by rw [String.ofList_toList]; rfl)
        have hread : hostAndNumber? (host ++ ":" ++ digits).toList = some (host.toList, number) := by
          refine hostAndNumber?_eq_some_iff.2 ⟨digits.toList, by simp, ?_, spelled, bound⟩
          exact fun hnil => nonempty (String.toList_eq_nil_iff.1 hnil)
        simp only [parse?, hother, hscheme, hread, Option.isSome_some, if_true, String.ofList_toList]

theorem parse_eq_ok_iff {text : String} {url : Url} : parse text = .ok url ↔ Spells text url := by
  rw [← parse?_eq_some_iff, parse]
  cases parse? text with
  | none => simp
  | some found => simp

/-- A text is read as an address exactly if it is written as one.  Then the address is printed as that very
text, and read from it again; and otherwise the error carries the text as it is. -/
theorem written_form (text : String) :
    (∀ url, parse text = .ok url ↔ Spells text url) ∧
      (∀ url, parse text = .ok url → url.toText = text ∧ parse url.toText = .ok url) ∧
      (parse text = .error (.invalidUrl text) ↔ ∀ url, ¬Spells text url) := by
  refine ⟨fun url => parse_eq_ok_iff, fun url hok => ?_, ?_⟩
  · have htext := (parse_eq_ok_iff.1 hok).toText_eq
    exact ⟨htext, by rw [htext, hok]⟩
  · simp only [← parse?_eq_some_iff, parse]
    cases parse? text with
    | none => simp
    | some url => simp

/-- A host with colons of its own, and a number with a sign and zeros in front; and a number that takes more
than sixteen bits. -/
theorem written_form_signed :
    Spells "tcp://[::1]:+00080" (.tcp "[::1]:+00080") ∧
      (Url.tcp "[::1]:+00080").toText = "tcp://[::1]:+00080" ∧
      ∀ url, ¬Spells "tcp://localhost:65536" url := by
  have hok : parse "tcp://[::1]:+00080" = .ok (.tcp "[::1]:+00080") := by decide +kernel
  obtain ⟨hspells, hprinted, -⟩ := written_form "tcp://[::1]:+00080"
  exact ⟨(hspells _).1 hok, (hprinted _ hok).1,
    (written_form "tcp://localhost:65536").2.2.1 (by decide +kernel)⟩

end DeviceBus.Url
