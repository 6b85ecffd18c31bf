import DeviceBus.CommandLine.Arguments
import DeviceBus.Proofs.Text
import Mathlib.Data.List.Basic

/-!
# What each argument is for

Whether an argument is an option, the value of one, or neither, depends on those in front of it: an option
that announces a path takes the next argument, whatever that looks like, and an argument that is taken
announces nothing itself.  Here this is told of positions, with nothing read ahead.

* `Awaits`: the arguments before a position end with an option that is still without its value.
* `Gives`, `LastGiven`: the option at a position has a value; none behind it has one.
* `others`: the arguments that are neither options nor their values, in their order.
* `awaits_append`, `others_append`, `lastGiven_append`: behind arguments that are complete, the others are as
  if they stood alone.
* `Portion`, `induction_by_portions`: what is read at once, and that arguments are made of such portions, with
  at most one option behind them that is without its value.
* `rest_splitFrom`, `config_splitFrom_eq_some_iff`: what splitting gives when some arguments have been read.
* `last_option_decides`: what splitting gives, told of positions.
* `not_last_value_counts`: an option without a value takes back the value of an earlier one.
-/

namespace DeviceBus.CommandLine

/-! ## Options -/

/-- An argument that announces a path as the next one. -/
def Announces (argument : String) : Prop := argument = "--config" ∨ argument = "-c"

/-- An argument that is an option, unless it is the value of one. -/
def IsOption (argument : String) : Prop :=
  Announces argument ∨ ∃ path, argument = "--config=" ++ path

theorem announcesConfig_iff {argument : String} :
    announcesConfig argument = true ↔ Announces argument := by
  simp [announcesConfig, Announces]

theorem joinedValue?_eq_some_iff {argument path : String} :
    joinedValue? argument = some path ↔ argument = "--config=" ++ path := by
  rw [joinedValue?, Option.map_eq_some_iff]
  simp only [Text.isPrefixOf?_toList_eq_some_iff]
  constructor
  · rintro ⟨rest, hargument, rfl⟩
    exact hargument
  · rintro rfl
    exact ⟨path.toList, by rw [String.ofList_toList], String.ofList_toList⟩

theorem isOption_iff {argument : String} :
    IsOption argument ↔ announcesConfig argument = true ∨ (joinedValue? argument).isSome = true := by
  simp only [IsOption, announcesConfig_iff, Option.isSome_iff_exists, joinedValue?_eq_some_iff]

instance decidableAnnounces : DecidablePred Announces := fun argument =>
  inferInstanceAs (Decidable (argument = "--config" ∨ argument = "-c"))

instance decidableIsOption : DecidablePred IsOption := fun _ => decidable_of_iff _ isOption_iff.symm

theorem joinedValue?_joined (path : String) : joinedValue? ("--config=" ++ path) = some path :=
  joinedValue?_eq_some_iff.2 rfl

theorem joinedValue?_of_announces {argument : String} (h : Announces argument) :
    joinedValue? argument = none := by
  rcases h with rfl | rfl
  · decide
  · decide

/-- An option that holds its path announces nothing. -/
theorem not_announces_joined (path : String) : ¬Announces ("--config=" ++ path) := by
  intro h
  have hnone := joinedValue?_of_announces h
  rw [joinedValue?_joined] at hnone
  cases hnone

/-! ## Positions -/

/-- Whether the arguments before a position end with an option whose value is still to come.  The argument at
such a position is that value; if there is none, the option has no value. -/
def Awaits (arguments : List String) : Nat → Prop
  | 0 => False
  | position + 1 => ¬Awaits arguments position ∧ ∃ option ∈ arguments[position]?, Announces option

instance decidableAwaits (arguments : List String) : DecidablePred (Awaits arguments)
  | 0 => inferInstanceAs (Decidable False)
  | position + 1 =>
      have := decidableAwaits arguments position
      inferInstanceAs (Decidable
        (¬Awaits arguments position ∧ ∃ option ∈ arguments[position]?, Announces option))

/-- The argument at a position is an option with a value, which it holds itself or which is the next
argument. -/
def Gives (arguments : List String) (position : Nat) (path : String) : Prop :=
  ¬Awaits arguments position ∧
    (arguments[position]? = some ("--config=" ++ path) ∨
      (∃ option ∈ arguments[position]?, Announces option) ∧ arguments[position + 1]? = some path)

/-- No option has a value. -/
def GivesNothing (arguments : List String) : Prop := ∀ position path, ¬Gives arguments position path

/-- The path is the value of the last option that has one. -/
def LastGiven (arguments : List String) (path : String) : Prop :=
  ∃ position, Gives arguments position path ∧ ∀ later other, Gives arguments later other → later ≤ position

/-- The arguments that are neither options nor the value of an option, in their order. -/
def others (arguments : List String) : List String :=
  (arguments.zipIdx.filter fun entry => ¬Awaits arguments entry.2 ∧ ¬IsOption entry.1).map Prod.fst

theorem Gives.lt_length {arguments : List String} {position : Nat} {path : String}
    (h : Gives arguments position path) : position < arguments.length := by
  obtain ⟨-, hjoined | ⟨⟨option, hoption, -⟩, -⟩⟩ := h
  · exact (List.getElem?_eq_some_iff.1 hjoined).1
  · exact (List.getElem?_eq_some_iff.1 hoption).1

theorem givesNothing_nil : GivesNothing [] :=
  fun position _ hgives => Nat.not_lt_zero position hgives.lt_length

/-- The first argument is no value, and so the one behind it is one if the first announces it. -/
theorem awaits_one {argument : String} {behind : List String} :
    Awaits (argument :: behind) 1 ↔ Announces argument := by
  simp [Awaits]

/-- What the first argument gives. -/
theorem gives_zero {argument path : String} {behind : List String} :
    Gives (argument :: behind) 0 path ↔
      argument = "--config=" ++ path ∨ Announces argument ∧ behind.head? = some path := by
  simp [Gives, Awaits, List.head?_eq_getElem?]

/-! ## Complete arguments in front

Arguments are complete if they do not end with an option that awaits its value. -/

section Append

variable {front back : List String}

/-- What an argument is for does not depend on those behind it. -/
theorem awaits_append_left {position : Nat} (hposition : position ≤ front.length) :
    Awaits (front ++ back) position ↔ Awaits front position := by
  induction position with
  | zero => exact Iff.rfl
  | succ position ih => rw [Awaits, Awaits, ih (by omega), List.getElem?_append_left (by omega)]

/-- Behind complete arguments, the others are for what they are for alone. -/
theorem awaits_append (hfront : ¬Awaits front front.length) (position : Nat) :
    Awaits (front ++ back) (front.length + position) ↔ Awaits back position := by
  induction position with
  | zero => exact iff_of_false (fun h => hfront ((awaits_append_left (Nat.le_refl _)).1 h)) id
  | succ position ih =>
      rw [← Nat.add_assoc, Awaits, Awaits, ih, List.getElem?_append_right (Nat.le_add_right ..),
        Nat.add_sub_cancel_left]

theorem awaits_length_append (hfront : ¬Awaits front front.length) :
    Awaits (front ++ back) (front ++ back).length ↔ Awaits back back.length := by
  rw [List.length_append, awaits_append hfront]

/-- What the options of complete arguments give, and what those behind them give. -/
theorem gives_append (hfront : ¬Awaits front front.length) {position : Nat} {path : String} :
    Gives (front ++ back) position path ↔
      Gives front position path ∨ ∃ offset, position = front.length + offset ∧ Gives back offset path := by
  by_cases hposition : position < front.length
  · have hbehind : ¬∃ offset, position = front.length + offset ∧ Gives back offset path := by
      rintro ⟨offset, rfl, -⟩
      omega
    rw [or_iff_left hbehind, Gives, Gives, awaits_append_left (Nat.le_of_lt hposition),
      List.getElem?_append_left hposition]
    refine and_congr_right fun hfree => or_congr_right (and_congr_right fun hoption => ?_)
    -- an option that ends the arguments in front would await its value
    have hnext : position + 1 < front.length := by
      by_contra hlast
      have hend : front.length = position + 1 := by omega
      rw [hend] at hfront
      exact hfront ⟨hfree, hoption⟩
    rw [List.getElem?_append_left hnext]
  · obtain ⟨offset, rfl⟩ := Nat.exists_eq_add_of_le (Nat.le_of_not_lt hposition)
    have hinside : ¬Gives front (front.length + offset) path := fun h => hposition h.lt_length
    rw [or_iff_right hinside, Gives, awaits_append hfront, List.getElem?_append_right (Nat.le_add_right ..),
      Nat.add_assoc, List.getElem?_append_right (Nat.le_add_right ..), Nat.add_sub_cancel_left,
      Nat.add_sub_cancel_left]
    constructor
    · exact fun hgives => ⟨offset, rfl, hgives⟩
    · rintro ⟨same, hsame, hgives⟩
      obtain rfl := Nat.add_left_cancel hsame
      exact hgives

theorem givesNothing_append (hfront : ¬Awaits front front.length) :
    GivesNothing (front ++ back) ↔ GivesNothing back ∧ GivesNothing front := by
  constructor
  · intro hnothing
    refine ⟨fun offset path hgives => ?_, fun position path hgives => ?_⟩
    · exact hnothing _ path ((gives_append hfront).2 (.inr ⟨offset, rfl, hgives⟩))
    · exact hnothing position path ((gives_append hfront).2 (.inl hgives))
  · rintro ⟨hback, hinside⟩ position path hgives
    rcases (gives_append hfront).1 hgives with hgives | ⟨offset, -, hgives⟩
    · exact hinside position path hgives
    · exact hback offset path hgives

/-- The last value is that of the arguments behind, if they give any. -/
theorem lastGiven_append (hfront : ¬Awaits front front.length) {path : String} :
    LastGiven (front ++ back) path ↔ LastGiven back path ∨ GivesNothing back ∧ LastGiven front path := by
  constructor
  · rintro ⟨position, hgives, hlast⟩
    have hbehind : ∀ later other, Gives back later other → front.length + later ≤ position :=
      fun later other hlater => hlast _ other ((gives_append hfront).2 (.inr ⟨later, rfl, hlater⟩))
    rcases (gives_append hfront).1 hgives with hinside | ⟨offset, rfl, hoffset⟩
    · refine .inr ⟨fun later other hlater => ?_, position, hinside, fun later other hlater => ?_⟩
      · have hle := hbehind later other hlater
        have hlt := hinside.lt_length
        omega
      · exact hlast later other ((gives_append hfront).2 (.inl hlater))
    · refine .inl ⟨offset, hoffset, fun later other hlater => ?_⟩
      exact Nat.le_of_add_le_add_left (hbehind later other hlater)
  · rintro (⟨offset, hgives, hlast⟩ | ⟨hnone, position, hgives, hlast⟩)
    · refine ⟨front.length + offset, (gives_append hfront).2 (.inr ⟨offset, rfl, hgives⟩),
        fun later other hlater => ?_⟩
      rcases (gives_append hfront).1 hlater with hinside | ⟨behind, rfl, hbehind⟩
      · have hlt := hinside.lt_length
        omega
      · exact Nat.add_le_add_left (hlast behind other hbehind) _
    · refine ⟨position, (gives_append hfront).2 (.inl hgives), fun later other hlater => ?_⟩
      rcases (gives_append hfront).1 hlater with hinside | ⟨behind, rfl, hbehind⟩
      · exact hlast later other hinside
      · exact absurd hbehind (hnone behind other)

/-- What is left of complete arguments, and then what is left of those behind them. -/
theorem others_append (hfront : ¬Awaits front front.length) :
    others (front ++ back) = others front ++ others back := by
  rw [others, List.zipIdx_append, List.filter_append, List.map_append]
  congr 1
  · refine congrArg _ (List.filter_congr fun entry hentry => decide_eq_decide.2 ?_)
    have hposition := (List.mem_zipIdx hentry).2.1
    rw [awaits_append_left (by omega)]
  · rw [List.zipIdx_eq_map_add, List.filter_map, List.map_map, others]
    refine congrArg _ (List.filter_congr fun entry _ => decide_eq_decide.2 ?_)
    rw [Nat.zero_add, awaits_append hfront]

end Append

/-! ## Portions

What is read at once is an option with its value, in one argument or in two, or an argument that is none. -/

/-- Arguments that are read at once, with the path that they give and the other arguments that they hold. -/
inductive Portion : List String → Option String → List String → Prop
  | joined (path : String) : Portion ["--config=" ++ path] (some path) []
  | announced (option path : String) (announces : Announces option) : Portion [option, path] (some path) []
  | other (argument : String) (plain : ¬IsOption argument) : Portion [argument] none [argument]

namespace Portion

variable {front back rest : List String} {value config : Option String}

theorem complete (h : Portion front value rest) : ¬Awaits front front.length := by
  cases h with
  | joined path => exact fun hawaits => not_announces_joined path (awaits_one.1 hawaits)
  | announced option path announces => exact fun hawaits => hawaits.1 (awaits_one.2 announces)
  | other argument plain => exact fun hawaits => plain (.inl (awaits_one.1 hawaits))

theorem gives_iff (h : Portion front value rest) {position : Nat} {path : String} :
    Gives front position path ↔ position = 0 ∧ value = some path := by
  cases position with
  | zero =>
      cases h with
      | joined own => simp [gives_zero, String.append_right_inj]
      | announced option own announces =>
          have hjoined : option ≠ "--config=" ++ path := by
            rintro rfl
            exact not_announces_joined path announces
          simp [gives_zero, announces, hjoined]
      | other argument plain =>
          have hjoined : argument ≠ "--config=" ++ path := fun heq => plain (.inr ⟨path, heq⟩)
          have hannounces : ¬Announces argument := fun hannounces => plain (.inl hannounces)
          simp [gives_zero, hannounces, hjoined]
  | succ position =>
      -- behind the first argument of a portion there is only the value that it takes
      refine iff_of_false (fun hgives => ?_) fun hvalue => absurd hvalue.1 (Nat.succ_ne_zero position)
      have hposition := hgives.lt_length
      cases h with
      | joined own => exact absurd hposition (by simp)
      | announced option own announces =>
          obtain rfl : position = 0 := Nat.lt_one_iff.1 (Nat.lt_of_succ_lt_succ hposition)
          exact hgives.1 (awaits_one.2 announces)
      | other argument plain => exact absurd hposition (by simp)

theorem lastGiven_iff (h : Portion front value rest) {path : String} :
    LastGiven front path ↔ value = some path := by
  constructor
  · rintro ⟨position, hgives, -⟩
    exact (h.gives_iff.1 hgives).2
  · intro hvalue
    refine ⟨0, h.gives_iff.2 ⟨rfl, hvalue⟩, fun later other hlater => ?_⟩
    exact Nat.le_of_eq (h.gives_iff.1 hlater).1

theorem givesNothing_iff (h : Portion front value rest) : GivesNothing front ↔ value = none := by
  simp only [GivesNothing, h.gives_iff, Option.eq_none_iff_forall_ne_some]
  exact ⟨fun hnothing path hvalue => hnothing 0 path ⟨rfl, hvalue⟩,
    fun hnone position path hgives => hnone path hgives.2⟩

theorem others_eq (h : Portion front value rest) : others front = rest := by
  cases h with
  | joined path =>
      have hoption : IsOption ("--config=" ++ path) := .inr ⟨path, rfl⟩
      simp [others, hoption]
  | announced option path announces =>
      have hoption : IsOption option := .inl announces
      have hawaits : Awaits [option, path] 1 := awaits_one.2 announces
      simp [others, hoption, hawaits]
  | other argument plain =>
      have hfree : ¬Awaits [argument] 0 := id
      simp [others, plain, hfree]

theorem splitFrom_append (h : Portion front value rest) :
    splitFrom config (front ++ back) =
      ⟨(splitFrom (value.or config) back).config, rest ++ (splitFrom (value.or config) back).rest⟩ := by
  cases h with
  | joined path =>
      rw [List.singleton_append, splitFrom.eq_def]
      simp only [joinedValue?_joined]
      rfl
  | announced option path announces =>
      rw [List.cons_append, List.singleton_append, splitFrom.eq_def]
      simp only [joinedValue?_of_announces announces, announcesConfig_iff.2 announces, if_true]
      rfl
  | other argument plain =>
      rw [isOption_iff, not_or, Option.not_isSome_iff_eq_none] at plain
      rw [List.singleton_append, splitFrom.eq_def]
      simp only [plain.2, if_neg plain.1]
      rfl

end Portion

/-- Arguments are portions one after the other, and at most one option behind them that is without its
value. -/
theorem induction_by_portions {motive : List String → Prop} (nil : motive [])
    (unfinished : ∀ option, Announces option → motive [option])
    (portion : ∀ front value rest back, Portion front value rest → motive back → motive (front ++ back))
    (arguments : List String) : motive arguments := by
  induction none, arguments using splitFrom.induct with
  | case1 => exact nil
  | case2 config argument behind path hjoined ih =>
      rw [joinedValue?_eq_some_iff.1 hjoined]
      exact portion _ _ _ _ (.joined path) ih
  | case3 config option _ hannounces => exact unfinished option (announcesConfig_iff.1 hannounces)
  | case4 config option _ hannounces path behind ih =>
      exact portion _ _ _ _ (.announced option path (announcesConfig_iff.1 hannounces)) ih
  | case5 config argument behind hjoined hannounces ih =>
      have hplain : ¬IsOption argument := by
        rw [isOption_iff, hjoined]
        simpa using hannounces
      exact portion _ _ _ _ (.other argument hplain) ih

/-- An option that ends the arguments gives nothing. -/
theorem givesNothing_unfinished {option : String} (h : Announces option) : GivesNothing [option] := by
  intro position path hgives
  obtain rfl : position = 0 := Nat.lt_one_iff.1 hgives.lt_length
  rcases gives_zero.1 hgives with rfl | ⟨-, hnext⟩
  · exact not_announces_joined path h
  · cases hnext

/-- If any option has a value, one of them is the last. -/
theorem givesNothing_or_exists_lastGiven (arguments : List String) :
    GivesNothing arguments ∨ ∃ path, LastGiven arguments path := by
  induction arguments using induction_by_portions with
  | nil => exact .inl givesNothing_nil
  | unfinished option announces => exact .inl (givesNothing_unfinished announces)
  | portion front value rest back h ih =>
      rcases ih with hnothing | ⟨path, hlast⟩
      · cases value with
        | none => exact .inl ((givesNothing_append h.complete).2 ⟨hnothing, h.givesNothing_iff.2 rfl⟩)
        | some own =>
            exact .inr ⟨own, (lastGiven_append h.complete).2 (.inr ⟨hnothing, h.lastGiven_iff.2 rfl⟩)⟩
      · exact .inr ⟨path, (lastGiven_append h.complete).2 (.inl hlast)⟩

/-! ## Splitting -/

/-- The path that counts after some arguments, where another one may have been given before them. -/
def InForce (config : Option String) (arguments : List String) (path : String) : Prop :=
  LastGiven arguments path ∨ GivesNothing arguments ∧ config = some path

theorem Portion.inForce_append {front back rest : List String} {value config : Option String}
    (h : Portion front value rest) {path : String} :
    InForce config (front ++ back) path ↔ InForce (value.or config) back path := by
  rw [InForce, InForce, lastGiven_append h.complete, givesNothing_append h.complete, h.lastGiven_iff,
    h.givesNothing_iff, or_assoc]
  cases value with
  | none => simp
  | some own => simp

/-- An option that ends the arguments without a value leaves no path, whatever was given before. -/
theorem splitFrom_unfinished {option : String} (h : Announces option) (config : Option String) :
    splitFrom config [option] = ⟨none, []⟩ := by
  simp only [splitFrom, joinedValue?_of_announces h, announcesConfig_iff.2 h, if_true]

/-- What is left is what is neither an option nor a value, whatever was read before. -/
theorem rest_splitFrom (config : Option String) (arguments : List String) :
    (splitFrom config arguments).rest = others arguments := by
  induction arguments using induction_by_portions generalizing config with
  | nil => rfl
  | unfinished option announces =>
      have hoption : IsOption option := .inl announces
      simp [splitFrom_unfinished announces, others, hoption]
  | portion front value rest back h ih =>
      rw [h.splitFrom_append, ih, others_append h.complete, h.others_eq]

/-- The path is the one in force, unless the arguments end with an option that is without its value. -/
theorem config_splitFrom_eq_some_iff (config : Option String) (arguments : List String) (path : String) :
    (splitFrom config arguments).config = some path ↔
      InForce config arguments path ∧ ¬Awaits arguments arguments.length := by
  induction arguments using induction_by_portions generalizing config with
  | nil =>
      have hlast : ¬LastGiven [] path := by
        rintro ⟨position, hgives, -⟩
        exact givesNothing_nil position path hgives
      simp [splitFrom, InForce, givesNothing_nil, hlast, Awaits]
  | unfinished option announces =>
      rw [splitFrom_unfinished announces]
      exact iff_of_false (fun hpath => Option.some_ne_none path hpath.symm)
        fun hpath => hpath.2 (awaits_one.2 announces)
  | portion front value rest back h ih =>
      rw [h.splitFrom_append, ih, h.inForce_append, awaits_length_append h.complete]

/-- Whatever the arguments are, those that are neither options nor values are left, in their order.  The path
is the value of the last option that has one, unless the arguments end with an option that is without its
value: then there is none, whatever was given before.  Otherwise there is none only if no option has a
value. -/
theorem last_option_decides (arguments : List String) :
    (splitArguments arguments).rest = others arguments ∧
      (∀ path, (splitArguments arguments).config = some path ↔
        LastGiven arguments path ∧ ¬Awaits arguments arguments.length) ∧
      ((splitArguments arguments).config = none ↔
        GivesNothing arguments ∨ Awaits arguments arguments.length) := by
  have hconfig : ∀ path, (splitArguments arguments).config = some path ↔
      LastGiven arguments path ∧ ¬Awaits arguments arguments.length := by
    intro path
    rw [splitArguments, config_splitFrom_eq_some_iff, InForce]
    simp
  refine ⟨rest_splitFrom none arguments, hconfig, ?_⟩
  rw [Option.eq_none_iff_forall_ne_some]
  constructor
  · intro hnone
    by_cases hawaits : Awaits arguments arguments.length
    · exact .inr hawaits
    · rcases givesNothing_or_exists_lastGiven arguments with hnothing | ⟨path, hlast⟩
      · exact .inl hnothing
      · exact absurd ((hconfig path).2 ⟨hlast, hawaits⟩) (hnone path)
  · rintro (hnothing | hawaits) path hpath
    · obtain ⟨⟨position, hgives, -⟩, -⟩ := (hconfig path).1 hpath
      exact hnothing position path hgives
    · exact ((hconfig path).1 hpath).2 hawaits

example : splitArguments ["hal/", "--config=a.yaml", "-c", "--config", "main/ctrl"] =
    ⟨some "--config", ["hal/", "main/ctrl"]⟩ := by decide +kernel

/-- An option at the end that is without its value takes back what an earlier one has given. -/
theorem not_last_value_counts :
    ¬∀ arguments,
      (splitArguments arguments).rest = others arguments ∧
        (∀ path, LastGiven arguments path → (splitArguments arguments).config = some path) ∧
        ((splitArguments arguments).config = none → GivesNothing arguments) := by
  intro h
  obtain ⟨-, hlast, -⟩ := h (["-c", "a.yaml"] ++ ["--config"])
  have hportion : Portion ["-c", "a.yaml"] (some "a.yaml") [] := .announced _ _ (.inr rfl)
  have hgiven : LastGiven (["-c", "a.yaml"] ++ ["--config"]) "a.yaml" :=
    (lastGiven_append hportion.complete).2
      (.inr ⟨givesNothing_unfinished (.inl rfl), hportion.lastGiven_iff.2 rfl⟩)
  have hnone : (splitArguments (["-c", "a.yaml"] ++ ["--config"])).config = none := by decide
  rw [hlast _ hgiven] at hnone
  cases hnone

end DeviceBus.CommandLine
