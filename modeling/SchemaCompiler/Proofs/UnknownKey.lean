import Mathlib.Data.List.Basic
import SchemaCompiler.Settings

/-!
# Keys that are no options

Settings are read from a dictionary by setting one key after the other, and a key that is no option
changes nothing, unless it names something else about settings. Two names cannot be set at all
(`lockedNames`). Three others stand for what settings can do, which is lost when they are set
(`behaviourNames`). Settings are `altered` then, and by nothing else (`altered_putAll`). So without
a value for `__dict__`, which takes the place of all that was set, a dictionary is read as its
options are, exactly if it has none of the five.
-/

namespace SchemaCompiler.Settings

open Data (Value)

/-- The names of settings that cannot be set. -/
def lockedNames : List String := ["__class__", "__weakref__"]

/-- The names of what settings can do. -/
def behaviourNames : List String := ["validate", "to_dict", "__dataclass_fields__"]

/-- Settings from a dictionary whose keys are texts. -/
def ofDictionary (entries : List (String × Value)) : Except SettingsFault Settings :=
  ofEntries (entries.map fun entry => (.text entry.1, entry.2))

/-- What is seen of settings from a dictionary: whether there are any, what they list, and whether
they are valid. -/
def outcome (entries : List (String × Value)) :
    Except SettingsFault
      (Except SettingsFault (List (String × Value)) × Except SettingsFault Target.Language) :=
  (ofDictionary entries).map fun settings => (settings.listing, settings.validate)

/-- The entries of a dictionary that give options their values. -/
def optionEntries (entries : List (String × Value)) : List (String × Value) :=
  entries.filter fun entry => optionNames.contains entry.1

/-- Has something that settings can do been lost? -/
def altered (settings : Settings) : Bool :=
  settings.validateValue.isSome || settings.listingValue.isSome || settings.fieldsValue.isSome

/-- Do all options have a value? -/
def complete (settings : Settings) : Bool :=
  settings.schemasPath.isSome && settings.excludeFiles.isSome

/-! ## One key -/

theorem altered_put (settings : Settings) (name : String) (value : Value) :
    (settings.put name value).altered = (settings.altered || behaviourNames.contains name) := by
  unfold put
  split <;> simp_all [altered, behaviourNames]

theorem complete_put {settings : Settings} (complete : settings.complete = true) (name : String)
    (value : Value) :
    (settings.put name value).complete = true := by
  unfold put
  split <;> simp_all [Settings.complete]

theorem put_of_unknown {name : String} (noOption : name ∉ optionNames)
    (noBehaviour : name ∉ behaviourNames) (settings : Settings) (value : Value) :
    settings.put name value = settings := by
  unfold put
  split <;> simp_all [optionNames, options, behaviourNames]

theorem complete_default : complete {} = true := rfl

theorem lacks_of_complete {settings : Settings} (complete : settings.complete = true)
    (name : String) :
    settings.lacks name = false := by
  obtain ⟨path, excluded⟩ := Bool.and_eq_true_iff.mp complete
  simp [lacks, options, path, excluded]

/-- A name is set, unless it is locked. -/
theorem set_eq {name : String} (noDictionary : name ≠ "__dict__") (settings : Settings)
    (value : Value) :
    (lockedNames.contains name = false ∧ settings.set name value = .ok (settings.put name value)) ∨
    (lockedNames.contains name = true ∧ ∃ fault, settings.set name value = .error fault) := by
  unfold set
  split <;> simp_all [lockedNames]

/-! ## All keys -/

/-- The settings after the values of a dictionary have been put in, one after the other. -/
def putAll (settings : Settings) (entries : List (String × Value)) : Settings :=
  entries.foldl (fun settings entry => settings.put entry.1 entry.2) settings

theorem altered_putAll (settings : Settings) (entries : List (String × Value)) :
    (settings.putAll entries).altered =
      (settings.altered || entries.any fun entry => behaviourNames.contains entry.1) := by
  induction entries generalizing settings with
  | nil => simp [putAll]
  | cons entry rest ih =>
      rw [putAll, List.foldl_cons, ← putAll, ih, altered_put, List.any_cons, Bool.or_assoc]

theorem complete_putAll {settings : Settings} (complete : settings.complete = true)
    (entries : List (String × Value)) : (settings.putAll entries).complete = true := by
  induction entries generalizing settings with
  | nil => exact complete
  | cons entry rest ih => exact ih (complete_put complete entry.1 entry.2)

/-- Keys that are neither options nor behaviour make no difference. -/
theorem putAll_optionEntries (settings : Settings) {entries : List (String × Value)}
    (plain : ∀ entry ∈ entries, entry.1 ∉ behaviourNames) :
    settings.putAll (optionEntries entries) = settings.putAll entries := by
  unfold putAll optionEntries
  rw [List.foldl_filter]
  refine List.foldl_ext _ _ _ fun settings entry member => ?_
  split
  · rfl
  next unknown =>
    rw [put_of_unknown (by simpa using unknown) (plain entry member)]

/-- Setting all keys of a dictionary puts all values in, unless one of the keys is locked. -/
theorem setAll_eq {settings : Settings} (complete : settings.complete = true)
    {entries : List (String × Value)} (noDictionary : ∀ entry ∈ entries, entry.1 ≠ "__dict__") :
    ((∀ entry ∈ entries, lockedNames.contains entry.1 = false) ∧
      setAll settings (entries.map fun entry => (.text entry.1, entry.2)) =
        .ok (settings.putAll entries)) ∨
    ((∃ entry ∈ entries, lockedNames.contains entry.1 = true) ∧
      ∃ fault, setAll settings (entries.map fun entry => (.text entry.1, entry.2)) =
        .error fault) := by
  induction entries generalizing settings with
  | nil => exact .inl ⟨by simp, rfl⟩
  | cons entry rest ih =>
      rw [List.forall_mem_cons] at noDictionary
      rw [List.map_cons, setAll, lacks_of_complete complete]
      rcases set_eq noDictionary.1 settings entry.2 with ⟨free, put⟩ | ⟨locked, fault, failed⟩
      · rw [put]
        rcases ih (complete_put complete entry.1 entry.2) noDictionary.2 with
          ⟨others, done⟩ | ⟨⟨key, member, locked⟩, failed⟩
        · exact .inl ⟨List.forall_mem_cons.mpr ⟨free, others⟩, done⟩
        · exact .inr ⟨⟨key, List.mem_cons_of_mem _ member, locked⟩, failed⟩
      · rw [failed]
        exact .inr ⟨⟨entry, List.mem_cons_self, locked⟩, fault, rfl⟩

/-! ## What is seen of settings -/

/-- Cutting the path makes no other difference. -/
theorem splitPath_eq {settings : Settings} (isComplete : settings.complete = true) :
    ∃ after, settings.splitPath = .ok after ∧ after.complete = true ∧
      after.altered = settings.altered := by
  obtain ⟨isPath, excluded⟩ := Bool.and_eq_true_iff.mp isComplete
  obtain ⟨path, found⟩ := Option.isSome_iff_exists.mp isPath
  unfold splitPath
  rw [found]
  cases path with
  | text text => exact ⟨_, rfl, excluded, rfl⟩
  | _ => exact ⟨settings, rfl, isComplete, rfl⟩

/-- A dictionary without locked keys gives settings, which are altered exactly if a key names what
they can do. -/
theorem outcome_eq {entries : List (String × Value)}
    (done : setAll {} (entries.map fun entry => (.text entry.1, entry.2)) =
      .ok (putAll {} entries)) :
    ∃ settings : Settings, outcome entries = .ok (settings.listing, settings.validate) ∧
      settings.complete = true ∧ settings.altered = entries.any fun entry =>
        behaviourNames.contains entry.1 := by
  obtain ⟨settings, made, isComplete, same⟩ :=
    splitPath_eq (complete_putAll complete_default entries)
  refine ⟨settings, ?_, isComplete, ?_⟩
  · rw [outcome, ofDictionary, ofEntries, done]
    show (splitPath (putAll {} entries)).map _ = _
    rw [made]
    rfl
  · rw [same, altered_putAll]
    rfl

theorem validate_ne_notCallable {settings : Settings} (kept : settings.validateValue = none)
    (type : String) :
    settings.validate ≠ .error (.notCallable type) := by
  intro failed
  unfold validate at failed
  rw [kept] at failed
  dsimp only at failed
  split at failed
  · split at failed <;> cases failed
  · cases found : settings.schemasPath with
    | none =>
        rw [found] at failed
        cases failed
    | some path =>
        rw [found] at failed
        change (if path.isTrue then _ else _) = _ at failed
        split at failed <;> cases failed

theorem exists_listing_eq {settings : Settings} (isComplete : settings.complete = true)
    (listingKept : settings.listingValue = none) (fieldsKept : settings.fieldsValue = none) :
    ∃ first rest, settings.listing = .ok (first :: rest) := by
  obtain ⟨isPath, isExcluded⟩ := Bool.and_eq_true_iff.mp isComplete
  obtain ⟨path, foundPath⟩ := Option.isSome_iff_exists.mp isPath
  obtain ⟨excluded, foundExcluded⟩ := Option.isSome_iff_exists.mp isExcluded
  unfold listing options
  rw [listingKept, fieldsKept, foundPath, foundExcluded]
  exact ⟨_, _, rfl⟩

/-- Without the way to list options, or the options to list, there is a failure or nothing. -/
theorem listing_kept {settings : Settings} {first : String × Value} {rest : List (String × Value)}
    (listed : settings.listing = .ok (first :: rest)) :
    settings.listingValue = none ∧ settings.fieldsValue = none := by
  unfold listing at listed
  split at listed
  next => cases listed
  next noListing noFields => exact ⟨noListing, noFields⟩
  next => cases listed
  next => cases listed
  next => cases listed

/-- Altered settings are seen to be altered. -/
theorem seen_ne {settings others : Settings} (isAltered : settings.altered = true)
    (unaltered : others.altered = false) (isComplete : others.complete = true) :
    (settings.listing, settings.validate) ≠ (others.listing, others.validate) := by
  intro same
  obtain ⟨sameListing, sameValidate⟩ := Prod.mk.inj same
  simp only [altered, Bool.or_eq_false_iff, Option.isSome_eq_false_iff,
    Option.isNone_iff_eq_none] at unaltered
  obtain ⟨⟨validateKept, listingKept⟩, fieldsKept⟩ := unaltered
  obtain ⟨first, rest, listed⟩ := exists_listing_eq isComplete listingKept fieldsKept
  obtain ⟨noListing, noFields⟩ := listing_kept (sameListing.trans listed)
  cases lost : settings.validateValue with
  | some value =>
      have failed : settings.validate =
        .error (.notCallable value.fullTypeName) := by rw [validate, lost]
      exact validate_ne_notCallable validateKept _ (sameValidate.symm.trans failed)
  | none => simp [altered, lost, noListing, noFields] at isAltered

/-- **Unknown keys.** Settings read from a dictionary with texts as keys, and no value for
`__dict__`, are seen to be the same as those read from its options, exactly if no key is locked or
names what settings can do. -/
theorem unknown_keys_ignored_iff (entries : List (String × Value))
    (noDictionary : ∀ entry ∈ entries, entry.1 ≠ "__dict__") :
    outcome entries = outcome (optionEntries entries) ↔
      ∀ entry ∈ entries, entry.1 ∉ lockedNames ++ behaviourNames := by
  have isOption : ∀ entry ∈ optionEntries entries, entry.1 ∈ optionNames :=
    fun entry member => by simpa using (List.mem_filter.mp member).2
  have apart : ∀ name ∈ optionNames, name ≠ "__dict__" ∧ name ∉ lockedNames ∧
    name ∉ behaviourNames := by decide
  have ofOptions : setAll {} ((optionEntries entries).map fun entry => (.text entry.1, entry.2)) =
      .ok (putAll {} (optionEntries entries)) := by
    rcases setAll_eq complete_default fun entry member => (apart _ (isOption entry member)).1 with
      ⟨_, done⟩ | ⟨⟨entry, member, locked⟩, _⟩
    · exact done
    · exact absurd (List.contains_iff_mem.mp locked) (apart _ (isOption entry member)).2.1
  constructor
  · intro same entry member taken
    obtain ⟨others, seen, isComplete, unaltered⟩ := outcome_eq ofOptions
    rcases setAll_eq complete_default noDictionary with ⟨unlocked, done⟩ | ⟨_, fault, failed⟩
    · obtain ⟨settings, found, _, isAltered⟩ := outcome_eq done
      rw [found, seen] at same
      refine seen_ne ?_ ?_ isComplete (Except.ok.inj same)
      · rw [isAltered, List.any_eq_true]
        have behaviour := (List.mem_append.mp taken).resolve_left fun locked => by
          simpa [locked] using unlocked entry member
        exact ⟨entry, member, List.contains_iff_mem.mpr behaviour⟩
      · rw [unaltered, List.any_eq_false]
        exact fun entry member behaviour =>
          (apart _ (isOption entry member)).2.2 (List.contains_iff_mem.mp behaviour)
    · rw [seen, outcome, ofDictionary, ofEntries, failed] at same
      cases same
  · intro plain
    rcases setAll_eq complete_default noDictionary with ⟨_, done⟩ | ⟨⟨entry, member, locked⟩, _⟩
    · have noBehaviour : ∀ entry ∈ entries, entry.1 ∉ behaviourNames :=
        fun entry member behaviour => plain entry member (List.mem_append_right _ behaviour)
      unfold outcome ofDictionary ofEntries
      rw [done, ofOptions, putAll_optionEntries _ noBehaviour]
    · exact absurd (List.mem_append_left _ (List.contains_iff_mem.mp locked)) (plain entry member)

/-- An option, another spelling of it, and something that settings have but do not use. -/
def misspelt : List (String × Value) :=
  [("language", .text "kotlin"), ("Language", .text "java"), ("__doc__", .null)]

theorem misspelt_key_ignored :
    (∀ entry ∈ misspelt, entry.1 ≠ "__dict__") ∧
      outcome misspelt = outcome (optionEntries misspelt) :=
  ⟨by decide, (unknown_keys_ignored_iff misspelt (by decide)).mpr (by decide)⟩

/-- A value in the place of validation is not ignored. -/
theorem validate_key_not_ignored :
    (outcome [("validate", .int 5)]).map (·.2) = .ok (.error (.notCallable "int")) ∧
    (outcome (optionEntries [("validate", .int 5)])).map (·.2) = .ok (.ok .python) :=
  ⟨rfl, rfl⟩

end SchemaCompiler.Settings
