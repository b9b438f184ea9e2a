import Mathlib.Data.List.DropRight
import Teletype.Proofs.Config.Override
import Teletype.Proofs.Text.Split

/-!
# The texts that items give

A terminal type, a title or an application name is what the last item that names it gives, without
the blanks around it, and as it was before if no item names it.
-/

namespace Teletype

namespace Text

/-- The text without the blanks at either end. -/
def trimmed (text : String) : String := String.ofList (trim text.toList)

variable {chars : List Char}

theorem trim_eq_self_iff : trim chars = chars ↔
    (∀ c ∈ chars.head?, ¬isBlank c) ∧ ∀ c ∈ chars.getLast?, ¬isBlank c := by
  have first : chars.dropWhile isBlank = chars ↔ ∀ c ∈ chars.head?, ¬isBlank c := by
    cases chars with
    | nil => simp
    | cons c rest => simp
  have last : chars.rdropWhile isBlank = chars ↔ ∀ c ∈ chars.getLast?, ¬isBlank c := by
    rw [List.rdropWhile_eq_self_iff]
    cases chars using List.reverseRecOn with
    | nil => simp
    | append_singleton rest c => simp
  rw [← first, ← last]
  show (chars.dropWhile isBlank).rdropWhile isBlank = chars ↔ _
  constructor
  · intro h
    have whole : chars.dropWhile isBlank = chars := by
      refine (List.dropWhile_suffix _).eq_of_length_le ?_
      calc chars.length = ((chars.dropWhile isBlank).rdropWhile isBlank).length := by rw [h]
        _ ≤ _ := (List.rdropWhile_prefix _ _).length_le
    exact ⟨whole, by rwa [whole] at h⟩
  · rintro ⟨hfirst, hlast⟩
    rw [hfirst, hlast]

theorem trimmed_eq_self_iff {text : String} : trimmed text = text ↔
    (∀ c ∈ text.toList.head?, ¬isBlank c) ∧ ∀ c ∈ text.toList.getLast?, ¬isBlank c := by
  rw [← trim_eq_self_iff, trimmed, ← String.toList_inj, String.toList_ofList]

end Text

namespace Config

open Text

variable {c d e : Config} {key value : String} {items more : List String}

/-- An item that is put together of a setting and its value gives the value, but for blanks around
it. -/
theorem setting?_append (plain : '=' ∉ key.toList) (bare : trimmed key = key) (value : String) :
    setting? (key ++ "=" ++ value) = some (key, trimmed value) := by
  have cut : cutAt? '=' (key ++ "=" ++ value).toList = some (key.toList, value.toList) := by
    rw [cutAt?_eq_some_iff]
    exact ⟨by simp, plain⟩
  unfold setting?
  rw [cut]
  exact congrArg (fun key => some (key, trimmed value)) bare

/-- What the last item that names the setting gives it. -/
def given? (key : String) (items : List String) : Option String :=
  (items.filterMap fun item => (setting? item).bind fun s => if s.1 = key then some s.2
    else none).getLast?

theorem given?_append : given? key (items ++ more) = (given? key more).or (given? key items) := by
  rw [given?, List.filterMap_append, List.getLast?_append]
  rfl

theorem given?_eq_none (h : ∀ item ∈ items, ∀ value, setting? item ≠ some (key, value)) :
    given? key items = none := by
  rw [given?, List.getLast?_eq_none_iff, List.filterMap_eq_nil_iff]
  intro item hitem
  rw [Option.bind_eq_none_iff]
  intro s named
  refine if_neg fun hkey => h item hitem s.2 ?_
  rw [named, ← hkey]

theorem given?_singleton (item : String) : given? key [item] =
    (setting? item).bind fun s => if s.1 = key then some s.2 else none := by
  unfold given?
  rw [List.filterMap_cons, List.filterMap_nil]
  split <;> simp [*]

/-- The texts are the last ones that the items give, and those that no item gives are as before. -/
structure TextsFrom (items : List String) (before c : Config) : Prop where
  term : c.term = (given? "term" items).getD before.term
  title : c.title = (given? "title" items).or before.title
  appId : c.appId = (given? "app-id" items).or before.appId

theorem TextsFrom.append (h : TextsFrom items c d) (h' : TextsFrom more d e) :
    TextsFrom (items ++ more) c e where
  term := by
    rw [h'.term, h.term, given?_append]
    cases given? "term" more <;> rfl
  title := by rw [h'.title, h.title, given?_append, Option.or_assoc]
  appId := by rw [h'.appId, h.appId, given?_append, Option.or_assoc]

theorem textsFrom_after (c : Config) (item : String) : TextsFrom [item] c (c.after item) := by
  unfold after
  cases named : setting? item with
  | none => constructor <;> simp [given?_singleton, named]
  | some setting =>
    obtain ⟨key, value⟩ := setting
    have given (key' : String) : given? key' [item] = if key = key' then some value else none := by
      rw [given?_singleton, named]
      rfl
    show TextsFrom [item] c ((c.set? key value).getD c)
    cases set : c.set? key value with
    | none =>
      -- The three texts can be given any value.
      have unset : ∀ key' ∈ ["term", "title", "app-id"], key ≠ key' := by
        rintro key' hkey' rfl
        simp only [List.mem_cons, List.not_mem_nil, or_false] at hkey'
        rcases hkey' with rfl | rfl | rfl <;> cases set
      constructor <;> simp [given, unset]
    | some c' =>
      cases changes_of_set? set with
      | term | title | appId | scrollback => constructor <;> simp [given]
      | size unset | other unset =>
        simp only [List.mem_cons, List.not_mem_nil, not_or] at unset
        constructor <;> simp [given, unset]

theorem textsFrom_foldl_after (c : Config) (items : List String) :
    TextsFrom items c (items.foldl after c) := by
  induction items generalizing c with
  | nil => exact ⟨rfl, rfl, rfl⟩
  | cons item items ih => exact (textsFrom_after c item).append (ih (c.after item))

end Config

end Teletype
