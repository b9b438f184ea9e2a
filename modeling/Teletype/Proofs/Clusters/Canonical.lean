import Teletype.Proofs.Grid.References
import Teletype.Proofs.Machine.Clusters

/-!
# Clusters have one number each

The search for a cluster starts at a number that follows from the number of the shorter cluster. An
entry is never moved and no number before it on its search is ever free again, so the same search
finds it later, and by induction on the length the same characters are always searched from the same
number.
-/

namespace Teletype.Clusters

variable {table table' table'' : Clusters} {key start number : Nat} {c : Char} {base : Spelling}
  {cluster : Cluster}

/-- The first table's entries are those of the second one too. -/
def Extends (table table' : Clusters) : Prop :=
  ∀ (number : Nat) (cluster : Cluster), table.entries[number]? = some cluster →
    table'.entries[number]? = some cluster

theorem Extends.refl (table : Clusters) : table.Extends table := fun _ _ h => h

theorem Extends.trans (h : table.Extends table') (h' : table'.Extends table'') :
    table.Extends table'' :=
  fun number cluster hentry => h' number cluster (h number cluster hentry)

/-- A character's key names no cluster. -/
theorem resolve?_of_scalar {single : Char} (table : Clusters) (h : scalar? key = some single) :
    table.resolve? key = none := by
  unfold scalar? at h
  split at h
  · rename_i hscalar
    simp only [isScalar, Bool.or_eq_true, Bool.and_eq_true, decide_eq_true_eq] at hscalar
    exact if_pos (by unfold clusterBase; omega)
  · exact absurd h (by simp)

/-- A character joins an entry or a character. -/
theorem base?_eq_some_iff : table.base? key c = some (base, start) ↔
    (∃ cluster : Cluster, key = cluster.glyph.key ∧ table.entries[cluster.number]? = some cluster ∧
      base = cluster.toSpelling ∧ start = chain cluster.number c.toNat) ∨
    ∃ single, scalar? key = some single ∧ base = ⟨[single], Text.displayWidth single⟩ ∧
      start = chain key c.toNat := by
  unfold base?
  cases hkey : table.resolve? key with
  | some cluster =>
    have single : scalar? key = none := by
      by_contra hsome
      obtain ⟨single, hsingle⟩ := Option.ne_none_iff_exists'.1 hsome
      exact absurd (hkey.symm.trans (table.resolve?_of_scalar hsingle)) (by simp)
    obtain ⟨hnumber, hentry⟩ := resolve?_eq_some_iff.1 hkey
    constructor
    · intro h
      obtain ⟨rfl, rfl⟩ := Prod.mk.inj (Option.some.inj h)
      exact .inl ⟨cluster, hnumber, hentry, rfl, rfl⟩
    · rintro (⟨other, hother, hentry', rfl, rfl⟩ | ⟨single', hsingle, -, -⟩)
      · have same := resolve?_eq_some_iff.2 ⟨hother, hentry'⟩
        rw [Option.some.inj (hkey.symm.trans same)]
      · exact absurd (single.symm.trans hsingle) (by simp)
  | none =>
    constructor
    · intro h
      obtain ⟨single, hsingle, heq⟩ := Option.map_eq_some_iff.1 h
      obtain ⟨rfl, rfl⟩ := Prod.mk.inj heq
      exact .inr ⟨single, hsingle, rfl, rfl⟩
    · rintro (⟨cluster, hnumber, hentry, -⟩ | ⟨single, hsingle, rfl, rfl⟩)
      · have known := resolve?_eq_some_iff.2 ⟨hnumber, hentry⟩
        exact absurd (hkey.symm.trans known) (by simp)
      · rw [hsingle]
        rfl

theorem Extends.base? (h : table.Extends table') (hbase : table.base? key c = some (base, start)) :
    table'.base? key c = some (base, start) := by
  rw [base?_eq_some_iff] at hbase ⊢
  exact hbase.imp_left fun ⟨cluster, hkey, hentry, hbase⟩ => ⟨cluster, hkey, h _ _ hentry, hbase⟩

/-- Numbers that other clusters have are passed as before. -/
theorem Extends.place (h : table.Extends table') {chars : List Char} {tries : Nat}
    (hplace : table.place chars tries start = .taken cluster) :
    table'.place chars tries start = .taken cluster := by
  fun_induction Clusters.place table chars tries start with
  | case1 => exact absurd hplace (by simp)
  | case2 => exact absurd hplace (by simp)
  | case3 tries start other hother hsame =>
    rw [Clusters.place, h _ _ hother]
    dsimp only
    rw [if_pos hsame]
    exact hplace
  | case4 tries start other hother hdiffers ih =>
    rw [Clusters.place, h _ _ hother]
    dsimp only
    rw [if_neg hdiffers]
    exact ih hplace

theorem chars_of_taken {chars : List Char} {tries : Nat}
    (hplace : table.place chars tries start = .taken cluster) : cluster.chars = chars := by
  fun_induction Clusters.place table chars tries start with
  | case1 => exact absurd hplace (by simp)
  | case2 => exact absurd hplace (by simp)
  | case3 tries start other hother hsame =>
    obtain rfl := Place.taken.inj hplace
    exact hsame
  | case4 _ _ _ _ _ ih => exact ih hplace

/-- Once the characters have the free number, they are found there. -/
theorem place_insert {chars : List Char} {tries : Nat}
    (hplace : table.place chars tries start = .free number) (hextends : table.Extends table')
    (hchars : cluster.chars = chars) (hentry : table'.entries[number]? = some cluster) :
    table'.place chars tries start = .taken cluster := by
  fun_induction Clusters.place table chars tries start with
  | case1 => exact absurd hplace (by simp)
  | case2 tries start hnone =>
    obtain rfl := Place.free.inj hplace
    rw [Clusters.place, hentry]
    exact if_pos hchars
  | case3 => exact absurd hplace (by simp)
  | case4 tries start other hother hdiffers ih =>
    rw [Clusters.place, hextends _ _ hother]
    dsimp only
    rw [if_neg hdiffers]
    exact ih hplace

/-! ## Adding characters -/

theorem extends_append (table : Clusters) (key : Nat) (c : Char) (method : WidthMethod) :
    table.Extends (table.append key c method).value.1 := by
  intro number cluster hentry
  rw [← resolve?_number] at hentry ⊢
  exact (table.append_spec key c method).1 _ _ hentry

/-- What comes of adding characters, each to what a key of its own stands for. -/
def appends (method : WidthMethod) (table : Clusters) (calls : List (Nat × Char)) : Clusters :=
  calls.foldl (fun table call => (table.append call.1 call.2 method).value.1) table

theorem extends_appends (method : WidthMethod) (table : Clusters) (calls : List (Nat × Char)) :
    table.Extends (appends method table calls) := by
  induction calls generalizing table with
  | nil => exact .refl table
  | cons call calls ih => exact (table.extends_append call.1 call.2 method).trans (ih _)

/-- The characters that a key stands for when one more is to join them. -/
def spelling? (table : Clusters) (key : Nat) : Option (List Char) :=
  match table.resolve? key with
  | some cluster => some cluster.chars
  | none => (scalar? key).map fun c => [c]

theorem spelling?_of_base (h : table.base? key c = some (base, start)) :
    table.spelling? key = some base.chars := by
  unfold spelling?
  rcases base?_eq_some_iff.1 h with ⟨cluster, hkey, hentry, rfl, -⟩ | ⟨single, hsingle, rfl, -⟩
  · rw [resolve?_eq_some_iff.2 ⟨hkey, hentry⟩]
  · rw [table.resolve?_of_scalar hsingle, hsingle]
    rfl

/-- The cluster is where one more character is searched for. -/
structure Found (table : Clusters) (key : Nat) (c : Char) (base : Spelling) (cluster : Cluster) :
    Prop where
  short : base.chars.length < maxLength
  chars : cluster.chars = base.chars ++ [c]
  place : ∃ start, table.base? key c = some (base, start) ∧
    table.place cluster.chars maxTries start = .taken cluster

theorem Found.mono (h : table.Found key c base cluster) (hextends : table.Extends table') :
    table'.Found key c base cluster :=
  ⟨h.short, h.chars, h.place.imp fun _ hstart => ⟨hextends.base? hstart.1, hextends.place hstart.2⟩⟩

theorem Found.entry (h : table.Found key c base cluster) :
    table.entries[cluster.number]? = some cluster :=
  h.place.elim fun _ hstart => place_taken hstart.2

theorem Found.append (h : table.Found key c base cluster) (method : WidthMethod) :
    (table.append key c method).value = (table, some cluster.glyph) := by
  obtain ⟨start, hbase, hplace⟩ := h.place
  rw [h.chars] at hplace
  unfold Clusters.append
  rw [hbase]
  dsimp only
  rw [if_neg (Nat.not_le.2 h.short), hplace]

theorem append_of_full (hbase : table.base? key c = some (base, start))
    (hfull : maxLength ≤ base.chars.length) (method : WidthMethod) :
    (table.append key c method).value = (table, some ⟨key, base.width⟩) := by
  obtain ⟨cluster, hcluster, rfl⟩ := resolve?_of_full hbase hfull
  unfold Clusters.append
  rw [hbase]
  dsimp only
  rw [if_pos hfull, hcluster, (resolve?_eq_some_iff.1 hcluster).1]
  rfl

/-- A cluster that was not there is found where it was put. -/
theorem found_insert (cluster : Cluster)
    (hbase : table.base? key c = some (base, start))
    (hshort : base.chars.length < maxLength)
    (hplace : table.place (base.chars ++ [c]) maxTries start = .free cluster.number)
    (hchars : cluster.chars = base.chars ++ [c]) :
    let table' := { table with
      entries := table.entries.insert cluster.number cluster
      keyed := table.keyed.insert cluster }
    table.Extends table' ∧ table'.Found key c base cluster := by
  intro table'
  have extended : table.Extends table' := by
    intro other old hother
    have free := place_free hplace
    show (table.entries.insert cluster.number cluster)[other]? = some old
    rw [Std.HashMap.getElem?_insert, if_neg, hother]
    intro heq
    obtain rfl : cluster.number = other := by simpa using heq
    exact absurd (free.symm.trans hother) (by simp)
  exact ⟨extended, hshort, hchars, start, extended.base? hbase, hchars ▸
    place_insert hplace extended hchars Std.HashMap.getElem?_insert_self⟩

/-- The answer is the key of what the characters are found as, unless there are too many of them. -/
theorem found_of_append {method : WidthMethod} {glyph : Glyph}
    (h : (table.append key c method).value.2 = some glyph) :
    ∃ base, (∃ start, table.base? key c = some (base, start)) ∧
      (maxLength ≤ base.chars.length ∧ glyph = ⟨key, base.width⟩ ∨
        ∃ cluster, (table.append key c method).value.1.Found key c base cluster ∧
          glyph = cluster.glyph) := by
  revert h
  fun_cases append table key c method with
  | case1 | case4 | case5 | case6 | case7 => exact fun h => absurd h (by simp)
  | case2 base start hbase hfull =>
    intro h
    obtain ⟨cluster, hcluster, rfl⟩ := resolve?_of_full hbase hfull
    rw [hcluster] at h
    rw [(resolve?_eq_some_iff.1 hcluster).1] at hbase ⊢
    exact ⟨cluster.toSpelling, ⟨start, hbase⟩, .inl ⟨hfull, (Option.some.inj h).symm⟩⟩
  | case3 base start hbase hshort chars cluster hplace =>
    intro h
    have same := chars_of_taken hplace
    refine ⟨base, ⟨start, hbase⟩, .inr ⟨cluster, ⟨Nat.not_le.1 hshort, same, start, hbase, ?_⟩,
      (Option.some.inj h).symm⟩⟩
    rw [same]
    exact hplace
  | case8 base start hbase hshort chars number hplace hroom cluster =>
    intro h
    obtain ⟨-, found⟩ := found_insert cluster hbase (Nat.not_le.1 hshort) hplace rfl
    exact ⟨base, ⟨start, hbase⟩, .inr ⟨cluster, found, (Option.some.inj h).symm⟩⟩

/-! ## What the table keeps to -/

/-- What holds of each entry: its characters are found under its number. -/
structure Entry (table : Clusters) (cluster : Cluster) : Prop where
  number_le : cluster.number ≤ span
  two_le : 2 ≤ cluster.chars.length
  le_max : cluster.chars.length ≤ maxLength
  width : cluster.width = 1 ∨ cluster.width = 2
  found : ∃ key c base, table.Found key c base cluster

/-- Every entry is one of characters that are found under its number. -/
def Canonical (table : Clusters) : Prop :=
  ∀ (number : Nat) (cluster : Cluster), table.entries[number]? = some cluster → table.Entry cluster

theorem Entry.mono (h : table.Entry cluster) (hextends : table.Extends table') :
    table'.Entry cluster :=
  { h with
    found := h.found.imp fun _ hc => hc.imp fun _ hbase =>
      hbase.imp fun _ hfound => hfound.mono hextends }

theorem canonical_empty : ({} : Clusters).Canonical := fun number cluster h => absurd h (by simp)

theorem widen_width (method : WidthMethod) {width : Nat} (hwidth : width ≤ 2) (c : Char) :
    widen method width c = 1 ∨ widen method width c = 2 := by
  have least (n : Nat) (hn : n ≤ 2) : Nat.max 1 n = 1 ∨ Nat.max 1 n = 2 := by
    have same : Nat.max 1 n = max 1 n := rfl
    omega
  unfold widen
  cases method with
  | max => exact least _ (Nat.max_le.2 ⟨hwidth, Text.displayWidth_le_two c⟩)
  | double | wcswidth => exact least _ (Nat.min_le_right _ _)

/-- What a character joins is a character or an entry. -/
theorem Canonical.of_base (h : table.Canonical) (hbase : table.base? key c = some (base, start)) :
    1 ≤ base.chars.length ∧ base.width ≤ 2 := by
  rcases base?_eq_some_iff.1 hbase with ⟨cluster, -, hentry, rfl, -⟩ | ⟨single, -, rfl, -⟩
  · have entry := h _ cluster hentry
    have two_le := entry.two_le
    have width := entry.width
    omega
  · exact ⟨Nat.le_refl 1, Text.displayWidth_le_two single⟩

theorem Canonical.append (h : table.Canonical) (key : Nat) (c : Char) (method : WidthMethod) :
    (table.append key c method).value.1.Canonical := by
  fun_cases Clusters.append table key c method with
  | case1 | case2 | case3 | case4 | case6 => exact h
  | case5 | case7 =>
    exact fun number cluster hentry => (h number cluster hentry).mono fun _ _ h => h
  | case8 base start hbase hshort chars number hplace hroom new =>
    obtain ⟨hlength, hwidth⟩ := h.of_base hbase
    obtain ⟨extended, found⟩ :=
      found_insert new hbase (Nat.not_le.1 hshort) hplace rfl
    have bounded := (table.checkedPlace_eq chars maxTries (base_bounded hbase)).2
    rw [hplace] at bounded
    intro other cluster hentry
    by_cases heq : new.number = other
    · subst heq
      obtain rfl : new = cluster :=
        Option.some.inj (Std.HashMap.getElem?_insert_self.symm.trans hentry)
      have length : new.chars.length = base.chars.length + 1 := List.length_append
      exact ⟨Nat.lt_succ_iff.1 bounded, by omega, by omega, widen_width method hwidth c,
        key, c, base, found⟩
    · refine (h other cluster ?_).mono extended
      dsimp only at hentry
      rwa [Std.HashMap.getElem?_insert, if_neg (by simpa using heq)] at hentry

theorem Canonical.appends (h : table.Canonical) (method : WidthMethod) (calls : List (Nat × Char)) :
    (Clusters.appends method table calls).Canonical := by
  induction calls generalizing table with
  | nil => exact h
  | cons call calls ih => exact ih (h.append call.1 call.2 method)

/-! ## The same characters have the same number -/

theorem scalar?_inj {key' : Nat} {single : Char} (h : scalar? key = some single)
    (h' : scalar? key' = some single) : key = key' := by
  have code (key : Nat) (h : scalar? key = some single) : key = single.toNat := by
    unfold scalar? at h
    split at h
    · rename_i hscalar
      simp only [isScalar, Bool.or_eq_true, Bool.and_eq_true, decide_eq_true_eq] at hscalar
      have valid : key.isValidChar := hscalar
      obtain rfl := Option.some.inj h
      rw [Char.ofNat, dif_pos valid]
      rfl
    · exact absurd h (by simp)
  rw [code key h, code key' h']

/-- Two keys that stand for the same characters start the same search, if these have one number. -/
theorem Canonical.start_eq (h : table.Canonical) {key' start' : Nat} {base' : Spelling}
    (hone : ∀ {cluster cluster' : Cluster}, table.entries[cluster.number]? = some cluster →
      table.entries[cluster'.number]? = some cluster' → cluster.toSpelling = base →
      cluster'.toSpelling = base' → cluster.number = cluster'.number)
    (hbase : table.base? key c = some (base, start))
    (hbase' : table.base? key' c = some (base', start')) (hchars : base.chars = base'.chars) :
    start = start' := by
  rcases base?_eq_some_iff.1 hbase with ⟨cluster, -, hentry, rfl, rfl⟩ | ⟨single, hsingle, rfl, rfl⟩
  · rcases base?_eq_some_iff.1 hbase' with ⟨cluster', -, hentry', rfl, rfl⟩ | ⟨single', -, rfl, -⟩
    · rw [hone hentry hentry' rfl rfl]
    · have longer := (h _ cluster hentry).two_le
      rw [hchars] at longer
      exact absurd longer (by simp)
  · rcases base?_eq_some_iff.1 hbase' with
      ⟨cluster', -, hentry', rfl, -⟩ | ⟨single', hsingle', rfl, rfl⟩
    · have longer := (h _ cluster' hentry').two_le
      rw [← hchars] at longer
      exact absurd longer (by simp)
    · obtain rfl : single = single' := List.singleton_inj.1 hchars
      rw [scalar?_inj hsingle hsingle']

/-- Entries with the same characters are one entry, by induction on the length: what is searched is
one character longer than what it starts from. -/
theorem Canonical.eq_of_chars (h : table.Canonical) {cluster' : Cluster}
    (hentry : table.entries[cluster.number]? = some cluster)
    (hentry' : table.entries[cluster'.number]? = some cluster')
    (hchars : cluster.chars = cluster'.chars) : cluster = cluster' := by
  generalize hlength : cluster.chars.length = length
  induction length using Nat.strongRecOn generalizing cluster cluster' with
  | ind length ih =>
    obtain ⟨key, c, base, -, hc, start, hbase, hplace⟩ := (h _ cluster hentry).found
    obtain ⟨key', c', base', -, hc', start', hbase', hplace'⟩ := (h _ cluster' hentry').found
    obtain ⟨hbases, hlast⟩ := List.append_inj' (hc.symm.trans (hchars.trans hc')) rfl
    obtain rfl : c = c' := List.singleton_inj.1 hlast
    have shorter : base.chars.length < length := by
      rw [← hlength, hc, List.length_append, List.length_singleton]
      exact Nat.lt_succ_self _
    have same : start = start' := by
      refine h.start_eq (fun hold hold' hspelled hspelled' => ?_) hbase hbase' hbases
      rw [ih _ shorter hold hold' (by rw [hspelled, hspelled', hbases]) (by rw [hspelled])]
    rw [hchars, same, hplace'] at hplace
    exact (Place.taken.inj hplace).symm

/-- Two keys name the same characters just if they are the same. -/
theorem Canonical.key_eq_iff (h : table.Canonical) {key' : Nat} {cluster' : Cluster}
    (hkey : table.resolve? key = some cluster) (hkey' : table.resolve? key' = some cluster') :
    key = key' ↔ cluster.chars = cluster'.chars := by
  obtain ⟨rfl, hentry⟩ := resolve?_eq_some_iff.1 hkey
  obtain ⟨rfl, hentry'⟩ := resolve?_eq_some_iff.1 hkey'
  constructor
  · intro heq
    rw [heq] at hkey
    rw [Option.some.inj (hkey.symm.trans hkey')]
  · intro hchars
    rw [h.eq_of_chars hentry hentry' hchars]

/-- A key that is answered names the characters that it was asked for, and is answered again
whatever is added in between. -/
theorem append_again {method : WidthMethod} {glyph : Glyph}
    (h : (table.append key c method).value.2 = some glyph)
    (hextends : (table.append key c method).value.1.Extends table') :
    (∀ chars, table.spelling? key = some chars → chars.length < maxLength →
        (table'.resolve? glyph.key).map Cluster.toSpelling = some ⟨chars ++ [c], glyph.width⟩) ∧
      (table'.append key c method).value = (table', some glyph) := by
  obtain ⟨base, ⟨start, hbase⟩, ⟨hfull, rfl⟩ | ⟨cluster, found, rfl⟩⟩ := found_of_append h
  · have later := ((table.extends_append key c method).trans hextends).base? hbase
    refine ⟨fun chars hchars hshort => ?_, append_of_full later hfull method⟩
    obtain rfl := Option.some.inj (hchars.symm.trans (spelling?_of_base hbase))
    exact absurd hshort (Nat.not_lt.2 hfull)
  · have later := found.mono hextends
    refine ⟨fun chars hchars hshort => ?_, later.append method⟩
    obtain rfl := Option.some.inj (hchars.symm.trans (spelling?_of_base hbase))
    rw [resolve?_eq_some_iff.2 ⟨rfl, later.entry⟩, ← found.chars]
    rfl

/-- Characters are kept once each. Whatever was added to an empty table: an entry is stored under
the number that it names, which has twenty bits; it has two to 255 characters and one or two
columns; adding its last character to what it continues answers its key; and it stays as it is. Keys
and characters correspond. A key that is answered, unless there were 255 characters already, names
the characters it was asked for, and it is answered again. -/
theorem appends_canonical (method : WidthMethod) (calls more : List (Nat × Char)) :
    let table := appends method {} calls
    (∀ (number : Nat) (cluster : Cluster), table.entries[number]? = some cluster →
      cluster.number = number ∧ number ≤ span ∧
        2 ≤ cluster.chars.length ∧ cluster.chars.length ≤ maxLength ∧
        (cluster.width = 1 ∨ cluster.width = 2) ∧
        (appends method table more).entries[number]? = some cluster ∧
        ∃ key c chars, table.spelling? key = some chars ∧ chars ++ [c] = cluster.chars ∧
          (table.append key c method).value =
            (table, some ⟨clusterBase + number, cluster.width⟩)) ∧
      (∀ (key key' : Nat) (cluster cluster' : Cluster), table.resolve? key = some cluster →
        table.resolve? key' = some cluster' → (key = key' ↔ cluster.chars = cluster'.chars)) ∧
      ∀ (key : Nat) (c : Char) (glyph : Glyph),
        (table.append key c method).value.2 = some glyph →
        let later := appends method (table.append key c method).value.1 more
        (∀ chars, table.spelling? key = some chars → chars.length < maxLength →
            (later.resolve? glyph.key).map Cluster.toSpelling =
              some ⟨chars ++ [c], glyph.width⟩) ∧
          (later.append key c method).value = (later, some glyph) := by
  have canonical : (appends method {} calls).Canonical :=
    canonical_empty.appends method calls
  refine ⟨fun number cluster hentry => ?_, fun _ _ _ _ => canonical.key_eq_iff, fun key c glyph h =>
    append_again h (extends_appends method _ more)⟩
  have entry := canonical number cluster hentry
  have later := extends_appends method (appends method {} calls) more _ _ hentry
  obtain rfl := (appends method {} calls).keyed number cluster hentry
  obtain ⟨key, c, base, found⟩ := entry.found
  obtain ⟨start, hbase, -⟩ := found.place
  exact ⟨rfl, entry.number_le, entry.two_le, entry.le_max, entry.width, later,
    key, c, base.chars, spelling?_of_base hbase, found.chars.symm, found.append method⟩

/-- An accent joins a letter, and still does so after it joined another letter. -/
theorem appends_canonical_accent :
    ∃ glyph, (({} : Clusters).append 0x65 '\u0301' .double).value.2 = some glyph ∧
      ((appends .double (({} : Clusters).append 0x65 '\u0301' .double).value.1
        [(0x61, '\u0301')]).resolve? glyph.key).map Cluster.toSpelling =
          some ⟨['e', '\u0301'], glyph.width⟩ := by
  have free : ({} : Clusters).place ['e', '\u0301'] maxTries (chain 0x65 0x301) =
      .free (chain 0x65 0x301) := by
    rw [maxTries, place, Std.HashMap.getElem?_empty]
  have base : ({} : Clusters).base? 0x65 '\u0301' =
      some (⟨['e'], Text.displayWidth 'e'⟩, chain 0x65 0x301) :=
    base?_eq_some_iff.2 (.inr ⟨'e', rfl, rfl, rfl⟩)
  have answer : ∃ glyph, (({} : Clusters).append 0x65 '\u0301' .double).value.2 = some glyph := by
    unfold append
    rw [base]
    dsimp only
    rw [if_neg (by decide)]
    dsimp only [List.cons_append, List.nil_append]
    rw [free]
    dsimp only
    rw [if_neg (by simp [span])]
    exact ⟨_, rfl⟩
  obtain ⟨glyph, hglyph⟩ := answer
  obtain ⟨-, -, again⟩ := appends_canonical .double [] [(0x61, '\u0301')]
  exact ⟨glyph, hglyph,
    (again 0x65 '\u0301' glyph hglyph).1 ['e'] (spelling?_of_base base) (by decide)⟩

end Teletype.Clusters
