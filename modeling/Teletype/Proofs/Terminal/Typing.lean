import Teletype.Proofs.Control.Feed
import Teletype.Proofs.Grid.Typing
import Teletype.Proofs.Reply.Framing
import Teletype.Proofs.Terminal.Feed
import Teletype.Proofs.Terminal.ResizedSession

/-!
# Typing and changes of the size

What is typed on a new terminal stays one line through a change of the size. Only a pending wrap
gets lost: then the next letter takes the place of the last one.
-/

namespace Teletype

/-- Printable ASCII but for the space. -/
def isLetter (b : UInt8) : Bool := 0x20 < b && b < 0x7f

/-- The character of a byte of ASCII. -/
def letterChar (b : UInt8) : Char := Char.ofNat b.toNat

theorem isLetter_iff (b : UInt8) : isLetter b = true ↔ 0x20 < b.toNat ∧ b.toNat < 0x7f := by
  simp [isLetter, UInt8.lt_iff_toNat_lt]

theorem ne_space_of_isLetter {b : UInt8} (h : isLetter b = true) : b ≠ 0x20 := by
  rintro rfl
  exact absurd h (by decide)

theorem printable_of_isLetter {b : UInt8} (h : isLetter b = true) : Printable b := by
  obtain ⟨low, high⟩ := (isLetter_iff b).1 h
  exact printable_iff.2 ⟨Nat.le_of_lt low, Nat.le_of_lt_succ high⟩

theorem toNat_letterChar {b : UInt8} (h : Printable b) : (letterChar b).toNat = b.toNat := by
  have small := (printable_iff.1 h).2
  rw [letterChar, Char.ofNat, dif_pos (.inl (by omega))]
  rfl

theorem displayWidth_letterChar {b : UInt8} (h : Printable b) :
    Text.displayWidth (letterChar b) = 1 := by
  obtain ⟨low, high⟩ := printable_iff.1 h
  rw [← toNat_letterChar h] at low high
  exact Text.displayWidth_ascii low (Nat.lt_succ_of_le high)

namespace Control.Decoder

/-- What a byte of ASCII other than ESC and DEL asks for between sequences. -/
def asciiAction (b : UInt8) : Action := if b < 0x20 then .execute b else .print (letterChar b)

/-- Between sequences such bytes are read one by one, and the decoder stays as it is. -/
theorem becomes_ascii {d : Decoder} (hd : d.state = .ground) {bytes : List UInt8}
    (hbytes : ∀ b ∈ bytes, b < 0x7f ∧ b ≠ 0x1b) : d.Becomes bytes (bytes.map asciiAction) d := by
  induction bytes with
  | nil => exact d.becomes_nil
  | cons b bytes ih =>
    obtain ⟨⟨ascii, escape⟩, hbytes⟩ := List.forall_mem_cons.1 hbytes
    have next :
        transition d.sixel b d.state = { state := .ground, actions := [asciiAction b] } := by
      rw [hd, transition, ground, if_neg escape, if_pos ascii, asciiAction]
      split <;> rfl
    have read : d.Becomes [b] [asciiAction b] { d with state := .ground } := becomes_quiet next rfl
    rw [← hd] at read
    exact read.append (ih hbytes)

theorem asciiAction_of_printable {b : UInt8} (h : Printable b) :
    asciiAction b = .print (letterChar b) := by
  rw [asciiAction, if_neg (UInt8.not_lt.2 h.1)]

theorem ascii_of_printable {b : UInt8} (h : Printable b) : b < 0x7f ∧ b ≠ 0x1b := by
  refine ⟨UInt8.lt_iff_toNat_lt.2 (Nat.lt_succ_of_le (printable_iff.1 h).2), ?_⟩
  rintro rfl
  exact absurd h.1 (by decide)

/-- What is printable is printed. -/
theorem becomes_printable {d : Decoder} (hd : d.state = .ground) {bytes : List UInt8}
    (hbytes : ∀ b ∈ bytes, Printable b) :
    d.Becomes bytes (bytes.map fun b => .print (letterChar b)) d := by
  have read := becomes_ascii hd fun b hb => ascii_of_printable (hbytes b hb)
  rwa [List.map_congr_left fun b hb => asciiAction_of_printable (hbytes b hb)] at read

end Control.Decoder

namespace Terminal

variable {cols rows scrollback : Nat} {typed stale : List UInt8} {t : Terminal}

/-- A terminal that prints as it comes on the primary screen. -/
structure Clean (t : Terminal) : Prop where
  screen : t.screen = .primary
  rendition : t.rendition = {}
  charsets : t.charsets = {}
  link : t.link = 0
  insert : t.modes.insert = false
  autowrap : t.modes.dec.autowrap = true

/-- A terminal that nothing but typing and changes of the size has happened to. -/
structure Plain (t : Terminal) : Prop where
  screen : t.screen = .primary
  rendition : t.rendition = {}
  charsets : t.charsets = {}
  link : t.link = 0
  insert : t.modes.insert = false
  autowrap : t.modes.dec.autowrap = true
  ground : t.decoder.state = .ground
  reflow : t.config.reflow = true

theorem Plain.clean (h : t.Plain) : t.Clean :=
  ⟨h.screen, h.rendition, h.charsets, h.link, h.insert, h.autowrap⟩

/-- A terminal that shows the letters that were typed, and what is left after them. -/
structure Typing (cols rows scrollback : Nat) (typed stale : List UInt8) (t : Terminal) :
    Prop extends Plain t where
  grid : t.primary.Typing cols rows scrollback typed stale
  letters : ∀ b ∈ typed ++ stale, isLetter b

namespace Clean

theorem wrapLine (h : t.Clean) : t.wrapLine = { t with primary := t.primary.nextRow } := by
  unfold Terminal.wrapLine lineFeed cursor putCursor modifyGrid Terminal.grid
  rw [h.screen, h.rendition]
  rfl

theorem makeRoom (h : t.Clean) : t.makeRoom 1 =
    let next := if t.primary.cursor.pendingWrap then t.primary.nextRow else t.primary
    ({ t with primary := next }, next.cursor.col) := by
  have cursor : t.cursor = t.primary.cursor := by rw [cursor, Terminal.grid, h.screen]
  unfold Terminal.makeRoom
  dsimp only
  rw [h.autowrap, Bool.and_true, cursor, h.wrapLine, if_neg (by simp)]
  split
  · rw [Terminal.cursor, Terminal.grid, h.screen]
  · rw [cursor]

/-- A glyph of one column is printed where the next one goes. -/
theorem printGlyph (h : t.Clean) {b : UInt8} (hb : Printable b) :
    ∃ composeAt, t.printGlyph (letterChar b) 1 =
      { t with
        primary := t.primary.typeNext b
        lastPrinted := some (letterChar b)
        composeAt := composeAt } := by
  unfold Terminal.printGlyph
  rw [if_neg (by simp), h.makeRoom]
  unfold placeGlyph cursor modifyGrid Terminal.grid
  dsimp only
  rw [h.insert, h.rendition, h.link, h.screen, toNat_letterChar hb]
  exact ⟨_, rfl⟩

/-- Two characters of ASCII do not join. -/
theorem attaches (h : t.Clean)
    (hascii : ∀ row col c, t.primary.cell? row col = some c → c.key < 0x80) {b : UInt8}
    (hb : Printable b) (row col : Nat) : t.attaches row col (letterChar b) 1 = false := by
  have grid : t.grid = t.primary := by rw [Terminal.grid, h.screen]
  unfold Terminal.attaches
  rw [grid]
  cases hc : t.primary.cell? row col with
  | none => rfl
  | some c =>
    have ascii := hascii row col c hc
    have small : (letterChar b).toNat < 0x80 := by
      rw [toNat_letterChar hb]
      exact Nat.lt_of_le_of_lt (printable_iff.1 hb).2 (by decide)
    dsimp only
    rw [if_neg (by decide : ¬(1 = 0))]
    simp [ascii, small]

/-- Among characters of ASCII one is printed in a cell of its own. -/
theorem print (h : t.Clean) (hascii : ∀ row col c, t.primary.cell? row col = some c → c.key < 0x80)
    {b : UInt8} (hb : Printable b) :
    ∃ composeAt, t.print (letterChar b) =
      { t with
        primary := t.primary.typeNext b
        lastPrinted := some (letterChar b)
        composeAt := composeAt } := by
  have translated : ({} : Charsets).translate (letterChar b) = ({}, letterChar b) := rfl
  have printed : t.print (letterChar b) = t.printGlyph (letterChar b) 1 := by
    have same : ({ t with charsets := {} } : Terminal) = t := by rw [← h.charsets]
    unfold Terminal.print
    rw [h.charsets, translated]
    dsimp only
    rw [same, displayWidth_letterChar hb]
    cases t.composeAt with
    | none => rfl
    | some place =>
      -- neither of two such characters is a mark, so no cluster is looked up
      simp only [h.attaches hascii hb, if_neg Bool.false_ne_true, if_neg Nat.one_ne_zero]
  rw [printed]
  exact h.printGlyph hb

end Clean

/-- The screen shows ASCII. -/
theorem Typing.ascii (h : t.Typing cols rows scrollback typed stale) (row col : Nat) (c : Cell)
    (hc : t.primary.cell? row col = some c) : c.key < 0x80 := by
  rcases h.grid.cell hc with rfl | ⟨b', hb', rfl⟩
  · decide
  · exact Nat.lt_trans ((isLetter_iff b').1 (h.letters b' hb')).2 (by decide)

/-- A letter that there is room for is typed. -/
theorem Typing.print (h : t.Typing cols rows scrollback typed stale)
    (hroom : typed.length < cols * (scrollback + rows)) {b : UInt8} (hb : isLetter b = true) :
    (t.print (letterChar b)).Typing cols rows scrollback (typed ++ [b]) [] ∧
      (0 < (t.print (letterChar b)).primary.cursor.col ∨
        (t.print (letterChar b)).primary.cursor.pendingWrap = true) := by
  obtain ⟨composeAt, printed⟩ := h.clean.print h.ascii (printable_of_isLetter hb)
  obtain ⟨hgrid, hinside⟩ := h.grid.typeNext hroom b
  rw [printed]
  have letters : ∀ c ∈ typed ++ [b] ++ [], isLetter c := by
    rw [List.append_nil]
    exact List.forall_mem_append.2
      ⟨fun c hc => h.letters c (List.mem_append_left _ hc), List.forall_mem_singleton.2 hb⟩
  exact ⟨⟨⟨h.screen, h.rendition, h.charsets, h.link, h.insert, h.autowrap, h.ground, h.reflow⟩,
    hgrid, letters⟩, hinside⟩

/-- Letters that there is room for are typed. After the last one the cursor is not in the first
column, unless a wrap is pending. -/
theorem Typing.foldl_print (h : t.Typing cols rows scrollback typed stale) (now : Instant)
    {b : UInt8} {bytes : List UInt8}
    (hroom : typed.length + (b :: bytes).length ≤ cols * (scrollback + rows))
    (hbytes : ∀ c ∈ b :: bytes, isLetter c) :
    let done :=
  ((b :: bytes).map fun c => Control.Action.print (letterChar c)).foldl (perform now) t
    done.Typing cols rows scrollback (typed ++ b :: bytes) [] ∧
      (0 < done.primary.cursor.col ∨ done.primary.cursor.pendingWrap = true) := by
  induction bytes generalizing b t typed stale with
  | nil => exact h.print hroom (hbytes b List.mem_cons_self)
  | cons b' bytes ih =>
    obtain ⟨hb, hbytes⟩ := List.forall_mem_cons.1 hbytes
    rw [List.length_cons] at hroom
    have first := (h.print (by omega) hb).1
    have rest := ih first (by rw [List.length_append, List.length_singleton]; omega) hbytes
    rwa [List.append_assoc, List.singleton_append] at rest

/-- Reading the letters types them. -/
theorem Typing.feed (h : t.Typing cols rows scrollback typed stale) {bytes : List UInt8}
    (hne : bytes ≠ []) (hroom : typed.length + bytes.length ≤ cols * (scrollback + rows))
    (hbytes : ∀ b ∈ bytes, isLetter b) (now : Instant) :
    (t.feed bytes now).Typing cols rows scrollback (typed ++ bytes) [] ∧
      (0 < (t.feed bytes now).primary.cursor.col ∨
        (t.feed bytes now).primary.cursor.pendingWrap = true) := by
  obtain ⟨b, bytes, rfl⟩ := List.exists_cons_of_ne_nil hne
  have read :=
    Control.Decoder.becomes_printable h.ground fun b hb => printable_of_isLetter (hbytes b hb)
  have ground : (t.decoder.feed (b :: bytes)).1.state = .ground := by
    rw [read.decoder]
    exact h.ground
  have reading : (t.reading (b :: bytes)).Typing cols rows scrollback typed stale :=
    ⟨⟨h.screen, h.rendition, h.charsets, h.link, h.insert, h.autowrap, ground, h.reflow⟩,
      h.grid, h.letters⟩
  obtain ⟨typing, inside⟩ := reading.foldl_print now hroom hbytes
  rw [feed_eq, read.actions]
  dsimp only
  rw [List.isEmpty_cons, if_neg Bool.false_ne_true]
  exact ⟨⟨⟨typing.screen, typing.rendition, typing.charsets, typing.link, typing.insert,
    typing.autowrap, typing.ground, typing.reflow⟩, typing.grid, typing.letters⟩, inside⟩

theorem typing_new {config : Config} (h : config.reflow = true) :
    (new config).Typing (max config.size.width 1) (max config.size.height 1)
      config.scrollback [] [] :=
  ⟨⟨rfl, rfl, rfl, rfl, rfl, rfl, rfl, h⟩, Grid.typing_new ..,
    fun _ hb => absurd hb List.not_mem_nil⟩

theorem Plain.resizeTo (h : t.Plain) (size : Size) : (t.resizeTo size).Plain := by
  unfold Terminal.resizeTo resize
  dsimp only
  split
  · exact h
  · unfold modifyGrid
    rw [h.screen]
    exact ⟨rfl, h.rendition, h.charsets, h.link, h.insert, h.autowrap, h.ground, h.reflow⟩

/-- At another size the letters before the cursor are what was typed. -/
theorem Typing.resizeTo (h : t.Typing cols rows scrollback typed stale) {size : Size}
    (hsize : ¬(max size.height 1 = rows ∧ max size.width 1 = cols))
    (hroom : t.primary.cursorIndex < max size.width 1 * (scrollback + max size.height 1)) :
    (t.resizeTo size).Typing (max size.width 1) (max size.height 1) scrollback
      ((typed ++ stale).take t.primary.cursorIndex)
        ((typed ++ stale).drop t.primary.cursorIndex) := by
  have grid := h.grid.resize hsize hroom
  rw [← h.reflow, ← primary_resizeTo] at grid
  exact ⟨h.toPlain.resizeTo size, grid, by rw [List.take_append_drop]; exact h.letters⟩

/-- How many cells there are for text on a screen of the given size and in the scrollback. -/
def capacityAt (config : Config) (size : Size) : Nat :=
  size.atLeastOne.width * (config.scrollback + size.atLeastOne.height)

/-- The size changes after so many letters that a wrap is pending. -/
def LosesWrap (config : Config) (size : Size) (letters : Nat) : Prop :=
  size.atLeastOne ≠ config.size.atLeastOne ∧ config.size.atLeastOne.width ∣ letters

instance losesWrapDecidable (config : Config) (size : Size) (letters : Nat) :
    Decidable (LosesWrap config size letters) :=
  inferInstanceAs (Decidable (_ ∧ _))

/-- A change to the size that a terminal has changes nothing. -/
theorem resizeTo_self (h : t.primary.Valid .primary cols rows) {size : Size}
    (hsize : size.atLeastOne = ⟨cols, rows⟩) : t.resizeTo size = t := by
  unfold resizeTo resize
  have width : max size.width 1 = t.cols := (congrArg Size.width hsize).trans h.cols_eq.symm
  have height : max size.height 1 = t.rows := (congrArg Size.height hsize).trans h.rows_eq.symm
  dsimp only
  rw [width, height, if_pos (by simp)]

/-- What is typed before a change of the size is still what was typed after it, but for the last
letter if a wrap is pending. -/
theorem Typing.resized {config : Config} {before : List UInt8}
    (h : t.Typing config.size.atLeastOne.width config.size.atLeastOne.height config.scrollback
      before [])
    (hinside : 0 < t.primary.cursor.col ∨ t.primary.cursor.pendingWrap = true)
    {size : Size} (hroom : before.length < capacityAt config size) :
    ∃ stale, (t.resizeTo size).Typing size.atLeastOne.width size.atLeastOne.height config.scrollback
      (if LosesWrap config size before.length then before.dropLast else before) stale := by
  by_cases hsize : size.atLeastOne = config.size.atLeastOne
  · rw [resizeTo_self h.grid.valid hsize, hsize, if_neg fun lost => lost.1 hsize]
    exact ⟨[], h⟩
  · have pending := h.grid.pendingWrap_iff hinside
    have index := h.grid.index_eq
    unfold Grid.typingIndex at index
    have changed : ¬(max size.height 1 = config.size.atLeastOne.height ∧
        max size.width 1 = config.size.atLeastOne.width) := fun same =>
      hsize (Size.mk.injEq .. ▸ ⟨same.2, same.1⟩)
    have resized := h.resizeTo changed (Nat.lt_of_le_of_lt (by omega) hroom)
    rw [List.append_nil] at resized
    have kept : (if LosesWrap config size before.length then before.dropLast else before) =
        before.take t.primary.cursorIndex := by
      by_cases hpending : t.primary.cursor.pendingWrap = true
      · -- the cursor is on the last letter, and the place after it is only in the wrap that gets
        -- lost
        rw [if_pos hpending] at index
        rw [if_pos ⟨hsize, pending.1 hpending⟩, List.dropLast_eq_take]
        congr 1
        omega
      · rw [if_neg hpending, Nat.add_zero] at index
        rw [if_neg fun lost => hpending (pending.2 lost.2), index, List.take_length]
    rw [kept]
    exact ⟨before.drop t.primary.cursorIndex, resized⟩

/-- With room for all of it, what is typed before and after a change of the size is one line, as
long as what is typed before does not end in the last column. If it does, its last letter is
overwritten. -/
theorem typed_across_resize (config : Config) (hreflow : config.reflow = true)
    {before after : List UInt8} (hbefore : before ≠ []) (hafter : after ≠ [])
    (hletters : ∀ b ∈ before ++ after, isLetter b) (size : Size) (now now' : Instant)
    (hroom : before.length ≤ capacityAt config config.size)
    (hroom' : before.length + after.length ≤ capacityAt config size) :
    let done := (((new config).feed before now).resizeTo size).feed after now'
    let kept := if LosesWrap config size before.length then before.dropLast else before
    done.grid.cursorLine = (kept ++ after).map letter ∧
      (done.grid.cursorLine = (before ++ after).map letter ↔
        ¬LosesWrap config size before.length) := by
  intro done kept
  obtain ⟨letters, letters'⟩ := List.forall_mem_append.1 hletters
  have pos : 0 < after.length := List.length_pos_iff.2 hafter
  have room : ([] : List UInt8).length + before.length ≤ capacityAt config config.size := by
    rwa [List.length_nil, Nat.zero_add]
  obtain ⟨typed, inside⟩ := (typing_new hreflow).feed hbefore room letters now
  obtain ⟨stale, resized⟩ := typed.resized inside
    (Nat.lt_of_lt_of_le (Nat.lt_add_of_pos_right pos) hroom')
  have shorter : kept.length ≤ before.length := by
    unfold kept
    split
    · exact (List.dropLast_prefix before).length_le
    · exact Nat.le_refl _
  have typing : done.Typing _ _ _ (kept ++ after) [] :=
    (resized.feed hafter (Nat.le_trans (Nat.add_le_add_right shorter _) hroom') letters' now').1
  have reads : done.grid.cursorLine = (kept ++ after).map letter := by
    have line := typing.grid.cursorLine fun b hb => ne_space_of_isLetter (typing.letters b hb)
    rw [List.append_nil] at line
    rwa [grid, typing.screen]
  refine ⟨reads, ?_⟩
  rw [reads]
  constructor
  · intro same lost
    have length := congrArg List.length same
    have some := List.length_pos_iff.2 hbefore
    simp only [kept, if_pos lost, List.length_map, List.length_append,
      List.length_dropLast] at length
    omega
  · intro kept_all
    simp only [kept, if_neg kept_all]

/-- Two letters do not fill the row of three columns. At five columns two more follow them. -/
theorem typed_across_resize_letters :
    let config : Config := { size := ⟨3, 2⟩, scrollback := 4 }
    config.reflow = true ∧
      ((((new config).feed [0x61, 0x62] 0).resizeTo ⟨5, 2⟩).feed [0x63, 0x64] 1).grid.cursorLine =
        [0x61, 0x62, 0x63, 0x64].map letter := by
  refine ⟨rfl, ?_⟩
  have letters : ∀ b ∈ ([0x61, 0x62] ++ [0x63, 0x64] : List UInt8), isLetter b :=
    List.all_eq_true.1 (by decide)
  have line := (typed_across_resize { size := ⟨3, 2⟩, scrollback := 4 } rfl (List.cons_ne_nil _ _)
    (List.cons_ne_nil _ _) letters ⟨5, 2⟩ 0 1 (by decide) (by decide)).1
  rwa [if_neg (by decide)] at line

/-- Three letters fill the row, and a wrap is pending. At five columns the third one is
overwritten. -/
theorem overwritten_after_resize :
    let config : Config := { size := ⟨3, 2⟩, scrollback := 4 }
    let before : List UInt8 := [0x61, 0x62, 0x63]
    let done := (((new config).feed before 0).resizeTo ⟨5, 2⟩).feed [0x64] 1
    config.reflow = true ∧ (new config).modes.dec.autowrap = true ∧
      before.length + 1 ≤ min (capacityAt config config.size) (capacityAt config ⟨5, 2⟩) ∧
      done.grid.cursorLine = [0x61, 0x62, 0x64].map letter ∧
      done.grid.cursorLine ≠ (before ++ [0x64]).map letter := by
  decide +kernel

end Terminal

end Teletype
