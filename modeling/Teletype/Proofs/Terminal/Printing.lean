import Teletype.Proofs.Grid.Selected

/-!
# Printing lines

Lines that are printed on a new terminal, each but the last one ended by a carriage return and a
line feed, are on its primary screen and in its scrollback as a page.
-/

namespace Teletype.Terminal

open Control.Decoder (asciiAction)

variable {cols rows scrollback : Nat} {p : Page} {t : Terminal} {b : UInt8}

/-- A terminal that holds a page, and that nothing but printing has happened to. -/
structure Printing (cols rows scrollback : Nat) (p : Page) (t : Terminal) :
    Prop extends Clean t where
  newline : t.modes.newline = false
  grid : t.primary.Paged cols rows scrollback p
  ascii : ∀ b ∈ p.text, b < 0x80

theorem printing_new (config : Config) :
    (new config).Printing (max config.size.width 1) (max config.size.height 1)
      config.scrollback {} :=
  ⟨⟨rfl, rfl, rfl, rfl, rfl, rfl⟩, rfl, Grid.paged_new .., nofun⟩

/-- A character that there is room for is printed. -/
theorem Printing.print (h : t.Printing cols rows scrollback p) (hb : Printable b)
    (hroom : (p.put cols b).above.length < Grid.capacityFor .primary rows scrollback) :
    (t.print (letterChar b)).Printing cols rows scrollback (p.put cols b) := by
  have ascii (row col : Nat) (c : Cell) (hc : t.primary.cell? row col = some c) : c.key < 0x80 := by
    rcases h.grid.cell hc with rfl | ⟨b', hb', rfl⟩
    · decide
    · exact h.ascii b' hb'
  obtain ⟨composeAt, printed⟩ := h.toClean.print ascii hb
  rw [printed]
  refine ⟨⟨h.screen, h.rendition, h.charsets, h.link, h.insert, h.autowrap⟩, h.newline,
    h.grid.typeNext b (h.grid.capacity_eq ▸ hroom), ?_⟩
  rw [Page.text_put]
  refine List.forall_mem_append.2 ⟨h.ascii, List.forall_mem_singleton.2 ?_⟩
  exact UInt8.lt_iff_toNat_lt.2 (Nat.lt_of_le_of_lt (printable_iff.1 hb).2 (by decide))

/-- A line that there is room for is printed. -/
theorem Printing.write (h : t.Printing cols rows scrollback p) {line : List UInt8}
    (hline : ∀ b ∈ line, Printable b)
    (hroom : (p.write cols line).above.length < Grid.capacityFor .primary rows scrollback)
    (now : Instant) :
    ((line.map asciiAction).foldl (perform now) t).Printing cols rows scrollback
      (p.write cols line) := by
  induction line generalizing t p with
  | nil => exact h
  | cons b line ih =>
    obtain ⟨hb, hline⟩ := List.forall_mem_cons.1 hline
    have room := Nat.lt_of_le_of_lt (Page.above_write_le cols (p.put cols b) line) hroom
    rw [List.map_cons, List.foldl_cons, Control.Decoder.asciiAction_of_printable hb]
    exact ih (h.print hb room) hline hroom

/-- A carriage return and a line feed end the line. -/
theorem Printing.endLine (h : t.Printing cols rows scrollback p)
    (hroom : p.above.length + 2 ≤ Grid.capacityFor .primary rows scrollback) (now : Instant) :
    (([0x0d, 0x0a].map asciiAction).foldl (perform now) t).Printing cols rows scrollback
      (p.advance false) := by
  have ended : ([0x0d, 0x0a].map asciiAction).foldl (perform now) t =
      { t with composeAt := none, primary := t.primary.endLine } := by
    have returned : perform now t (asciiAction 0x0d) =
        { t with composeAt := none, primary := t.primary.toFirstColumn } := by
      show Terminal.modifyGrid { t with composeAt := none } Grid.toFirstColumn = _
      unfold modifyGrid
      rw [h.screen]
    have fed : perform now { t with composeAt := none, primary := t.primary.toFirstColumn }
        (asciiAction 0x0a) = { t with composeAt := none, primary := t.primary.endLine } := by
      show (if t.modes.newline then _ else
        lineFeed { t with composeAt := none, primary := t.primary.toFirstColumn }) = _
      rw [h.newline, if_neg Bool.false_ne_true]
      unfold lineFeed modifyGrid
      rw [h.screen, h.rendition]
      rfl
    rw [List.map_cons, List.map_singleton, List.foldl_cons, List.foldl_cons, List.foldl_nil,
      returned, fed]
  rw [ended]
  refine ⟨⟨h.screen, h.rendition, h.charsets, h.link, h.insert, h.autowrap⟩, h.newline,
    h.grid.endLine (h.grid.capacity_eq ▸ hroom), ?_⟩
  rw [Page.text_advance]
  exact List.forall_mem_append.2 ⟨h.ascii, List.forall_mem_singleton.2 (by decide)⟩

/-- All lines are printed, if the ring has room for the rows that they take. -/
theorem Printing.writeLines (h : t.Printing cols rows scrollback p) {lines : List (List UInt8)}
    (hlines : ∀ line ∈ lines, ∀ b ∈ line, Printable b)
    (hroom : (p.writeLines cols lines).above.length < Grid.capacityFor .primary rows scrollback)
    (now : Instant) :
    ((([0x0d, 0x0a].intercalate lines).map asciiAction).foldl (perform now) t).Printing cols
      rows scrollback (p.writeLines cols lines) := by
  induction lines generalizing t p with
  | nil => exact h
  | cons line lines ih =>
    obtain ⟨hline, hlines⟩ := List.forall_mem_cons.1 hlines
    cases lines with
    | nil =>
      rw [List.intercalate_singleton]
      exact h.write hline hroom now
    | cons next lines =>
      have below := Nat.lt_of_le_of_lt (Page.above_writeLines_le _ (next :: lines)) hroom
      rw [Page.advance, List.length_append] at below
      rw [List.intercalate_cons_cons, List.map_append, List.map_append, List.foldl_append,
        List.foldl_append]
      exact ih ((h.write hline (Nat.lt_of_succ_lt below) now).endLine below now) hlines hroom

/-- Reading the lines prints them. -/
theorem Printing.feed (h : t.Printing cols rows scrollback p) (hground : t.decoder.state = .ground)
    {lines : List (List UInt8)} (hlines : ∀ line ∈ lines, ∀ b ∈ line, Printable b)
    (hroom : (p.writeLines cols lines).above.length < Grid.capacityFor .primary rows scrollback)
    (now : Instant) :
    (t.feed ([0x0d, 0x0a].intercalate lines) now).Printing cols rows scrollback
      (p.writeLines cols lines) := by
  have ascii : ∀ b ∈ [0x0d, 0x0a].intercalate lines, b < 0x7f ∧ b ≠ 0x1b := by
    have ended : ∀ b ∈ [0x0d, 0x0a], b < (0x7f : UInt8) ∧ b ≠ 0x1b := by simp
    exact forall_mem_intercalate ended fun line hline b hb =>
      Control.Decoder.ascii_of_printable (hlines line hline b hb)
  have actions := (Control.Decoder.becomes_ascii hground ascii).actions
  have reading : (t.reading ([0x0d, 0x0a].intercalate lines)).Printing cols rows scrollback p :=
    ⟨⟨h.screen, h.rendition, h.charsets, h.link, h.insert, h.autowrap⟩, h.newline, h.grid, h.ascii⟩
  have printed := reading.writeLines hlines hroom now
  rw [feed_eq, actions]
  dsimp only
  split
  · exact printed
  · exact ⟨⟨printed.screen, printed.rendition, printed.charsets, printed.link, printed.insert,
      printed.autowrap⟩, printed.newline, printed.grid, printed.ascii⟩

/-! ## Lines of text -/

open Text.Utf8 (encode)

/-- How many rows lines of text take on a screen of the given width, an empty line one as well. -/
def rowsTaken (cols : Nat) (lines : List String) : Nat :=
  (lines.map fun line => max 1 ((line.length + cols - 1) / cols)).sum

/-- The bytes of printable text are its characters. -/
theorem encode_plain {line : String} (h : Teletype.Plain line) :
    encode line = line.toList.map fun c => UInt8.ofNat c.toNat := by
  rw [← String.ofList_toList (s := line), encode_ofList, String.toList_ofList, List.map_eq_flatMap]
  exact List.flatMap_congr
    fun c hc => Text.Utf8.utf8EncodeChar_of_lt (Nat.lt_of_le_of_lt (h c hc).2 (by decide))

theorem map_letterChar_encode {line : String} (h : Teletype.Plain line) :
    (encode line).map letterChar = line.toList := by
  rw [encode_plain h, List.map_map]
  refine (List.map_congr_left fun c hc => ?_).trans (List.map_id _)
  have small : c.toNat < 2 ^ 8 := Nat.lt_of_le_of_lt (h c hc).2 (by decide)
  show Char.ofNat (UInt8.ofNat c.toNat).toNat = c
  rw [UInt8.toNat_ofNat', Nat.mod_eq_of_lt small, Char.ofNat_toNat]

theorem encode_intercalate (separator : String) (lines : List String) :
    encode (separator.intercalate lines) = (encode separator).intercalate (lines.map encode) := by
  induction lines with
  | nil => rfl
  | cons line lines ih =>
    cases lines with
    | nil => rw [String.intercalate_singleton, List.map_singleton, List.intercalate_singleton]
    | cons next lines =>
      rw [String.intercalate_cons_cons, encode_append, encode_append, ih]
      exact List.intercalate_cons_cons.symm

/-- The page of some lines has them for its text. -/
theorem map_letterChar_text {lines : List String} (hplain : ∀ line ∈ lines, Teletype.Plain line) :
    (({} : Page).writeLines cols (lines.map encode)).text.map letterChar =
      ("\n".intercalate lines).toList := by
  have plain : (lines.map encode).map (List.map letterChar) = lines.map String.toList := by
    rw [List.map_map]
    exact List.map_congr_left fun line hline => map_letterChar_encode (hplain line hline)
  rw [Page.text_writeLines, String.toList_intercalate, ← plain]
  exact map_intercalate letterChar [0x0a] (lines.map encode)

/-- The rows that lines of text take are those of their page. -/
theorem rowsTaken_eq (hcols : 0 < cols) {lines : List String}
    (hplain : ∀ line ∈ lines, Teletype.Plain line) :
    max 1 (rowsTaken cols lines) =
      (({} : Page).writeLines cols (lines.map encode)).above.length + 1 := by
  cases lines with
  | nil => rfl
  | cons line lines =>
    have taken : rowsTaken cols (line :: lines) =
        (((line :: lines).map encode).map fun bytes => (bytes.length - 1) / cols + 1).sum := by
      rw [List.map_map]
      refine congrArg List.sum (List.map_congr_left fun line hline => ?_)
      have length : (encode line).length = line.length := by
        rw [encode_plain (hplain line hline), List.length_map, String.length_toList]
      show max 1 ((line.length + cols - 1) / cols) = ((encode line).length - 1) / cols + 1
      rw [length]
      cases line.length with
      | zero =>
        rw [Nat.zero_add, Nat.div_eq_of_lt (Nat.sub_one_lt_of_lt hcols), Nat.zero_sub,
          Nat.zero_div]; rfl
      | succ n =>
        rw [Nat.add_right_comm, Nat.add_sub_cancel, Nat.add_sub_cancel, Nat.add_div_right n hcols]
        exact Nat.max_eq_right (Nat.succ_pos _)
    rw [Page.above_writeLines hcols rfl (by rw [List.map_cons]; exact List.cons_ne_nil _ _),
      ← taken, List.length_nil, Nat.zero_add]
    refine Nat.max_eq_right ?_
    rw [rowsTaken, List.map_cons, List.sum_cons]
    omega

/-- What is printed is what is selected. Lines of printable text without spaces at their ends are
printed on a new terminal, and the ring has room for the rows that they take. Then the text of a
selection of all lines is the lines that were printed, and a line feed for each row below them. -/
theorem selected_of_printed (config : Config) (lines : List String) (now : Instant)
    (hplain : ∀ line ∈ lines, Teletype.Plain line)
    (hends : ∀ line ∈ lines, line.toList.getLast? ≠ some ' ')
    (hroom : rowsTaken (new config).cols lines ≤ (new config).primary.capacity) :
    let t := (new config).feed (encode ("\r\n".intercalate lines)) now
    let used := max 1 (rowsTaken t.cols lines)
    used ≤ t.grid.lineCount ∧
      Selection.text ⟨⟨0, 0⟩, ⟨t.grid.lineCount - 1, t.grid.cols - 1⟩⟩ t.grid t.clusters =
        "\n".intercalate lines ++
          String.ofList (List.replicate (t.grid.lineCount - used) '\n') := by
  intro t used
  have start := printing_new config
  have positive := start.grid.valid.cols_pos
  rw [show (new config).cols = _ from start.grid.valid.cols_eq, start.grid.capacity_eq] at hroom
  generalize max config.size.width 1 = cols at start positive hroom
  generalize max config.size.height 1 = rows at start hroom
  have printable : ∀ bytes ∈ lines.map encode, ∀ b ∈ bytes, Printable b :=
    List.forall_mem_map.2 fun line hline => (hplain line hline).printable
  have ends : ∀ bytes ∈ lines.map encode, bytes.getLast? ≠ some 0x20 :=
    List.forall_mem_map.2 fun line hline hspace => hends line hline (by
      rw [← map_letterChar_encode (hplain line hline), List.getLast?_map, hspace]
      rfl)
  have taken := rowsTaken_eq positive hplain
  obtain ⟨fits, last⟩ := (Page.fits_empty cols).writeLines positive rfl printable ends
  have room : (({} : Page).writeLines cols (lines.map encode)).above.length <
      Grid.capacityFor .primary rows config.scrollback := by
    have := start.grid.valid.capacity_pos
    rw [start.grid.capacity_eq] at this
    omega
  have printed :
      t.Printing cols rows config.scrollback (({} : Page).writeLines cols (lines.map encode)) := by
    show Printing _ _ _ _ ((new config).feed (encode ("\r\n".intercalate lines)) now)
    rw [encode_intercalate]
    exact start.feed rfl printable room now
  have grid : t.grid = t.primary := by rw [Terminal.grid, printed.screen]
  have width : t.cols = cols := printed.grid.valid.cols_eq
  obtain ⟨inside, selected⟩ := printed.grid.text_whole fits last t.clusters
  rw [map_letterChar_text hplain, String.ofList_append, String.ofList_toList, ← taken, ← width,
    ← grid] at selected
  rw [← taken, ← width, ← grid] at inside
  exact ⟨inside, selected⟩

theorem selected_of_printed_scrolled :
    let config : Config := { size := ⟨3, 2⟩, scrollback := 3 }
    let lines := ["ab cd", "", "xyz"]
    let t := (new config).feed (encode ("\r\n".intercalate lines)) 0
    let used := max 1 (rowsTaken t.cols lines)
    (∀ line ∈ lines, Teletype.Plain line) ∧ (∀ line ∈ lines, line.toList.getLast? ≠ some ' ') ∧
      rowsTaken (new config).cols lines ≤ (new config).primary.capacity ∧
      used ≤ t.grid.lineCount ∧
      Selection.text ⟨⟨0, 0⟩, ⟨t.grid.lineCount - 1, t.grid.cols - 1⟩⟩ t.grid t.clusters =
        "\n".intercalate lines ++ String.ofList (List.replicate (t.grid.lineCount - used) '\n') :=
  have plain : ∀ line ∈ ["ab cd", "", "xyz"], Teletype.Plain line := by decide +kernel
  have ends : ∀ line ∈ ["ab cd", "", "xyz"], line.toList.getLast? ≠ some ' ' := by decide +kernel
  have room : rowsTaken (new { size := ⟨3, 2⟩, scrollback := 3 }).cols ["ab cd", "", "xyz"] ≤
      (new { size := ⟨3, 2⟩, scrollback := 3 }).primary.capacity := by
    decide +kernel
  ⟨plain, ends, room, selected_of_printed { size := ⟨3, 2⟩, scrollback := 3 } _ 0 plain ends room⟩

/-- Two rows are blank below the one that was printed. -/
example :
    let t := (new { size := ⟨5, 3⟩, scrollback := 1 }).feed (encode "ab cd") 0
    Selection.text ⟨⟨0, 0⟩, ⟨t.grid.lineCount - 1, t.grid.cols - 1⟩⟩ t.grid t.clusters =
      "ab cd\n\n" := by
  decide +kernel

end Teletype.Terminal
