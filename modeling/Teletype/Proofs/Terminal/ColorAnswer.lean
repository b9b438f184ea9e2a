import Teletype.Proofs.Color.Spec
import Teletype.Proofs.Control.Commands
import Teletype.Proofs.Terminal.Restoring

/-!
# Colours are answered as they were set

A program that sets a colour and asks for it is told a specification that names the value it set,
whatever the form in which it named it. Only of a cursor that was set to black it is told the
foreground. Commands for several entries of the palette do what one command for each entry does, up
to the first index that is none.
-/

namespace Teletype

open Text
open Text.Utf8 (encode)

/-! ## What a reply says of a value -/

namespace Color.Spec

/-- A channel as it is written: its eight bits twice. -/
def channelText (n : Nat) : String := Numeral.hex 2 (n % 0x100) ++ Numeral.hex 2 (n % 0x100)

/-- A channel that is written twice is read as its eight bits. -/
theorem channel_channelText (n : Nat) : accepted.Channel (encode (channelText n)) (n % 0x100) := by
  have twice : ∀ n < 0x100, channel? (encode (Numeral.hex 2 n ++ Numeral.hex 2 n)) = some n := by
    decide +kernel
  exact channel?_eq_some_iff.1 (twice _ (Nat.mod_lt n (by decide)))

/-- What is written of a value is read as its lowest twenty-four bits. -/
theorem read_write (value : Nat) : read (encode (write value)) = .color (value % 0x1000000) := by
  have text : write value = "rgb:" ++ channelText (value / 0x10000) ++ "/" ++
      channelText (value / 0x100) ++ "/" ++ channelText value := rfl
  have slash : encode "/" = [0x2f] := rfl
  have written : encode (write value) = encode "rgb:" ++ [0x2f].intercalate
      [encode (channelText (value / 0x10000)), encode (channelText (value / 0x100)),
        encode (channelText value)] := by
    rw [text]
    simp [encode_append, slash, List.intercalate]
  have packed : pack (value / 0x10000 % 0x100) (value / 0x100 % 0x100) (value % 0x100) =
      value % 0x1000000 := by
    unfold pack
    omega
  rw [written, ← packed]
  exact read_eq_color_iff.2
    (.rgb (channel_channelText _) (channel_channelText _) (channel_channelText _))

end Color.Spec

/-! ## Colours by name -/

/-- The colour that was chosen for an item. The cursor need not have one. -/
def Colors.chosen? (c : Colors) : ColorItem → Option Nat
  | .palette index => c.palette[index]?
  | .foreground => some c.foreground
  | .background => some c.background
  | .cursor => c.cursor

namespace ColorItem

variable {item other : ColorItem} {payload : List UInt8}

/-- The palette has 256 entries. -/
def Exists : ColorItem → Prop
  | .palette index => index < 256
  | .foreground | .background | .cursor => True

/-- What can follow the number of an item: for an entry of the palette a semicolon would begin the
next pair. -/
def Fits (payload : List UInt8) : ColorItem → Prop
  | .palette _ => 0x3b ∉ payload
  | .foreground | .background | .cursor => True

/-- What a command about the item holds. -/
def content (item : ColorItem) (payload : List UInt8) : List UInt8 :=
  encode item.number ++ 0x3b :: payload

end ColorItem

/-- How a command ended. -/
def Terminator.of (bell : Bool) : Terminator := if bell then .bell else .st

theorem Reply.encode_color (item : ColorItem) (value : Nat) (bell : Bool) :
    (Reply.color item value (.of bell)).encode =
      Control.operatingCommand (item.content (Utf8.encode (Color.Spec.write value))) bell := by
  have opening : Utf8.encode "\x1b]" = [0x1b, 0x5d] := rfl
  have separator : Utf8.encode ";" = [0x3b] := rfl
  have closing : Utf8.encode (Terminator.of bell).text = Control.terminator bell := by
    cases bell <;> rfl
  show Utf8.encode
    ("\x1b]" ++ item.number ++ ";" ++ Color.Spec.write value ++ (Terminator.of bell).text) = _
  simp [encode_append, opening, separator, closing, Control.operatingCommand, ColorItem.content]

namespace Terminal

open Control (Carries operatingCommand)

variable {t u : Terminal} {item other : ColorItem} {payload spec sent content : List UInt8}
    {value : Nat}

/-! ## Commands about one colour -/

theorem not_mem_of_number? {digits : List UInt8} {n : Nat} (h : number? digits = some n) :
    0x3b ∉ digits := by
  intro hmem
  unfold number? at h
  split at h
  · rename_i hall
    have digit := List.all_eq_true.1 hall _ hmem
    exact absurd digit (by decide)
  · cases h

theorem number?_toString :
    ∀ index < 256, number? (encode (toString index)) = some index := by decide +kernel

theorem splitAt_pair {index : List UInt8} (hindex : 0x3b ∉ index) (hspec : 0x3b ∉ spec) :
    splitAt 0x3b (index ++ 0x3b :: spec) = [index, spec] := by
  rw [splitAt_eq_iff]
  refine ⟨List.cons_ne_nil _ _, ?_, by simp [List.intercalate]⟩
  simp only [List.forall_mem_cons]
  exact ⟨hindex, hspec, List.forall_mem_nil _⟩

theorem operate_palette (t : Terminal) (payload : List UInt8) (bell : Bool) :
    t.operate (encode "4;" ++ payload) bell =
      paletteCommand (.of bell) t (splitAt 0x3b payload) := by
  have cut : cutAt? 0x3b (encode "4;" ++ payload) = some (encode "4", payload) :=
    cutAt?_eq_some_iff.2 ⟨rfl, by decide⟩
  have number : number? (encode "4") = some 4 := by decide
  unfold operate
  rw [cut]
  dsimp only [Option.getD_some]
  rw [number]
  rfl

/-- A command about a colour is answered or carried out for this colour. -/
theorem operate_content (t : Terminal) (hitem : item.Exists) (hpayload : item.Fits payload)
    (bell : Bool) :
    t.operate (item.content payload) bell = t.colorCommand item payload (.of bell) := by
  have plain (number : String) (hnumber : 0x3b ∉ encode number) :
      cutAt? 0x3b (encode number ++ 0x3b :: payload) = some (encode number, payload) :=
    cutAt?_eq_some_iff.2 ⟨rfl, hnumber⟩
  cases item with
  | palette index =>
    have number := number?_toString index hitem
    have text : ColorItem.content (.palette index) payload =
        encode "4;" ++ (encode (toString index) ++ 0x3b :: payload) := by
      show encode ("4;" ++ toString index) ++ 0x3b :: payload = _
      rw [encode_append, List.append_assoc]
    rw [text, operate_palette, splitAt_pair (not_mem_of_number? number) hpayload,
      paletteCommand, number]
    dsimp only
    rw [if_neg (Nat.not_le_of_lt hitem)]
    rfl
  | foreground | background | cursor =>
    unfold operate
    rw [ColorItem.content, ColorItem.number, plain _ (by decide)]
    rfl

/-! ## The colours after a command -/

theorem colors_repaint (t : Terminal) : t.repaint.colors = t.colors := by
  unfold repaint modifyGrid
  split <;> rfl

/-- A colour that is set is the one chosen, except that a black cursor is none. -/
theorem chosen?_setColor (t : Terminal) (hitem : item.Exists) (value : Nat) :
    (t.setColor item value).colors.chosen? item = if item = .cursor ∧
      value = 0 then none else some value := by
  cases item with
  | palette index =>
    rw [setColor, colors_repaint]
    exact Vector.getElem?_setIfInBounds_self_of_lt hitem
  | foreground | background =>
    rw [setColor, colors_repaint]
    rfl
  | cursor => by_cases h : value = 0 <;> simp [setColor, Colors.chosen?, h]

theorem chosen?_setColor_of_ne (t : Terminal) (h : other ≠ item) (value : Nat) :
    (t.setColor item value).colors.chosen? other = t.colors.chosen? other := by
  cases item with
  | palette index =>
    rw [setColor, colors_repaint]
    cases other with
    | palette index' =>
      have apart : index ≠ index' := fun same => h (congrArg _ same.symm)
      exact Vector.getElem?_setIfInBounds_ne apart
    | foreground | background | cursor => rfl
  | foreground | background =>
    rw [setColor, colors_repaint]
    cases other <;> first | rfl | exact absurd rfl h
  | cursor => cases other <;> first | rfl | exact absurd rfl h

/-- The colour in force is the one chosen. Without one the cursor has the foreground. -/
theorem colorOf_eq (t : Terminal) (hitem : item.Exists) :
    t.colorOf item = (t.colors.chosen? item).getD t.colors.foreground := by
  cases item with
  | palette index =>
    have inside : index < t.colors.palette.toArray.size := by
      rw [Vector.size_toArray]
      exact hitem
    have chosen : t.colors.chosen? (.palette index) = some t.colors.palette[index] :=
      Vector.getElem?_eq_getElem hitem
    rw [chosen, colorOf, Array.getD, dif_pos inside]
    rfl
  | foreground | background | cursor => rfl

/-! ## Commands as they are sent -/

theorem feed_operatingCommand (d : Control.Decoder) (h : Carries sent content) (bell : Bool) :
    d.Becomes (operatingCommand sent bell) ((d.step 0x1b).2 ++ [.command content bell])
      { (d.step 0x1b).1 with state := .ground } := by
  obtain ⟨closing, hstate⟩ := d.step_escape.1
  exact (d.becomes_step 0x1b).append (Control.Decoder.becomes_command hstate h bell)

/-- A command is carried out after the end of what was being read, and nothing is left open after
it. -/
theorem feed_operatingCommand_eq (t : Terminal) (h : Carries sent content) (bell : Bool)
    (now : Instant) : (∃ schedule, t.feed (operatingCommand sent bell) now =
        { (t.broken now (operatingCommand sent bell)).operate content bell with
          schedule := schedule }) ∧
      (t.feed (operatingCommand sent bell) now).decoder.state = .ground := by
  have becomes := feed_operatingCommand t.decoder h bell
  refine ⟨feed_broken (List.cons_ne_nil _ _) becomes.actions nofun now, ?_⟩
  have read := (t.twin_feed (operatingCommand sent bell) [] now).decoder
  rw [read, becomes.decoder]
  rfl

theorem colors_broken (t : Terminal) (now : Instant) (bytes : List UInt8) :
    (t.broken now (0x1b :: bytes)).colors = (t.feed [0x1b] now).colors := by
  obtain ⟨d, e, more, u, broken, twin⟩ := t.twin_broken now bytes
  rw [broken]
  exact twin.colors

/-- Between sequences there is nothing to end. -/
theorem broken_of_ground (h : t.decoder.state = .ground) (now : Instant) (bytes : List UInt8) :
    t.broken now bytes = { t.reading bytes with composeAt := none } := by
  have quiet : (t.decoder.step 0x1b).2 = [] := by
    rw [Control.Decoder.step, h]
    rfl
  rw [broken, quiet]
  rfl

/-- The question mark that asks for a colour. -/
theorem colorCommand_question (t : Terminal) (item : ColorItem) (bell : Bool) :
    t.colorCommand item [0x3f] (.of bell) = t.reply (.color item (t.colorOf item) (.of bell)) := rfl

theorem carries_question (hitem : item.Exists) :
    Carries (item.content [0x3f]) (item.content [0x3f]) := by
  -- `all`, so that `decide` goes through the bytes of the text and not through all that there are
  have carries {text : List UInt8} (h : text.all (0x20 ≤ ·) = true ∧ text.length ≤ 16) :
      Carries text text :=
    .of_printable (fun b hb => of_decide_eq_true (List.all_eq_true.1 h.1 b hb))
      (Nat.le_trans h.2 (by decide))
  cases item with
  | palette index =>
    have text : ∀ index < 256, (ColorItem.content (.palette index) [0x3f]).all (0x20 ≤ ·) = true ∧
      (ColorItem.content (.palette index) [0x3f]).length ≤ 16 := by decide +kernel
    exact carries (text index hitem)
  | foreground | background | cursor => exact carries (by decide +kernel)

/-- Asked for a colour between sequences, the terminal answers and does nothing else to its
colours. -/
theorem feed_question (h : t.decoder.state = .ground) (hitem : item.Exists) (bell : Bool)
    (now : Instant) : (t.feed (operatingCommand (item.content [0x3f]) bell) now).colors = t.colors ∧
      (t.feed (operatingCommand (item.content [0x3f]) bell) now).replies.toList =
        t.replies.toList ++
        operatingCommand (item.content (encode (Color.Spec.write (t.colorOf item)))) bell := by
  obtain ⟨⟨schedule, asked⟩, -⟩ := t.feed_operatingCommand_eq (carries_question hitem) bell now
  have fits : item.Fits [0x3f] := by
    cases item with
    | palette index => exact (show (0x3b : UInt8) ∉ [0x3f] by decide)
    | foreground | background | cursor => trivial
  rw [broken_of_ground h, operate_content _ hitem fits, colorCommand_question] at asked
  rw [asked, ← Reply.encode_color]
  exact ⟨rfl, Array.toList_appendList⟩

/-! ## Several entries of the palette -/

/-- The parts of a command in pairs: an index and what is asked of its entry. -/
def palettePairs : List (List UInt8) → List (List UInt8 × List UInt8)
  | index :: spec :: rest => (index, spec) :: palettePairs rest
  | _ => []

/-- Whether the digits are the index of an entry. -/
def isIndex (digits : List UInt8) : Bool := (number? digits).any (· < 256)

/-- The pairs that are looked at: those up to the first one without an index. -/
def lookedAt : List (List UInt8 × List UInt8) → List (List UInt8 × List UInt8)
  | [] => []
  | pair :: pairs => if isIndex pair.1 then pair :: lookedAt pairs else [pair]

/-- What a command for the entry of one pair holds. -/
def pairContent (pair : List UInt8 × List UInt8) : List UInt8 :=
  encode "4;" ++ (pair.1 ++ 0x3b :: pair.2)

/-- Without an index nothing is done but to report it. -/
theorem paletteCommand_of_not_isIndex {index : List UInt8} (h : isIndex index = false)
    (t : Terminal) (terminator : Terminator) (spec : List UInt8) (rest : List (List UInt8)) :
    (paletteCommand terminator t (index :: spec :: rest)).colors = t.colors ∧
      (paletteCommand terminator t (index :: spec :: rest)).replies = t.replies := by
  unfold isIndex at h
  unfold paletteCommand
  split
  · exact ⟨rfl, rfl⟩
  · rename_i i hi
    rw [hi] at h
    have large : 256 ≤ i := by simpa using h
    rw [if_pos large]
    exact ⟨rfl, rfl⟩

/-- Pairs are carried out one by one. -/
theorem paletteCommand_eq_foldl (terminator : Terminator) (t : Terminal)
    (parts : List (List UInt8)) :
    paletteCommand terminator t parts = (lookedAt (palettePairs parts)).foldl
      (fun t pair => paletteCommand terminator t [pair.1, pair.2]) t := by
  fun_induction paletteCommand terminator t parts with
  | case1 t index spec rest h =>
    have none : isIndex index = false := by rw [isIndex, h]; rfl
    rw [palettePairs, lookedAt, none, if_neg Bool.false_ne_true, List.foldl_cons, List.foldl_nil,
      paletteCommand, h]
  | case2 t index spec rest i h large =>
    have none : isIndex index = false := by rw [isIndex, h]; simpa using large
    rw [palettePairs, lookedAt, none, if_neg Bool.false_ne_true, List.foldl_cons, List.foldl_nil,
      paletteCommand, h]
    dsimp only
    rw [if_pos large]
  | case3 t index spec rest i h small ih =>
    have some : isIndex index = true := by rw [isIndex, h]; simpa using small
    rw [palettePairs, lookedAt, some, if_pos rfl, List.foldl_cons, ih, paletteCommand, h]
    dsimp only
    rw [if_neg small]
    rfl
  | case4 parts t h =>
    have none : palettePairs parts = [] := by
      unfold palettePairs
      split
      · exact (h _ _ _ rfl).elim
      · rfl
    rw [none]
    rfl

/-- The texts of a pair stand in the payload, with the semicolon between them. -/
theorem infix_of_mem_palettePairs {parts : List (List UInt8)} {pair : List UInt8 × List UInt8}
    (h : pair ∈ palettePairs parts) : pair.1 ++ 0x3b :: pair.2 <:+: [0x3b].intercalate parts := by
  fun_induction palettePairs parts with
  | case1 index spec rest ih =>
    rcases List.mem_cons.1 h with rfl | h
    · cases rest with
      | nil => exact ⟨[], [], by simp [List.intercalate]⟩
      | cons next rest =>
        exact ⟨[], 0x3b :: [0x3b].intercalate (next :: rest), by simp [List.intercalate]⟩
    · refine (ih h).trans ?_
      cases rest with
      | nil => exact (List.not_mem_nil h).elim
      | cons next rest => exact ⟨index ++ 0x3b :: (spec ++ [0x3b]), [], by simp [List.intercalate]⟩
  | case2 => exact (List.not_mem_nil h).elim

theorem mem_of_mem_lookedAt {pairs : List (List UInt8 × List UInt8)}
    {pair : List UInt8 × List UInt8} (h : pair ∈ lookedAt pairs) : pair ∈ pairs := by
  fun_induction lookedAt pairs with
  | case1 => exact h
  | case2 first rest _ ih =>
    rcases List.mem_cons.1 h with rfl | h
    · exact List.mem_cons_self
    · exact List.mem_cons_of_mem _ (ih h)
  | case3 first rest _ => exact List.mem_singleton.1 h ▸ List.mem_cons_self

theorem lookedAt_ne_nil {pairs : List (List UInt8 × List UInt8)} (h : pairs ≠ []) :
    lookedAt pairs ≠ [] := by
  unfold lookedAt
  split
  · exact h
  · split <;> exact List.cons_ne_nil _ _

theorem not_mem_of_mem_palettePairs {parts : List (List UInt8)}
    (hparts : ∀ part ∈ parts, 0x3b ∉ part) {pair : List UInt8 × List UInt8}
    (h : pair ∈ palettePairs parts) : 0x3b ∉ pair.1 ∧ 0x3b ∉ pair.2 := by
  fun_induction palettePairs parts with
  | case1 index spec rest ih =>
    rw [List.forall_mem_cons, List.forall_mem_cons] at hparts
    rcases List.mem_cons.1 h with rfl | h
    · exact ⟨hparts.1, hparts.2.1⟩
    · exact ih hparts.2.2 h
  | case2 => exact (List.not_mem_nil h).elim

/-- What carries the whole payload would carry each of its pairs. -/
theorem carries_pairContent (h : Carries sent (encode "4;" ++ payload))
    {pair : List UInt8 × List UInt8} (hpair : pair ∈ palettePairs (splitAt 0x3b payload)) :
    Carries (pairContent pair) (pairContent pair) := by
  have whole : [0x3b].intercalate (splitAt 0x3b payload) = payload := (splitAt_eq_iff.1 rfl).2.2
  have part := infix_of_mem_palettePairs hpair
  rw [whole] at part
  have printable := h.printable
  have room := h.room
  rw [List.forall_mem_append] at printable
  rw [List.length_append] at room
  refine .of_printable ?_ ?_
  · rw [pairContent, List.forall_mem_append]
    exact ⟨printable.1, fun b hb => printable.2 b (part.subset hb)⟩
  · rw [pairContent, List.length_append]
    exact Nat.le_trans (Nat.add_le_add_left part.length_le _) room

/-- Commands for one pair each are carried out in turn. -/
theorem foldl_perform_pairs (now : Instant) (bell : Bool) {pairs : List (List UInt8 × List UInt8)}
    (hpairs : ∀ pair ∈ pairs, 0x3b ∉ pair.1 ∧ 0x3b ∉ pair.2) (ht : t.composeAt = none) :
    (pairs.map fun pair => Control.Action.command (pairContent pair) bell).foldl (perform now) t =
      pairs.foldl (fun t pair => paletteCommand (.of bell) t [pair.1, pair.2]) t := by
  induction pairs generalizing t with
  | nil => rfl
  | cons pair pairs ih =>
    rw [List.forall_mem_cons] at hpairs
    have same : ({ t with composeAt := none } : Terminal) = t := by rw [← ht]
    have first : perform now t (.command (pairContent pair) bell) =
        paletteCommand (.of bell) t [pair.1, pair.2] := by
      show operate { t with composeAt := none } (encode "4;" ++ (pair.1 ++ 0x3b :: pair.2)) bell = _
      rw [same, operate_palette, splitAt_pair hpairs.1.1 hpairs.1.2]
    have alone : (paletteCommand (.of bell) t [pair.1, pair.2]).composeAt = none :=
      ((t.alters_paletteCommand (.of bell) [pair.1, pair.2]).kept .composeAt rfl).trans ht
    rw [List.map_cons, List.foldl_cons, List.foldl_cons, first]
    exact ih hpairs.2 alone

/-- A command performs for several pairs what commands for each of them perform. -/
theorem perform_pairs (now : Instant) (t : Terminal) (payload : List UInt8) (bell : Bool)
    (hne : palettePairs (splitAt 0x3b payload) ≠ []) :
    perform now t (.command (encode "4;" ++ payload) bell) =
      ((lookedAt (palettePairs (splitAt 0x3b payload))).map fun pair =>
        Control.Action.command (pairContent pair) bell).foldl (perform now) t := by
  have plain : ∀ pair ∈ lookedAt (palettePairs (splitAt 0x3b payload)), 0x3b ∉ pair.1 ∧
      0x3b ∉ pair.2 :=
    fun pair h => not_mem_of_mem_palettePairs (splitAt_eq_iff.1 rfl).2.1 (mem_of_mem_lookedAt h)
  have some : lookedAt (palettePairs (splitAt 0x3b payload)) ≠ [] := lookedAt_ne_nil hne
  show operate { t with composeAt := none } (encode "4;" ++ payload) bell = _
  rw [operate_palette, paletteCommand_eq_foldl]
  generalize lookedAt (palettePairs (splitAt 0x3b payload)) = pairs at plain some ⊢
  rw [← foldl_perform_pairs now bell plain rfl]
  -- the first command itself makes the character printed last the end of its cluster
  obtain ⟨pair, pairs, rfl⟩ := List.exists_cons_of_ne_nil some
  rfl

/-- A command for several pairs can be sent as commands for each of them. -/
theorem feed_pairs (t : Terminal) (h : Carries sent (encode "4;" ++ payload)) (bell : Bool)
    (now : Instant) (hne : palettePairs (splitAt 0x3b payload) ≠ []) :
    t.feed (operatingCommand sent bell) now =
      t.feed ((lookedAt (palettePairs (splitAt 0x3b payload))).flatMap fun pair =>
        operatingCommand (pairContent pair) bell) now := by
  have carries : ∀ pair ∈ lookedAt (palettePairs (splitAt 0x3b payload)),
      Carries (pairContent pair) (pairContent pair) :=
    fun pair hpair => carries_pairContent h (mem_of_mem_lookedAt hpair)
  have performed (u : Terminal) := perform_pairs now u payload bell hne
  obtain ⟨first, rest, hpairs⟩ := List.exists_cons_of_ne_nil (lookedAt_ne_nil hne)
  rw [hpairs] at carries performed ⊢
  rw [List.forall_mem_cons] at carries
  have together := feed_operatingCommand t.decoder h bell
  have after :=
    Control.Decoder.becomes_commands (d := { (t.decoder.step 0x1b).1 with state := .ground }) rfl
      (List.forall_mem_map.2 carries.2) bell
  have apart := (feed_operatingCommand t.decoder carries.1 bell).append after
  rw [List.flatMap_map, List.map_map] at apart
  refine feed_eq_of_becomes together apart rfl ?_
  rw [List.append_assoc, List.foldl_append, List.foldl_append, List.foldl_cons,
    List.foldl_nil, performed]
  rfl

/-- A pair without an index neither sets nor answers anything. -/
theorem feed_pair_of_not_isIndex (t : Terminal) {index : List UInt8} (hindex : 0x3b ∉ index)
    (hspec : 0x3b ∉ spec) (hnone : isIndex index = false)
    (h : Carries sent (pairContent (index, spec))) (bell : Bool) (now : Instant) :
    (t.feed (operatingCommand sent bell) now).colors = (t.feed [0x1b] now).colors ∧
      (t.feed (operatingCommand sent bell) now).replies = (t.feed [0x1b] now).replies := by
  obtain ⟨⟨schedule, hset⟩, -⟩ := t.feed_operatingCommand_eq h bell now
  obtain ⟨colors, replies⟩ :=
    paletteCommand_of_not_isIndex hnone (t.broken now (operatingCommand sent bell))
      (.of bell) spec []
  rw [pairContent, operate_palette, splitAt_pair hindex hspec] at hset
  rw [hset]
  exact ⟨colors.trans (t.colors_broken now _), replies.trans (t.replies_broken now _)⟩

/-! ## What is set is answered -/

theorem colorCommand_of_read (t : Terminal) (item : ColorItem)
    (h : Color.Spec.read spec = .color value) (terminator : Terminator) :
    t.colorCommand item spec terminator = t.setColor item value := by
  have ordinary : isQuestion spec = false := by
    rw [isQuestion, decide_eq_false_iff_not]
    rintro rfl
    have invalid : Color.Spec.read [0x3f] = .invalid := by decide +kernel
    rw [invalid] at h
    cases h
  rw [colorCommand, ordinary, if_neg Bool.false_ne_true, h]

/-- A command with a specification sets the colour once the string before it has ended. -/
theorem colors_feed_set (t : Terminal) (hitem : item.Exists) (hspec : item.Fits spec)
    (hread : Color.Spec.read spec = .color value) (hsent : Carries sent (item.content spec))
    (bell : Bool) (now : Instant) :
    ∃ u : Terminal, u.colors = (t.feed [0x1b] now).colors ∧
      (t.feed (operatingCommand sent bell) now).colors = (u.setColor item value).colors := by
  obtain ⟨⟨schedule, hset⟩, -⟩ := t.feed_operatingCommand_eq hsent bell now
  rw [operate_content _ hitem hspec, colorCommand_of_read _ item hread] at hset
  refine ⟨t.broken now (operatingCommand sent bell), t.colors_broken now _, ?_⟩
  rw [hset]

/-- In every terminal, whatever it is reading, a colour that is set to a value that can be read is
answered as this value, with the end of the question, and no other colour changes. The one exception
is a cursor that is set to black: it has no colour of its own, and the foreground is answered. A
command with several pairs for the palette is as good as one command for each pair up to the first
without an index, which changes nothing. -/
theorem color_answered_iff (t : Terminal) (now later : Instant) (bell bell' : Bool) :
    (∀ (item : ColorItem) (spec sent : List UInt8) (value : Nat), item.Exists → item.Fits spec →
      Color.Spec.read spec = .color value → Carries sent (item.content spec) →
      let set := t.feed (operatingCommand sent bell) now
      let asked := set.feed (operatingCommand (item.content [0x3f]) bell') later
      set.colors.chosen? item = (if item = .cursor ∧ value = 0 then none else some value) ∧
        (∀ other, other ≠ item →
          set.colors.chosen? other = (t.feed [0x1b] now).colors.chosen? other) ∧
        asked.colors = set.colors ∧
        ∃ shown, asked.replies.toList = set.replies.toList ++
            operatingCommand (item.content (encode (Color.Spec.write shown))) bell' ∧
          (Color.Spec.read (encode (Color.Spec.write shown)) = .color value ↔
            (item = .cursor ∧ value = 0 → set.colors.foreground % 0x1000000 = 0))) ∧
    (∀ payload sent, Carries sent (encode "4;" ++ payload) →
      palettePairs (splitAt 0x3b payload) ≠ [] → t.feed (operatingCommand sent bell) now =
        t.feed ((lookedAt (palettePairs (splitAt 0x3b payload))).flatMap fun pair =>
          operatingCommand (pairContent pair) bell) now) ∧
    ∀ index spec sent, 0x3b ∉ index → 0x3b ∉ spec → isIndex index = false →
      Carries sent (pairContent (index, spec)) →
      (t.feed (operatingCommand sent bell) now).colors = (t.feed [0x1b] now).colors ∧
        (t.feed (operatingCommand sent bell) now).replies = (t.feed [0x1b] now).replies := by
  refine ⟨fun item spec sent value hitem hspec hread hsent => ?_, fun payload sent hsent hne => ?_,
    fun index spec sent hindex hspec hnone hsent =>
    t.feed_pair_of_not_isIndex hindex hspec hnone hsent bell now⟩
  · intro set asked
    obtain ⟨u, before, after⟩ := t.colors_feed_set hitem hspec hread hsent bell now
    obtain ⟨same, answer⟩ :=
      feed_question (t.feed_operatingCommand_eq hsent bell now).2 hitem bell' later
    have chosen : set.colors.chosen? item =
        if item = .cursor ∧ value = 0 then none else some value :=
      (congrArg (Colors.chosen? · item) after).trans (u.chosen?_setColor hitem value)
    refine ⟨chosen, fun other hother => ?_, same, set.colorOf item, answer, ?_⟩
    · rw [← before, ← u.chosen?_setColor_of_ne hother value]
      exact congrArg (Colors.chosen? · other) after
    · have small : value ≤ 0xffffff := (Color.Spec.read_eq_color_iff.1 hread).le
      rw [colorOf_eq _ hitem, chosen, Color.Spec.read_write]
      by_cases black : item = .cursor ∧ value = 0
      · simp [black]
      · simp [black, Nat.mod_eq_of_lt (Nat.lt_succ_of_le small)]
  · exact t.feed_pairs hsent bell now hne

/-- A terminal of one cell of which the cursor was set to black. -/
def blackCursor : Terminal :=
  feed (.new { size := ⟨1, 1⟩, scrollback := 0 }) (encode "\x1b]12;#000\x07") 0

/-- An entry that is set with BEL and asked for with ST. -/
theorem color_answered_iff_entry :
    let item := ColorItem.palette 200
    let set := blackCursor.feed (operatingCommand (item.content (encode "rgb:f/80/123")) true) 0
    let asked := set.feed (operatingCommand (item.content [0x3f]) false) 1
    Color.Spec.read (encode "rgb:f/80/123") = .color 0xf08012 ∧
      set.colors.chosen? item = some 0xf08012 ∧ asked.colors = set.colors ∧
      ∃ shown, asked.replies.toList = set.replies.toList ++
          operatingCommand (item.content (encode (Color.Spec.write shown))) false ∧
        Color.Spec.read (encode (Color.Spec.write shown)) = .color 0xf08012 := by
  have named : Color.Spec.read (encode "rgb:f/80/123") = .color 0xf08012 := by decide +kernel
  have carries : Carries (ColorItem.content (.palette 200) (encode "rgb:f/80/123"))
      (ColorItem.content (.palette 200) (encode "rgb:f/80/123")) :=
    .of_printable (by decide +kernel) (Nat.le_of_ble_eq_true (by decide +kernel))
  have fits : (0x3b : UInt8) ∉ encode "rgb:f/80/123" := by decide +kernel
  have inside : 200 < 256 := by decide
  obtain ⟨chosen, -, same, shown, answer, agrees⟩ :=
    (color_answered_iff blackCursor 0 1 true false).1 (.palette 200) _ _ _ inside fits named carries
  exact ⟨named, chosen, same, shown, answer, agrees.2 fun black => absurd black.1 nofun⟩

/-- A black cursor is answered as the white foreground. -/
theorem color_misanswered_blackCursor :
    Color.Spec.read (encode "#000") = .color 0 ∧ blackCursor.decoder.state.name = "Ground" ∧
      (blackCursor.feed (encode "\x1b]12;?\x07") 0).replies.toList =
        blackCursor.replies.toList ++ encode "\x1b]12;rgb:ffff/ffff/ffff\x07" ∧
      Color.Spec.read (encode "rgb:ffff/ffff/ffff") = .color 0xffffff := by
  decide +kernel

end Terminal

end Teletype
