import Teletype.Proofs.Terminal.AlternateSession
import Teletype.Proofs.Terminal.Cut
import Teletype.Proofs.Terminal.Replies
import Teletype.Proofs.Terminal.Selectable

/-!
# The answer about a setting sets it

A terminal answers a request for a setting with what follows the introducer in the control sequence
that sets it. Whatever a terminal of the same height had set, that sequence gives it the setting of
the one that answered.
-/

namespace Teletype

open Text.Utf8 (encode)
open Control.Params.Builder (WritesAll listed writesAll_value)

instance (state : Control.State) : Decidable (state = .ground) :=
  match state with
  | .ground => isTrue rfl
  | .escape _ | .escapeIntermediate .. | .csiEntry | .csiParam _ | .csiIntermediate _ | .csiIgnore
  | .dcsEntry | .dcsParam _ | .dcsIntermediate _ | .dcsPassthrough _ | .dcsIgnore | .oscString ..
  | .sosPmApcString | .utf8Collect .. => isFalse nofun

/-- The settings that a request can name. -/
inductive SettingName where
  | rendition
  | region
  | cursorStyle

namespace SettingName

/-- The name in a request. -/
def text : SettingName → String
  | rendition => "m"
  | region => "r"
  | cursorStyle => " q"

/-- What a terminal has set. -/
def setting (t : Terminal) : SettingName → Setting
  | rendition => .rendition t.rendition
  | region => .region (t.grid.region.top + 1) t.grid.region.bottom
  | cursorStyle => .cursorStyle t.cursorShape t.cursorBlink

/-- Whether two terminals have set the same. -/
def Agree (t u : Terminal) : SettingName → Prop
  | rendition => u.rendition = t.rendition
  | region => u.grid.region = t.grid.region
  | cursorStyle => u.cursorShape = t.cursorShape ∧ u.cursorBlink = t.cursorBlink

/-- The request for a setting. -/
def request (name : SettingName) : List UInt8 := encode ("\x1bP$q" ++ name.text ++ "\x1b\\")

theorem find?_settings (name : SettingName) (t : Terminal) :
    t.settings.find? (encode name.text) = some (name.setting t) := by
  cases name <;> rfl

/-- A request that starts anywhere is read. -/
theorem feed_request (name : SettingName) (d : Control.Decoder) :
    (d.feed name.request).2.toList =
      (d.step 0x1b).2 ++ [.request (.setting (encode name.text))] := by
  have bytes : name.request = 0x1b :: encode ("P$q" ++ name.text ++ "\x1b\\") := by
    cases name <;> rfl
  rw [bytes]
  refine d.feed_sequence fun closing sixel => ?_
  cases name <;> cases closing <;> cases sixel <;> decide +kernel

end SettingName

/-! ## The sequence that sets it -/

namespace Setting

open Control (ControlSequence Param)

/-- What a control sequence with the end of the setting asks for. -/
def command : Setting → Command
  | .rendition r => .selectRendition { items := r.selectorItems }
  | .region top bottom => .setRegion top bottom
  | .cursorStyle shape blink => .cursorStyle (shape.param blink)

/-- The numbers of a region count from 1 and are parameters. -/
def Writable : Setting → Prop
  | .region top bottom => 0 < top ∧ top ≤ Control.Params.maxValue ∧ bottom ≤ Control.Params.maxValue
  | _ => True

theorem param_le (shape : CursorShape) (blink : Bool) :
    shape.param blink ≤ Control.Params.maxValue := by
  cases shape <;> cases blink <;> decide

/-- In the ground state the sequence that sets a setting is read. -/
theorem feed_selector {d : Control.Decoder} (hd : d.state = .ground) (s : Setting)
    (h : s.Writable) :
    ∃ sequence, (d.feed (encode ("\x1b[" ++ s.selector))).2.toList = [.control sequence] ∧
      Command.ofSequence sequence = s.command := by
  have bytes (texts : List String) (tail : String) : encode ("\x1b[" ++ (listed texts ++ tail)) =
      encode "\x1b[" ++ encode (listed texts) ++ encode tail := by
    rw [encode_append, encode_append, List.append_assoc]
  cases s with
  | rendition r =>
    rw [selector, Rendition.selector_eq, bytes]
    exact ⟨_, Control.Decoder.feed_written (s := ⟨{}, [], none, 0x6d⟩) hd r.writesAll_selector
      r.selectorTexts_ne_nil r.length_selectorItems fun _ _ => rfl, rfl⟩
  | region top bottom =>
    obtain ⟨positive, htop, hbottom⟩ := h
    have written :=
      (writesAll_value (n := top) rfl htop).append (writesAll_value (n := bottom) rfl hbottom)
    have text :
        (Setting.region top bottom).selector = listed [toString top, toString bottom] ++ "r" := rfl
    rw [text, bytes]
    refine ⟨_, Control.Decoder.feed_written (s := ⟨{}, [], none, 0x72⟩) hd written
      (List.cons_ne_nil _ _) (Nat.le_of_ble_eq_true rfl) fun _ _ => rfl, ?_⟩
    show Command.setRegion (if top = 0 then 1 else top) bottom = _
    rw [if_neg (by omega)]
    rfl
  | cursorStyle shape blink =>
    have written := writesAll_value (n := shape.param blink) rfl (param_le shape blink)
    have text : (Setting.cursorStyle shape blink).selector =
        listed [toString (shape.param blink)] ++ " q" := rfl
    rw [text, bytes]
    exact ⟨_, Control.Decoder.feed_written (s := ⟨{}, [0x20], none, 0x71⟩) hd written
      (List.cons_ne_nil _ _) (Nat.le_of_ble_eq_true rfl) fun _ _ => rfl, rfl⟩

end Setting

namespace Terminal

variable {rows : Nat} {t u : Terminal}

/-! ## The answer -/

/-- The end of a string changes no setting. -/
theorem setup_broken (t : Terminal) (now : Instant) (bytes : List UInt8) :
    (t.broken now bytes).setup = t.setup :=
  setup_of_alters (t.alters_broken now bytes) rfl

/-- The ESC of a sequence completes what it completes alone, and ends with the character printed
last. -/
theorem twin_broken (t : Terminal) (now : Instant) (bytes : List UInt8) : ∃ d e more u,
    t.broken now (0x1b :: bytes) = { u with composeAt := none } ∧
      Twin now d e more u (t.feed [0x1b] now) := by
  have alone : (t.decoder.feed [0x1b]).2.toList = (t.decoder.step 0x1b).2 := by
    rw [(Control.Decoder.feed_cons t.decoder 0x1b []).2]
    exact List.append_nil _
  have twin := t.twin_feed [0x1b] bytes now
  dsimp only at twin
  rw [alone] at twin
  exact ⟨_, _, _, _, rfl, twin⟩

theorem replies_broken (t : Terminal) (now : Instant) (bytes : List UInt8) :
    (t.broken now (0x1b :: bytes)).replies = (t.feed [0x1b] now).replies := by
  obtain ⟨d, e, more, u, broken, twin⟩ := t.twin_broken now bytes
  rw [broken]
  exact twin.replies

theorem grid_of_setup (h : u.setup = t.setup) : u.grid.setup = t.grid.setup := by
  have screen : u.screen = t.screen := congrArg Setup.screen h
  unfold grid
  rw [screen]
  cases t.screen with
  | primary => exact congrArg Setup.primary h
  | alternate => exact congrArg Setup.alternate h

theorem settings_of_setup (h : u.setup = t.setup) : u.settings = t.settings := by
  have rendition : u.rendition = t.rendition := congrArg Setup.rendition h
  have region : u.grid.region = t.grid.region := congrArg Grid.Setup.region (grid_of_setup h)
  have shape : u.cursorShape = t.cursorShape := congrArg Setup.cursorShape h
  have blink : u.cursorBlink = t.cursorBlink := congrArg Setup.cursorBlink h
  rw [settings, rendition, region, shape, blink, settings]

/-- Between sequences there is nothing that ESC completes. -/
theorem replies_feed_escape (h : t.decoder.state = .ground) (now : Instant) :
    (t.feed [0x1b] now).replies = t.replies := by
  have same : t.decoder.state = ({ sixel := t.decoder.sixel } : Control.Decoder).state := h
  rw [replies_feed, (Control.Decoder.feed_congr same rfl [0x1b]).1]
  rfl

/-- A request is answered with the setting, after what its ESC completes. -/
theorem replies_feed_request (t : Terminal) (name : SettingName) (now : Instant) :
    (t.feed name.request now).replies.toList =
      (t.feed [0x1b] now).replies.toList ++ (Reply.setting (some (name.setting t))).encode := by
  obtain ⟨rest, bytes⟩ : ∃ rest, name.request = 0x1b :: rest := by cases name <;> exact ⟨_, rfl⟩
  rw [replies_feed, name.feed_request, List.foldl_append, List.foldl_cons, List.foldl_nil]
  have served : perform now ((t.decoder.step 0x1b).2.foldl (perform now) (t.reading name.request))
      (.request (.setting (encode name.text))) =
        (t.broken now name.request).give
        ((t.broken now name.request).settings.answer (encode name.text)) := rfl
  rw [served, settings_of_setup (t.setup_broken now _), Settings.answer, name.find?_settings, bytes]
  have queued := queued_reply (t.broken now (0x1b :: rest)) (.setting (some (name.setting t)))
  unfold Queued at queued
  rw [List.flatMap_singleton, replies_broken] at queued
  exact queued

/-! ## What it does elsewhere -/

/-- A region that can be chosen is the one that is chosen. -/
theorem region_chooseRegion (h : u.setup.Selectable rows) {region : Region}
    (hregion : region.Selectable rows) :
    (u.chooseRegion (region.top + 1) region.bottom).grid.region = region := by
  have grid := Selectable.grid h
  have height : u.grid.rows = rows := grid.rows_eq
  unfold chooseRegion
  dsimp only
  rw [height]
  obtain ⟨inside, two | ⟨rfl, rfl⟩⟩ := hregion
  · have moved := grid_of_setup
      (setup_of_alters (alters_goTo (u.modifyGrid (·.setRegion region.top region.bottom)) 0 0) rfl)
    rw [if_neg (show ¬region.bottom = 0 by omega), Nat.min_eq_left inside, if_pos (by omega),
      Nat.add_sub_cancel]
    refine (congrArg Grid.Setup.region moved).trans ?_
    rw [grid_modifyGrid]
    show (u.grid.setRegion region.top region.bottom).region = region
    unfold Grid.setRegion
    dsimp only
    rw [height, Nat.min_eq_left inside, if_pos (by omega)]
  · -- the screen has one row, and so has every region
    rw [if_neg (by decide)]
    obtain ⟨below, two | ⟨-, full⟩⟩ := grid.region
    · omega
    · exact full

theorem chooseCursor_param (u : Terminal) (shape : CursorShape) (blink : Bool) :
    (u.chooseCursor (shape.param blink)).cursorShape = shape ∧
      (u.chooseCursor (shape.param blink)).cursorBlink = blink := by
  cases shape <;> cases blink <;> exact ⟨rfl, rfl⟩

/-- What a setting asks for sets it. -/
theorem agree_run (ht : t.setup.Selectable rows) (hu : u.setup.Selectable rows) (name : SettingName)
    (now : Instant) : name.Agree t (u.run now (name.setting t).command) := by
  cases name with
  | rendition => exact Rendition.select_selectorItems ht.rendition u.rendition
  | region => exact region_chooseRegion hu (Selectable.grid ht).region
  | cursorStyle => exact chooseCursor_param u t.cursorShape t.cursorBlink

theorem writable_setting (h : t.setup.Selectable rows) (hrows : rows ≤ Control.Params.maxValue)
    (name : SettingName) : (name.setting t).Writable := by
  cases name with
  | rendition | cursorStyle => trivial
  | region =>
    have region : t.grid.region.Selectable rows := (Selectable.grid h).region
    obtain ⟨inside, two | ⟨one, full⟩⟩ := region
    · exact ⟨Nat.succ_pos _, by omega, by omega⟩
    · rw [SettingName.setting, full]
      exact ⟨Nat.succ_pos _, by decide, by decide⟩

/-- Whether two terminals agree on a setting depends on their settings alone. -/
theorem agree_of_setup {v : Terminal} {name : SettingName} (h : name.Agree t u)
    (same : v.setup = u.setup) : name.Agree t v := by
  cases name with
  | rendition => exact (congrArg Setup.rendition same).trans h
  | region => exact (congrArg Grid.Setup.region (grid_of_setup same)).trans h
  | cursorStyle =>
    exact ⟨(congrArg Setup.cursorShape same).trans h.1, (congrArg Setup.cursorBlink same).trans h.2⟩

/-- The sequence that sets a setting, read by another terminal. -/
theorem agree_feed (ht : t.setup.Selectable rows) (hu : u.setup.Selectable rows)
    (hrows : rows ≤ Control.Params.maxValue) (hground : u.decoder.state = .ground)
    (name : SettingName) (now : Instant) :
    name.Agree t (u.feed (encode ("\x1b[" ++ (name.setting t).selector)) now) := by
  obtain ⟨sequence, read, asked⟩ := Setting.feed_selector hground _ (writable_setting ht hrows name)
  generalize encode ("\x1b[" ++ (name.setting t).selector) = bytes at read ⊢
  have run := agree_run (u := { u.reading bytes with composeAt := none }) ht hu name now
  rw [← asked] at run
  refine agree_of_setup run ?_
  rw [feed_eq, read]
  dsimp only
  split <;> rfl

/-- A terminal answers a request for its rendition, its region or the style of its cursor with what
follows the introducer in a control sequence. The sequence gives every terminal of that height that
it is fed to between sequences the same setting, whatever its own was. A height fits sixteen
bits. -/
theorem request_restores (config config' : Config) (actions actions' : List HostAction)
    (name : SettingName) (now now' : Instant) (hrows : (drive config actions).rows ≤ 65535)
    (hsame : (drive config' actions').rows = (drive config actions).rows)
    (hground : (drive config' actions').decoder.state = .ground) :
    let t := drive config actions
    let u := drive config' actions'
    ∃ body : String,
      (t.feed (encode ("\x1bP$q" ++ name.text ++ "\x1b\\")) now).replies.toList =
          (t.feed (encode "\x1b") now).replies.toList ++ encode ("\x1bP1$r" ++ body ++ "\x1b\\") ∧
        (t.decoder.state = .ground → (t.feed (encode "\x1b") now).replies = t.replies) ∧
        name.Agree t (u.feed (encode ("\x1b[" ++ body)) now') := by
  intro t u
  have ht : t.setup.Selectable t.rows := drive_selectable config actions
  have hu : u.setup.Selectable t.rows := hsame ▸ drive_selectable config' actions'
  exact ⟨(name.setting t).selector, t.replies_feed_request name now,
    fun hd => replies_feed_escape hd now, agree_feed ht hu hrows hground name now'⟩

/-- A program that wrote in bold with a curly underline of its own colour, in a region of two rows,
with a steady bar for a cursor, and is about to end a title. -/
def styled : List HostAction :=
  [.feed (encode "\x1b[1;4:3;38;5;200;48:2::1:2:3;58:5:9m\x1b[2;3r\x1b[6 q\x1b]2;a") 0]

/-- A program that wrote inverted, with a cursor of its own. -/
def inverted : List HostAction := [.feed (encode "\x1b[7;91m\x1b[1;2r\x1b[3 q") 0]

example : (SettingName.rendition.setting (drive { size := ⟨4, 3⟩ } styled)).selector =
    "0;1;4:3;38:5:200;48:2::1:2:3;58:5:9m" := by
  decide +kernel

theorem request_restores_styled :
    let t := drive { size := ⟨4, 3⟩ } styled
    let u := drive { size := ⟨5, 3⟩ } inverted
    t.rows ≤ 65535 ∧ u.rows = t.rows ∧ u.decoder.state = .ground ∧ u.grid.region ≠ t.grid.region ∧
      ∃ body : String,
        (t.feed (encode ("\x1bP$q" ++ SettingName.region.text ++ "\x1b\\")) 1).replies.toList =
            (t.feed (encode "\x1b") 1).replies.toList ++ encode ("\x1bP1$r" ++ body ++ "\x1b\\") ∧
          (t.decoder.state = .ground → (t.feed (encode "\x1b") 1).replies = t.replies) ∧
          SettingName.region.Agree t (u.feed (encode ("\x1b[" ++ body)) 2) :=
  have height : (drive { size := ⟨4, 3⟩ } styled).rows ≤ 65535 := by decide +kernel
  have same :
      (drive { size := ⟨5, 3⟩ } inverted).rows = (drive { size := ⟨4, 3⟩ } styled).rows := by
    decide +kernel
  have ground : (drive { size := ⟨5, 3⟩ } inverted).decoder.state = .ground := by
    decide +kernel
  have other : (drive { size := ⟨5, 3⟩ } inverted).grid.region ≠
      (drive { size := ⟨4, 3⟩ } styled).grid.region := by
    decide +kernel
  ⟨height, same, ground, other,
    request_restores { size := ⟨4, 3⟩ } { size := ⟨5, 3⟩ } styled inverted .region 1 2
      height same ground⟩

end Terminal

end Teletype
