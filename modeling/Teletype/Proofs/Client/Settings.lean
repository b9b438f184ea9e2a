import Teletype.Client
import Teletype.Proofs.Config.Texts
import Teletype.Proofs.Request.Codec

/-!
# What arrives of a client's options

The terminal type, the title and the name of the application go to the server as items and are taken
apart there, where the blanks around a value are not part of it. So each arrives without those that
it begins or ends with.
-/

namespace Teletype.Client

open Config (setting? given? TextsFrom)
open Text (trimmed)

variable {c : Client} {key : String}

/-! ## The items of a client -/

theorem given?_item (plain : '=' ∉ key.toList) (bare : trimmed key = key) (key' : String)
    (value : Option String) :
    given? key' (item key value) = if key = key' then value.map trimmed else none := by
  cases value with
  | none => simp [item, given?]
  | some value =>
    show given? key' [key ++ "=" ++ value] = _
    rw [Config.given?_singleton, Config.setting?_append plain bare]
    rfl

/-- Only one item that a client makes of its options can name one of the texts. -/
theorem given?_settings (c : Client) :
    given? "term" c.settings = (given? "term" c.overrides).or (c.term.map trimmed) ∧
      given? "title" c.settings = (given? "title" c.overrides).or (c.title.map trimmed) ∧
      given? "app-id" c.settings = (given? "app-id" c.overrides).or (c.appId.map trimmed) := by
  have plain :
      ∀ key ∈ ["term", "title", "app-id", "initial-window-size-pixels", "initial-window-size-chars",
        "initial-window-mode"], '=' ∉ key.toList ∧ trimmed key = key := by decide +kernel
  simp only [List.forall_mem_cons] at plain
  obtain ⟨term, title, appId, pixels, chars, mode, -⟩ := plain
  unfold settings
  simp only [Config.given?_append, given?_item term.1 term.2, given?_item title.1 title.2,
    given?_item appId.1 appId.2, given?_item pixels.1 pixels.2, given?_item chars.1 chars.2,
    given?_item mode.1 mode.2]
  simp

/-! ## The request -/

/-- The server reads the whole request. The terminal type, the title and the name of the application
are those of the command line, but for blanks around them, and those of the configuration where the
command line gives none. The command and the two flags are those of the command line. -/
theorem options_arrive {here : String} {frame : List UInt8} (config : Config)
    (encodes : (c.request here).value.encode = .ok frame)
    (unnamed : ∀ item ∈ c.overrides, ∀ key value, setting? item = some (key, value) →
      key ∉ ["term", "title", "app-id"]) :
    ∃ r, Request.read frame = (.ok r, []) ∧
      r.command = c.command ∧ r.hold = c.hold ∧ r.noWait = c.noWait ∧
      (config.overrideAll r.overrides).value.term = (c.term.map trimmed).getD config.term ∧
      (config.overrideAll r.overrides).value.title = (c.title.map trimmed).or config.title ∧
      (config.overrideAll r.overrides).value.appId = (c.appId.map trimmed).or config.appId ∧
      ∀ text, trimmed text = text ↔
        (∀ a ∈ text.toList.head?, ¬Text.isBlank a) ∧
          ∀ a ∈ text.toList.getLast?, ¬Text.isBlank a := by
  have read : Request.read frame = (.ok (c.request here).value, []) := by
    simpa using Request.read_encode encodes []
  have silent {key : String} (hkey : key ∈ ["term", "title", "app-id"]) :
      given? key c.overrides = none :=
    Config.given?_eq_none fun item hitem value named => unnamed item hitem key value named hkey
  obtain ⟨term, title, appId⟩ := given?_settings c
  rw [silent (by decide), Option.none_or] at term title appId
  have texts : TextsFrom c.settings config (config.overrideAll c.settings).value := by
    rw [Config.value_overrideAll]
    exact Config.textsFrom_foldl_after config c.settings
  refine ⟨_, read, rfl, rfl, rfl, ?_, ?_, ?_, fun text => Text.trimmed_eq_self_iff⟩
  · exact term ▸ texts.term
  · exact title ▸ texts.title
  · exact appId ▸ texts.appId

/-- A client that gives a title with an equals sign and a blank in it, and an override of another
setting. -/
def titled : Client :=
  { title := some "a = b", hold := true, overrides := ["cursor.blink = no"],
    command := ["vi", " "] }

theorem options_arrive_titled :
    ∃ frame r, (titled.request "/").value.encode = .ok frame ∧ Request.read frame = (.ok r, []) ∧
      r.command = ["vi", " "] ∧ r.hold = true ∧
      (({ term := "xterm" } : Config).overrideAll r.overrides).value.title = some "a = b" ∧
      (({ term := "xterm" } : Config).overrideAll r.overrides).value.term = "xterm" := by
  have fits : (titled.request "/").value.Fits :=
    ⟨by decide +kernel, by decide +kernel, by decide, by decide, by decide +kernel⟩
  have encodes := Request.encode_eq_ok.2 ⟨fits, rfl⟩
  have kept : trimmed "a = b" = "a = b" := by decide +kernel
  have unnamed : ∀ item ∈ titled.overrides, ∀ key value, setting? item = some (key, value) →
      key ∉ ["term", "title", "app-id"] := by
    intro item hitem key value named
    obtain rfl : item = "cursor.blink = no" := List.mem_singleton.1 hitem
    have blink : setting? "cursor.blink = no" = some ("cursor.blink", "no") := by decide +kernel
    cases blink.symm.trans named
    decide
  obtain ⟨r, read, command, hold, -, term, title, -, -⟩ :=
    options_arrive { term := "xterm" } encodes unnamed
  refine ⟨_, r, encodes, read, command, hold, ?_, term⟩
  rw [title]
  exact congrArg some kept

/-- A title loses the blanks around it. -/
theorem title_blanks_lost :
    let c : Client := { title := some " logs " }
    ∃ frame r, (c.request "/").value.encode = .ok frame ∧ Request.read frame = (.ok r, []) ∧
      (({} : Config).overrideAll r.overrides).value.title = some "logs" := by
  intro c
  have fits : (c.request "/").value.Fits :=
    ⟨by decide +kernel, by decide +kernel, by decide, by decide, by decide +kernel⟩
  have encodes := Request.encode_eq_ok.2 ⟨fits, rfl⟩
  exact ⟨_, _, encodes, by simpa using Request.read_encode encodes [], by decide +kernel⟩

end Teletype.Client
