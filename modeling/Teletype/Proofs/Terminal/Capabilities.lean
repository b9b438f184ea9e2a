import Mathlib.Data.List.Forall2
import Teletype.Proofs.Control.Strings
import Teletype.Proofs.Reply.Capability
import Teletype.Proofs.Terminal.Replies
import Teletype.Proofs.Text.Hex
import Teletype.Proofs.Text.Split

/-!
# Every capability that is asked for is answered

A request names capabilities in hexadecimal. There is one answer for each name, in the order of the
names, and what it says is what stands under the name in the table.
-/

namespace Teletype

open Text
open Text.Utf8 (encode)

/-! ## One answer -/

/-- The bytes answer a question about the capability with the name, which was sent in hexadecimal:
they say that it is there, what its value is, or that it is not known. -/
inductive Capability.Answers (terminalName : String) (name sent : List UInt8) : List UInt8 → Prop
  | flag {entry : String} (listed : (entry, .flag) ∈ table) (hname : encode entry = name) :
    Answers terminalName name sent (encode "\x1bP1+r" ++ sent ++ encode "\x1b\\")
  | value {entry : String} {value : Capability} {digits : List UInt8}
    (listed : (entry, value) ∈ table)
    (hname : encode entry = name) (hvalue : value ≠ .flag)
    (hdigits : Hex.decode? digits = some (encode (value.render terminalName))) :
    Answers terminalName name sent
    (encode "\x1bP1+r" ++ sent ++ (encode "=" ++ digits) ++ encode "\x1b\\")
  | unknown (unlisted : ∀ entry ∈ table, encode entry.1 ≠ name) :
    Answers terminalName name sent (encode "\x1bP0+r" ++ sent ++ encode "\x1b\\")

namespace Terminal

variable {name sent : List UInt8}

theorem capabilityAnswer_value (terminalName : String) (h : Hex.Writes sent name) :
    (capabilityAnswer terminalName sent).value =
      .capability sent (Capability.find? name) terminalName := by
  unfold capabilityAnswer
  rw [Hex.decode?_eq_some_iff.2 h, Option.bind_some]
  cases Capability.find? name <;> rfl

/-- The answer to a name is the right one. -/
theorem answers_capabilityAnswer (terminalName : String) (h : Hex.Writes sent name) :
    Capability.Answers terminalName name sent
      (capabilityAnswer terminalName sent).value.encode := by
  rw [capabilityAnswer_value terminalName h]
  cases hfound : Capability.find? name with
  | none => exact .unknown (Capability.find?_eq_none_iff.1 hfound)
  | some value =>
    obtain ⟨entry, listed, hname⟩ := Capability.find?_eq_some_iff.1 hfound
    have sentValue (hvalue : value ≠ .flag) : Reply.capabilityValue value terminalName =
        encode "=" ++ Hex.encode (encode (value.render terminalName)) := by
      cases value with
      | flag => exact absurd rfl hvalue
      | number | text | terminalName => rfl
    rw [Reply.encode]
    by_cases hflag : value = .flag
    · subst hflag
      rw [Reply.capabilityValue, List.append_nil]
      exact .flag listed hname
    · rw [sentValue hflag]
      exact .value listed hname hflag (Hex.decode?_encode _)

/-! ## A request -/

/-- What a program asks about: names, each with a hexadecimal form of it. -/
abbrev Asked := List (List UInt8 × List UInt8)

/-- The names in hexadecimal, with semicolons between them. -/
def Asked.payload (asked : Asked) : List UInt8 := [0x3b].intercalate (asked.map Prod.snd)

variable {asked : Asked}

/-- The names are the parts of the list. -/
theorem Asked.splitAt_payload (hne : asked ≠ []) (h : ∀ a ∈ asked, Hex.Writes a.2 a.1) :
    splitAt 0x3b asked.payload = asked.map Prod.snd := by
  refine splitAt_eq_iff.2 ⟨fun hnil => hne (List.map_eq_nil_iff.1 hnil),
    fun part hpart hsemicolon => ?_, rfl⟩
  obtain ⟨a, ha, rfl⟩ := List.mem_map.1 hpart
  exact ((h a ha).bounds _ hsemicolon).2.2 rfl

/-- The list has the letters and digits of the names, and semicolons. -/
theorem Asked.bounds_payload (hne : asked ≠ []) (h : ∀ a ∈ asked, Hex.Writes a.2 a.1) :
    ∀ b ∈ asked.payload, 0x30 ≤ b.toNat ∧ b.toNat ≤ 0x66 := by
  refine (forall_splitAt 0x3b (by decide) asked.payload).1 fun part hpart b hb => ?_
  rw [Asked.splitAt_payload hne h] at hpart
  obtain ⟨a, ha, rfl⟩ := List.mem_map.1 hpart
  obtain ⟨low, high, -⟩ := (h a ha).bounds b hb
  exact ⟨low, high⟩

end Terminal

/-- A request that there is room for is read as one. -/
theorem Control.Decoder.feed_capabilities {d : Control.Decoder} (hd : d.state = .ground)
    {p : List UInt8} (hp : ∀ b ∈ p, 0x30 ≤ b.toNat ∧ b.toNat ≤ 0x66)
    (hsize : p.length ≤ maxCapabilities) :
    (d.feed (encode "\x1bP+q" ++ p ++ encode "\x1b\\")).2 = #[.request (.capabilities p)] := by
  have letter (b : UInt8) (hb : b ∈ p) : b ∉ [0x18, 0x1a, 0x1b] ∧ isC1 b = false := by
    obtain ⟨low, high⟩ := hp b hb
    simp only [isC1, List.mem_cons, List.not_mem_nil, or_false, not_or, ← UInt8.toNat_inj,
      UInt8.le_iff_toNat_le, UInt8.reduceToNat, Bool.and_eq_false_iff, decide_eq_false_iff_not]
    omega
  have kept : p.filter (· ≤ 0x7e) = p := List.filter_eq_self.2 fun b hb => by
    have range := hp b hb
    simp [UInt8.le_iff_toNat_le]
    omega
  have taken :
      d.Takes ([0x1b, 0x50, 0x2b, 0x71] ++ p ++ terminator false) [.request (.capabilities p)] := by
    refine takes_string CapabilitiesHeld hd ⟨rfl, rfl⟩ ⟨{}, false, rfl, .empty _⟩
      (fun sixel read state h b hb => h.step (letter b hb).1 (letter b hb).2 sixel) fun d' h => ?_
    obtain ⟨held, excess, hstate, gathered⟩ := h
    rw [kept] at gathered
    have finished := gathered.finish fun names => [Action.request (.capabilities names)]
    rw [if_pos hsize] at finished
    rw [← finished]
    exact runs_terminator (by rw [hstate]; rfl)
  exact Array.toList_inj.1 taken.actions

namespace Terminal

/-- Whatever a program asks about in one request that there is room for, each name gets one answer,
in the order of the names, and the right one. -/
theorem capabilities_answered (t : Terminal) (ht : t.decoder.state = .ground) (asked : Asked)
    (hne : asked ≠ []) (hasked : ∀ a ∈ asked, Hex.Writes a.2 a.1)
    (hsize : asked.payload.length ≤ 4096) (now : Instant) :
    (∃ replies, (t.feed (encode "\x1bP+q" ++ asked.payload ++ encode "\x1b\\") now).replies.toList =
        t.replies.toList ++ replies.flatten ∧
      List.Forall₂ (fun a reply => Capability.Answers t.config.term a.1 a.2 reply) asked replies) ∧
      (∀ name value, Capability.find? name = some value ↔
        ∃ entry, (entry, value) ∈ Capability.table ∧ encode entry = name) ∧
      Capability.find? (encode "TN") = some .terminalName := by
  have read := Control.Decoder.feed_capabilities ht (Asked.bounds_payload hne hasked) hsize
  refine ⟨⟨asked.map fun a => (capabilityAnswer t.config.term a.2).value.encode, ?_, ?_⟩,
    fun name value => Capability.find?_eq_some_iff, ?_⟩
  · have queued := queued_capabilities read now
    rw [Queued, capabilityAnswers, Asked.splitAt_payload hne hasked] at queued
    rw [queued, List.flatMap_def, List.map_map, List.map_map, List.map_map]
    rfl
  · rw [List.forall₂_map_right_iff, List.forall₂_same]
    exact fun a ha => answers_capabilityAnswer _ (hasked a ha)
  · exact Capability.find?_eq_some_iff.2 ⟨"TN", by decide +kernel, rfl⟩

/-- A flag, the name of the terminal in small letters, nothing, and a name that is not in the
table. -/
def mixedQuestion : Asked :=
  [(encode "am", encode "616D"), (encode "TN", encode "544e"), ([], []),
    ([0xff, 0x3b], encode "fF3b")]

theorem capabilities_answered_mixed :
    (Terminal.new {}).decoder.state = .ground ∧ mixedQuestion ≠ [] ∧
      (∀ a ∈ mixedQuestion, Hex.Writes a.2 a.1) ∧ mixedQuestion.payload.length ≤ 4096 ∧
      ∃ replies,
        ((Terminal.new {}).feed (encode "\x1bP+q" ++ mixedQuestion.payload ++ encode "\x1b\\")
          0).replies.toList = (Terminal.new {}).replies.toList ++ replies.flatten ∧
        List.Forall₂ (fun a reply => Capability.Answers (Terminal.new {}).config.term a.1 a.2 reply)
          mixedQuestion replies :=
  have hne : mixedQuestion ≠ [] := by decide
  have written : ∀ a ∈ mixedQuestion, Hex.Writes a.2 a.1 := by decide +kernel
  have hsize : mixedQuestion.payload.length ≤ 4096 := by decide +kernel
  ⟨rfl, hne, written, hsize,
    (capabilities_answered (.new {}) rfl mixedQuestion hne written hsize 0).1⟩

end Terminal

end Teletype
