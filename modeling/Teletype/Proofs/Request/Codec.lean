import Teletype.Proofs.Machine.Request
import Teletype.Proofs.Request.Decode

/-!
# Requests in streams

What is written of a request is read back, and whatever can be read is what is written of a request,
up to the bits of the flags that have no meaning. All other streams are rejected.
-/

namespace Teletype.Request

open Teletype.Text

/-! ## Streams -/

/-- A request can be read from a stream exactly if its bytes stand at the front, after their
length. -/
theorem read_eq_ok {stream rest : List UInt8} {r : Request} :
    read stream = (.ok r, rest) ↔
      ∃ bytes, bytes.length ≤ maxLength ∧ decode bytes = .ok r ∧
        stream = putNumber 4 bytes.length ++ bytes ++ rest := by
  have mapped {bytes : List UInt8} : (decode bytes).mapError ServiceError.frame = .ok r ↔
      decode bytes = .ok r := by
    cases decode bytes with
    | error fault => exact ⟨fun h => (nomatch h), fun h => (nomatch h)⟩
    | ok r' => exact ⟨fun h => by cases h; rfl, fun h => by cases h; rfl⟩
  unfold read
  dsimp only
  constructor
  · intro h
    split at h
    · cases h
    · rename_i hheader
      split at h
      · cases h
      · rename_i hmax
        split at h
        · cases h
        · rename_i hlength
          obtain ⟨hdecode, hrest⟩ := Prod.mk.inj h
          have four : (stream.take 4).length = 4 := by
            rw [List.length_take] at hheader ⊢
            omega
          have whole : ((stream.drop 4).take (number (stream.take 4))).length =
              number (stream.take 4) := by
            rw [List.length_take] at hlength ⊢
            omega
          have header := putNumber_number (stream.take 4)
          rw [four] at header
          refine ⟨_, ?_, mapped.1 hdecode, ?_⟩
          · rw [whole]
            exact Nat.le_of_not_lt hmax
          · rw [whole, header, ← hrest, List.append_assoc, List.take_append_drop,
              List.take_append_drop]
  · rintro ⟨bytes, hmax, hdecode, rfl⟩
    have fits : bytes.length < 256 ^ 4 := Nat.lt_of_le_of_lt hmax (by decide)
    have header : (putNumber 4 bytes.length ++ bytes ++ rest).take 4 =
        putNumber 4 bytes.length := by
      rw [List.append_assoc]
      exact List.take_left' (length_putNumber 4 _)
    have after : (putNumber 4 bytes.length ++ bytes ++ rest).drop 4 = bytes ++ rest := by
      rw [List.append_assoc]
      exact List.drop_left' (length_putNumber 4 _)
    rw [header, after, number_putNumber fits, length_putNumber, List.take_left, List.drop_left]
    rw [if_neg (Nat.lt_irrefl 4), if_neg (Nat.not_lt.2 hmax), if_neg (Nat.lt_irrefl _),
      mapped.2 hdecode]

/-! ## Flags -/

theorem flagged_flags (r : Request) : Flagged r.flags r := by
  unfold Flagged flags
  cases r.hold <;> cases r.noWait <;> decide

/-- The flags of a request are the two bits that have a meaning. -/
theorem Flagged.flags_eq {flags : UInt8} {r : Request} (h : Flagged flags r) :
    r.flags = flags &&& 3 := by
  have bits : ∀ n : Fin 256, (if (UInt8.ofFin n).toNat.testBit 0 then (1 : UInt8) else 0) +
      (if (UInt8.ofFin n).toNat.testBit 1 then 2 else 0) = UInt8.ofFin n &&& 3 := by
    decide +kernel
  unfold Request.flags
  rw [h.1, h.2]
  exact bits flags.toFin

/-! ## Malformed requests -/

/-- A part that is no text with a zero byte at its end. -/
def Malformed (part : List UInt8) : Prop :=
  part = [] ∨ part.getLast? ≠ some 0 ∨ Utf8.decode? part.dropLast = none

theorem malformed_iff {part : List UInt8} : Malformed part ↔ ∀ text, part ≠ terminated text := by
  constructor
  · rintro h text rfl
    unfold Malformed terminated at h
    rw [List.getLast?_concat, List.dropLast_concat] at h
    rcases h with hnil | hlast | hdecode
    · exact List.concat_ne_nil _ _ hnil
    · exact hlast rfl
    · rw [Utf8.decode?_eq_some_iff.2 rfl] at hdecode
      cases hdecode
  · intro h
    rcases List.eq_nil_or_concat part with hnil | ⟨before, last, rfl⟩
    · exact .inl hnil
    · rw [List.concat_eq_append] at h ⊢
      right
      rw [List.getLast?_concat, List.dropLast_concat]
      by_cases hzero : last = 0
      · right
        cases hdecode : Utf8.decode? before with
        | none => rfl
        | some text =>
          have same := Utf8.decode?_eq_some_iff.1 hdecode
          exact absurd (by rw [same, hzero, terminated]) (h text)
      · exact .inl fun hlast => hzero (Option.some.inj hlast)

/-- No request is read where the bytes stand after their length. -/
def Rejected (bytes : List UInt8) : Prop :=
  ∀ header rest, header.length = 4 → number header = bytes.length →
    ∃ e, (read (header ++ bytes ++ rest)).1 = .error e

theorem rejected_of_decode {bytes : List UInt8} (h : ∀ r, decode bytes ≠ .ok r) :
    Rejected bytes := by
  intro header rest hfour hnumber
  rcases hread : read (header ++ bytes ++ rest) with ⟨e | r, after⟩
  · exact ⟨e, rfl⟩
  · obtain ⟨bytes', hmax, hdecode, heq⟩ := read_eq_ok.1 hread
    have fits : bytes'.length < 256 ^ 4 := Nat.lt_of_le_of_lt hmax (by decide)
    rw [List.append_assoc, List.append_assoc] at heq
    obtain ⟨hheader, hbytes⟩ := List.append_inj heq (by rw [hfour, length_putNumber])
    rw [hheader, number_putNumber fits] at hnumber
    obtain ⟨rfl, -⟩ := List.append_inj hbytes hnumber.symm
    exact absurd hdecode (h r)

/-- Bytes are rejected unless numbers and parts fill them exactly. -/
theorem rejected_of_not_layout {bytes : List UInt8}
    (h : ∀ p : Parts, p.Measurable → p.layout ≠ bytes) : Rejected bytes := by
  refine rejected_of_decode fun r hdecode => ?_
  obtain ⟨flags, -, hmeasurable, rfl⟩ := decode_eq_ok.1 hdecode
  exact h _ hmeasurable rfl

/-- Parts that are no texts are rejected. -/
theorem rejected_of_malformed {p : Parts} (hmeasurable : p.Measurable)
    (h : ∃ part ∈ p.directory :: (p.overrides ++ p.command), Malformed part) :
    Rejected p.layout := by
  refine rejected_of_decode fun r hdecode => ?_
  obtain ⟨flags, -, hmeasurable', hlayout⟩ := decode_eq_ok.1 hdecode
  obtain rfl := Parts.layout_inj hmeasurable hmeasurable' hlayout
  obtain ⟨part, hpart, hmalformed⟩ := h
  obtain ⟨text, -, rfl⟩ :
      ∃ text ∈ r.directory :: (r.overrides ++ r.command), terminated text = part := by
    rw [← List.mem_map, List.map_cons, List.map_append]
    exact hpart
  exact malformed_iff.1 hmalformed text rfl

/-! ## The codec -/

theorem length_of_encode {r : Request} {frame : List UInt8} (h : r.encode = .ok frame) :
    frame.length = 4 + r.size := by
  obtain ⟨-, rfl⟩ := encode_eq_ok.1 h
  rw [List.length_append, length_putNumber, length_layout_parts]

/-- What is written of a request is read back, and nothing behind it. -/
theorem read_encode {r : Request} {frame : List UInt8} (h : r.encode = .ok frame)
    (more : List UInt8) : read (frame ++ more) = (.ok r, more) := by
  obtain ⟨hfits, rfl⟩ := encode_eq_ok.1 h
  obtain ⟨hmeasurable, hsize⟩ := (fits_iff r.flags).1 hfits
  have decoded := decode_eq_ok.2 ⟨r.flags, flagged_flags r, hmeasurable, rfl⟩
  exact read_eq_ok.2 ⟨_, hsize, decoded, by rw [length_layout_parts]⟩

/-- What is read of a stream is what is written of the request, up to the bits of the flags that
have no meaning. -/
theorem encode_of_read {stream rest : List UInt8} {r : Request} (h : read stream = (.ok r, rest)) :
    ∃ frame, stream = frame ++ rest ∧ r.encode = .ok (frame.modify 4 (· &&& 3)) := by
  obtain ⟨bytes, hmax, hdecode, rfl⟩ := read_eq_ok.1 h
  obtain ⟨flags, hflags, hmeasurable, rfl⟩ := decode_eq_ok.1 hdecode
  refine ⟨_, rfl, encode_eq_ok.2 ⟨(fits_iff flags).2 ⟨hmeasurable, hmax⟩, ?_⟩⟩
  rw [hflags.flags_eq, length_layout_parts, layout_parts, layout_parts]
  rfl

/-- The codec is exact. A request can be written exactly if it is not too large, and is read back
then. What can be read is what is written of the request, up to the bits of the flags that have no
meaning. Bytes that numbers and parts do not fill, or of which a part is no text, are rejected, and
no place outside of them is looked at. -/
theorem codec_exact :
    (∀ r : Request, (∃ frame, r.encode = .ok frame) ↔ r.Fits) ∧
      (∀ (r : Request) (frame more : List UInt8), r.encode = .ok frame →
        frame.length = 4 + r.size ∧ read (frame ++ more) = (.ok r, more)) ∧
      (∀ (stream rest : List UInt8) (r : Request), read stream = (.ok r, rest) →
        ∃ frame, stream = frame ++ rest ∧ r.encode = .ok (frame.modify 4 (· &&& 3))) ∧
      (∀ bytes : List UInt8, (∀ p : Parts, p.Measurable → p.layout ≠ bytes) → Rejected bytes) ∧
      (∀ p : Parts, p.Measurable →
        (∃ part ∈ p.directory :: (p.overrides ++ p.command), Malformed part) → Rejected p.layout) ∧
      ∀ body : Array UInt8, body.size ≤ maxSize →
        (checkedDecode body).run = some (decode body.toList) := by
  refine ⟨fun r => ?_, fun r frame more h => ⟨length_of_encode h, read_encode h more⟩,
    fun stream rest r h => encode_of_read h, fun bytes h => rejected_of_not_layout h,
    fun p hmeasurable h => rejected_of_malformed hmeasurable h,
    fun body hsize => checkedDecode_eq hsize⟩
  constructor
  · rintro ⟨frame, hencode⟩
    exact (encode_eq_ok.1 hencode).1
  · intro hfits
    exact ⟨_, encode_eq_ok.2 ⟨hfits, rfl⟩⟩

/-- A request for a terminal that stays open. -/
def staying : Request := { hold := true, directory := "/", overrides := ["a=b"], command := ["é"] }

/-- The bytes of the request, with the given flags. -/
def stayingFrame (flags : UInt8) : List UInt8 :=
  [20, 0, 0, 0, flags, 2, 0, 1, 0, 1, 0, 0x2f, 0, 4, 0, 0x61, 0x3d, 0x62, 0, 3, 0, 0xc3, 0xa9, 0]

theorem codec_exact_staying :
    staying.Fits ∧ staying.encode = .ok (stayingFrame 1) ∧
      read (stayingFrame 1 ++ [7]) = (.ok staying, [7]) ∧
      read (stayingFrame 0xfd ++ [7]) = (.ok staying, [7]) ∧
      (∃ frame, stayingFrame 0xfd ++ [7] = frame ++ [7] ∧
        staying.encode = .ok (frame.modify 4 (· &&& 3))) ∧
      Rejected [0, 1, 0] ∧ Rejected [0, 0, 0, 0, 0, 0, 0] ∧
      (checkedDecode #[0, 1, 0, 0, 0, 0, 0, 7]).run = some (.error .missingNul) := by
  obtain ⟨encodes, reads, encoded, unlaid, malformed, checked⟩ := codec_exact
  have encode : staying.encode = .ok (stayingFrame 1) := by decide +kernel
  have noisy : read (stayingFrame 0xfd ++ [7]) = (.ok staying, [7]) := by decide +kernel
  refine ⟨(encodes staying).1 ⟨_, encode⟩, encode, (reads _ _ [7] encode).2, noisy,
    encoded _ _ _ noisy, unlaid _ ?_, ?_, ?_⟩
  · intro p _ h
    have length := congrArg List.length h
    simp [Parts.layout] at length
  · exact malformed ⟨0, [], [], []⟩ ⟨by decide, by decide, by decide, by simp⟩ ⟨[],
      List.mem_cons_self, .inl rfl⟩
  · rw [checked _ (by decide)]
    decide +kernel

end Teletype.Request
