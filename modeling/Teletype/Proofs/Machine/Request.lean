import Teletype.Proofs.Machine.Word
import Teletype.Proofs.Request.Decode

/-!
# Reading requests in machine words

What reading a request makes the program compute: places in the array that the request came in. None
of them is outside of it, whatever the array holds.
-/

namespace Teletype.Request

open Machine Teletype.Text

/-- Reading that may find a fault, or may not be possible at all. -/
abbrev Reading : Type → Type := ExceptT FrameFault Option

/-- The number in the two bytes at a place. -/
def checkedCount (body : Array UInt8) (place : Nat) : Option Nat := do
  let low ← entry body place
  let high ← entry body (← add .usize place 1)
  return number [low, high]

namespace Cursor

def checkedTake (body : Array UInt8) (n place : Nat) : Reading (List UInt8 × Nat) := do
  let last ← add .usize place n
  if body.size < last then throw (.lengthMismatch last body.size)
  slice place last body.size
  return ((body.extract place last).toList, last)

def checkedText (body : Array UInt8) (n place : Nat) : Reading (String × Nat) := do
  let (bytes, next) ← checkedTake body n place
  match bytes.reverse with
  | 0 :: reversed =>
    match Utf8.decode? reversed.reverse with
    | some text => return (text, next)
    | none => throw .invalidUtf8
  | _ => throw .missingNul

def checkedMeasuredText (body : Array UInt8) (place : Nat) : Reading (String × Nat) := do
  let (length, next) ← checkedTake body 2 place
  checkedText body (← checkedCount length.toArray 0) next

def checkedTexts (body : Array UInt8) : Nat → Nat → Reading (List String × Nat)
  | 0, place => return ([], place)
  | count + 1, place => do
    let (text, next) ← checkedMeasuredText body place
    let (more, last) ← checkedTexts body count next
    return (text :: more, last)

end Cursor

def checkedDecode (body : Array UInt8) : Reading Request := do
  if body.size < 7 then throw .tooShort
  let flags ← (entry body 0 : Option UInt8)
  let length ← checkedCount body 1
  let overrideCount ← checkedCount body 3
  let commandCount ← checkedCount body 5
  let (directory, place) ← Cursor.checkedText body length 7
  let (overrides, place) ← Cursor.checkedTexts body overrideCount place
  let (command, place) ← Cursor.checkedTexts body commandCount place
  if place ≠ body.size then throw (.lengthMismatch place body.size)
  return {
    hold := flags.toNat.testBit 0
    noWait := flags.toNat.testBit 1
    directory, overrides, command }

/-- The most bytes that an array has. -/
def maxSize : Nat := 0x7fffffffffffffff

/-- A step that can be taken comes before the rest of the reading. -/
theorem lift_bind {α β : Type} {step : Option α} {a : α} (h : step = some a)
    (next : α → Reading β) : (liftM step >>= next) = next a := by
  rw [h]
  rfl

/-- A number can be read where two bytes stand next in the array. -/
theorem checkedCount_eq {xs : Array UInt8} (before : List UInt8) {rest : List UInt8}
    {low high : UInt8} (h : xs.toList = before ++ low :: high :: rest) (hsize : xs.size ≤ maxSize) :
    checkedCount xs before.length = some (number [low, high]) := by
  have size : xs.size = before.length + (rest.length + 2) := by
    rw [← Array.length_toList, h, List.length_append, List.length_cons, List.length_cons]
  have hmax : xs.size ≤ 0x7fffffffffffffff := hsize
  have first : entry xs before.length = some low := by
    rw [entry, ← Array.getElem?_toList, h]
    simp
  have second : entry xs (before.length + 1) = some high := by
    rw [entry, ← Array.getElem?_toList, h]
    simp
  exact bind_eq first (bind_eq (add_usize (by omega)) (bind_eq second rfl))

namespace Cursor

variable {α β : Type} {body : Array UInt8}

/-- The cursor stands at a place in the array. -/
structure In (c : Cursor) (body : Array UInt8) : Prop where
  le : c.position ≤ body.size
  rest : c.rest = body.toList.drop c.position

/-- What is read in the array is what the cursor reads, and the cursor stays in the array. -/
def Agree (body : Array UInt8) (checked : Reading (α × Nat)) : Except FrameFault (α × Cursor) → Prop
  | .ok (a, c) => checked.run = some (.ok (a, c.position)) ∧ c.In body
  | .error fault => checked.run = some (.error fault)

/-- What is computed from what was read is the same too. -/
theorem Agree.run_bind {checked : Reading (α × Nat)} {read : Except FrameFault (α × Cursor)}
    (h : Agree body checked read) {checkedNext : α × Nat → Reading β}
    {next : α × Cursor → Except FrameFault β}
    (hnext : ∀ a c, c.In body → (checkedNext (a, c.position)).run = some (next (a, c))) :
    (checked >>= checkedNext).run = some (read >>= next) := by
  rw [ExceptT.run_bind]
  cases read with
  | error fault =>
    rw [show checked.run = some (.error fault) from h]
    rfl
  | ok result =>
    obtain ⟨a, c⟩ := result
    obtain ⟨hrun, hin⟩ := h
    rw [hrun]
    exact hnext a c hin

theorem Agree.bind {checked : Reading (α × Nat)} {read : Except FrameFault (α × Cursor)}
    (h : Agree body checked read) {checkedNext : α × Nat → Reading (β × Nat)}
    {next : α × Cursor → Except FrameFault (β × Cursor)}
    (hnext : ∀ a c, read = .ok (a, c) → c.In body →
      Agree body (checkedNext (a, c.position)) (next (a, c))) :
    Agree body (checked >>= checkedNext) (read >>= next) := by
  cases read with
  | error fault =>
    show (checked >>= checkedNext).run = some (.error fault)
    rw [ExceptT.run_bind, show checked.run = some (.error fault) from h]
    rfl
  | ok result =>
    obtain ⟨a, c⟩ := result
    obtain ⟨hrun, hin⟩ := h
    have rest : (checked >>= checkedNext).run = (checkedNext (a, c.position)).run := by
      rw [ExceptT.run_bind, hrun]
      rfl
    have after := hnext a c rfl hin
    show Agree body (checked >>= checkedNext) (next (a, c))
    cases hafter : next (a, c) with
    | error fault =>
      rw [hafter] at after
      exact rest.trans after
    | ok result =>
      rw [hafter] at after
      exact ⟨rest.trans after.1, after.2⟩

theorem agree_take (hsize : body.size ≤ maxSize) {c : Cursor} (h : c.In body) {n : Nat}
    (hn : n < 0x10000) : Agree body (checkedTake body n c.position) (c.take body.size n) := by
  have hmax : body.size ≤ 0x7fffffffffffffff := hsize
  have place := h.le
  have last : add .usize c.position n = some (c.position + n) := add_usize (by omega)
  have left : (c.rest.take n).length = min n (body.size - c.position) := by
    rw [h.rest, List.length_take, List.length_drop, Array.length_toList]
  unfold checkedTake take
  rw [lift_bind last]
  by_cases hle : c.position + n ≤ body.size
  · have part : (body.extract c.position (c.position + n)).toList = c.rest.take n := by
      rw [h.rest]
      simp
    have whole : (c.rest.take n).length = n := by omega
    rw [if_neg (Nat.not_lt.2 hle), lift_bind (slice_of_le (Nat.le_add_right _ _) hle), part,
      if_pos whole]
    refine ⟨rfl, hle, ?_⟩
    rw [h.rest, List.drop_drop]
  · have short : ¬(c.rest.take n).length = n := by omega
    rw [if_pos (Nat.not_le.1 hle), if_neg short]
    rfl

theorem agree_text (hsize : body.size ≤ maxSize) {c : Cursor} (h : c.In body) {n : Nat}
    (hn : n < 0x10000) : Agree body (checkedText body n c.position) (c.text body.size n) := by
  unfold checkedText Cursor.text
  refine (agree_take hsize h hn).bind fun bytes next _ hnext => ?_
  rcases hreverse : bytes.reverse with _ | ⟨last, reversed⟩
  · simp only [hreverse]
    rfl
  · by_cases hzero : last = 0
    · subst hzero
      cases hdecode : Utf8.decode? reversed.reverse with
      | none =>
        simp only [hreverse, hdecode]
        rfl
      | some text =>
        simp only [hreverse, hdecode]
        exact ⟨rfl, hnext⟩
    · have other (rest : List UInt8) : last :: reversed ≠ 0 :: rest :=
        fun h => hzero (List.cons.inj h).1
      simp only [hreverse]
      rfl

theorem agree_measuredText (hsize : body.size ≤ maxSize) {c : Cursor} (h : c.In body) :
    Agree body (checkedMeasuredText body c.position) (c.measuredText body.size) := by
  unfold checkedMeasuredText measuredText
  refine (agree_take hsize h (by decide)).bind fun length next hlength hnext => ?_
  have two : length.length = 2 := (take_eq_ok.1 hlength).2.1
  rcases length with _ | ⟨low, _ | ⟨high, _ | ⟨third, more⟩⟩⟩
  case cons.cons.nil =>
    have count : checkedCount [low, high].toArray 0 = some (number [low, high]) :=
      checkedCount_eq [] rfl (show 2 ≤ maxSize by decide)
    dsimp only
    rw [lift_bind count]
    exact agree_text hsize hnext (by simpa using number_lt [low, high])
  all_goals cases two

theorem agree_texts (hsize : body.size ≤ maxSize) {c : Cursor} (h : c.In body) (count : Nat) :
    Agree body (checkedTexts body count c.position) (c.texts body.size count) := by
  induction count generalizing c with
  | zero => exact ⟨rfl, h⟩
  | succ count ih =>
    refine (agree_measuredText hsize h).bind fun text next _ hnext => ?_
    refine (ih hnext).bind fun more last _ hlast => ?_
    exact ⟨rfl, hlast⟩

end Cursor

theorem checkedDecode_short {body : Array UInt8} (h : body.size < 7) :
    (checkedDecode body).run = some (.error .tooShort) := by
  unfold checkedDecode
  rw [if_pos h]
  rfl

/-- Whatever an array holds, no place outside of it is looked at. -/
theorem checkedDecode_eq {body : Array UInt8} (hsize : body.size ≤ maxSize) :
    (checkedDecode body).run = some (decode body.toList) := by
  have size : body.size = body.toList.length := rfl
  rcases hbytes :
    body.toList with _ | ⟨flags, _ | ⟨d₀, _ | ⟨d₁, _ | ⟨o₀, _ | ⟨o₁, _ | ⟨c₀, _ | ⟨c₁, rest⟩⟩⟩⟩⟩⟩⟩
  case cons.cons.cons.cons.cons.cons.cons =>
    have long : ¬body.size < 7 := by simp [size, hbytes]
    have first : entry body 0 = some flags := by
      rw [entry, ← Array.getElem?_toList, hbytes]
      rfl
    have length : checkedCount body 1 = some (number [d₀, d₁]) :=
      checkedCount_eq [flags] hbytes hsize
    have overrideCount : checkedCount body 3 = some (number [o₀, o₁]) :=
      checkedCount_eq [flags, d₀, d₁] hbytes hsize
    have commandCount : checkedCount body 5 = some (number [c₀, c₁]) :=
      checkedCount_eq [flags, d₀, d₁, o₀, o₁] hbytes hsize
    have start : Cursor.In ⟨7, rest⟩ body := ⟨Nat.le_of_not_lt long, by rw [hbytes]; rfl⟩
    have total : (flags :: d₀ :: d₁ :: o₀ :: o₁ :: c₀ :: c₁ :: rest).length = body.size := by
      rw [size, hbytes]
    unfold checkedDecode decode
    rw [if_neg long]
    dsimp only
    rw [total]
    show ExceptT.run (liftM (entry body 0) >>= _) = _
    rw [lift_bind first, lift_bind length, lift_bind overrideCount, lift_bind commandCount]
    refine (Cursor.agree_text hsize start (by simpa using number_lt [d₀, d₁])).run_bind
      fun directory c hc => ?_
    refine (Cursor.agree_texts hsize hc _).run_bind fun overrides c hc => ?_
    refine (Cursor.agree_texts hsize hc _).run_bind fun command c hc => ?_
    dsimp only
    by_cases hplace : c.position = body.size
    · rw [if_neg (not_not_intro hplace), if_pos hplace]
      rfl
    · rw [if_pos hplace, if_neg hplace]
      rfl
  all_goals exact checkedDecode_short (by simp [size, hbytes])

end Teletype.Request
