import WinUHid.SetupRuns

namespace WinUHid

open LittleEndian

abbrev Wchar := UInt16

/-- `wcslen` of the string that the list begins with; `none` is a read behind the object. -/
def wcslen : List Wchar → Option Nat
  | [] => none
  | c :: rest => if c = 0 then some 0 else (wcslen rest).map (· + 1)

/-- The loop of `MultiSzWcsLen`, with the pointer `p`; `none` is a read behind the object. No
object in memory is so long that `len` or the pointer could wrap. -/
def multiSzLoop (object : List Wchar) (p len : Nat) : Option Nat :=
  match _h : object[p]? with
  | none => none
  | some c =>
    if c = 0 then some len
    else
      (wcslen (object.drop p)).bind fun n =>
        multiSzLoop object (p + (len + (1 + n))) (len + (1 + n))
termination_by object.length - p
decreasing_by
  have := (List.getElem?_eq_some_iff.mp _h).1
  omega

/-- `MultiSzWcsLen` -/
def multiSzWcsLen (object : List Wchar) : Option Nat := multiSzLoop object 0 0

def wcharBytes (object : List Wchar) : List UInt8 := object.flatMap fun c => bytes 2 c.toNat

/-- The buffer with which `WinUHidCreateDevice` sends `IOCTL_WINUHID_SET_HARDWARE_IDS`, for
`HardwareIDs` that point at the object; `none` where it reads behind it. -/
def hardwareIdsBuffer (object : List Wchar) : Option (List UInt8) :=
  (multiSzWcsLen object).bind fun n =>
    let size := UInt32.ofNat (n + 1) * UInt32.ofNat sizeofWchar
    if size.toNat ≤ (wcharBytes object).length then some ((wcharBytes object).take size.toNat)
    else none

/-- A wide string that is not empty and holds no null character. -/
structure WideString where
  chars : List Wchar
  nonempty : chars ≠ []
  noNul : 0 ∉ chars

/-- A `REG_MULTI_SZ`: each string with its terminator, and one more null character. -/
def multiSz (strings : List WideString) : List Wchar :=
  strings.flatMap (fun s => s.chars ++ [0]) ++ [0]

/-- What is left of the `REG_MULTI_SZ` before its last null character. -/
def multiSzLength (strings : List WideString) : Nat :=
  (strings.map fun s => s.chars.length + 1).sum

/-- What `WinUHidCreateDevice` may send before the hardware IDs. -/
def SetupIoctl.precedesHardwareIds : SetupIoctl → Bool
  | .setDeviceInfo | .setReportDescriptor | .setInstanceId => true
  | .setHardwareIds | .createDevice | .startDevice => false

def FileSetup.afterRequests (requests : List SetupRequest) : FileSetup :=
  requests.foldl (fun ctx r => (ctx.ioDeviceControl r).1) .initial

/-- The driver takes the hardware IDs after any requests that may come before them. -/
def AcceptsHardwareIds (ids : List UInt8) : Prop :=
  ∀ before : List SetupRequest, (∀ r ∈ before, r.ioctl.precedesHardwareIds = true) →
    ∀ beyond, ((FileSetup.afterRequests before).ioDeviceControl
      { ioctl := .setHardwareIds, buffer := ⟨ids, beyond⟩ }).2.status = statusSuccess

/-- The hardware IDs reach the driver as they are. -/
structure HandsOver (strings : List WideString) : Prop where
  length : multiSzWcsLen (multiSz strings) = some (multiSzLength strings)
  sent : hardwareIdsBuffer (multiSz strings) = some (wcharBytes (multiSz strings))
  accepted : (wcharBytes (multiSz strings)).length ≤ 65535 →
    AcceptsHardwareIds (wcharBytes (multiSz strings))

theorem wcslen_append {chars : List Wchar} (h : 0 ∉ chars) (rest : List Wchar) :
    wcslen (chars ++ 0 :: rest) = some chars.length := by
  induction chars with
  | nil => simp [wcslen]
  | cons c chars ih =>
    have hc : c ≠ 0 := fun he => h (by simp [he])
    rw [List.cons_append, wcslen, if_neg hc, ih fun hm => h (by simp [hm])]
    rfl

theorem multiSzLoop_eq (object : List Wchar) (p len : Nat) :
    multiSzLoop object p len =
      (object[p]?).bind fun c =>
        if c = 0 then some len
        else (wcslen (object.drop p)).bind fun n =>
          multiSzLoop object (p + (len + (1 + n))) (len + (1 + n)) := by
  rw [multiSzLoop]
  split
  next h => simp [h]
  next c h => rw [h, Option.bind_some]

/-- The pointer ends inside the object, and has moved on by the result in its last step. -/
theorem multiSzLoop_lt {object : List Wchar} {p len n : Nat}
    (h : multiSzLoop object p len = some n) :
    p < object.length ∧ (n = len ∨ p + n < object.length) := by
  induction hk : object.length - p using Nat.strongRecOn generalizing p len with
  | _ k ih =>
    rw [multiSzLoop_eq] at h
    obtain ⟨c, hc, h⟩ := Option.bind_eq_some_iff.mp h
    have inside := (List.getElem?_eq_some_iff.mp hc).1
    refine ⟨inside, ?_⟩
    split at h
    · exact .inl (Option.some.inj h).symm
    · obtain ⟨w, -, h⟩ := Option.bind_eq_some_iff.mp h
      obtain ⟨next, stop | goesOn⟩ := ih _ (by omega) h rfl
      · omega
      · omega

theorem multiSz_cons (s : WideString) (strings : List WideString) :
    multiSz (s :: strings) = s.chars ++ 0 :: multiSz strings := by
  simp [multiSz]

theorem length_multiSz (strings : List WideString) :
    (multiSz strings).length = multiSzLength strings + 1 := by
  induction strings with
  | nil => rfl
  | cons s strings ih =>
    rw [multiSz_cons, List.length_append, List.length_cons, ih]
    simp only [multiSzLength, List.map_cons, List.sum_cons]
    omega

/-- After the first string the pointer and the length are where they should be. -/
theorem multiSzWcsLen_cons (s : WideString) (strings : List WideString) :
    multiSzWcsLen (multiSz (s :: strings)) =
      multiSzLoop (multiSz (s :: strings)) (s.chars.length + 1) (s.chars.length + 1) := by
  have first : ∃ c, (multiSz (s :: strings))[0]? = some c ∧ c ≠ 0 := by
    obtain ⟨c, chars, hs⟩ := List.exists_cons_of_ne_nil s.nonempty
    refine ⟨c, by simp [multiSz_cons, hs], fun hz => s.noNul ?_⟩
    simp [hs, hz]
  obtain ⟨c, hc, hz⟩ := first
  have whole : wcslen ((multiSz (s :: strings)).drop 0) = some s.chars.length := by
    rw [List.drop_zero, multiSz_cons]
    exact wcslen_append s.noNul _
  rw [multiSzWcsLen, multiSzLoop_eq, hc, Option.bind_some, if_neg hz, whole, Option.bind_some,
    Nat.zero_add, Nat.zero_add, Nat.add_comm 1]

theorem multiSzWcsLen_eq_iff {strings : List WideString} (h : strings ≠ []) :
    multiSzWcsLen (multiSz strings) = some (multiSzLength strings) ↔ strings.length = 1 := by
  obtain ⟨s, strings, rfl⟩ := List.exists_cons_of_ne_nil h
  rw [multiSzWcsLen_cons]
  have total : (multiSz (s :: strings)).length = multiSzLength (s :: strings) + 1 :=
    length_multiSz _
  constructor
  · intro hl
    have bound := (multiSzLoop_lt hl).2
    cases strings with
    | nil => rfl
    | cons t strings =>
      have longer : s.chars.length + 1 < multiSzLength (s :: t :: strings) := by
        simp only [multiSzLength, List.map_cons, List.sum_cons]
        omega
      omega
  · intro h1
    obtain rfl : strings = [] := by simpa using h1
    have final : (multiSz [s])[s.chars.length + 1]? = some 0 := by simp [multiSz]
    rw [multiSzLoop_eq, final]
    simp [multiSzLength]

section Bytes

@[simp] theorem wcharBytes_append (a b : List Wchar) :
    wcharBytes (a ++ b) = wcharBytes a ++ wcharBytes b := List.flatMap_append

@[simp] theorem length_wcharBytes (object : List Wchar) :
    (wcharBytes object).length = sizeofWchar * object.length := by
  induction object with
  | nil => rfl
  | cons c object ih =>
    rw [wcharBytes, List.flatMap_cons, List.length_append, length_bytes, ← wcharBytes, ih,
      List.length_cons, sizeofWchar]
    omega

/-- The terminator of the last string, and the one of the list. -/
theorem multiSz_ends {strings : List WideString} (h : strings ≠ []) :
    ∃ front, multiSz strings = front ++ [0, 0] ∧ front ≠ [] := by
  induction strings with
  | nil => exact absurd rfl h
  | cons s strings ih =>
    cases strings with
    | nil => exact ⟨s.chars, by simp [multiSz], s.nonempty⟩
    | cons t strings =>
      obtain ⟨front, he, -⟩ := ih (by simp)
      exact ⟨s.chars ++ 0 :: front, by rw [multiSz_cons, he]; simp, by simp⟩

/-- A buffer that ends with two null characters. -/
theorem multiString_of_ends (front : List Wchar) (beyond : Nat → UInt8) :
    (InputBuffer.mk (wcharBytes (front ++ [0, 0])) beyond).multiString = true := by
  generalize hb : InputBuffer.mk (wcharBytes (front ++ [0, 0])) beyond = b
  have bytesEq : b.bytes = wcharBytes front ++ [0, 0, 0, 0] := by
    rw [← hb, wcharBytes_append]
    rfl
  have length : b.length = 2 * front.length + 4 := by
    rw [InputBuffer.length, bytesEq, List.length_append, length_wcharBytes, sizeofWchar]
    rfl
  have final {i : Nat} (h1 : 2 * front.length ≤ i) (h2 : i < 2 * front.length + 4) :
      b.read i = 0 := by
    have within : i - 2 * front.length < 4 := by omega
    rw [InputBuffer.read, bytesEq, List.getD_append_right _ _ _ _ (by simpa [sizeofWchar] using h1),
      length_wcharBytes, sizeofWchar]
    generalize i - 2 * front.length = j at within
    obtain rfl | rfl | rfl | rfl : j = 0 ∨ j = 1 ∨ j = 2 ∨ j = 3 := by omega
    all_goals rfl
  have null {i : Nat} (h1 : front.length ≤ i) (h2 : i < front.length + 2) : b.wchar i = 0 := by
    rw [InputBuffer.wchar, InputBuffer.ushort, sizeofWchar, final (by omega) (by omega),
      final (by omega) (by omega)]
    rfl
  have last : b.wchar (b.length / sizeofWchar - 1) = 0 :=
    null (by rw [length, sizeofWchar]; omega) (by rw [length, sizeofWchar]; omega)
  have lastButOne : b.wchar (b.length / sizeofWchar - 2) = 0 :=
    null (by rw [length, sizeofWchar]; omega) (by rw [length, sizeofWchar]; omega)
  have whole : b.length % sizeofWchar = 0 := by
    rw [length, sizeofWchar]
    omega
  simp [InputBuffer.multiString, InputBuffer.wholeWchars, last, lastButOne, whole]

end Bytes

section Driver

/-- Nothing that comes before the hardware IDs sets them or creates the device. -/
theorem afterRequests_keeps {requests : List SetupRequest}
    (h : ∀ r ∈ requests, r.ioctl.precedesHardwareIds = true) :
    (FileSetup.afterRequests requests).Valid ∧
      (FileSetup.afterRequests requests).vhfConfig.hardwareIDs = none ∧
      (FileSetup.afterRequests requests).vhfHandle = none := by
  refine List.foldlRecOn (motive := fun ctx : FileSetup =>
    ctx.Valid ∧ ctx.vhfConfig.hardwareIDs = none ∧ ctx.vhfHandle = none) requests _
    ⟨FileSetup.initial_valid, rfl, rfl⟩ ?_
  intro ctx ⟨valid, noIds, noHandle⟩ r hr
  have step := FileSetup.ioDeviceControl_handled valid r
  have before := h r hr
  refine ⟨step.valid valid, ?_⟩
  generalize (ctx.ioDeviceControl r).1 = ctx' at step ⊢
  generalize (ctx.ioDeviceControl r).2 = reply at step
  cases step with
  | refused => exact ⟨noIds, noHandle⟩
  | deviceInfo => exact ⟨noIds, noHandle⟩
  | reportDescriptor => exact ⟨noIds, noHandle⟩
  | instanceId => exact ⟨noIds, noHandle⟩
  | hardwareIds hi => simp [hi, SetupIoctl.precedesHardwareIds] at before
  | create hi => simp [hi, SetupIoctl.precedesHardwareIds] at before
  | start hi => exact ⟨noIds, noHandle⟩

theorem store_eq_stored {r : SetupRequest} {minimum : Nat} {wellFormed : InputBuffer → Bool}
    (long : minimum ≤ r.buffer.bytes.length) (fits : r.buffer.bytes.length ≤ 65535)
    (formed : wellFormed r.buffer = true) (retrieved : ntSuccess r.retrieveInputBuffer = true)
    (created : ntSuccess r.memoryCreate = true) (copied : ntSuccess r.memoryCopyFromBuffer = true) :
    r.store minimum wellFormed = .stored r.buffer.bytes fits := by
  have retrieve : r.retrieve minimum = r.retrieveInputBuffer := by
    rw [SetupRequest.retrieve, if_neg]
    simp [InputBuffer.length, Nat.not_lt.mpr long]
  simp [SetupRequest.store, retrieve, retrieved, formed, created, copied, Nat.not_lt.mpr fits]

theorem accepts_multiSz {strings : List WideString} (h : strings ≠ [])
    (fits : (wcharBytes (multiSz strings)).length ≤ 65535) :
    AcceptsHardwareIds (wcharBytes (multiSz strings)) := by
  intro before hbefore beyond
  obtain ⟨-, noIds, noHandle⟩ := afterRequests_keeps hbefore
  obtain ⟨front, ends, -⟩ := multiSz_ends h
  have terminated := multiString_of_ends front beyond
  rw [← ends] at terminated
  have long : 2 * sizeofWchar ≤ (wcharBytes (multiSz strings)).length := by
    rw [length_wcharBytes, ends, List.length_append, sizeofWchar]
    simp only [List.length_cons, List.length_nil]
    omega
  have stored := store_eq_stored (r := ⟨.setHardwareIds, ⟨wcharBytes (multiSz strings), beyond⟩,
    statusSuccess, statusSuccess, statusSuccess, statusSuccess, 0, statusSuccess⟩)
    long fits terminated rfl rfl rfl
  simp only [FileSetup.ioDeviceControl, FileSetup.setHardwareIds, noIds, noHandle, stored,
    Option.isSome_none, Bool.or_self, Bool.false_eq_true, if_false]

theorem not_accepts_nil : ¬ AcceptsHardwareIds (wcharBytes (multiSz [])) := by
  intro h
  exact absurd (h [] nofun fun _ => 0) (by decide)

end Driver

/-- The count of bytes is taken modulo `2 ^ 32`. -/
theorem hardwareIdsBuffer_eq_iff {strings : List WideString}
    (h : multiSzWcsLen (multiSz strings) = some (multiSzLength strings)) :
    hardwareIdsBuffer (multiSz strings) = some (wcharBytes (multiSz strings)) ↔
      sizeofWchar * (multiSz strings).length < 2 ^ 32 := by
  have size : (UInt32.ofNat (multiSzLength strings + 1) * UInt32.ofNat sizeofWchar).toNat =
      sizeofWchar * (multiSz strings).length % 2 ^ 32 := by
    rw [length_multiSz, UInt32.toNat_mul, sizeofWchar]
    simp only [UInt32.toNat_ofNat', Nat.reducePow, Nat.reduceMod]
    omega
  have whole := length_wcharBytes (multiSz strings)
  rw [hardwareIdsBuffer, h, Option.bind_some]
  simp only [size]
  constructor
  · intro he
    split at he
    next =>
      have := congrArg List.length (Option.some.inj he)
      rw [List.length_take, whole] at this
      omega
    next => cases he
  · intro hlt
    rw [Nat.mod_eq_of_lt hlt, whole, if_pos (Nat.le_refl _), List.take_of_length_le (by omega)]

/-- With one string the length is right; from the second string on the pointer is moved by the
length of all the strings so far, and passes the end of the list. -/
theorem hardwareIds_handedOver_iff (strings : List WideString) :
    HandsOver strings ↔
      strings.length = 1 ∧ sizeofWchar * (multiSz strings).length < 2 ^ 32 := by
  constructor
  · intro ⟨length, sent, accepted⟩
    have nonempty : strings ≠ [] := by
      rintro rfl
      exact not_accepts_nil (accepted (by decide))
    exact ⟨(multiSzWcsLen_eq_iff nonempty).mp length, (hardwareIdsBuffer_eq_iff length).mp sent⟩
  · intro ⟨one, short⟩
    have nonempty : strings ≠ [] := by
      rintro rfl
      cases one
    have length := (multiSzWcsLen_eq_iff nonempty).mpr one
    exact ⟨length, (hardwareIdsBuffer_eq_iff length).mpr short, accepts_multiSz nonempty⟩

def oneLetter (c : Wchar) (h : c ≠ 0) : WideString :=
  ⟨[c], by simp, by simpa using h.symm⟩

/-- With the IDs `A` and `B` the loop reads the fifth character of an object of five. -/
theorem hardwareIds_twoStrings :
    multiSzWcsLen (multiSz [oneLetter 65 (by decide), oneLetter 66 (by decide)]) = none ∧
      ¬ HandsOver [oneLetter 65 (by decide), oneLetter 66 (by decide)] := by
  have overshoot :
      multiSzWcsLen (multiSz [oneLetter 65 (by decide), oneLetter 66 (by decide)]) = none := by
    have object : multiSz [oneLetter 65 (by decide), oneLetter 66 (by decide)] =
        [65, 0, 66, 0, 0] := rfl
    have behind : multiSzLoop [65, 0, 66, 0, 0] 6 4 = none := by rw [multiSzLoop_eq]; rfl
    rw [multiSzWcsLen_cons, object, multiSzLoop_eq]
    exact behind
  refine ⟨overshoot, fun h => ?_⟩
  have := h.length
  rw [overshoot] at this
  cases this

end WinUHid
