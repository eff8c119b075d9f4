import WinUHid.DescriptorParsing

namespace WinUHid

/-- Why a parse with 32-bit variables stops early. Only the first is a status of the driver. -/
inductive ParseTrap where
  | failed (status : NTSTATUS) (left : ParsedReports)
  | outOfBounds
  | wrapped
  | outOfFuel

abbrev CheckedParse := Except ParseTrap

def ParseStop.trap : ParseStop → ParseTrap
  | .failed status left => .failed status left
  | .outOfBounds => .outOfBounds
  | .outOfFuel => .outOfFuel

def Parse.checked {α : Type} (p : Parse α) : CheckedParse α := p.mapError ParseStop.trap

/-- A sum of two `ULONG`s, which must not wrap. -/
def checkedAdd (a b : UInt32) : CheckedParse UInt32 :=
  if a.toNat + b.toNat < 2 ^ 32 then .ok (a + b) else .error .wrapped

/-- The result of `ULongMult` or `ULongAdd`, which must be the exact one. -/
def exactly (result : UInt32) (exact : Nat) : CheckedParse UInt32 :=
  if result.toNat = exact then .ok result else .error .wrapped

namespace ReportDescriptor

variable (d : ReportDescriptor)

/-- `ReportDescriptorLength`, as the comparisons with a `ULONG` promote it. -/
def length32 : UInt32 := UInt32.ofNat d.bytes.length

/-- `ReportDescriptor[i++]` -/
def next32 (i : UInt32) : CheckedParse (UInt8 × UInt32) := do
  let b ← (fetch d.bytes i.toNat).checked
  let i ← checkedAdd i 1
  pure (b, i)

end ReportDescriptor

structure ItemHeader32 where
  tag : UInt8
  type : UInt8
  size : UInt8
  next : UInt32

def readItemHeader32 (d : ReportDescriptor) (i : UInt32) (left : ParsedReports) :
    CheckedParse ItemHeader32 := do
  let (header, i) ← d.next32 i
  let tag := (header >>> 4) &&& 0x0F
  let type := (header >>> 2) &&& 0x03
  let size := header &&& 0x03
  if tag = 0xF then
    let bound ← checkedAdd i 2
    if bound > d.length32 then
      .error (.failed statusInvalidParameter left)
    else
      let (size, i) ← d.next32 i
      let (tag, i) ← d.next32 i
      pure ⟨tag, type, size, i⟩
  else
    pure ⟨tag, type, if size = 3 then 4 else size, i⟩

/-- The `switch (size)`, with the cursor behind the item. -/
def readItemData32 (d : ReportDescriptor) (i : UInt32) (size : UInt8) :
    CheckedParse (Option UInt32 × UInt32) :=
  if size = 0 then pure (some 0, i)
  else if size = 1 then do
    let (b0, i) ← d.next32 i
    pure (some b0.toUInt32, i)
  else if size = 2 then do
    let (b0, i) ← d.next32 i
    let (b1, i) ← d.next32 i
    pure (some (b0.toUInt32 ||| (b1.toUInt32 <<< 8)), i)
  else if size = 4 then do
    let (b0, i) ← d.next32 i
    let (b1, i) ← d.next32 i
    let (b2, i) ← d.next32 i
    let (b3, i) ← d.next32 i
    pure (some (b0.toUInt32 ||| (b1.toUInt32 <<< 8) ||| (b2.toUInt32 <<< 16) |||
      (b3.toUInt32 <<< 24)), i)
  else do
    let i ← checkedAdd i size.toUInt32
    pure (none, i)

def mainItem32 (st : ParserState) (tag : UInt8) : CheckedParse ParserState := do
  let f ← st.frame.checked
  match uLongMult f.reportSize f.reportCount with
  | none => .error (.failed statusIntegerOverflow st.reports)
  | some bits =>
    let bits ← exactly bits (f.reportSize.toNat * f.reportCount.toNat)
    match mainItemKind tag with
    | none => pure st
    | some kind =>
      let size := (st.reports.reportSizes f.reportId).get kind
      match uLongAdd size bits with
      | none =>
        .error (.failed statusIntegerOverflow (st.reports.setSize f.reportId kind uLongError))
      | some total =>
        let total ← exactly total (size.toNat + bits.toNat)
        pure { st with reports := st.reports.setSize f.reportId kind total }

/-- One iteration of the `while` loop. The cursor of the state is that of the `ULONG`. -/
def parseItem32 (d : ReportDescriptor) (i : UInt32) (st : ParserState) :
    CheckedParse (UInt32 × ParserState) := do
  let h ← readItemHeader32 d i st.reports
  let bound ← checkedAdd h.next h.size.toUInt32
  if bound > d.length32 then
    .error (.failed statusInvalidParameter st.reports)
  else
    let (data, i) ← readItemData32 d h.next h.size
    let st := { st with i := i.toNat }
    match data with
    | none => pure (i, st)
    | some data =>
      let st ←
        if h.type = 0x01 then (globalItem st h.tag data).checked
        else if h.type = 0x00 then mainItem32 st h.tag
        else pure st
      pure (i, st)

def parseLoop32 (d : ReportDescriptor) : Nat → UInt32 → ParserState → CheckedParse ParserState
  | 0, i, st => if i < d.length32 then .error .outOfFuel else pure st
  | fuel + 1, i, st =>
    if i < d.length32 then do
      let (i, st) ← parseItem32 d i st
      parseLoop32 d fuel i st
    else pure st

def postProcessReportSize32 (size : UInt32) (numberedReports : Bool) : CheckedParse UInt32 := do
  let hidReportSizeBytes := size / 8
  let hidReportSizeBytes ←
    if size % 8 ≠ 0 then checkedAdd hidReportSizeBytes 1 else pure hidReportSizeBytes
  if numberedReports then checkedAdd hidReportSizeBytes 1 else pure hidReportSizeBytes

/-- One of the three conditions in the `for` loop over `ReportSizes`. -/
def ParsedReports.postProcessKind32 (r : ParsedReports) (id : UInt8) (k : ReportKind) :
    CheckedParse ParsedReports :=
  let size := (r.reportSizes id).get k
  if size ≠ 0 then do
    let size ← postProcessReportSize32 size r.numberedReports
    pure (r.setSize id k size)
  else pure r

def ParsedReports.postProcessEntry32 (r : ParsedReports) (i : Nat) :
    CheckedParse ParsedReports := do
  let r ← r.postProcessKind32 (UInt8.ofNat i) .input
  let r ← r.postProcessKind32 (UInt8.ofNat i) .output
  r.postProcessKind32 (UInt8.ofNat i) .feature

/-- `ParseReportDescriptor` with its 32-bit variables, every read, sum and product checked. The
loop gets one iteration for each byte. -/
def parseReportDescriptor32 (d : ReportDescriptor) : CheckedParse ParsedReports := do
  let st ← parseLoop32 d d.bytes.length 0 .initial
  (List.range 256).foldlM ParsedReports.postProcessEntry32 st.reports

/-- The checked parse comes back with the same failure or with a related value. -/
def Simulates {α β : Type} (p : CheckedParse α) (q : Parse β) (R : α → β → Prop) : Prop :=
  (∃ a b, p = .ok a ∧ q = .ok b ∧ R a b) ∨
    ∃ status left, p = .error (.failed status left) ∧ q = .error (.failed status left)

@[simp] theorem checked_ok_bind {α β : Type} (a : α) (f : α → CheckedParse β) :
    ((Except.ok a : CheckedParse α) >>= f) = f a := rfl

namespace Simulates

variable {α β γ δ : Type} {R : α → β → Prop} {p : CheckedParse α} {q : Parse β}

theorem ok {a : α} {b : β} (h : R a b) : Simulates (.ok a) (.ok b) R := .inl ⟨a, b, rfl, rfl, h⟩

theorem failed (status : NTSTATUS) (left : ParsedReports) :
    Simulates (.error (.failed status left)) (.error (.failed status left)) R :=
  .inr ⟨status, left, rfl, rfl⟩

theorem bind (h : Simulates p q R) {f : α → CheckedParse γ} {g : β → Parse δ} {R' : γ → δ → Prop}
    (hf : ∀ a b, R a b → Simulates (f a) (g b) R') : Simulates (p >>= f) (q >>= g) R' := by
  obtain ⟨a, b, rfl, rfl, hr⟩ | ⟨status, left, rfl, rfl⟩ := h
  · exact hf a b hr
  · exact failed status left

/-- A checked step that goes through. -/
theorem step {a : α} (hp : p = .ok a) {f : α → CheckedParse γ} {g : Parse δ} {R' : γ → δ → Prop}
    (hf : Simulates (f a) g R') : Simulates (p >>= f) g R' := by
  subst hp
  exact hf

/-- The two sides take the same branch. -/
theorem ite {c c' : Prop} [Decidable c] [Decidable c'] (hc : c ↔ c') {p' : CheckedParse α}
    {q' : Parse β} (yes : c' → Simulates p q R) (no : ¬c' → Simulates p' q' R) :
    Simulates (if c then p else p') (if c' then q else q') R := by
  by_cases h : c'
  · rw [if_pos h, if_pos (hc.mpr h)]
    exact yes h
  · rw [if_neg h, if_neg (fun hn => h (hc.mp hn))]
    exact no h

/-- A parse that returns is simulated by itself. -/
theorem checked {q : Parse β} {Q : β → Prop} (h : q.Returns Q) :
    Simulates q.checked q fun a b => a = b ∧ Q b := by
  obtain ⟨b, rfl, hb⟩ | ⟨status, left, rfl, -⟩ := h
  · exact ok ⟨rfl, hb⟩
  · exact failed status left

end Simulates

open Simulates

theorem checkedAdd_ok {a b : UInt32} (h : a.toNat + b.toNat < 2 ^ 32) :
    checkedAdd a b = .ok (a + b) ∧ (a + b).toNat = a.toNat + b.toNat := by
  refine ⟨if_pos h, ?_⟩
  rw [UInt32.toNat_add]
  omega

theorem uLongMult_exact {a b r : UInt32} (h : uLongMult a b = some r) :
    r.toNat = a.toNat * b.toNat := by
  unfold uLongMult at h
  split at h <;> cases h
  rw [UInt32.toNat_mul]
  omega

theorem uLongAdd_exact {a b r : UInt32} (h : uLongAdd a b = some r) :
    r.toNat = a.toNat + b.toNat := by
  unfold uLongAdd at h
  split at h <;> cases h
  rw [UInt32.toNat_add]
  omega

section Descriptor

variable {d : ReportDescriptor} {i : UInt32}

theorem toNat_length32 (d : ReportDescriptor) : d.length32.toNat = d.bytes.length := by
  have hd := d.length_le
  simp [ReportDescriptor.length32]
  omega

theorem next32_ok (h : i.toNat < d.bytes.length) :
    ∃ b, fetch d.bytes i.toNat = .ok b ∧ d.next32 i = .ok (b, i + 1) ∧
      (i + 1).toNat = i.toNat + 1 := by
  have hd := d.length_le
  obtain ⟨sum, value⟩ := checkedAdd_ok (a := i) (b := 1) (by simp; omega)
  obtain ⟨b, hb⟩ : ∃ b, fetch d.bytes i.toNat = .ok b := ⟨d.bytes[i.toNat], by simp [fetch, h]⟩
  refine ⟨b, hb, ?_, value⟩
  rw [ReportDescriptor.next32, hb]
  show (do let i ← checkedAdd i 1; pure (b, i) : CheckedParse (UInt8 × UInt32)) = _
  rw [sum]
  rfl

theorem readItemHeader32_simulates {st : ParserState} (hi : i.toNat = st.i)
    (h : st.i < d.bytes.length) :
    Simulates (readItemHeader32 d i st.reports) (readItemHeader d.bytes st) fun a b =>
      a.tag = b.tag ∧ a.type = b.type ∧ a.size.toNat = b.size ∧ a.next.toNat = b.next ∧
        st.i < b.next ∧ b.next ≤ d.bytes.length := by
  have hd := d.length_le
  obtain ⟨header, hf, hn, next⟩ := next32_ok (d := d) (i := i) (by omega)
  unfold readItemHeader32 readItemHeader
  rw [← hi, hf]
  apply step hn
  refine ite Iff.rfl (fun _ => ?_) fun _ => ?_
  · obtain ⟨sum, bound⟩ := checkedAdd_ok (a := i + 1) (b := 2) (by simp; omega)
    have reached : i + 1 + 2 > d.length32 ↔ i.toNat + 1 + 2 > d.bytes.length := by
      rw [gt_iff_lt, UInt32.lt_iff_toNat_lt, toNat_length32, bound, next]
      rfl
    apply step sum
    refine ite reached (fun _ => failed _ _) fun hb => ?_
    obtain ⟨size, hs, hns, next2⟩ := next32_ok (d := d) (i := i + 1) (by omega)
    obtain ⟨tag, ht, hnt, next3⟩ := next32_ok (d := d) (i := i + 1 + 1) (by omega)
    rw [next] at hs
    rw [next2, next] at ht
    rw [hs, ht]
    apply step hns
    apply step hnt
    exact ok ⟨rfl, rfl, rfl, by dsimp only; omega, by dsimp only; omega, by dsimp only; omega⟩
  · refine ok ⟨rfl, rfl, ?_, next, by dsimp only; omega, by dsimp only; omega⟩
    split <;> rfl

theorem readItemData_skips {bytes : List UInt8} {k : Nat} {size : UInt8} (h0 : size ≠ 0)
    (h1 : size ≠ 1) (h2 : size ≠ 2) (h4 : size ≠ 4) :
    readItemData bytes k size.toNat = .ok none := by
  unfold readItemData
  split
  next h => exact absurd (UInt8.toNat_inj.mp h) h0
  next h => exact absurd (UInt8.toNat_inj.mp h) h1
  next h => exact absurd (UInt8.toNat_inj.mp h) h2
  next h => exact absurd (UInt8.toNat_inj.mp h) h4
  next => rfl

theorem readItemData32_simulates {size : UInt8} (h : i.toNat + size.toNat ≤ d.bytes.length) :
    Simulates (readItemData32 d i size) (readItemData d.bytes i.toNat size.toNat) fun a data =>
      a.1 = data ∧ a.2.toNat = i.toNat + size.toNat := by
  have hd := d.length_le
  unfold readItemData32
  split
  next h0 =>
    subst h0
    exact ok ⟨rfl, rfl⟩
  next h0 =>
  split
  next h1 =>
    subst h1
    simp only [UInt8.toNat_ofNat, Nat.reducePow, Nat.reduceMod] at h
    obtain ⟨b0, hf0, hn0, next0⟩ := next32_ok (d := d) (i := i) (by omega)
    show Simulates _ (do let b0 ← fetch d.bytes i.toNat; pure (some b0.toUInt32)) _
    rw [hf0]
    exact step hn0 (ok ⟨rfl, next0⟩)
  next h1 =>
  split
  next h2 =>
    subst h2
    simp only [UInt8.toNat_ofNat, Nat.reducePow, Nat.reduceMod] at h
    obtain ⟨b0, hf0, hn0, next0⟩ := next32_ok (d := d) (i := i) (by omega)
    obtain ⟨b1, hf1, hn1, next1⟩ := next32_ok (d := d) (i := i + 1) (by omega)
    rw [next0] at hf1 next1
    show Simulates _ (do
      let b0 ← fetch d.bytes i.toNat
      let b1 ← fetch d.bytes (i.toNat + 1)
      pure (some (b0.toUInt32 ||| (b1.toUInt32 <<< 8)))) _
    rw [hf0, hf1]
    exact step hn0 (step hn1 (ok ⟨rfl, next1⟩))
  next h2 =>
  split
  next h4 =>
    subst h4
    simp only [UInt8.toNat_ofNat, Nat.reducePow, Nat.reduceMod] at h
    obtain ⟨b0, hf0, hn0, next0⟩ := next32_ok (d := d) (i := i) (by omega)
    obtain ⟨b1, hf1, hn1, next1⟩ := next32_ok (d := d) (i := i + 1) (by omega)
    rw [next0] at hf1 next1
    obtain ⟨b2, hf2, hn2, next2⟩ := next32_ok (d := d) (i := i + 1 + 1) (by omega)
    rw [next1] at hf2 next2
    obtain ⟨b3, hf3, hn3, next3⟩ := next32_ok (d := d) (i := i + 1 + 1 + 1) (by omega)
    rw [next2] at hf3 next3
    show Simulates _ (do
      let b0 ← fetch d.bytes i.toNat
      let b1 ← fetch d.bytes (i.toNat + 1)
      let b2 ← fetch d.bytes (i.toNat + 2)
      let b3 ← fetch d.bytes (i.toNat + 3)
      pure (some (b0.toUInt32 ||| (b1.toUInt32 <<< 8) ||| (b2.toUInt32 <<< 16) |||
        (b3.toUInt32 <<< 24)))) _
    rw [hf0, hf1, hf2, hf3]
    exact step hn0 (step hn1 (step hn2 (step hn3 (ok ⟨rfl, next3⟩))))
  next h4 =>
    have hs := size.toNat_lt
    obtain ⟨sum, value⟩ := checkedAdd_ok (a := i) (b := size.toUInt32) (by simp; omega)
    rw [readItemData_skips h0 h1 h2 h4]
    exact step sum (ok ⟨rfl, by simpa using value⟩)

end Descriptor

theorem mainItem32_simulates {st : ParserState} (h : st.currentFrame < 32) (tag : UInt8) :
    Simulates (mainItem32 st tag) (mainItem st tag) fun a b => a = b ∧ st.Continues b := by
  refine (checked (ParserState.frame_returns h)).bind fun f f' hf => ?_
  obtain rfl := hf.1
  cases hm : uLongMult f.reportSize f.reportCount with
  | none => exact failed _ _
  | some bits =>
    have product : exactly bits (f.reportSize.toNat * f.reportCount.toNat) = .ok bits :=
      if_pos (uLongMult_exact hm)
    apply step product
    dsimp only
    cases mainItemKind tag with
    | none => exact ok ⟨rfl, rfl, h⟩
    | some kind =>
      dsimp only
      cases ha : uLongAdd ((st.reports.reportSizes f.reportId).get kind) bits with
      | none => exact failed _ _
      | some total => exact step (if_pos (uLongAdd_exact ha)) (ok ⟨rfl, rfl, h⟩)

theorem parseItem32_simulates {d : ReportDescriptor} {i : UInt32} {st : ParserState}
    (hi : i.toNat = st.i) (h : st.i < d.bytes.length) (hf : st.currentFrame < 32) :
    Simulates (parseItem32 d i st) (parseItem d.bytes st) fun a b =>
      a.2 = b ∧ a.1.toNat = b.i ∧ st.i < b.i ∧ b.currentFrame < 32 := by
  have hd := d.length_le
  refine (readItemHeader32_simulates hi h).bind ?_
  rintro ⟨tag, type, size, next⟩ ⟨_, _, _, _⟩ ⟨rfl, rfl, rfl, rfl, hlt, hle⟩
  dsimp only at hlt hle ⊢
  have hs := size.toNat_lt
  obtain ⟨sum, bound⟩ := checkedAdd_ok (a := next) (b := size.toUInt32) (by simp; omega)
  have value : (next + size.toUInt32).toNat = next.toNat + size.toNat := by simpa using bound
  have reached : next + size.toUInt32 > d.length32 ↔ next.toNat + size.toNat > d.bytes.length := by
    rw [gt_iff_lt, UInt32.lt_iff_toNat_lt, toNat_length32, value]
  apply step sum
  refine ite reached (fun _ => failed _ _) fun hb => ?_
  refine (readItemData32_simulates (by omega)).bind ?_
  rintro ⟨data, behind⟩ data' ⟨rfl, hbehind⟩
  dsimp only at hbehind ⊢
  rw [← hbehind]
  have moves : st.i < behind.toNat := by omega
  have item : ∀ {p : CheckedParse ParserState} {q : Parse ParserState},
      Simulates p q (fun a b => a = b ∧ ParserState.Continues { st with i := behind.toNat } b) →
      Simulates (do let st ← p; pure (behind, st)) q fun a b =>
        a.2 = b ∧ a.1.toNat = b.i ∧ st.i < b.i ∧ b.currentFrame < 32 := by
    rintro p q (⟨a, _, rfl, rfl, rfl, hk⟩ | ⟨status, left, rfl, rfl⟩)
    · exact ok ⟨rfl, hk.1.symm, by rw [hk.1]; exact moves, hk.2⟩
    · exact failed status left
  have frame : ({ st with i := behind.toNat } : ParserState).currentFrame < 32 := hf
  cases data with
  | none => exact ok ⟨rfl, rfl, moves, hf⟩
  | some data =>
    refine ite Iff.rfl (fun _ => item (checked (globalItem_returns frame tag data))) fun _ => ?_
    refine ite Iff.rfl (fun _ => item (mainItem32_simulates frame tag)) fun _ => ?_
    exact ok ⟨rfl, rfl, moves, hf⟩

theorem parseLoop32_simulates {d : ReportDescriptor} (fuel : Nat) {i : UInt32} {st : ParserState}
    (hi : i.toNat = st.i) (hfuel : d.bytes.length ≤ st.i + fuel) (hf : st.currentFrame < 32) :
    Simulates (parseLoop32 d fuel i st) (parseLoop d.bytes fuel st) Eq := by
  have more : ∀ {i : UInt32} {st : ParserState}, i.toNat = st.i →
      (i < d.length32 ↔ st.i < d.bytes.length) := by
    intro i st hi
    rw [UInt32.lt_iff_toNat_lt, toNat_length32, hi]
  induction fuel generalizing i st with
  | zero => exact ite (more hi) (fun h => absurd h (by omega)) fun _ => ok rfl
  | succ fuel ih =>
    refine ite (more hi) (fun h => ?_) fun _ => ok rfl
    refine (parseItem32_simulates hi h hf).bind ?_
    rintro ⟨i', st'⟩ _ ⟨rfl, hi', hlt, hf'⟩
    dsimp only at hi' hlt hf'
    exact ih hi' (by omega) hf'

theorem postProcessReportSize_bound (size : UInt32) (numberedReports : Bool) :
    postProcessReportSize32 size numberedReports = .ok (postProcessReportSize size numberedReports) ∧
      (postProcessReportSize size numberedReports).toNat ≤ 2 ^ 29 + 1 := by
  have hs := size.toNat_lt
  have quotient : (size / 8).toNat ≤ 2 ^ 29 - 1 := by
    rw [UInt32.toNat_div]
    show size.toNat / 8 ≤ _
    omega
  obtain ⟨rounded, hrounded⟩ := checkedAdd_ok (a := size / 8) (b := 1) (by simp; omega)
  obtain ⟨prefixed, hprefixed⟩ := checkedAdd_ok (a := size / 8 + 1) (b := 1)
    (by rw [hrounded]; simp; omega)
  have one : UInt32.toNat 1 = 1 := rfl
  unfold postProcessReportSize32 postProcessReportSize
  by_cases hr : size % 8 ≠ 0 <;> cases numberedReports
  · simp only [if_pos hr, rounded, checked_ok_bind]
    exact ⟨rfl, by simp; omega⟩
  · simp only [if_pos hr, rounded, checked_ok_bind, if_true, prefixed]
    exact ⟨trivial, by omega⟩
  · simp only [if_neg hr]
    exact ⟨rfl, by simp; omega⟩
  · simp only [if_neg hr, if_true]
    exact ⟨rounded, by omega⟩

theorem finalReportSize_le (numberedReports : Bool) (size : UInt32) :
    (finalReportSize numberedReports size).toNat ≤ 2 ^ 29 + 1 := by
  unfold finalReportSize
  split
  next => exact (postProcessReportSize_bound size numberedReports).2
  next h =>
    obtain rfl : size = 0 := by simpa using h
    simp

theorem postProcessKind32_ok (r : ParsedReports) (id : UInt8) (k : ReportKind) :
    ∃ r', r.postProcessKind32 id k = .ok r' ∧ r'.numberedReports = r.numberedReports ∧
      ∀ id' k', (r'.reportSizes id').get k' =
        if id' = id ∧ k' = k then finalReportSize r.numberedReports ((r.reportSizes id).get k)
        else (r.reportSizes id').get k' := by
  unfold ParsedReports.postProcessKind32 finalReportSize
  dsimp only
  split
  next h =>
    rw [(postProcessReportSize_bound _ _).1]
    exact ⟨_, rfl, rfl, fun id' k' => r.get_setSize id id' k k' _⟩
  next h =>
    refine ⟨r, rfl, rfl, fun id' k' => ?_⟩
    split
    next he => rw [he.1, he.2]
    next => rfl

theorem postProcessEntry32_ok (r : ParsedReports) (i : Nat) :
    ∃ r', r.postProcessEntry32 i = .ok r' ∧ r'.numberedReports = r.numberedReports ∧
      ∀ id k, (r'.reportSizes id).get k =
        if id = UInt8.ofNat i then finalReportSize r.numberedReports ((r.reportSizes id).get k)
        else (r.reportSizes id).get k := by
  obtain ⟨r1, h1, n1, g1⟩ := postProcessKind32_ok r (UInt8.ofNat i) .input
  obtain ⟨r2, h2, n2, g2⟩ := postProcessKind32_ok r1 (UInt8.ofNat i) .output
  obtain ⟨r3, h3, n3, g3⟩ := postProcessKind32_ok r2 (UInt8.ofNat i) .feature
  refine ⟨r3, ?_, n3.trans (n2.trans n1), fun id k => ?_⟩
  · simp only [ParsedReports.postProcessEntry32, h1, h2, h3, checked_ok_bind]
  · rw [g3, g2, g1, n2, n1]
    by_cases he : id = UInt8.ofNat i
    · subst he
      cases k <;> simp [g2, g1, n1]
    · simp [he, g2, g1]

theorem postProcess32_ok (r : ParsedReports) {n : Nat} (hn : n ≤ 256) :
    ∃ r', (List.range n).foldlM ParsedReports.postProcessEntry32 r = .ok r' ∧
      r'.numberedReports = r.numberedReports ∧
      ∀ id k, (r'.reportSizes id).get k =
        if id.toNat < n then finalReportSize r.numberedReports ((r.reportSizes id).get k)
        else (r.reportSizes id).get k := by
  induction n with
  | zero => exact ⟨r, rfl, rfl, fun id k => by simp⟩
  | succ n ih =>
    obtain ⟨r1, h1, n1, g1⟩ := ih (by omega)
    obtain ⟨r2, h2, n2, g2⟩ := postProcessEntry32_ok r1 n
    refine ⟨r2, ?_, n2.trans n1, fun id k => ?_⟩
    · rw [List.range_succ, List.foldlM_append, h1]
      simp only [checked_ok_bind, List.foldlM_cons, List.foldlM_nil, h2]
      rfl
    · have same : id = UInt8.ofNat n ↔ id.toNat = n := by
        rw [← UInt8.toNat_inj, UInt8.toNat_ofNat', Nat.mod_eq_of_lt (by omega)]
      rw [g2, g1, n1]
      by_cases he : id.toNat = n
      · rw [if_pos (same.mpr he), if_neg (by omega), if_pos (by omega)]
      · rw [if_neg (fun h => he (same.mp h))]
        by_cases hl : id.toNat < n
        · rw [if_pos hl, if_pos (by omega)]
        · rw [if_neg hl, if_neg (by omega)]

theorem ParsedReports.ext_get {r r' : ParsedReports} (hn : r.numberedReports = r'.numberedReports)
    (h : ∀ id k, (r.reportSizes id).get k = (r'.reportSizes id).get k) : r = r' := by
  obtain ⟨sizes, numbered⟩ := r
  obtain ⟨sizes', numbered'⟩ := r'
  cases hn
  congr 1
  funext id
  have input := h id .input
  have output := h id .output
  have feature := h id .feature
  simp only [HidReportSize.get] at input output feature
  cases hs : sizes id
  cases hs' : sizes' id
  simp_all

/-- The parser with 32-bit variables does what the parser with unbounded ones does, and no size
exceeds the largest one in bytes. -/
theorem parseReportDescriptor32_simulates (d : ReportDescriptor) :
    Simulates (parseReportDescriptor32 d) (parseReportDescriptor d) fun reports reports' =>
      reports = reports' ∧ ∀ id k, ((reports.reportSizes id).get k).toNat ≤ 2 ^ 29 + 1 := by
  refine (parseLoop32_simulates d.bytes.length rfl (Nat.le_add_left _ _) (by decide)).bind ?_
  rintro st _ rfl
  obtain ⟨r, hr, numbered, get⟩ := postProcess32_ok st.reports (n := 256) (le_refl _)
  have whole : r = st.reports.postProcess := by
    refine ParsedReports.ext_get numbered fun id k => ?_
    rw [get, if_pos id.toNat_lt, ParsedReports.get_postProcess]
  subst whole
  refine .inl ⟨_, _, hr, rfl, rfl, fun id k => ?_⟩
  rw [ParsedReports.get_postProcess]
  exact finalReportSize_le _ _

end WinUHid
