import WinUHid.ReportItems
import WinUHid.DescriptorParsing
import Mathlib.Tactic.IntervalCases

namespace WinUHid

open LittleEndian

theorem fetch_of_drop {d : List UInt8} {i k : Nat} {rest : List UInt8} {b : UInt8}
    (h : d.drop i = rest) (hk : rest[k]? = some b) : fetch d (i + k) = .ok b := by
  have hb : d[i + k]? = some b := by
    rw [← hk, ← h, List.getElem?_drop]
  simp [fetch, hb]

theorem prefixTag_longItemPrefix : prefixTag longItemPrefix = 0xF := by decide

/-- Only a short item has a prefix with another tag than 0xF. -/
theorem readItemHeader_short {d : List UInt8} {st : ParserState} {header : UInt8}
    {rest : List UInt8} (h : d.drop st.i = header :: rest) (ht : prefixTag header ≠ 0xF) :
    readItemHeader d st =
      .ok ⟨prefixTag header, prefixType header, shortDataSize header, st.i + 1⟩ := by
  have hf : fetch d st.i = .ok header := fetch_of_drop (k := 0) h rfl
  have hsize : (if header &&& 0x03 = 3 then 4 else (header &&& 0x03).toNat) =
      shortDataSize header := rfl
  simp only [readItemHeader, hf, bind, Except.bind, pure, Except.pure]
  rw [if_neg (by simpa [prefixTag] using ht), hsize]
  rfl

theorem readItemHeader_long {d : List UInt8} {st : ParserState} {size tag : UInt8}
    {rest : List UInt8} (h : d.drop st.i = longItemPrefix :: size :: tag :: rest) :
    readItemHeader d st = .ok ⟨tag, prefixType longItemPrefix, size.toNat, st.i + 3⟩ := by
  have hf : fetch d st.i = .ok longItemPrefix := fetch_of_drop (k := 0) h rfl
  have hs : fetch d (st.i + 1) = .ok size := fetch_of_drop h rfl
  have hg : fetch d (st.i + 2) = .ok tag := fetch_of_drop h rfl
  have hl := congrArg List.length h
  simp only [List.length_drop, List.length_cons] at hl
  simp only [readItemHeader, hf, hs, hg, bind, Except.bind, pure, Except.pure]
  rw [if_pos (by decide), if_neg (by omega)]
  rfl

theorem readItemHeader_long_truncated {d : List UInt8} {st : ParserState} {rest : List UInt8}
    (h : d.drop st.i = longItemPrefix :: rest) (hr : rest.length < 2) :
    readItemHeader d st = .error (.failed statusInvalidParameter st.reports) := by
  have hf : fetch d st.i = .ok longItemPrefix := fetch_of_drop (k := 0) h rfl
  have hl := congrArg List.length h
  simp only [List.length_drop, List.length_cons] at hl
  simp only [readItemHeader, hf, bind, Except.bind]
  rw [if_pos (by decide), if_pos (by omega)]

theorem shortDataSize_cases (header : UInt8) :
    shortDataSize header = 0 ∨ shortDataSize header = 1 ∨ shortDataSize header = 2 ∨
      shortDataSize header = 4 := by
  have hlt : (header &&& 0x03).toNat < 4 := by
    rw [UInt8.toNat_and]
    exact Nat.lt_of_le_of_lt Nat.and_le_right (by decide)
  unfold shortDataSize
  split
  next => simp
  next hne =>
    have h3 : (header &&& 0x03).toNat ≠ 3 := by
      intro he
      exact hne (UInt8.toNat_inj.mp he)
    omega

/-- The `switch` puts the data bytes of a short item together little endian. -/
theorem readItemData_short {d : List UInt8} {i : Nat} {header : UInt8} {rest : List UInt8}
    (h : d.drop i = rest) (hb : shortDataSize header ≤ rest.length) :
    ∃ data : UInt32, readItemData d i (shortDataSize header) = .ok (some data) ∧
      data.toNat = value (rest.take (shortDataSize header)) := by
  rcases shortDataSize_cases header with hs | hs | hs | hs
  · exact ⟨0, by rw [hs]; rfl, by rw [hs]; rfl⟩
  · obtain _ | ⟨b0, rest⟩ := rest
    · simp [hs] at hb
    have h0 : fetch d i = .ok b0 := fetch_of_drop (k := 0) h rfl
    refine ⟨b0.toUInt32, ?_, by simp [hs, value]⟩
    rw [hs]
    simp [readItemData, h0, bind, Except.bind, pure, Except.pure]
  · obtain _ | ⟨b0, _ | ⟨b1, rest⟩⟩ := rest
    · simp [hs] at hb
    · simp [hs] at hb
    have h0 : fetch d i = .ok b0 := fetch_of_drop (k := 0) h rfl
    have h1 : fetch d (i + 1) = .ok b1 := fetch_of_drop h rfl
    refine ⟨b0.toUInt32 ||| (b1.toUInt32 <<< 8), ?_, ?_⟩
    · rw [hs]
      simp [readItemData, h0, h1, bind, Except.bind, pure, Except.pure]
    · rw [hs, toNat_two_bytes]
      rfl
  · obtain _ | ⟨b0, _ | ⟨b1, _ | ⟨b2, _ | ⟨b3, rest⟩⟩⟩⟩ := rest
    iterate 4 simp [hs] at hb
    have h0 : fetch d i = .ok b0 := fetch_of_drop (k := 0) h rfl
    have h1 : fetch d (i + 1) = .ok b1 := fetch_of_drop h rfl
    have h2 : fetch d (i + 2) = .ok b2 := fetch_of_drop h rfl
    have h3 : fetch d (i + 3) = .ok b3 := fetch_of_drop h rfl
    refine ⟨b0.toUInt32 ||| (b1.toUInt32 <<< 8) ||| (b2.toUInt32 <<< 16) ||| (b3.toUInt32 <<< 24),
      ?_, ?_⟩
    · rw [hs]
      simp [readItemData, h0, h1, h2, h3, bind, Except.bind, pure, Except.pure]
    · rw [hs, toNat_four_bytes]
      rfl

/-- The parser and the reference agree on what the tag of a Main item says. -/
theorem mainItemKind_eq_some {tag : UInt8} {kind : ReportKind} :
    mainItemKind tag = some kind ↔ tag = kind.mainTag := by
  unfold mainItemKind
  cases kind with
  | input =>
    split_ifs <;> simp_all [ReportKind.mainTag]
  | output =>
    split_ifs <;> simp_all [ReportKind.mainTag]
  | feature =>
    split_ifs <;> simp_all [ReportKind.mainTag]

theorem ReportKind.mainTag_injective : Function.Injective ReportKind.mainTag := by
  intro k k' h
  cases k <;> cases k' <;> first | rfl | exact absurd h (by decide)

/-- The global state a parser frame stands for. -/
def ParserFrame.global (f : ParserFrame) : GlobalState :=
  ⟨f.reportId.toNat, f.reportSize.toNat, f.reportCount.toNat⟩

abbrev ParserState.currentFrameOf (st : ParserState) (h : st.currentFrame < 32) : ParserFrame :=
  st.frames[st.currentFrame]

/-- The parser's frame array, accumulators and flag say what the reference interpreter's stack,
totals and the Report ID items seen so far say. -/
structure Agrees (st : ParserState) (s : Interpretation) (seen : Bool) : Prop where
  bound : st.currentFrame < 32
  top : s.top = (st.currentFrameOf bound).global
  below : s.below.reverse = (st.frames.toList.take st.currentFrame).map ParserFrame.global
  totals : ∀ k (id : UInt8), s.totals k id.toNat = ((st.reports.reportSizes id).get k).toNat
  numbered : st.reports.numberedReports = seen

namespace Agrees

variable {st : ParserState} {s : Interpretation} {seen : Bool}

theorem depth (h : Agrees st s seen) : s.below.length = st.currentFrame := by
  have hl := congrArg List.length h.below
  have hb := h.bound
  simp only [List.length_reverse, List.length_map, List.length_take, Vector.length_toList] at hl
  omega

theorem frame_eq (h : Agrees st s seen) : st.frame = .ok (st.currentFrameOf h.bound) := by
  simp [ParserState.frame, h.bound]

theorem initial : Agrees .initial .start false := by
  refine ⟨by decide, rfl, rfl, ?_, rfl⟩
  intro k id
  cases k <;> rfl

theorem setFrame (h : Agrees st s seen) {f : ParserFrame} {g : GlobalState} (he : g = f.global) :
    Agrees (st.setFrame f) { s with top := g } seen := by
  refine ⟨h.bound, ?_, ?_, h.totals, h.numbered⟩
  · simp [ParserState.setFrame, ParserState.currentFrameOf, he]
  · simp only [ParserState.setFrame, h.below, Vector.toList_setIfInBounds]
    rw [List.take_set_of_le (Nat.le_refl _)]

theorem push (h : Agrees st s seen) (hb : st.currentFrame + 1 < 32) :
    Agrees { st with
        frames := st.frames.setIfInBounds (st.currentFrame + 1) (st.currentFrameOf h.bound)
        currentFrame := st.currentFrame + 1 }
      { s with below := s.top :: s.below } seen := by
  refine ⟨hb, ?_, ?_, h.totals, h.numbered⟩
  · simp [ParserState.currentFrameOf, h.top]
  · have hlen : st.currentFrame < st.frames.toList.length := by simpa using h.bound
    simp only [Vector.toList_setIfInBounds, List.reverse_cons, h.below, h.top]
    rw [List.take_set_of_le (Nat.le_refl _), ← List.take_concat_get' _ _ hlen]
    simp

theorem pop (h : Agrees st s seen) {f : GlobalState} {below : List GlobalState}
    (hs : s.below = f :: below) :
    Agrees { st with currentFrame := st.currentFrame - 1 } { s with top := f, below := below }
      seen := by
  have hd := h.depth
  have hbound := h.bound
  rw [hs, List.length_cons] at hd
  have hlen : st.currentFrame - 1 < st.frames.toList.length := by simp; omega
  have hb := h.below
  rw [hs, List.reverse_cons, show st.currentFrame = st.currentFrame - 1 + 1 by omega,
    ← List.take_concat_get' _ _ hlen, List.map_append, List.map_singleton] at hb
  obtain ⟨hbelow, htop⟩ := List.append_inj' hb rfl
  refine ⟨by show st.currentFrame - 1 < 32; omega, ?_, hbelow, h.totals, h.numbered⟩
  simpa using htop

theorem numberReports (h : Agrees st s seen) :
    Agrees { st with reports := { st.reports with numberedReports := true } } s true :=
  ⟨h.bound, h.top, h.below, h.totals, rfl⟩

theorem addBits (h : Agrees st s seen) {tag : UInt8} {kind : ReportKind} {total : UInt32}
    (hk : tag = kind.mainTag) (ht : total.toNat = s.totals kind s.top.reportId + s.bits) :
    Agrees { st with reports :=
        st.reports.setSize (st.currentFrameOf h.bound).reportId kind total }
      (s.addBits tag) seen := by
  refine ⟨h.bound, h.top, h.below, ?_, h.numbered⟩
  intro k id
  have hid : s.top.reportId = (st.currentFrameOf h.bound).reportId.toNat := by
    rw [h.top]; rfl
  have htag : tag = k.mainTag ↔ k = kind := by
    rw [hk]
    exact ⟨fun h => (ReportKind.mainTag_injective h).symm, fun h => h ▸ rfl⟩
  simp only [ParsedReports.get_setSize, Interpretation.addBits, htag, hid, UInt8.toNat_inj]
  by_cases hk : id = (st.currentFrameOf h.bound).reportId ∧ k = kind
  · obtain ⟨rfl, rfl⟩ := hk
    simp [ht, hid]
  · rw [if_neg hk, if_neg (fun hc => hk ⟨hc.2, hc.1⟩)]
    exact h.totals k id

/-- A Main item with any other tag adds to no total. -/
theorem addBits_other (h : Agrees st s seen) {tag : UInt8}
    (hk : ∀ kind, tag ≠ ReportKind.mainTag kind) :
    Agrees st (s.addBits tag) seen := by
  refine ⟨h.bound, h.top, h.below, fun k id => ?_, h.numbered⟩
  rw [Interpretation.addBits]
  exact (if_neg fun hc => hk k hc.1).trans (h.totals k id)

end Agrees

/-- What the code makes of a short item: a state that agrees with the interpreted one where the
item is legal, an error status where it is not. -/
def Tracks (st : ParserState) (s : Interpretation) (seen : Bool) (item : Item)
    (result : Parse ParserState) : Prop :=
  (s.Legal item ∧ ∃ st', result = .ok st' ∧ st'.i = st.i ∧
    Agrees st' (s.interpret item) (seen || item.isReportId)) ∨
  (¬s.Legal item ∧ ∃ status left, result = .error (.failed status left))

section Items

variable {st : ParserState} {s : Interpretation} {seen : Bool}

theorem tracks_reportSize (h : Agrees st s seen) (data : UInt32) :
    Tracks st s seen (.short 0x7 1 data.toNat) (globalItem st 0x7 data) := by
  left
  refine ⟨by simp [Interpretation.Legal],
    st.setFrame { st.currentFrameOf h.bound with reportSize := data }, ?_, rfl, ?_⟩
  · simp [globalItem, h.frame_eq, bind, Except.bind, pure, Except.pure]
  · simpa [Interpretation.interpret, Item.isReportId] using h.setFrame (by rw [h.top]; rfl)

theorem tracks_reportCount (h : Agrees st s seen) (data : UInt32) :
    Tracks st s seen (.short 0x9 1 data.toNat) (globalItem st 0x9 data) := by
  left
  refine ⟨by simp [Interpretation.Legal],
    st.setFrame { st.currentFrameOf h.bound with reportCount := data }, ?_, rfl, ?_⟩
  · simp [globalItem, h.frame_eq, bind, Except.bind, pure, Except.pure]
  · simpa [Interpretation.interpret, Item.isReportId] using h.setFrame (by rw [h.top]; rfl)

theorem tracks_reportId (h : Agrees st s seen) (data : UInt32) :
    Tracks st s seen (.short 0x8 1 data.toNat) (globalItem st 0x8 data) := by
  by_cases hu : data.toNat ≤ 255
  · left
    have hid : data.toUInt8.toNat = data.toNat := by
      rw [UInt32.toNat_toUInt8]
      omega
    let f : ParserFrame := { st.currentFrameOf h.bound with reportId := data.toUInt8 }
    have hres : globalItem st 0x8 data = .ok { st.setFrame f with
        reports := { st.reports with numberedReports := true } } := by
      simp [globalItem, h.frame_eq, uLongToUChar, hu, bind, Except.bind, pure, Except.pure, f]
      rfl
    refine ⟨by simp [Interpretation.Legal, hu], _, hres, rfl, ?_⟩
    have hf : (⟨data.toNat, s.top.size, s.top.count⟩ : GlobalState) = f.global := by
      rw [h.top]
      simp only [ParserFrame.global, f, hid]
    have hi : s.interpret (.short 0x8 1 data.toNat) =
        { s with top := ⟨data.toNat, s.top.size, s.top.count⟩ } := by
      simp [Interpretation.interpret]
    rw [hi, show (seen || (Item.short 0x8 1 data.toNat).isReportId) = true by
      simp [Item.isReportId]]
    exact (h.setFrame hf).numberReports
  · right
    refine ⟨by simp [Interpretation.Legal, hu], statusInvalidParameter, st.reports, ?_⟩
    simp [globalItem, h.frame_eq, uLongToUChar, hu, bind, Except.bind]

theorem tracks_push (h : Agrees st s seen) (data : UInt32) :
    Tracks st s seen (.short 0xA 1 data.toNat) (globalItem st 0xA data) := by
  have hd := h.depth
  by_cases hp : st.currentFrame + 1 < 32
  · left
    have hres : globalItem st 0xA data = .ok { st with
        frames := st.frames.setIfInBounds (st.currentFrame + 1) (st.currentFrameOf h.bound)
        currentFrame := st.currentFrame + 1 } := by
      simp [globalItem, h.frame_eq, show ¬32 ≤ st.currentFrame + 1 by omega, bind, Except.bind,
        pure, Except.pure]
    refine ⟨by simp [Interpretation.Legal]; omega, _, hres, rfl, ?_⟩
    simpa [Interpretation.interpret, Item.isReportId] using h.push hp
  · right
    refine ⟨by simp [Interpretation.Legal]; omega, statusNotImplemented, st.reports, ?_⟩
    simp [globalItem, show 32 ≤ st.currentFrame + 1 by omega]

theorem tracks_pop (h : Agrees st s seen) (data : UInt32) :
    Tracks st s seen (.short 0xB 1 data.toNat) (globalItem st 0xB data) := by
  have hd := h.depth
  cases hs : s.below with
  | nil =>
    right
    have h0 : st.currentFrame = 0 := by simpa [hs] using hd.symm
    refine ⟨by simp [Interpretation.Legal, hs], statusInvalidParameter, st.reports, ?_⟩
    simp [globalItem, h0]
  | cons f below =>
    left
    have h0 : st.currentFrame ≠ 0 := by
      simp only [hs, List.length_cons] at hd
      omega
    have hres : globalItem st 0xB data = .ok { st with currentFrame := st.currentFrame - 1 } := by
      simp [globalItem, h0, pure, Except.pure]
    refine ⟨by simp [Interpretation.Legal, hs], _, hres, rfl, ?_⟩
    simpa [Interpretation.interpret, Interpretation.pop, hs, Item.isReportId] using h.pop hs

theorem tracks_globalItem (h : Agrees st s seen) (tag : UInt8) (data : UInt32) :
    Tracks st s seen (.short tag 1 data.toNat) (globalItem st tag data) := by
  by_cases h7 : tag = 0x7
  · subst h7; exact tracks_reportSize h data
  by_cases h8 : tag = 0x8
  · subst h8; exact tracks_reportId h data
  by_cases h9 : tag = 0x9
  · subst h9; exact tracks_reportCount h data
  by_cases hA : tag = 0xA
  · subst hA; exact tracks_push h data
  by_cases hB : tag = 0xB
  · subst hB; exact tracks_pop h data
  left
  refine ⟨by simp [Interpretation.Legal, h8, hA, hB], st, ?_, rfl, ?_⟩
  · simp [globalItem, h7, h8, h9, hA, hB, pure, Except.pure]
  · have hseen : (seen || (Item.short tag 1 data.toNat).isReportId) = seen := by
      simp [Item.isReportId, h8]
    rw [hseen]
    simpa [Interpretation.interpret, h7, h8, h9, hA, hB] using h

theorem uLongMult_frame (h : Agrees st s seen) :
    (s.bits < 2 ^ 32 ∧ ∃ bits : UInt32, bits.toNat = s.bits ∧
      uLongMult (st.currentFrameOf h.bound).reportSize
        (st.currentFrameOf h.bound).reportCount = some bits) ∨
    (¬s.bits < 2 ^ 32 ∧ uLongMult (st.currentFrameOf h.bound).reportSize
        (st.currentFrameOf h.bound).reportCount = none) := by
  have hbits : s.bits = (st.currentFrameOf h.bound).reportSize.toNat *
      (st.currentFrameOf h.bound).reportCount.toNat := by
    rw [Interpretation.bits, h.top]; rfl
  unfold uLongMult
  rw [← hbits]
  by_cases hm : s.bits < 2 ^ 32
  · exact .inl ⟨hm, _, by rw [UInt32.toNat_mul, ← hbits, Nat.mod_eq_of_lt hm], if_pos hm⟩
  · exact .inr ⟨hm, if_neg hm⟩

theorem tracks_mainItem (h : Agrees st s seen) (tag : UInt8) (data : Nat) :
    Tracks st s seen (.short tag 0 data) (mainItem st tag) := by
  have hne : (0 : UInt8) ≠ 1 := by decide
  have hseen : (seen || (Item.short tag 0 data).isReportId) = seen := by simp [Item.isReportId]
  rcases uLongMult_frame h with ⟨hm, bits, hbits, hmult⟩ | ⟨hm, hmult⟩
  · cases hk : mainItemKind tag with
    | none =>
      left
      have other : ∀ kind, tag ≠ ReportKind.mainTag kind := by
        intro kind he
        simp [mainItemKind_eq_some.mpr he] at hk
      refine ⟨⟨fun h0 => absurd h0 hne, fun _ => ⟨hm, fun kind he => absurd he (other kind)⟩⟩, st,
        ?_, rfl, ?_⟩
      · simp [mainItem, h.frame_eq, hmult, hk, bind, Except.bind, pure, Except.pure]
      · rw [hseen]
        exact h.addBits_other other
    | some kind =>
      have htag := mainItemKind_eq_some.mp hk
      have hid : s.top.reportId = (st.currentFrameOf h.bound).reportId.toNat := by
        rw [h.top]; rfl
      have htotal := h.totals kind (st.currentFrameOf h.bound).reportId
      rw [← hid] at htotal
      by_cases ha : s.totals kind s.top.reportId + s.bits < 2 ^ 32
      · left
        have hadd : uLongAdd ((st.reports.reportSizes
            (st.currentFrameOf h.bound).reportId).get kind) bits =
            some ((st.reports.reportSizes
              (st.currentFrameOf h.bound).reportId).get kind + bits) := by
          rw [uLongAdd, if_pos (by omega)]
        let id := (st.currentFrameOf h.bound).reportId
        let total := (st.reports.reportSizes id).get kind + bits
        have hres : mainItem st tag =
            .ok { st with reports := st.reports.setSize id kind total } := by
          simp [mainItem, h.frame_eq, hmult, hk, hadd, bind, Except.bind, pure, Except.pure, id,
            total]
        refine ⟨⟨fun h0 => absurd h0 hne, fun _ => ⟨hm, fun kind' he => ?_⟩⟩, _, hres, rfl, ?_⟩
        · cases hk.symm.trans (mainItemKind_eq_some.mpr he)
          exact ha
        · rw [hseen]
          apply h.addBits htag
          rw [UInt32.toNat_add, hbits, ← htotal, Nat.mod_eq_of_lt ha]
      · right
        have hadd : uLongAdd ((st.reports.reportSizes
            (st.currentFrameOf h.bound).reportId).get kind) bits = none := by
          rw [uLongAdd, if_neg (by omega)]
        refine ⟨fun hl => ha ((hl.2 rfl).2 kind htag), statusIntegerOverflow, st.reports.setSize
          (st.currentFrameOf h.bound).reportId kind uLongError, ?_⟩
        simp only [mainItem, h.frame_eq, hmult, hk, hadd, bind, Except.bind]
  · right
    refine ⟨fun hl => hm (hl.2 rfl).1, statusIntegerOverflow, st.reports, ?_⟩
    simp [mainItem, h.frame_eq, hmult, bind, Except.bind]

/-- A short item lies in front of the cursor: the whole iteration does what the item means. -/
theorem parseItem_short (h : Agrees st s seen) {d : List UInt8} {header : UInt8}
    {rest : List UInt8} (hd : d.drop st.i = header :: rest) (ht : prefixTag header ≠ 0xF)
    (hb : shortDataSize header ≤ rest.length) :
    Tracks { st with i := st.i + 1 + shortDataSize header } s seen (itemAt header rest)
      (parseItem d st) := by
  have hl := congrArg List.length hd
  simp only [List.length_drop, List.length_cons] at hl
  have hdrop : d.drop (st.i + 1) = rest := by rw [← List.drop_drop, hd]; rfl
  obtain ⟨data, hdata, hval⟩ := readItemData_short hdrop hb
  have hitem : itemAt header rest = .short (prefixTag header) (prefixType header) data.toNat := by
    have hne : header ≠ longItemPrefix := by
      rintro rfl
      exact ht prefixTag_longItemPrefix
    rw [itemAt, if_neg hne, hval]
  have h' : Agrees { st with i := st.i + 1 + shortDataSize header } s seen :=
    ⟨h.bound, h.top, h.below, h.totals, h.numbered⟩
  have hparse : parseItem d st =
      if prefixType header = 0x01 then
        globalItem { st with i := st.i + 1 + shortDataSize header } (prefixTag header) data
      else if prefixType header = 0x00 then
        mainItem { st with i := st.i + 1 + shortDataSize header } (prefixTag header)
      else .ok { st with i := st.i + 1 + shortDataSize header } := by
    simp only [parseItem, readItemHeader_short hd ht, bind, Except.bind]
    rw [if_neg (by omega), hdata]
    rfl
  rw [hparse, hitem]
  by_cases h1 : prefixType header = 0x01
  · rw [if_pos h1, h1]
    exact tracks_globalItem h' _ _
  by_cases h0 : prefixType header = 0x00
  · rw [if_neg h1, if_pos h0, h0]
    exact tracks_mainItem h' _ _
  rw [if_neg h1, if_neg h0]
  left
  refine ⟨by simp [Interpretation.Legal, h0, h1], _, rfl, rfl, ?_⟩
  have hseen : (seen || (Item.short (prefixTag header) (prefixType header)
      data.toNat).isReportId) = seen := by simp [Item.isReportId, h1]
  rw [hseen]
  simpa [Interpretation.interpret, h0, h1] using h'

theorem parseItem_short_truncated {d : List UInt8} {header : UInt8} {rest : List UInt8}
    (hd : d.drop st.i = header :: rest) (ht : prefixTag header ≠ 0xF)
    (hb : rest.length < shortDataSize header) :
    parseItem d st = .error (.failed statusInvalidParameter st.reports) := by
  have hl := congrArg List.length hd
  simp only [List.length_drop, List.length_cons] at hl
  simp only [parseItem, readItemHeader_short hd ht, bind, Except.bind]
  rw [if_pos (by omega)]

/-- A long item only moves the cursor: its type is neither Main nor Global. -/
theorem parseItem_long {d : List UInt8} {size tag : UInt8} {rest : List UInt8}
    (hd : d.drop st.i = longItemPrefix :: size :: tag :: rest) (hb : size.toNat ≤ rest.length) :
    parseItem d st = .ok { st with i := st.i + 3 + size.toNat } := by
  have hl := congrArg List.length hd
  simp only [List.length_drop, List.length_cons] at hl
  have h1 : prefixType longItemPrefix ≠ 0x01 := by decide
  have h0 : prefixType longItemPrefix ≠ 0x00 := by decide
  obtain ⟨data, hdata⟩ := @readItemData_ok d (st.i + 3) size.toNat (by omega)
  simp only [parseItem, readItemHeader_long hd, bind, Except.bind]
  rw [if_neg (by omega), hdata]
  cases data with
  | none => rfl
  | some data =>
    simp only
    rw [if_neg h1, if_neg h0]
    rfl

theorem parseItem_long_truncated {d : List UInt8} {rest : List UInt8}
    (hd : d.drop st.i = longItemPrefix :: rest)
    (hb : rest.length < itemExtent longItemPrefix rest) :
    parseItem d st = .error (.failed statusInvalidParameter st.reports) := by
  have hl := congrArg List.length hd
  simp only [List.length_drop, List.length_cons] at hl
  obtain _ | ⟨size, _ | ⟨tag, rest⟩⟩ := rest
  · simp only [parseItem, readItemHeader_long_truncated hd (by simp), bind, Except.bind]
  · simp only [parseItem, readItemHeader_long_truncated hd (by simp), bind, Except.bind]
  · simp only [itemExtent, ↓reduceIte, List.length_cons] at hb hl
    simp only [parseItem, readItemHeader_long hd, bind, Except.bind]
    rw [if_pos (by omega)]

/-- One iteration of the loop: a truncated item fails, any other is tracked and the cursor moves
past it. -/
theorem parseItem_cases (h : Agrees st s seen) {d : List UInt8} {header : UInt8}
    {rest : List UInt8} (hd : d.drop st.i = header :: rest)
    (hp : prefixTag header = 0xF → header = longItemPrefix) :
    (rest.length < itemExtent header rest ∧
      parseItem d st = .error (.failed statusInvalidParameter st.reports)) ∨
    (itemExtent header rest ≤ rest.length ∧
      Tracks { st with i := st.i + 1 + itemExtent header rest } s seen (itemAt header rest)
        (parseItem d st)) := by
  by_cases ht : prefixTag header = 0xF
  · have hlong := hp ht
    subst hlong
    rcases Nat.lt_or_ge rest.length (itemExtent longItemPrefix rest) with hb | hb
    · exact .inl ⟨hb, parseItem_long_truncated hd hb⟩
    · refine .inr ⟨hb, .inl ⟨trivial, _, ?_, rfl, ?_⟩⟩
      rotate_left
      · exact ⟨h.bound, h.top, h.below, h.totals, by simp [itemAt, Item.isReportId, h.numbered]⟩
      · obtain _ | ⟨size, _ | ⟨tag, rest⟩⟩ := rest
        · simp [itemExtent] at hb
        · simp [itemExtent] at hb
        · have he : itemExtent longItemPrefix (size :: tag :: rest) = 2 + size.toNat := rfl
          rw [he] at hb ⊢
          simp only [List.length_cons] at hb
          rw [parseItem_long hd (by omega), show st.i + 1 + (2 + size.toNat) =
            st.i + 3 + size.toNat by omega]
  · have hne : header ≠ longItemPrefix := by
      rintro rfl
      exact ht prefixTag_longItemPrefix
    have he : itemExtent header rest = shortDataSize header := by simp [itemExtent, hne]
    rw [he]
    rcases Nat.lt_or_ge rest.length (shortDataSize header) with hb | hb
    · exact .inl ⟨hb, parseItem_short_truncated hd ht hb⟩
    · exact .inr ⟨hb, parseItem_short h hd ht hb⟩

end Items

/-- The loop from an agreeing state: it returns a state that agrees with the interpretation of
all remaining items when these can be split off and are legal, and an error status otherwise. -/
theorem parseLoop_agrees {d : List UInt8} (fuel : Nat) {st : ParserState} {s : Interpretation}
    {seen : Bool} {rest : List UInt8} (h : Agrees st s seen) (hd : d.drop st.i = rest)
    (hfuel : rest.length ≤ fuel)
    (hp : ∀ b ∈ itemPrefixes rest, prefixTag b = 0xF → b = longItemPrefix) :
    (∃ st' items, parseLoop d fuel st = .ok st' ∧ splitItems rest = some items ∧
      s.AllLegal items ∧
      Agrees st' (items.foldl Interpretation.interpret s) (seen || items.any Item.isReportId)) ∨
    (∃ status left, parseLoop d fuel st = .error (.failed status left) ∧
      ∀ items, splitItems rest = some items → ¬s.AllLegal items) := by
  have hlen := congrArg List.length hd
  simp only [List.length_drop] at hlen
  induction fuel generalizing st s seen rest with
  | zero =>
    obtain rfl : rest = [] := List.length_eq_zero_iff.mp (by omega)
    simp only [List.length_nil] at hlen
    refine .inl ⟨st, [], ?_, by rw [splitItems], trivial, by simpa using h⟩
    rw [parseLoop, if_neg (by omega)]
    rfl
  | succ fuel ih =>
    cases rest with
    | nil =>
      simp only [List.length_nil] at hlen
      refine .inl ⟨st, [], ?_, by rw [splitItems], trivial, by simpa using h⟩
      rw [parseLoop, if_neg (by omega)]
      rfl
    | cons header rest =>
      simp only [List.length_cons] at hlen hfuel
      rw [itemPrefixes_cons] at hp
      have hloop : parseLoop d (fuel + 1) st = parseItem d st >>= parseLoop d fuel := by
        rw [parseLoop, if_pos (by omega)]
      rw [hloop]
      rcases parseItem_cases h hd (hp header List.mem_cons_self) with
        ⟨hb, he⟩ | ⟨hb, ⟨hlegal, st', hok, hi, hagrees⟩ | ⟨hlegal, status, left, he⟩⟩
      · refine .inr ⟨_, _, by rw [he]; rfl, fun items hs => ?_⟩
        exact absurd (splitItems_cons.mp hs).1 (by omega)
      · have hd' : d.drop st'.i = rest.drop (itemExtent header rest) := by
          rw [hi, ← List.drop_drop, ← List.drop_drop, hd]
          rfl
        have hlen' := congrArg List.length hd'
        simp only [List.length_drop] at hlen'
        rw [hok]
        rcases ih hagrees hd' (by simp; omega)
          (fun b hb => hp b (List.mem_cons_of_mem _ hb)) (by simp; omega) with
          ⟨last, items, hl, hs, hall, ha⟩ | ⟨status, left, hl, hbad⟩
        · refine .inl ⟨last, itemAt header rest :: items, hl, ?_, ⟨hlegal, hall⟩, ?_⟩
          · exact splitItems_cons.mpr ⟨hb, items, hs, rfl⟩
          · simpa [Bool.or_assoc] using ha
        · refine .inr ⟨status, left, hl, fun items hs hall => ?_⟩
          obtain ⟨_, tail, htail, rfl⟩ := splitItems_cons.mp hs
          exact hbad tail htail hall.2
      · refine .inr ⟨status, left, by rw [he]; rfl, fun items hs hall => ?_⟩
        obtain ⟨_, tail, _, rfl⟩ := splitItems_cons.mp hs
        exact hlegal hall.1

theorem toNat_finalReportSize (numbered : Bool) (size : UInt32) :
    (finalReportSize numbered size).toNat = byteSize numbered size.toNat := by
  have hs := size.toNat_lt
  have hdiv : (size / 8).toNat = size.toNat / 8 := by simp
  have hmod : (size % 8).toNat = size.toNat % 8 := by simp
  have hz : size = 0 ↔ size.toNat = 0 := by rw [← UInt32.toNat_inj]; rfl
  have hr : size % 8 = 0 ↔ size.toNat % 8 = 0 := by rw [← hmod, ← UInt32.toNat_inj]; rfl
  have hone : (1 : UInt32).toNat = 1 := rfl
  unfold finalReportSize postProcessReportSize byteSize
  by_cases h0 : size.toNat = 0
  · rw [if_neg (by simpa using hz.mpr h0), if_pos h0, h0]
  · rw [if_pos (fun h => h0 (hz.mp h)), if_neg h0]
    by_cases h8 : size.toNat % 8 = 0
    · cases numbered
      · simp only [ne_eq, hr.mpr h8, not_true_eq_false, if_false, Bool.false_eq_true, hdiv]
        omega
      · simp only [ne_eq, hr.mpr h8, not_true_eq_false, if_false, if_true, UInt32.toNat_add, hdiv,
          hone]
        omega
    · have hne : ¬size % 8 = 0 := fun h => h8 (hr.mp h)
      cases numbered
      · simp only [ne_eq, hne, not_false_eq_true, if_true, Bool.false_eq_true, if_false,
          UInt32.toNat_add, hdiv, hone]
        omega
      · simp only [ne_eq, hne, not_false_eq_true, if_true, UInt32.toNat_add, hdiv, hone]
        omega

/-- `ParseReportDescriptor` against the reference interpreter, for descriptors in which a prefix
byte with tag 0xF is always that of a long item. -/
theorem parseReportDescriptor_agrees (d : ReportDescriptor)
    (hp : ∀ b ∈ itemPrefixes d.bytes, prefixTag b = 0xF → b = longItemPrefix) :
    ((∃ r, parseReportDescriptor d = .ok r) ↔
      ∃ items, splitItems d.bytes = some items ∧ Interpretation.start.AllLegal items) ∧
    ∀ r items, parseReportDescriptor d = .ok r → splitItems d.bytes = some items →
      r.numberedReports = items.any Item.isReportId ∧
      ∀ kind (id : UInt8), ((r.reportSizes id).get kind).toNat =
        byteSize (items.any Item.isReportId)
          ((items.foldl Interpretation.interpret .start).totals kind id.toNat) := by
  rcases parseLoop_agrees d.bytes.length Agrees.initial rfl (Nat.le_refl _) hp with
    ⟨st, items, hl, hs, hall, ha⟩ | ⟨status, left, hl, hbad⟩
  · have hr : parseReportDescriptor d = .ok st.reports.postProcess := by
      simp only [parseReportDescriptor, hl]
      rfl
    refine ⟨⟨fun _ => ⟨items, hs, hall⟩, fun _ => ⟨_, hr⟩⟩, ?_⟩
    intro r items' hr' hs'
    cases Option.some.inj (hs.symm.trans hs')
    cases Except.ok.inj (hr.symm.trans hr')
    refine ⟨ha.numbered.trans (Bool.false_or _), ?_⟩
    intro kind id
    rw [ParsedReports.get_postProcess, toNat_finalReportSize, ha.totals, ha.numbered]
    simp
  · have he : parseReportDescriptor d = .error (.failed status left) := by
      simp only [parseReportDescriptor, hl]
      rfl
    refine ⟨⟨?_, ?_⟩, ?_⟩
    · rintro ⟨r, hr⟩
      simp [he] at hr
    · rintro ⟨items, hs, hall⟩
      exact absurd hall (hbad items hs)
    · intro r items hr
      simp [he] at hr

/-- Report ID 1 with four bytes of Input, two of Output and one bit of Feature after a long item. -/
def threeKindsDescriptor : ReportDescriptor :=
  ⟨[0x85, 0x01, 0x75, 0x08, 0x95, 0x04, 0x81, 0x02, 0x95, 0x02, 0x91, 0x02, 0xFE, 0x01, 0x00, 0x55,
    0x75, 0x01, 0x95, 0x01, 0xB1, 0x02], by decide⟩

def threeKindsItems : List Item :=
  [.short 0x8 1 1, .short 0x7 1 8, .short 0x9 1 4, .short 0x8 0 2, .short 0x9 1 2, .short 0x9 0 2,
    .long, .short 0x7 1 1, .short 0x9 1 1, .short 0xB 0 2]

theorem splitItems_threeKinds : splitItems threeKindsDescriptor.bytes = some threeKindsItems := by
  iterate 10 refine splitItems_cons.mpr ⟨by decide, _, ?_, rfl⟩
  rw [show List.drop _ _ = ([] : List UInt8) from rfl, splitItems]

theorem parseReportDescriptor_agrees_threeKinds : ∃ r,
    parseReportDescriptor threeKindsDescriptor = .ok r ∧ r.numberedReports = true ∧
      ((r.reportSizes 1).get .input).toNat = 5 ∧ ((r.reportSizes 1).get .output).toNat = 3 ∧
      ((r.reportSizes 1).get .feature).toNat = 2 ∧ ((r.reportSizes 2).get .input).toNat = 0 := by
  have hp : ∀ b ∈ itemPrefixes threeKindsDescriptor.bytes,
      prefixTag b = 0xF → b = longItemPrefix := by
    have he : itemPrefixes threeKindsDescriptor.bytes =
        [0x85, 0x75, 0x95, 0x81, 0x95, 0x91, 0xFE, 0x75, 0x95, 0xB1] := by
      simp +decide [threeKindsDescriptor, itemPrefixes, itemExtent, shortDataSize]
    rw [he]
    decide +kernel
  have h := parseReportDescriptor_agrees threeKindsDescriptor hp
  have hlegal : Interpretation.start.AllLegal threeKindsItems := by
    simp +decide [threeKindsItems, Interpretation.AllLegal, Interpretation.Legal,
      Interpretation.interpret, Interpretation.start, Interpretation.bits, Interpretation.addBits]
    refine ⟨fun kind => ?_, fun kind => ?_⟩ <;> cases kind <;> decide
  obtain ⟨r, hr⟩ := h.1.mpr ⟨_, splitItems_threeKinds, hlegal⟩
  obtain ⟨hn, hsize⟩ := h.2 r _ hr splitItems_threeKinds
  exact ⟨r, hr, hn, (hsize .input 1).trans (by decide), (hsize .output 1).trans (by decide),
    (hsize .feature 1).trans (by decide), (hsize .input 2).trans (by decide)⟩

end WinUHid
