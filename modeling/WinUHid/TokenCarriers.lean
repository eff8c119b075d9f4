import WinUHid.TokenGate

namespace WinUHid

open Utf8

theorem trim_trim (s : List Char) : trim (trim s) = trim s := by
  have head : (trim s).dropWhile isWhitespace = trim s := by
    refine List.dropWhile_eq_self_iff.mpr fun hl => ?_
    have pre : trim s <+: s.dropWhile isWhitespace := List.rdropWhile_prefix _ _
    have longer : 0 < (s.dropWhile isWhitespace).length := lt_of_lt_of_le hl pre.length_le
    rw [pre.getElem hl]
    exact List.dropWhile_get_zero_not isWhitespace s longer
  rw [trim, head]
  exact List.rdropWhile_idempotent _ _

section Header

theorem isVisibleAscii_ofNat {c : Char} (h : IsVisible c) :
    isVisibleAscii (UInt8.ofNat c.toNat) = true := by
  have small : (UInt8.ofNat c.toNat).toNat = c.toNat := by
    rw [UInt8.toNat_ofNat']
    have := h
    unfold IsVisible at this
    omega
  unfold IsVisible at h
  simp only [isVisibleAscii, Bool.or_eq_true, Bool.and_eq_true, decide_eq_true_eq, beq_iff_eq,
    UInt8.le_iff_toNat_le, UInt8.lt_iff_toNat_lt, ← UInt8.toNat_inj, small, UInt8.reduceToNat]
  omega

theorem isVisible_ofNat {b : UInt8} (h : isVisibleAscii b = true) :
    IsVisible (Char.ofNat b.toNat) ∧ (Char.ofNat b.toNat).toNat = b.toNat := by
  have same : ∀ b : UInt8, (Char.ofNat b.toNat).toNat = b.toNat := forall_byte (by decide +kernel)
  refine ⟨?_, same b⟩
  simp only [isVisibleAscii, Bool.or_eq_true, Bool.and_eq_true, decide_eq_true_eq, beq_iff_eq,
    UInt8.le_iff_toNat_le, UInt8.lt_iff_toNat_lt, ← UInt8.toNat_inj, UInt8.reduceToNat] at h
  rw [IsVisible, same b]
  omega

theorem encode_visible {s : List Char} (h : ∀ c ∈ s, IsVisible c) :
    encode s = s.map fun c => UInt8.ofNat c.toNat := by
  induction s with
  | nil => rfl
  | cons c s ih =>
    have ascii : c.toNat ≤ 0x7F := by
      have := h c (by simp)
      unfold IsVisible at this
      omega
    rw [encode_cons, encodeChar_ascii ascii, ih fun d hd => h d (by simp [hd])]
    rfl

theorem headerToStr_eq_some_iff {value : List UInt8} {s : List Char} :
    headerToStr value = some s ↔ value = encode s ∧ ∀ c ∈ s, IsVisible c := by
  unfold headerToStr
  constructor
  · intro h
    split at h
    next visible =>
      cases h
      rw [List.all_eq_true] at visible
      have all : ∀ c ∈ value.map fun b => Char.ofNat b.toNat, IsVisible c := by
        intro c hc
        obtain ⟨b, hb, rfl⟩ := List.mem_map.mp hc
        exact (isVisible_ofNat (visible b hb)).1
      refine ⟨?_, all⟩
      rw [encode_visible all, List.map_map]
      conv_lhs => rw [← List.map_id value]
      refine List.map_congr_left fun b hb => ?_
      rw [Function.comp_apply, (isVisible_ofNat (visible b hb)).2]
      simp
    next => cases h
  · rintro ⟨rfl, visible⟩
    rw [encode_visible visible, if_pos, List.map_map]
    · congr 1
      conv_rhs => rw [← List.map_id s]
      refine List.map_congr_left fun c hc => ?_
      have := visible c hc
      unfold IsVisible at this
      rw [Function.comp_apply, UInt8.toNat_ofNat', Nat.mod_eq_of_lt (by omega), Char.ofNat_toNat]
      rfl
    · rw [List.all_eq_true]
      intro b hb
      obtain ⟨c, hc, rfl⟩ := List.mem_map.mp hb
      exact isVisibleAscii_ofNat (visible c hc)

theorem extractBearer_eq_some_iff {req : TokenRequest} {token : List Char} :
    extractBearer req.authorization = some token ↔
      ∃ credentials, CarriesBearer req credentials ∧ trim credentials = token := by
  have schemes : (∀ c ∈ bearerScheme, IsVisible c) ∧ ∀ c ∈ lowercaseScheme, IsVisible c := by
    simp [bearerScheme, lowercaseScheme, IsVisible]
  have both : ∀ {s t : List Char}, (∀ c ∈ s, IsVisible c) → (∀ c ∈ t, IsVisible c) →
      ∀ c ∈ s ++ t, IsVisible c := by
    intro s t hs ht c hc
    exact (List.mem_append.mp hc).elim (hs c) (ht c)
  have dropped : ∀ raw scheme rest : List Char,
      raw.dropPrefix? scheme = some rest ↔ raw = scheme ++ rest := by
    intro raw scheme rest
    rw [List.dropPrefix?_eq_some_iff]
    simp
  unfold extractBearer
  constructor
  · intro h
    obtain ⟨value, hv, hraw⟩ := Option.bind_eq_some_iff.mp h
    obtain ⟨raw, hr, htoken⟩ := Option.bind_eq_some_iff.mp hraw
    obtain ⟨credentials, hc, htrim⟩ := Option.bind_eq_some_iff.mp htoken
    obtain ⟨rfl, visible⟩ := headerToStr_eq_some_iff.mp hr
    refine ⟨credentials, ?_, Option.some.inj htrim⟩
    rcases Option.or_eq_some_iff.mp hc with hc | ⟨-, hc⟩
    · obtain rfl := (dropped _ _ _).mp hc
      exact ⟨.inl hv, fun c hc => visible c (by simp [hc])⟩
    · obtain rfl := (dropped _ _ _).mp hc
      exact ⟨.inr hv, fun c hc => visible c (by simp [hc])⟩
  · rintro ⟨credentials, ⟨hv | hv, visible⟩, rfl⟩
    · have raw := headerToStr_eq_some_iff.mpr ⟨rfl, both schemes.1 visible⟩
      have stripped := (dropped (bearerScheme ++ credentials) bearerScheme credentials).mpr rfl
      simp [hv, raw, stripped]
    · have raw := headerToStr_eq_some_iff.mpr ⟨rfl, both schemes.2 visible⟩
      have stripped :=
        (dropped (lowercaseScheme ++ credentials) lowercaseScheme credentials).mpr rfl
      have other : (lowercaseScheme ++ credentials).dropPrefix? bearerScheme = none := rfl
      simp [hv, raw, stripped, other]

theorem HeaderPresents.unique {req : TokenRequest} {s t : List Char} (hs : HeaderPresents s req)
    (ht : HeaderPresents t req) : s = t := by
  have differ : ∀ s t, bearerScheme ++ s ≠ lowercaseScheme ++ t := by
    intro s t h
    simp [bearerScheme, lowercaseScheme] at h
  rcases hs with hs | hs <;> rcases ht with ht | ht <;>
    have same := encode_injective (Option.some.inj (hs.symm.trans ht))
  · exact List.append_cancel_left same
  · exact absurd same (differ s t)
  · exact absurd same.symm (differ t s)
  · exact List.append_cancel_left same

end Header

section Query

theorem extractQueryToken_eq_some (req : TokenRequest) :
    ∃ token, extractQueryToken req.query = some token := by
  unfold extractQueryToken
  split
  · exact ⟨_, rfl⟩
  · split
    · exact ⟨_, rfl⟩
    · rw [percentDecode_eq]
      exact ⟨_, rfl⟩

theorem extractQueryToken_eq_some_iff {req : TokenRequest} {token : List Char} :
    extractQueryToken req.query = some (some token) ↔ QueryPresents token req := by
  unfold extractQueryToken
  constructor
  · intro h
    split at h
    · cases h
    next query hq =>
      split at h
      · cases h
      next pair hp =>
        rw [percentDecode_eq] at h
        obtain ⟨hkey, before, after, hs, hbefore⟩ := List.find?_eq_some_iff_append.mp hp
        refine ⟨query, before, pair, after, hq, hs, fun earlier he => ?_, of_decide_eq_true hkey,
          Option.some.inj (Option.some.inj h)⟩
        simpa using hbefore earlier he
  · rintro ⟨query, before, pair, after, hq, hs, hbefore, hkey, rfl⟩
    have found : (query.splitOn ampersandByte).find? (fun pair => (splitPair pair).1 = tokenKey) =
        some pair :=
      List.find?_eq_some_iff_append.mpr ⟨decide_eq_true hkey, before, after, hs,
        fun earlier he => by simpa using hbefore earlier he⟩
    simp only [hq, found, percentDecode_eq, Option.map_some]

/-- The query with which the frontend opens its sockets. -/
def tokenQuery (token : List Char) : List UInt8 :=
  tokenKey ++ equalsByte :: encodeURIComponent token

theorem mem_encodeURIComponent {b : UInt8} {s : List Char} (h : b ∈ encodeURIComponent s) :
    b ≠ ampersandByte := by
  obtain ⟨byte, -, hb⟩ := List.mem_flatMap.mp h
  have none : ∀ byte : UInt8, ampersandByte ∉ escapeByte byte := forall_byte (by decide +kernel)
  rintro rfl
  exact none byte hb

theorem ampersand_not_mem_tokenQuery (token : List Char) : ampersandByte ∉ tokenQuery token := by
  intro hm
  rcases List.mem_append.mp hm with hk | hv
  · revert hk
    decide
  · rcases List.mem_cons.mp hv with he | hv
    · revert he
      decide
    · exact mem_encodeURIComponent hv rfl

theorem splitPair_tokenQuery (token : List Char) :
    splitPair (tokenQuery token) = (tokenKey, encodeURIComponent token) := by
  simp [splitPair, tokenQuery, tokenKey, equalsByte]

/-- The parameters of a query. -/
def joinParameters (parameters : List (List UInt8)) : List UInt8 :=
  [ampersandByte].intercalate parameters

/-- A parameter whose key is not `token`. -/
structure OtherParameter (parameter : List UInt8) : Prop where
  single : ampersandByte ∉ parameter
  key : parameter.takeWhile (· ≠ equalsByte) ≠ tokenKey

/-- The token is found behind other parameters, whatever comes after it. -/
theorem queryPresents_joined (before after : List (List UInt8)) (token : List Char)
    (header : Option (List UInt8)) (hb : ∀ p ∈ before, OtherParameter p)
    (ha : ∀ p ∈ after, ampersandByte ∉ p) :
    QueryPresents token
      ⟨header, some (joinParameters (before ++ tokenQuery token :: after))⟩ := by
  have single : ∀ p ∈ before ++ tokenQuery token :: after, ampersandByte ∉ p := by
    intro p hp
    rcases List.mem_append.mp hp with hp | hp
    · exact (hb p hp).single
    · rcases List.mem_cons.mp hp with rfl | hp
      · exact ampersand_not_mem_tokenQuery token
      · exact ha p hp
  have split := List.splitOn_intercalate ampersandByte single (by simp)
  have decoded := percentDecode_encodeURIComponent token
  rw [percentDecode_eq, Option.some.injEq] at decoded
  refine ⟨_, before, tokenQuery token, after, rfl, split, fun p hp => (hb p hp).key, ?_, ?_⟩
  · rw [splitPair_tokenQuery]
  · rw [splitPair_tokenQuery, decoded]

theorem queryPresents_tokenQuery (token : List Char) (header : Option (List UInt8)) :
    QueryPresents token ⟨header, some (tokenQuery token)⟩ := by
  have alone : joinParameters [tokenQuery token] = tokenQuery token := by simp [joinParameters]
  have joined := queryPresents_joined [] [] token header nofun nofun
  rwa [List.nil_append, alone] at joined

/-- What the frontend puts into the query comes back, among other parameters as well; and the
decoder returns on every input. -/
theorem queryToken_roundTrip (token : List Char) (before after : List (List UInt8))
    (hb : ∀ p ∈ before, OtherParameter p) (ha : ∀ p ∈ after, OtherParameter p) :
    extractQueryToken (some (joinParameters (before ++ tokenQuery token :: after))) =
        some (some token) ∧
      ∀ s, (percentDecode s).isSome := by
  have presents := queryPresents_joined before after token none hb fun p hp => (ha p hp).single
  exact ⟨extractQueryToken_eq_some_iff.mpr presents, fun s => by simp⟩

theorem queryToken_roundTrip_umlaut :
    extractQueryToken (some (joinParameters
      [[0x61], tokenQuery [Char.ofNat 0xE4, '&', '%', '+'], [0x62, 0x3D, 0x63]])) =
        some (some [Char.ofNat 0xE4, '&', '%', '+']) := by
  have bare : OtherParameter [0x61] := ⟨by decide, by decide⟩
  have keyed : OtherParameter [0x62, 0x3D, 0x63] := ⟨by decide, by decide⟩
  exact (queryToken_roundTrip [Char.ofNat 0xE4, '&', '%', '+'] [[0x61]] [[0x62, 0x3D, 0x63]]
    (fun p hp => List.mem_singleton.mp hp ▸ bare) fun p hp => List.mem_singleton.mp hp ▸ keyed).1

end Query

section Gate

variable {token : List Char} {req : TokenRequest}

theorem passes_of_credentials {credentials : List Char} (h : CarriesBearer req credentials) :
    Passes token req ↔ trim credentials = token := by
  have found := extractBearer_eq_some_iff.mpr ⟨credentials, h, rfl⟩
  simp [Passes, authMiddleware, found]

theorem passes_of_none (h : ∀ credentials, ¬CarriesBearer req credentials) :
    Passes token req ↔ QueryPresents token req := by
  have none : extractBearer req.authorization = none := by
    cases he : extractBearer req.authorization with
    | none => rfl
    | some t =>
      obtain ⟨credentials, hc, -⟩ := extractBearer_eq_some_iff.mp he
      exact absurd hc (h credentials)
  rw [← extractQueryToken_eq_some_iff]
  obtain ⟨found, hf⟩ := extractQueryToken_eq_some req
  simp [Passes, authMiddleware, none, hf]

theorem passes_iff_undisturbed (token : List Char) (req : TokenRequest) :
    (Passes token req ↔ HeaderPresents token req ∨ QueryPresents token req) ↔
      Undisturbed token req := by
  by_cases hc : ∃ credentials, CarriesBearer req credentials
  · obtain ⟨credentials, hc⟩ := hc
    rw [passes_of_credentials hc]
    constructor
    · intro h
      refine ⟨fun hq c hc' => ?_, fun hh hq => ?_, fun hq c hc' htrim => ?_⟩
      · rw [hc'.1.unique hc.1]
        exact h.mpr (.inr hq)
      · have same : token = credentials := hh.unique hc.1
        refine ⟨fun c hm => hc.2 c (same ▸ hm), ?_⟩
        have htrim := h.mpr (.inl hh)
        rwa [← same] at htrim
      · rw [hc'.1.unique hc.1] at htrim
        have hh := (h.mp htrim).resolve_right hq
        exact hc'.1.unique hh
    · intro h
      constructor
      · intro htrim
        by_cases hq : QueryPresents token req
        · exact .inr hq
        · have same := h.exact hq credentials hc htrim
          exact .inl (same ▸ hc.1)
      · intro hp
        by_cases hq : QueryPresents token req
        · exact h.query hq credentials hc
        · have hh := hp.resolve_right hq
          rw [hc.1.unique hh]
          exact (h.header hh hq).2
  · have hn : ∀ credentials, ¬CarriesBearer req credentials := fun c h => hc ⟨c, h⟩
    rw [passes_of_none hn]
    constructor
    · intro h
      exact ⟨fun _ c hc => absurd hc (hn c), fun hh hq => absurd (h.mpr (.inl hh)) hq,
        fun _ c hc => absurd hc (hn c)⟩
    · intro h
      refine ⟨.inr, fun hp => ?_⟩
      by_contra hq
      have hh := hp.resolve_right hq
      exact hn token ⟨hh, (h.header hh hq).1⟩

/-- A header alone presents the plain tokens, and no others. -/
theorem exists_header_iff (token : List Char) :
    (∃ value, Passes token ⟨some value, none⟩) ↔ PlainToken token := by
  constructor
  · rintro ⟨value, h⟩
    by_cases hc : ∃ credentials, CarriesBearer ⟨some value, none⟩ credentials
    · obtain ⟨credentials, hc⟩ := hc
      have htrim := (passes_of_credentials hc).mp h
      refine ⟨fun c hm => hc.2 c ?_, ?_⟩
      · rw [← htrim] at hm
        have inner := (List.rdropWhile_prefix _ _).subset hm
        exact (List.dropWhile_suffix _).subset inner
      · rw [← htrim, trim_trim]
    · obtain ⟨query, _, _, _, hq, _⟩ := (passes_of_none fun c hb => hc ⟨c, hb⟩).mp h
      cases hq
  · rintro ⟨visible, htrim⟩
    refine ⟨encode (bearerScheme ++ token), ?_⟩
    exact (passes_of_credentials ⟨.inl rfl, visible⟩).mpr htrim

/-- A query alone presents every token. -/
theorem passes_tokenQuery (token : List Char) : Passes token ⟨none, some (tokenQuery token)⟩ := by
  refine (passes_of_none fun c h => ?_).mpr (queryPresents_tokenQuery token none)
  obtain ⟨h | h, -⟩ := h <;> cases h

end Gate

/-- Exactly on the undisturbed requests, the gate lets those through that present the token in the
header or in the query; and exactly the plain tokens can be presented in both. -/
theorem tokenGate_iff (token : List Char) :
    (∀ req, (Passes token req ↔ HeaderPresents token req ∨ QueryPresents token req) ↔
      Undisturbed token req) ∧
    ((∃ value, Passes token ⟨some value, none⟩) ∧ (∃ query, Passes token ⟨none, some query⟩) ↔
      PlainToken token) := by
  refine ⟨passes_iff_undisturbed token, ?_⟩
  rw [exists_header_iff]
  exact ⟨fun h => h.1, fun h => ⟨h, tokenQuery token, passes_tokenQuery token⟩⟩

/-- The header still holds an old token, the query has the right one. -/
def staleHeader : TokenRequest :=
  ⟨some (encode (bearerScheme ++ ['o', 'l', 'd'])), some (tokenQuery ['n', 'e', 'w'])⟩

theorem staleHeader_refused :
    (QueryPresents ['n', 'e', 'w'] staleHeader ∧ ¬Passes ['n', 'e', 'w'] staleHeader) ∧
    ¬∀ token, token ≠ [] →
      (∀ req, Passes token req ↔ HeaderPresents token req ∨ QueryPresents token req) ∧
      (∃ value, Passes token ⟨some value, none⟩) ∧ ∃ query, Passes token ⟨none, some query⟩ := by
  have present : QueryPresents ['n', 'e', 'w'] staleHeader := queryPresents_tokenQuery _ _
  have refused : ¬Passes ['n', 'e', 'w'] staleHeader := by
    have credentials : CarriesBearer staleHeader ['o', 'l', 'd'] :=
      ⟨.inl rfl, by simp [IsVisible]⟩
    rw [passes_of_credentials credentials]
    decide
  refine ⟨⟨present, refused⟩, fun all => refused ?_⟩
  exact ((all _ (by decide)).1 staleHeader).mpr (.inr present)

end WinUHid
