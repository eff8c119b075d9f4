import WinUHid.PercentDecoding
import Mathlib.Data.List.DropRight

namespace WinUHid

open Utf8

/-- What `auth_middleware` reads of a request: the value of the first `Authorization` header, and
the query of the URI. -/
structure TokenRequest where
  authorization : Option (List UInt8)
  query : Option (List UInt8)

/-- The bytes that `HeaderValue::to_str` takes. -/
def isVisibleAscii (b : UInt8) : Bool := (0x20 ≤ b && b < 0x7F) || b == 0x09

def headerToStr (value : List UInt8) : Option (List Char) :=
  if value.all isVisibleAscii then some (value.map fun b => Char.ofNat b.toNat) else none

/-- `char::is_whitespace`: the property `White_Space` of Unicode. -/
def isWhitespace (c : Char) : Bool :=
  let n := c.toNat
  (0x9 ≤ n && n ≤ 0xD) || n == 0x20 || n == 0x85 || n == 0xA0 || n == 0x1680 ||
    (0x2000 ≤ n && n ≤ 0x200A) || n == 0x2028 || n == 0x2029 || n == 0x202F || n == 0x205F ||
    n == 0x3000

/-- `str::trim` -/
def trim (s : List Char) : List Char := (s.dropWhile isWhitespace).rdropWhile isWhitespace

def bearerScheme : List Char := ['B', 'e', 'a', 'r', 'e', 'r', ' ']
def lowercaseScheme : List Char := ['b', 'e', 'a', 'r', 'e', 'r', ' ']

/-- `extract_bearer` -/
def extractBearer (headerValue : Option (List UInt8)) : Option (List Char) := do
  let raw ← headerToStr (← headerValue)
  let token ← (raw.dropPrefix? bearerScheme).or (raw.dropPrefix? lowercaseScheme)
  some (trim token)

def ampersandByte : UInt8 := 0x26
def equalsByte : UInt8 := 0x3D

/-- `token` -/
def tokenKey : List UInt8 := [0x74, 0x6F, 0x6B, 0x65, 0x6E]

/-- `pair.splitn(2, '=')`, with no value as an empty one. -/
def splitPair (pair : List UInt8) : List UInt8 × List UInt8 :=
  (pair.takeWhile (· ≠ equalsByte), (pair.dropWhile (· ≠ equalsByte)).drop 1)

/-- `extract_query_token`; the outer `none` is a panic. -/
def extractQueryToken (query : Option (List UInt8)) : Option (Option (List Char)) :=
  match query with
  | none => some none
  | some query =>
    match (query.splitOn ampersandByte).find? (fun pair => (splitPair pair).1 = tokenKey) with
    | none => some none
    | some pair => (percentDecode (splitPair pair).2).map some

/-- Whether `auth_middleware` lets a request through. -/
def authMiddleware (expected : List Char) (req : TokenRequest) : Option Bool := do
  let provided ←
    match extractBearer req.authorization with
    | some token => some (some token)
    | none => extractQueryToken req.query
  some (provided == some expected)

def Passes (expected : List Char) (req : TokenRequest) : Prop :=
  authMiddleware expected req = some true

/-- The header is `Bearer T` or `bearer T`. -/
def HeaderPresents (token : List Char) (req : TokenRequest) : Prop :=
  req.authorization = some (encode (bearerScheme ++ token)) ∨
    req.authorization = some (encode (lowercaseScheme ++ token))

/-- The first `token` parameter of the query decodes to the token. -/
def QueryPresents (token : List Char) (req : TokenRequest) : Prop :=
  ∃ query before pair after, req.query = some query ∧
    query.splitOn ampersandByte = before ++ pair :: after ∧
    (∀ earlier ∈ before, (splitPair earlier).1 ≠ tokenKey) ∧
    (splitPair pair).1 = tokenKey ∧ decodeLossy (unescape (splitPair pair).2) = token

def IsVisible (c : Char) : Prop := (0x20 ≤ c.toNat ∧ c.toNat < 0x7F) ∨ c.toNat = 0x09

/-- The header carries some bearer credentials. -/
def CarriesBearer (req : TokenRequest) (credentials : List Char) : Prop :=
  HeaderPresents credentials req ∧ ∀ c ∈ credentials, IsVisible c

/-- A token that a header can hold and that has no whitespace around it. -/
def PlainToken (token : List Char) : Prop := (∀ c ∈ token, IsVisible c) ∧ trim token = token

/-- The query is not hidden by other credentials in the header, where the token stands in the header
alone it is plain, and nothing but whitespace around it tells the header's credentials from it. -/
structure Undisturbed (token : List Char) (req : TokenRequest) : Prop where
  query : QueryPresents token req → ∀ credentials, CarriesBearer req credentials →
    trim credentials = token
  header : HeaderPresents token req → ¬QueryPresents token req → PlainToken token
  exact : ¬QueryPresents token req → ∀ credentials, CarriesBearer req credentials →
    trim credentials = token → credentials = token

end WinUHid
